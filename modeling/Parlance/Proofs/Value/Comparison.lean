import Mathlib.Data.List.Perm.Subperm
import Mathlib.Data.List.ProdSigma
import Mathlib.Logic.Relation
import Parlance.Proofs.Value.Heap
import Parlance.Value.Equality

/-!
# When comparing contents ends

Structural equality goes into two containers unless they are the same one, and nothing else keeps it
from going round. It has an answer exactly if no comparison is started again for a pair of containers
while the comparison of this pair is in progress. For that, there must be a container that contains
itself on both sides.
-/

namespace Parlance.Value

open Relation

/-- The entries of a map, or the items of a list, which have no keys. -/
def contents (heap : Heap) : Value → List (String × Value)
  | list ref => (heap.items ref).map ("", ·)
  | map ref => (heap.entries ref).entries
  | _ => []

/-- The comparison of the two values goes on with their contents. -/
inductive Enters (heap : Heap) : Value → Value → Prop where
  | lists {first second} (distinct : first ≠ second)
      (lengths : (heap.items first).length = (heap.items second).length) :
      Enters heap (list first) (list second)
  | maps {first second} (distinct : first ≠ second)
      (lengths : (heap.entries first).entries.length = (heap.entries second).entries.length) :
      Enters heap (map first) (map second)

mutual

/-- Comparing the two values ends with the answer. -/
inductive Compares (heap : Heap) : (first second : Value) → (answer : Bool) → Prop where
  | atOnce {first second} (stays : ¬Enters heap first second) :
      Compares heap first second (first.identical second)
  | inside {first second answer} (enters : Enters heap first second)
      (all : ComparesAll heap (contents heap first) (contents heap second) answer) :
      Compares heap first second answer

/-- Comparing the entries one by one ends with the answer. The first difference decides. -/
inductive ComparesAll (heap : Heap) :
    (entries others : List (String × Value)) → (answer : Bool) → Prop where
  | nil : ComparesAll heap [] [] true
  | key {key other first second entries others} (different : key ≠ other) :
      ComparesAll heap ((key, first) :: entries) ((other, second) :: others) false
  | value {key first second entries others} (different : Compares heap first second false) :
      ComparesAll heap ((key, first) :: entries) ((key, second) :: others) false
  | next {key first second entries others answer} (same : Compares heap first second true)
      (rest : ComparesAll heap entries others answer) :
      ComparesAll heap ((key, first) :: entries) ((key, second) :: others) answer

end

/-- Comparing a pair of containers starts the comparison of a pair of values in them: their keys are
the same, and so are all entries in front of them. -/
inductive Starts (heap : Heap) : Value × Value → Value × Value → Prop where
  | entry {first second key inner innerToo before beforeToo behind behindToo}
      (enters : Enters heap first second)
      (firstContents : contents heap first = before ++ (key, inner) :: behind)
      (secondContents : contents heap second = beforeToo ++ (key, innerToo) :: behindToo)
      (same : ComparesAll heap before beforeToo true) :
      Starts heap (first, second) (inner, innerToo)

/-- Comparing the values comes to a pair whose comparison is started again while it is in
progress. -/
def Restarts (heap : Heap) (first second : Value) : Prop :=
  ∃ pair, ReflTransGen (Starts heap) (first, second) pair ∧ TransGen (Starts heap) pair pair

/-- The value is in the container. -/
def Holds (heap : Heap) (container value : Value) : Prop :=
  ∃ key, (key, value) ∈ contents heap container

/-- A container that contains itself is in the value, or the value is one. -/
def Cyclic (heap : Heap) (value : Value) : Prop :=
  ∃ container, ReflTransGen (Holds heap) value container ∧ TransGen (Holds heap) container container

variable {heap : Heap} {first second : Value} {answer : Bool} {fuel : Nat}

/-! ### One answer at most -/

mutual

theorem Compares.unique {first second} {answer other : Bool} : Compares heap first second answer →
    Compares heap first second other → answer = other
  | .atOnce _, .atOnce _ => rfl
  | .atOnce stays, .inside enters _ => absurd enters stays
  | .inside enters _, .atOnce stays => absurd enters stays
  | .inside _ all, .inside _ allToo => all.unique allToo

theorem ComparesAll.unique {entries others} {answer other : Bool} :
    ComparesAll heap entries others answer → ComparesAll heap entries others other → answer = other
  | .nil, .nil => rfl
  | .key _, .key _ => rfl
  | .key different, .value _ => absurd rfl different
  | .key different, .next _ _ => absurd rfl different
  | .value _, .key _ => rfl
  | .value _, .value _ => rfl
  | .value different, .next same _ => nomatch different.unique same
  | .next _ _, .key different => absurd rfl different
  | .next same _, .value different => nomatch same.unique different
  | .next _ rest, .next _ restToo => rest.unique restToo

end

/-! ### Steps of the comparison -/

/-- Items are compared as entries without keys. -/
theorem allEqual?_eq (equal : Value → Value → Option Bool) (items others : List Value) :
    allEqual? equal items others =
      allEntriesEqual? equal (items.map ("", ·)) (others.map ("", ·)) := by
  induction items generalizing others with
  | nil => cases others <;> rfl
  | cons item items ih =>
      cases others with
      | nil => rfl
      | cons other others =>
          rw [List.map_cons, List.map_cons, allEqual?, allEntriesEqual?, if_pos rfl, ih]

theorem Enters.length_contents (enters : Enters heap first second) :
    (contents heap first).length = (contents heap second).length := by
  cases enters with
  | lists _ lengths => simpa [contents] using lengths
  | maps _ lengths => exact lengths

/-- Contents that are entered are compared with one less of fuel. -/
theorem Enters.structuralWithin?_succ (enters : Enters heap first second) :
    structuralWithin? heap (fuel + 1) first second =
      allEntriesEqual? (structuralWithin? heap fuel) (contents heap first)
        (contents heap second) := by
  cases enters with
  | lists distinct lengths =>
      rw [structuralWithin?, if_neg distinct, if_pos lengths, allEqual?_eq, contents, contents]
  | maps distinct lengths =>
      rw [structuralWithin?, if_neg distinct, if_pos lengths, contents, contents]

/-- Other values are compared by identity. -/
theorem structuralWithin?_of_not_enters (stays : ¬Enters heap first second) :
    structuralWithin? heap (fuel + 1) first second = some (first.identical second) := by
  cases first <;> cases second <;> try rfl
  case list.list ref other =>
    simp only [structuralWithin?, identical]
    split_ifs with same lengths
    · simp [same]
    · exact absurd (.lists same lengths) stays
    · simp [same]
  case map.map ref other =>
    simp only [structuralWithin?, identical]
    split_ifs with same lengths
    · simp [same]
    · exact absurd (.maps same lengths) stays
    · simp [same]

/-- Without fuel, only values that are not entered have an answer. -/
theorem not_enters_of_structuralWithin?_zero
    (answered : structuralWithin? heap 0 first second = some answer) :
    ¬Enters heap first second ∧ first.identical second = answer := by
  cases first <;> cases second <;> try exact ⟨nofun, Option.some.inj answered⟩
  case list.list ref other =>
    rw [structuralWithin?] at answered
    split_ifs at answered with same
    exact ⟨fun | .lists distinct _ => distinct same, by simpa [identical, same] using answered⟩
  case map.map ref other =>
    rw [structuralWithin?] at answered
    split_ifs at answered with same
    exact ⟨fun | .maps distinct _ => distinct same, by simpa [identical, same] using answered⟩

section

variable {equal : Value → Value → Option Bool} {entries others : List (String × Value)}
  (sound : ∀ first second answer, equal first second = some answer →
    Compares heap first second answer)
include sound

/-- If the answers for values are right, so is the answer for as many entries. -/
theorem comparesAll_of_allEntriesEqual? (lengths : entries.length = others.length)
    (answered : allEntriesEqual? equal entries others = some answer) :
    ComparesAll heap entries others answer := by
  induction entries generalizing others with
  | nil =>
      cases List.length_eq_zero_iff.1 lengths.symm
      cases answered
      exact .nil
  | cons entry entries ih =>
      obtain _ | ⟨⟨other, second⟩, others⟩ := others
      · cases lengths
      obtain ⟨key, first⟩ := entry
      rw [allEntriesEqual?] at answered
      split_ifs at answered with same
      · subst same
        cases here : equal first second with
        | none => simp [here] at answered
        | some equals =>
            cases equals with
            | true =>
                rw [here] at answered
                exact .next (sound _ _ _ here) (ih (Nat.succ.inj lengths) answered)
            | false =>
                obtain rfl : answer = false := by simpa [here] using answered.symm
                exact .value (sound _ _ _ here)
      · obtain rfl : answer = false := by simpa using answered.symm
        exact .key same

/-- If there is no answer for the entries, then there is none for two values with equal entries in
front of them. -/
theorem exists_of_allEntriesEqual?_eq_none
    (unanswered : allEntriesEqual? equal entries others = none) :
    ∃ before beforeToo key inner innerToo behind behindToo,
      entries = before ++ (key, inner) :: behind ∧
      others = beforeToo ++ (key, innerToo) :: behindToo ∧
      ComparesAll heap before beforeToo true ∧ equal inner innerToo = none := by
  induction entries generalizing others with
  | nil => cases others <;> simp [allEntriesEqual?] at unanswered
  | cons entry entries ih =>
      obtain _ | ⟨⟨other, second⟩, others⟩ := others
      · simp [allEntriesEqual?] at unanswered
      obtain ⟨key, first⟩ := entry
      rw [allEntriesEqual?] at unanswered
      split_ifs at unanswered with same
      subst same
      cases here : equal first second with
      | none => exact ⟨[], [], key, first, second, entries, others, rfl, rfl, .nil, here⟩
      | some equals =>
          cases equals with
          | false => simp [here] at unanswered
          | true =>
              rw [here] at unanswered
              obtain ⟨before, beforeToo, inKey, inner, innerToo, behind, behindToo, rfl, rfl, front,
                none⟩ := ih unanswered
              exact ⟨(key, first) :: before, (key, second) :: beforeToo, inKey, inner, innerToo,
                behind, behindToo, rfl, rfl, .next (sound _ _ _ here) front, none⟩

end

/-- Every answer is the one that the comparison ends with. -/
theorem compares_of_structuralWithin?
    (answered : structuralWithin? heap fuel first second = some answer) :
    Compares heap first second answer := by
  induction fuel generalizing first second answer with
  | zero =>
      obtain ⟨stays, rfl⟩ := not_enters_of_structuralWithin?_zero answered
      exact .atOnce stays
  | succ fuel ih =>
      by_cases enters : Enters heap first second
      case pos =>
        rw [enters.structuralWithin?_succ] at answered
        exact .inside enters
          (comparesAll_of_allEntriesEqual? (fun _ _ _ => ih) enters.length_contents answered)
      case neg =>
        rw [structuralWithin?_of_not_enters enters] at answered
        cases answered
        exact .atOnce enters

/-! ### Pairs of containers -/

/-- All pairs of lists and all pairs of maps of the heap. -/
def pairs (heap : Heap) : List (Value × Value) :=
  (List.range heap.lists.size ×ˢ List.range heap.lists.size).map
      (fun indices => (list ⟨indices.1⟩, list ⟨indices.2⟩)) ++
    (List.range heap.maps.size ×ˢ List.range heap.maps.size).map
      (fun indices => (map ⟨indices.1⟩, map ⟨indices.2⟩))

theorem length_pairs (heap : Heap) :
    (pairs heap).length = heap.lists.size * heap.lists.size + heap.maps.size * heap.maps.size := by
  simp [pairs, List.length_product]

/-- A comparison that starts another one is of a pair of the heap. -/
theorem Starts.mem_pairs {pair next : Value × Value} (starts : Starts heap pair next) :
    pair ∈ pairs heap := by
  obtain @⟨first, second, key, inner, innerToo, before, beforeToo, behind, behindToo, enters,
    firstContents, secondContents, _⟩ := starts
  have member : (key, inner) ∈ contents heap first := by simp [firstContents]
  have memberToo : (key, innerToo) ∈ contents heap second := by simp [secondContents]
  cases enters with
  | @lists ref other =>
      obtain ⟨_, inItems, _⟩ := List.mem_map.1 member
      obtain ⟨_, inOthers, _⟩ := List.mem_map.1 memberToo
      refine List.mem_append_left _ (List.mem_map.2 ⟨(ref.index, other.index), ?_, rfl⟩)
      simp [Heap.given_of_mem_items inItems, Heap.given_of_mem_items inOthers]
  | @maps ref other =>
      refine List.mem_append_right _ (List.mem_map.2 ⟨(ref.index, other.index), ?_, rfl⟩)
      simp [Heap.given_of_mem_entries member, Heap.given_of_mem_entries memberToo]

/-- If no comparison is started again, the fuel lasts as long as there are more pairs than
comparisons in progress. -/
theorem structuralWithin?_ne_none (progress : List (Value × Value))
    (once : ¬Restarts heap first second) (distinct : progress.Nodup)
    (ofHeap : progress ⊆ pairs heap)
    (enough : (pairs heap).length < fuel + progress.length)
    (started : ∀ pair ∈ progress, TransGen (Starts heap) pair (first, second)) :
    structuralWithin? heap fuel first second ≠ none := by
  induction fuel generalizing first second progress with
  | zero =>
      have most := (distinct.subperm ofHeap).length_le
      omega
  | succ fuel ih =>
      intro unanswered
      by_cases enters : Enters heap first second
      case neg => simp [structuralWithin?_of_not_enters enters] at unanswered
      case pos =>
        rw [enters.structuralWithin?_succ] at unanswered
        obtain ⟨before, beforeToo, key, inner, innerToo, behind, behindToo, firstContents,
          secondContents, same, none⟩ := exists_of_allEntriesEqual?_eq_none
            (fun _ _ _ => compares_of_structuralWithin?) unanswered
        have starts : Starts heap (first, second) (inner, innerToo) :=
          .entry enters firstContents secondContents same
        -- A pair in progress would be started again, so all of them are different pairs of the heap.
        have new : (first, second) ∉ progress := fun again => once ⟨_, .refl, started _ again⟩
        refine ih ((first, second) :: progress) ?_ (List.nodup_cons.2 ⟨new, distinct⟩)
          (List.cons_subset.2 ⟨starts.mem_pairs, ofHeap⟩) ?_ ?_ none
        · rintro ⟨pair, reached, again⟩
          exact once ⟨pair, .head starts reached, again⟩
        · rw [List.length_cons]
          omega
        · intro pair member
          obtain rfl | member := List.mem_cons.1 member
          · exact .single starts
          · exact (started pair member).tail starts

/-- Without an answer some comparison is started again while it is in progress. -/
theorem restarts_of_structural?_eq_none (unanswered : structural? heap first second = none) :
    Restarts heap first second := by
  by_contra once
  have enough : (pairs heap).length <
      heap.lists.size * heap.lists.size + heap.maps.size * heap.maps.size + 1 := by
    rw [length_pairs]
    exact Nat.lt_succ_self _
  exact structuralWithin?_ne_none [] once List.nodup_nil (List.nil_subset _) enough nofun unanswered

/-! ### Comparisons that end -/

/-- A comparison that comes to an entry is at the first entry, or the first entries are equal. -/
theorem ComparesAll.cons_of_split {entries others before beforeToo behind behindToo}
    {firstKey secondKey key : String} {inner innerToo : Value}
    (same : ComparesAll heap before beforeToo true)
    (split : (firstKey, first) :: entries = before ++ (key, inner) :: behind)
    (splitToo : (secondKey, second) :: others = beforeToo ++ (key, innerToo) :: behindToo) :
    firstKey = secondKey ∧
      (first = inner ∧ second = innerToo ∨
        Compares heap first second true ∧ ∃ front frontToo,
          entries = front ++ (key, inner) :: behind ∧
          others = frontToo ++ (key, innerToo) :: behindToo ∧
          ComparesAll heap front frontToo true) := by
  cases same with
  | nil =>
      obtain ⟨⟨rfl, rfl⟩, rfl⟩ := by simpa using split
      obtain ⟨⟨rfl, rfl⟩, rfl⟩ := by simpa using splitToo
      exact ⟨rfl, .inl ⟨rfl, rfl⟩⟩
  | next here front =>
      obtain ⟨⟨rfl, rfl⟩, rest⟩ := by simpa using split
      obtain ⟨⟨rfl, rfl⟩, restToo⟩ := by simpa using splitToo
      exact ⟨rfl, .inr ⟨here, _, _, rest, restToo, front⟩⟩

/-- Where a comparison is started again, one of the comparisons inside comes to it, too. -/
theorem Restarts.exists_starts (restarts : Restarts heap first second) :
    ∃ inner innerToo, Starts heap (first, second) (inner, innerToo) ∧
      Restarts heap inner innerToo := by
  obtain ⟨pair, reached, again⟩ := restarts
  obtain same | ⟨⟨inner, innerToo⟩, starts, rest⟩ := reached.cases_head
  · subst same
    obtain ⟨⟨inner, innerToo⟩, starts, back⟩ := TransGen.head'_iff.1 again
    exact ⟨inner, innerToo, starts, (inner, innerToo), .refl, .tail' back starts⟩
  · exact ⟨inner, innerToo, starts, pair, rest, again⟩

mutual

/-- A comparison that ends comes to no pair whose comparison is started again. -/
theorem Compares.not_restarts {first second} {answer : Bool} :
    Compares heap first second answer → ¬Restarts heap first second
  | .atOnce stays, restarts => by
      obtain ⟨_, _, starts, _⟩ := restarts.exists_starts
      cases starts with
      | entry enters => exact stays enters
  | .inside _ all, restarts => by
      obtain ⟨_, _, starts, inside⟩ := restarts.exists_starts
      cases starts with
      | entry _ split splitToo same => exact all.not_restarts split splitToo same inside

theorem ComparesAll.not_restarts {entries others before beforeToo behind behindToo} {answer : Bool}
    {key : String} {inner innerToo : Value} :
    ComparesAll heap entries others answer → entries = before ++ (key, inner) :: behind →
    others = beforeToo ++ (key, innerToo) :: behindToo → ComparesAll heap before beforeToo true →
    ¬Restarts heap inner innerToo
  | .nil, split, _, _ => by simp at split
  | .key different, split, splitToo, same => absurd (same.cons_of_split split splitToo).1 different
  | .value different, split, splitToo, same => by
      have ends := different.not_restarts
      obtain ⟨-, ⟨rfl, rfl⟩ | ⟨here, _⟩⟩ := same.cons_of_split split splitToo
      · exact ends
      · exact nomatch different.unique here
  | .next here rest, split, splitToo, same => by
      have ends := here.not_restarts
      obtain ⟨-, ⟨rfl, rfl⟩ | ⟨-, _, _, restSplit, restSplitToo, front⟩⟩ :=
        same.cons_of_split split splitToo
      · exact ends
      · exact rest.not_restarts restSplit restSplitToo front

end

/-- Structural equality gives the answer that the comparison ends with. -/
theorem structural?_eq_some_iff :
    structural? heap first second = some answer ↔ Compares heap first second answer := by
  constructor
  case mp => exact compares_of_structuralWithin?
  case mpr =>
    intro compares
    cases answered : structural? heap first second with
    | none => exact absurd (restarts_of_structural?_eq_none answered) compares.not_restarts
    | some other => rw [compares.unique (compares_of_structuralWithin? answered)]

/-- Structural equality has no answer if some comparison is started again while it is in progress. -/
theorem structural?_eq_none_iff :
    structural? heap first second = none ↔ Restarts heap first second := by
  constructor
  case mp => exact restarts_of_structural?_eq_none
  case mpr =>
    intro restarts
    cases answered : structural? heap first second with
    | none => rfl
    | some answer =>
        exact absurd restarts (compares_of_structuralWithin? answered).not_restarts

/-! ### Containers in themselves -/

theorem Starts.holds {pair next : Value × Value} (starts : Starts heap pair next) :
    Holds heap pair.1 next.1 ∧ Holds heap pair.2 next.2 := by
  cases starts with
  | @entry _ _ key _ _ _ _ _ _ _ firstContents secondContents =>
      exact ⟨⟨key, by simp [firstContents]⟩, ⟨key, by simp [secondContents]⟩⟩

/-- Where a comparison is started again, there is a container that contains itself on each side. -/
theorem Restarts.cyclic (restarts : Restarts heap first second) :
    Cyclic heap first ∧ Cyclic heap second := by
  obtain ⟨pair, reached, again⟩ := restarts
  exact ⟨⟨pair.1, reached.lift Prod.fst fun _ _ starts => starts.holds.1,
      again.lift Prod.fst fun _ _ starts => starts.holds.1⟩,
    ⟨pair.2, reached.lift Prod.snd fun _ _ starts => starts.holds.2,
      again.lift Prod.snd fun _ _ starts => starts.holds.2⟩⟩

/-- Structural equality gives the answer that comparing the contents ends with. The comparison ends
exactly if no comparison is started again for a pair of containers while the comparison of this pair
is in progress. Where one is, there is a container that contains itself on each side. -/
theorem structural_ends_iff (heap : Heap) (first second : Value) :
    (∀ answer, structural? heap first second = some answer ↔ Compares heap first second answer) ∧
    ((∃ answer, Compares heap first second answer) ↔ ¬Restarts heap first second) ∧
    (structural? heap first second = none ↔ Restarts heap first second) ∧
    (Restarts heap first second → Cyclic heap first ∧ Cyclic heap second) := by
  refine ⟨fun answer => structural?_eq_some_iff, ⟨?ends, ?once⟩, structural?_eq_none_iff,
    Restarts.cyclic⟩
  case ends =>
    rintro ⟨answer, compares⟩
    exact compares.not_restarts
  case once =>
    intro once
    cases answered : structural? heap first second with
    | none => exact absurd (structural?_eq_none_iff.1 answered) once
    | some answer => exact ⟨answer, structural?_eq_some_iff.1 answered⟩

/-- Two lists that start with themselves and end with different truth values, and two that start with
different truth values and end with themselves. -/
def rings : Heap where
  lists := #[[.list ⟨0⟩, .bool true], [.list ⟨1⟩, .bool false], [.bool true, .list ⟨2⟩],
    [.bool false, .list ⟨3⟩]]
  maps := #[]
  functions := 0

/-- The truth values differ before the comparison comes to the lists in themselves. -/
theorem structural_ends_iff_rings :
    Compares rings (.list ⟨2⟩) (.list ⟨3⟩) false ∧ ¬Restarts rings (.list ⟨2⟩) (.list ⟨3⟩) ∧
    Cyclic rings (.list ⟨0⟩) ∧ Cyclic rings (.list ⟨1⟩) := by
  obtain ⟨answers, ends, _, _⟩ := structural_ends_iff rings (.list ⟨2⟩) (.list ⟨3⟩)
  obtain ⟨_, _, unanswered, cyclic⟩ := structural_ends_iff rings (.list ⟨0⟩) (.list ⟨1⟩)
  have compares := (answers false).1 (by decide +kernel)
  exact ⟨compares, ends.1 ⟨false, compares⟩, cyclic (unanswered.1 (by decide +kernel))⟩

/-- The comparison of lists that start with themselves starts itself again, and never ends. -/
theorem not_structural_ends :
    structural? rings (.list ⟨0⟩) (.list ⟨1⟩) = none ∧
    (¬∃ answer, Compares rings (.list ⟨0⟩) (.list ⟨1⟩) answer) ∧
    Starts rings (.list ⟨0⟩, .list ⟨1⟩) (.list ⟨0⟩, .list ⟨1⟩) := by
  have unanswered : structural? rings (.list ⟨0⟩) (.list ⟨1⟩) = none := by decide +kernel
  have enters : Enters rings (.list ⟨0⟩) (.list ⟨1⟩) := .lists (by decide) rfl
  have first : contents rings (.list ⟨0⟩) = [] ++ ("", .list ⟨0⟩) :: [("", .bool true)] := rfl
  have second : contents rings (.list ⟨1⟩) = [] ++ ("", .list ⟨1⟩) :: [("", .bool false)] := rfl
  refine ⟨unanswered, ?_, .entry enters first second .nil⟩
  rintro ⟨answer, compares⟩
  rw [structural?_eq_some_iff.2 compares] at unanswered
  cases unanswered

end Parlance.Value
