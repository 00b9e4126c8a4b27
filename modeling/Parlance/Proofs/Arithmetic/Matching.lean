import Mathlib.Data.Nat.PSub
import Parlance.Proofs.Arithmetic.Pairing

/-!
# Matching question marks

A colon closes a question mark to its left as a closing bracket closes an opening one, and a pair of
branches stands for a colon. So what lies between a colon and its question mark is balanced, and every
end of it has no more question marks than colons. The search counts the colons that it has passed and
that have not met their question marks. It stops at a question mark where the count is zero, so the
count is never taken below zero.
-/

namespace Parlance.Arithmetic

variable {items rest : List Item} {item : Item} {depth later between question index : Nat}

/-! ### Counting -/

/-- Whether the item closes a question mark: a colon, or a pair of branches that was built from one. -/
def Item.closes (item : Item) : Bool := item.isColon || item.isBranches

theorem isQuestion_of_closes (closes : item.closes = true) : item.isQuestion = false := by
  rw [Bool.eq_false_iff]
  intro opens
  rw [Item.closes, isQuestion_exclusive opens] at closes
  cases closes

/-- How many of the items are question marks. -/
def questions (items : List Item) : Nat := items.countP Item.isQuestion

/-- How many of the items close a question mark. -/
def closings (items : List Item) : Nat := items.countP Item.closes

/-- A search that has passed `depth` colons can pass these items, the nearest first. Question marks
never outnumber colons, and in the end there are as many of both. -/
structure Passes (depth : Nat) (passed : List Item) : Prop where
  level : questions passed = closings passed + depth
  within : ∀ start, start <+: passed → questions start ≤ closings start + depth

theorem passes_nil_iff : Passes depth [] ↔ depth = 0 := by
  constructor
  · intro passes
    have level : 0 = 0 + depth := passes.level
    omega
  · rintro rfl
    exact ⟨rfl, fun start isStart => by rw [List.prefix_nil.1 isStart]; exact le_rfl⟩

/-- An item moves the count as it is passed. -/
theorem passes_cons_iff (moves : depth + (if item.closes then 1 else 0) =
      later + (if item.isQuestion then 1 else 0)) :
    Passes depth (item :: rest) ↔ Passes later rest := by
  have counts : ∀ items : List Item,
      questions (item :: items) = questions items + (if item.isQuestion then 1 else 0) ∧
        closings (item :: items) = closings items + (if item.closes then 1 else 0) :=
    fun items => ⟨List.countP_cons, List.countP_cons⟩
  constructor
  · rintro ⟨level, within⟩
    refine ⟨?_, fun start isStart => ?_⟩
    · obtain ⟨opened, closed⟩ := counts rest
      omega
    · have bounded := within (item :: start) (List.cons_prefix_cons.2 ⟨rfl, isStart⟩)
      obtain ⟨opened, closed⟩ := counts start
      omega
  · rintro ⟨level, within⟩
    refine ⟨?_, fun start isStart => ?_⟩
    · obtain ⟨opened, closed⟩ := counts rest
      omega
    · rcases List.prefix_cons_iff.1 isStart with rfl | ⟨start, rfl, startsRest⟩
      · exact Nat.zero_le _
      · have bounded := within start startsRest
        obtain ⟨opened, closed⟩ := counts start
        omega

/-- A question mark is not passed without a colon that it meets. -/
theorem not_passes_cons (opens : item.isQuestion = true) : ¬Passes 0 (item :: rest) := by
  intro passes
  have bounded := passes.within [item] (List.cons_prefix_cons.2 ⟨rfl, List.nil_prefix⟩)
  have closesNot : item.closes = false := isQuestion_exclusive opens
  simp [questions, closings, opens, closesNot] at bounded

/-! ### The search -/

/-- A search that has passed `depth` colons meets its question mark behind `between` items. -/
structure Meets (depth : Nat) (items : List Item) (between : Nat) : Prop where
  opens : items[between]?.any Item.isQuestion = true
  passes : Passes depth (items.take between)

theorem lt_length_of_any {test : Item → Bool} (found : items[index]?.any test = true) :
    index < items.length := by
  by_contra outside
  rw [List.getElem?_eq_none (Nat.not_lt.1 outside)] at found
  cases found

theorem Meets.lt_length (meets : Meets depth items between) : between < items.length :=
  lt_length_of_any meets.opens

theorem not_meets_nil : ¬Meets depth [] between := by
  rintro ⟨opens, _⟩
  cases opens

theorem meets_zero_iff : Meets depth (item :: rest) 0 ↔ item.isQuestion = true ∧ depth = 0 := by
  rw [← passes_nil_iff]
  exact ⟨fun ⟨opens, passes⟩ => ⟨opens, passes⟩, fun ⟨opens, passes⟩ => ⟨opens, passes⟩⟩

theorem meets_succ_iff (moves : depth + (if item.closes then 1 else 0) =
      later + (if item.isQuestion then 1 else 0)) :
    Meets depth (item :: rest) (between + 1) ↔ Meets later rest between := by
  have passes : Passes depth ((item :: rest).take (between + 1)) ↔
      Passes later (rest.take between) := passes_cons_iff moves
  exact ⟨fun meets => ⟨meets.opens, passes.1 meets.passes⟩,
    fun meets => ⟨meets.opens, passes.2 meets.passes⟩⟩

/-- Behind an item that does not end the search, the search goes on with another count. -/
theorem map_openQuestion_iff (search : ∀ between,
      openQuestion later rest = some between ↔ Meets later rest between)
    (moves : depth + (if item.closes then 1 else 0) =
      later + (if item.isQuestion then 1 else 0))
    (goesOn : ¬(item.isQuestion = true ∧ depth = 0)) :
    (openQuestion later rest).map (· + 1) = some between ↔
      Meets depth (item :: rest) between := by
  rw [Option.map_eq_some_iff]
  cases between with
  | zero => simp [meets_zero_iff, goesOn]
  | succ between => simp [meets_succ_iff moves, search]

/-- The search stops where it meets its question mark, and nowhere else. -/
theorem openQuestion_eq_some_iff :
    openQuestion depth items = some between ↔ Meets depth items between := by
  fun_induction openQuestion depth items generalizing between with
  | case1 depth => simp [not_meets_nil]
  | case2 depth item rest closes ih =>
      have closes : item.closes = true := closes
      have opensNot := isQuestion_of_closes closes
      exact map_openQuestion_iff (fun _ => ih) (by simp [closes, opensNot]) (by simp [opensNot])
  | case3 item rest closesNot opens =>
      cases between with
      | zero => simp [meets_zero_iff, opens]
      | succ between =>
          refine iff_of_false (by simp) fun meets => ?_
          have passes : Passes 0 (item :: rest.take between) := meets.passes
          exact not_passes_cons opens passes
  | case4 item rest closesNot opens depth ih =>
      have closesNot : item.closes = false := Bool.eq_false_iff.2 closesNot
      exact map_openQuestion_iff (fun _ => ih) (by simp [closesNot, opens]) (by simp)
  | case5 depth item rest closesNot opensNot ih =>
      have closesNot : item.closes = false := Bool.eq_false_iff.2 closesNot
      exact map_openQuestion_iff (fun _ => ih) (by simp [closesNot, opensNot]) (by simp [opensNot])

/-! ### Places -/

/-- The items strictly between two places. -/
def itemsBetween (items : List Item) (question index : Nat) : List Item :=
  (items.take index).drop (question + 1)

/-- There are as many question marks as colons, where a pair of branches is a colon, and no end of the
items has more question marks than colons. -/
structure Balances (items : List Item) : Prop where
  level : questions items = closings items
  ends : ∀ part, part <:+ items → questions part ≤ closings part

/-- The question mark before the place matches it: what is between them is balanced. -/
structure Matches (items : List Item) (question index : Nat) : Prop where
  before : question < index
  opens : items[question]?.any Item.isQuestion = true
  balances : Balances (itemsBetween items question index)

/-- Of the question marks that match the place, this one is the nearest. -/
structure MatchesNearest (items : List Item) (question index : Nat) : Prop where
  isMatch : Matches items question index
  nearest : ∀ other, question < other → ¬Matches items other index

/-- Items that are passed backwards are balanced. -/
theorem passes_reverse_iff : Passes 0 items.reverse ↔ Balances items := by
  have counts : ∀ items : List Item,
      questions items.reverse = questions items ∧ closings items.reverse = closings items :=
    fun items => ⟨List.countP_reverse, List.countP_reverse⟩
  obtain ⟨opened, closed⟩ := counts items
  constructor
  · rintro ⟨level, within⟩
    refine ⟨by omega, fun part isEnd => ?_⟩
    have bounded := within part.reverse (List.reverse_prefix.2 isEnd)
    obtain ⟨opened, closed⟩ := counts part
    omega
  · rintro ⟨level, ends⟩
    refine ⟨by omega, fun start isStart => ?_⟩
    have bounded := ends start.reverse
      (List.reverse_prefix.1 (by rwa [List.reverse_reverse]))
    obtain ⟨opened, closed⟩ := counts start
    omega

/-- Seen from the end of a list, the place of a question mark is counted backwards. -/
theorem meets_reverse_iff (inside : question < items.length) :
    Meets 0 items.reverse (items.length - 1 - question) ↔
      items[question]?.any Item.isQuestion = true ∧ Balances (items.drop (question + 1)) := by
  have place : items.reverse[items.length - 1 - question]? = items[question]? := by
    rw [List.getElem?_reverse (by omega)]
    congr 1
    omega
  have passed : items.reverse.take (items.length - 1 - question) =
      (items.drop (question + 1)).reverse := by
    rw [List.take_reverse]
    congr 2
    omega
  rw [← passes_reverse_iff, ← passed, ← place]
  exact ⟨fun ⟨opens, passes⟩ => ⟨opens, passes⟩, fun ⟨opens, passes⟩ => ⟨opens, passes⟩⟩

/-- The search from a place finds the question mark that matches it. -/
theorem matchingQuestion_eq_some_iff :
    matchingQuestion items index = some question ↔ Matches items question index := by
  have taken : (items.take index).length = min index items.length := List.length_take
  have here (inside : question < (items.take index).length) :
      (items.take index)[question]? = items[question]? :=
    List.getElem?_take_of_lt (by omega)
  rw [matchingQuestion, Option.map_eq_some_iff]
  constructor
  · rintro ⟨between, found, rfl⟩
    have meets := openQuestion_eq_some_iff.1 found
    have inside := meets.lt_length
    rw [List.length_reverse] at inside
    rw [show between = (items.take index).length - 1 - ((items.take index).length - 1 - between)
      by omega, meets_reverse_iff (by omega), here (by omega)] at meets
    exact ⟨by omega, meets.1, meets.2⟩
  · rintro ⟨before, opens, balances⟩
    have inside := lt_length_of_any opens
    refine ⟨(items.take index).length - 1 - question, openQuestion_eq_some_iff.2 ?_, by omega⟩
    rw [meets_reverse_iff (by omega), here (by omega)]
    exact ⟨opens, balances⟩

/-- A place matches one question mark at most. -/
theorem Matches.unique {other : Nat} (isMatch : Matches items question index)
    (again : Matches items other index) : question = other := by
  have found := matchingQuestion_eq_some_iff.2 isMatch
  rw [matchingQuestion_eq_some_iff.2 again] at found
  exact (Option.some.inj found).symm

/-! ### The loop -/

/-- The search as a loop over the places before `position`, the nearest first, with the count of
colons. It would have no outcome if the count were taken below zero. -/
def searchFrom? (items : List Item) : (position depth : Nat) → Option (Option Nat)
  | 0, _ => some none
  | position + 1, depth =>
      if items[position]?.any Item.closes then searchFrom? items position (depth + 1)
      else if items[position]?.any Item.isQuestion then
        if depth = 0 then some (some position)
        else depth.ppred.bind fun depth => searchFrom? items position depth
      else searchFrom? items position depth

/-- The loop goes through the items as the search does, and always has an outcome. -/
theorem searchFrom?_eq (items : List Item) (position depth : Nat) :
    searchFrom? items position depth =
      some ((openQuestion depth (items.take position).reverse).map fun between =>
        (items.take position).length - 1 - between) := by
  induction position generalizing depth with
  | zero => rfl
  | succ position ih =>
      cases here : items[position]? with
      | none =>
          have ended := List.getElem?_eq_none_iff.1 here
          have taken : items.take (position + 1) = items.take position := by
            rw [List.take_of_length_le ended, List.take_of_length_le (Nat.le_succ_of_le ended)]
          rw [taken, ← ih, searchFrom?, here]
          rfl
      | some item =>
          obtain ⟨inside, _⟩ := List.getElem?_eq_some_iff.1 here
          have taken : items.take (position + 1) = items.take position ++ [item] := by
            rw [List.take_add_one, here, Option.toList_some]
          have length : (items.take position).length = position :=
            List.length_take_of_le (Nat.le_of_lt inside)
          have onward (later : Nat) : searchFrom? items position later =
              some (((openQuestion later (items.take position).reverse).map (· + 1)).map
                fun between => position + 1 - 1 - between) := by
            rw [ih, Option.map_map, length]
            congr 2
            funext between
            simp only [Function.comp_apply]
            omega
          rw [taken, List.reverse_append, List.reverse_singleton, List.singleton_append,
            List.length_append, List.length_singleton, length, searchFrom?, here, Option.any_some,
            Option.any_some]
          unfold openQuestion
          cases closes : item.closes with
          | true =>
              have closes : (item.isColon || item.isBranches) = true := closes
              rw [if_pos rfl, if_pos closes]
              exact onward (depth + 1)
          | false =>
              have closes : ¬(item.isColon || item.isBranches) = true :=
                Bool.eq_false_iff.1 closes
              rw [if_neg Bool.false_ne_true, if_neg closes]
              cases opens : item.isQuestion with
              | true =>
                  cases depth with
                  | zero => simp
                  | succ depth => simpa using onward depth
              | false => simpa using onward depth

/-- The search from a place finds the nearest question mark that matches it, if there is one, and its
count of colons is never taken below zero. -/
theorem matchingQuestion_finds_nearest (items : List Item) (index : Nat) :
    (∀ question, matchingQuestion items index = some question ↔
      MatchesNearest items question index) ∧
    (matchingQuestion items index = none ↔ ∀ question, ¬MatchesNearest items question index) ∧
    searchFrom? items index 0 = some (matchingQuestion items index) := by
  have finds (question : Nat) : matchingQuestion items index = some question ↔
      MatchesNearest items question index := by
    rw [matchingQuestion_eq_some_iff]
    refine ⟨fun isMatch => ⟨isMatch, fun other behind again => ?_⟩, fun nearest => nearest.isMatch⟩
    exact absurd (isMatch.unique again) (Nat.ne_of_lt behind)
  refine ⟨finds, ?_, searchFrom?_eq items index 0⟩
  rw [Option.eq_none_iff_forall_ne_some]
  exact forall_congr' fun question => not_congr (finds question)

end Parlance.Arithmetic
