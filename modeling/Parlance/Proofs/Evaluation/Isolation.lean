import Mathlib.Logic.Relation
import Parlance.Proofs.Evaluation.Preservation
import Parlance.Proofs.Value.Heap

/-!
# Isolation

A value is isolated from the maps of a caller if it leads to none of them, whatever lists and maps
are opened on the way. As long as a context has a map of its own for assignments, evaluation meets
isolated values only, so it never writes to the maps of the caller.
-/

namespace Parlance

namespace Heap

/-- The former value is a list or a map, and the latter one is in it. -/
inductive Holds (heap : Heap) : Value → Value → Prop where
  | item {ref : ListRef} {part : Value} (member : part ∈ heap.items ref) :
      Holds heap (.list ref) part
  | entry {ref : MapRef} {name : String} {part : Value} (present : heap.get? ref name = some part) :
      Holds heap (.map ref) part

/-- The value leads to what is found, whatever lists and maps are opened on the way. -/
abbrev Reaches (heap : Heap) : Value → Value → Prop := Relation.ReflTransGen heap.Holds

end Heap

/-- The value is none of the maps, and no function of the host other than the trusted ones. -/
def Value.Apart (frames : List MapRef) (trusted : Function → Prop) (value : Value) : Prop :=
  (∀ frame ∈ frames, value ≠ .map frame) ∧
    ∀ function, value = .function function → function.code = .host → trusted function

namespace Heap

/-- The value leads to none of the maps, and to no function of the host other than the trusted
ones. -/
def Isolated (heap : Heap) (frames : List MapRef) (trusted : Function → Prop) (value : Value) :
    Prop :=
  ∀ found, heap.Reaches value found → found.Apart frames trusted

/-- The latter heap has the same entries in the maps, and what was isolated from them still is. -/
structure Spares (former latter : Heap) (frames : List MapRef) (trusted : Function → Prop) :
    Prop where
  entries : ∀ frame ∈ frames, latter.entries frame = former.entries frame
  isolated : ∀ value, former.Isolated frames trusted value → latter.Isolated frames trusted value

/-- The heap has given out the maps, and they are isolated from the values in them and from those
that the host holds. -/
structure Secludes (heap : Heap) (frames : List MapRef) (trusted : Function → Prop)
    (held : List Value) : Prop where
  given : ∀ frame ∈ frames, frame.index < heap.maps.size
  bound : ∀ frame ∈ frames, ∀ name value, heap.get? frame name = some value →
    heap.Isolated frames trusted value
  held : ∀ value ∈ held, heap.Isolated frames trusted value

variable {heap former middle latter : Heap} {frames : List MapRef} {trusted : Function → Prop}
  {value : Value}

theorem Isolated.apart (isolated : heap.Isolated frames trusted value) :
    value.Apart frames trusted :=
  isolated value .refl

theorem Isolated.part {part : Value} (isolated : heap.Isolated frames trusted value)
    (holds : heap.Holds value part) : heap.Isolated frames trusted part :=
  fun found reached => isolated found (.head holds reached)

theorem isolated_of_parts (apart : value.Apart frames trusted)
    (parts : ∀ part, heap.Holds value part → heap.Isolated frames trusted part) :
    heap.Isolated frames trusted value := by
  intro found reached
  rcases Relation.ReflTransGen.cases_head reached with rfl | ⟨part, holds, reached⟩
  · exact apart
  · exact parts part holds found reached

theorem isolated_plain (plain : value.isObject = false) : heap.Isolated frames trusted value := by
  refine isolated_of_parts ⟨?_, ?_⟩ ?_
  · rintro frame _ rfl
    cases plain
  · rintro function rfl
    cases plain
  · rintro part (_ | _) <;> cases plain

theorem isolated_function {function : Function}
    (known : function.code = .host → trusted function) :
    heap.Isolated frames trusted (.function function) := by
  refine isolated_of_parts ⟨by simp, ?_⟩ ?_
  · rintro _ ⟨⟩
    exact known
  · rintro part ⟨⟩

theorem isolated_list {ref : ListRef}
    (items : ∀ item ∈ heap.items ref, heap.Isolated frames trusted item) :
    heap.Isolated frames trusted (.list ref) := by
  refine isolated_of_parts ⟨by simp, by simp⟩ ?_
  intro part holds
  cases holds with
  | item member => exact items part member

/-- A map other than those of the caller is isolated if its values are. -/
theorem isolated_map {ref : MapRef} (other : ref ∉ frames)
    (entries : ∀ name item, heap.get? ref name = some item → heap.Isolated frames trusted item) :
    heap.Isolated frames trusted (.map ref) := by
  refine isolated_of_parts ⟨?_, by simp⟩ ?_
  · rintro frame member ⟨⟩
    exact other member
  · intro part holds
    cases holds with
    | entry present => exact entries _ part present

namespace Spares

theorem refl (heap : Heap) : heap.Spares heap frames trusted := ⟨fun _ _ => rfl, fun _ => id⟩

theorem trans (first : former.Spares middle frames trusted)
    (second : middle.Spares latter frames trusted) : former.Spares latter frames trusted where
  entries frame member := (second.entries frame member).trans (first.entries frame member)
  isolated value isolated := second.isolated value (first.isolated value isolated)

/-- What the host holds stays isolated. -/
theorem all {held : List Value} (spares : former.Spares latter frames trusted)
    (isolated : ∀ value ∈ held, former.Isolated frames trusted value) :
    ∀ value ∈ held, latter.Isolated frames trusted value :=
  fun value member => spares.isolated value (isolated value member)

/-- The maps are spared if they keep their entries, and if whatever comes to be held anew was
isolated before. -/
theorem of_holds (entries : ∀ frame ∈ frames, latter.entries frame = former.entries frame)
    (holds : ∀ owner part, latter.Holds owner part →
      former.Holds owner part ∨ former.Isolated frames trusted part) :
    former.Spares latter frames trusted := by
  refine ⟨entries, fun value isolated found reached => ?_⟩
  -- The invariant along a path on the latter heap is that what it meets was isolated before.
  have before : former.Isolated frames trusted found := by
    induction reached with
    | refl => exact isolated
    | tail _ step ih =>
        rcases holds _ _ step with held | new
        · exact ih.part held
        · exact new
  exact before.apart

theorem setItems {items : List Value}
    (good : ∀ item ∈ items, heap.Isolated frames trusted item) (ref : ListRef) :
    heap.Spares (heap.setItems ref items) frames trusted := by
  refine of_holds (fun _ _ => rfl) ?_
  rintro owner part (member | present)
  · rcases mem_of_setItems member with member | member
    · exact .inr (good part member)
    · exact .inl (.item member)
  · exact .inl (.entry present)

/-- A write to a map other than those of the caller. -/
theorem insert {ref : MapRef} (other : ref ∉ frames)
    (good : heap.Isolated frames trusted value) (name : String) :
    heap.Spares (heap.insert ref name value) frames trusted := by
  refine of_holds ?_ ?_
  · intro frame member
    refine entries_insert_of_ne ?_ name value
    rintro rfl
    exact other member
  · rintro owner part (member | present)
    · exact .inl (.item member)
    · rcases get?_of_insert present with rfl | present
      · exact .inr good
      · exact .inl (.entry present)

theorem newList {items : List Value}
    (good : ∀ item ∈ items, heap.Isolated frames trusted item) :
    heap.Spares (heap.newList items).2 frames trusted := by
  refine of_holds (fun _ _ => rfl) ?_
  rintro owner part (member | present)
  · rcases mem_of_newList member with member | member
    · exact .inr (good part member)
    · exact .inl (.item member)
  · exact .inl (.entry present)

theorem newFunction (heap : Heap) (name : String) (code : FunctionCode) :
    heap.Spares (heap.newFunction name code).2 frames trusted := by
  refine of_holds (fun _ _ => rfl) ?_
  rintro owner part (member | present)
  · exact .inl (.item member)
  · exact .inl (.entry present)

theorem newMap {entries : Dictionary Value} (given : ∀ frame ∈ frames, frame.index < heap.maps.size)
    (good : ∀ name value, entries.get? name = some value → heap.Isolated frames trusted value) :
    heap.Spares (heap.newMap entries).2 frames trusted := by
  refine of_holds ?_ ?_
  · intro frame member
    rw [entries_newMap, if_neg (Nat.ne_of_lt (given frame member))]
  · rintro owner part (member | present)
    · exact .inl (.item member)
    · rcases get?_of_newMap present with present | present
      · exact .inr (good _ part present)
      · exact .inl (.entry present)

end Spares

theorem isolated_newMap {entries : Dictionary Value}
    (given : ∀ frame ∈ frames, frame.index < heap.maps.size)
    (good : ∀ name value, entries.get? name = some value → heap.Isolated frames trusted value) :
    (heap.newMap entries).2.Isolated frames trusted (.map (heap.newMap entries).1) := by
  refine isolated_map ?_ ?_
  · exact fun member => Nat.lt_irrefl _ (given _ member)
  · intro name item present
    rw [Heap.get?, entries_newMap_new] at present
    exact (Spares.newMap given good).isolated item (good name item present)

/-- The discipline that keeps the maps of a caller isolated from all values in use and from those
that the host holds. -/
def isolation (frames : List MapRef) (trusted : Function → Prop) (held : List Value) :
    Discipline where
  Sound heap := ∀ value ∈ held, heap.Isolated frames trusted value
  Later former latter := former.Spares latter frames trusted
  Good value heap := heap.Isolated frames trusted value
  refl := .refl
  trans := .trans
  stays spares isolated := spares.isolated _ isolated
  plain _ _ := isolated_plain
  method _ _ builtIn := isolated_function fun code => absurd code builtIn
  item _ isolated _ member := isolated.part (.item member)
  entry _ isolated _ _ present := isolated.part (.entry present)
  setItems sound good ref :=
    have spares := Spares.setItems good ref
    ⟨spares.all sound, spares⟩
  insert sound owner good name :=
    have spares := Spares.insert (fun member => owner.apart.1 _ member rfl) good name
    ⟨spares.all sound, spares⟩
  newList sound good := by
    have spares := Spares.newList good
    refine ⟨spares.all sound, spares, ?_⟩
    refine isolated_list fun item member => spares.isolated item (good item ?_)
    rwa [items_newList_new] at member
  newFunction sound name code :=
    have spares := Spares.newFunction _ name code
    ⟨spares.all sound, spares⟩

end Heap

/-- If the maps are isolated from all that a trusted function is given, then it leaves them as they
are, and they stay isolated from what they were isolated from and from its result. -/
def Host.Discreet (host : Host) (frames : List MapRef) (trusted : Function → Prop)
    (held : List Value) : Prop :=
  ∀ function receiver arguments (heap : Heap), trusted function →
    (∀ value ∈ held, heap.Isolated frames trusted value) →
    heap.Isolated frames trusted receiver →
    (∀ argument ∈ arguments, heap.Isolated frames trusted argument) →
    heap.Spares (host function receiver arguments heap).2 frames trusted ∧
      ∀ value, (host function receiver arguments heap).1 = .ok value →
        (host function receiver arguments heap).2.Isolated frames trusted value

/-- The context writes to an isolated map of its own, and all it reads is isolated: its maps are
isolated ones and those of the caller. -/
structure Context.Shields (context : Context) (heap : Heap) (frames : List MapRef)
    (trusted : Function → Prop) : Prop where
  temporary : ∃ own, context.temporary = some own ∧ heap.Isolated frames trusted (.map own)
  readable : ∀ frame ∈ context.frames, frame ∈ frames ∨ heap.Isolated frames trusted (.map frame)
  bound : ∀ frame ∈ frames, ∀ name value, heap.get? frame name = some value →
    heap.Isolated frames trusted value

/-- The maps of the caller: the local names, if there are any, and the scope. -/
def callerFrames (scope : MapRef) (locals : Option MapRef) : List MapRef := locals.toList ++ [scope]

variable {host : Host} {heap : Heap} {frames : List MapRef} {trusted : Function → Prop}
  {held : List Value} {context : Context} {scope : MapRef} {locals : Option MapRef}
  {options : Options}

theorem Host.Discreet.trusts (discreet : host.Discreet frames trusted held) :
    (Heap.isolation frames trusted held).Trusts host := by
  intro function receiver arguments heap code sound callee owned good
  obtain ⟨spares, result⟩ := discreet function receiver arguments heap
    (callee.apart.2 function rfl code) sound owned good
  exact ⟨spares.all sound, spares, result⟩

namespace Context

theorem Shields.admits (shields : context.Shields heap frames trusted) :
    (Heap.isolation frames trusted held).Admits context heap where
  reads latter sound later frame member name value present := by
    rcases shields.readable frame member with caller | isolated
    · rw [Heap.get?, later.entries frame caller] at present
      exact later.isolated value (shields.bound frame caller name value present)
    · exact (later.isolated _ isolated).part (.entry present)
  writes latter sound later name frame target value good := by
    obtain ⟨own, temporary, isolated⟩ := shields.temporary
    rw [target?, temporary] at target
    cases target
    exact (Heap.isolation frames trusted held).insert sound (later.isolated _ isolated) good name

/-- Making a context that is not raw spares the maps of the caller and shields them. -/
theorem make_shields (notRaw : options.rawScope = false)
    (secludes : heap.Secludes (callerFrames scope locals) trusted held) :
    heap.Spares (make heap scope locals options).2 (callerFrames scope locals) trusted ∧
      (make heap scope locals options).1.Shields (make heap scope locals options).2
        (callerFrames scope locals) trusted := by
  simp only [make, notRaw, Bool.false_eq_true, if_false]
  have none (name : String) (value : Value)
      (found : (Dictionary.empty : Dictionary Value).get? name = some value) :
      heap.Isolated (callerFrames scope locals) trusted value := by
    cases found
  have given (frame : MapRef) (member : frame ∈ callerFrames scope locals) :
      frame.index < (heap.newMap .empty).2.maps.size := by
    simpa [Heap.newMap] using Nat.lt_succ_of_lt (secludes.given frame member)
  have plain (name : String) (value : Value) (found : constants.get? name = some value) :
      (heap.newMap .empty).2.Isolated (callerFrames scope locals) trusted value :=
    Heap.isolated_plain (isObject_constants found)
  have first := Heap.Spares.newMap secludes.given none
  have second := Heap.Spares.newMap given plain
  have own := second.isolated _ (Heap.isolated_newMap secludes.given none)
  have last := Heap.isolated_newMap given plain
  have spares := first.trans second
  refine ⟨spares, ⟨_, rfl, own⟩, ?_, ?_⟩
  · intro frame member
    simp only [List.cons_append, List.mem_cons, List.mem_append, List.not_mem_nil, or_false]
      at member
    rcases member with rfl | member | rfl | rfl
    · exact .inr own
    · exact .inl (List.mem_append_left _ member)
    · exact .inl (List.mem_append_right _ (List.mem_singleton.2 rfl))
    · exact .inr last
  · intro frame member name value present
    rw [Heap.get?, spares.entries frame member] at present
    exact spares.isolated value (secludes.bound frame member name value present)

end Context

/-- Unless the scope is raw, evaluation and assignment leave the maps of the caller as they are, if
they succeed and if they fail midway. The caller's maps must be secluded to begin with, also from an
assigned value, and the functions of the host that can be reached must leave them alone. -/
theorem Expr.keeps_callerFrames (notRaw : options.rawScope = false)
    (secludes : heap.Secludes (callerFrames scope locals) trusted held)
    (discreet : host.Discreet (callerFrames scope locals) trusted held) (expr : Expr)
    (calls : List HostCall) (start : Heap)
    (made : Context.make heap scope locals options = (context, start)) :
    (∀ frame ∈ callerFrames scope locals,
        ((expr.evaluate host context).runOn ⟨start, calls⟩).2.heap.entries frame =
          heap.entries frame) ∧
      ∀ value, heap.Isolated (callerFrames scope locals) trusted value →
        ∀ frame ∈ callerFrames scope locals,
          ((expr.assign host context value).runOn ⟨start, calls⟩).2.heap.entries frame =
            heap.entries frame := by
  obtain ⟨spares, shields⟩ := Context.make_shields notRaw secludes
  rw [made] at spares shields
  have keeps := expr.meaning_keeps discreet.trusts context
  have ready : (Heap.isolation (callerFrames scope locals) trusted held).Ready context
      ⟨start, calls⟩ := ⟨spares.all secludes.held, shields.admits⟩
  constructor
  · intro frame member
    exact ((keeps.value _ ready).later.entries frame member).trans (spares.entries frame member)
  · intro value isolated frame member
    exact ((keeps.assign _ ready value (spares.isolated value isolated)).later.entries frame
      member).trans (spares.entries frame member)

section

/-- A host with one function, which puts its arguments into a list that the host holds. -/
def notingHost : Host := fun _ _ arguments heap =>
  (.ok .undefined, heap.pushItems ⟨0⟩ arguments)

theorem notingHost_discreet {frames : List MapRef} {trusted : Function → Prop} :
    notingHost.Discreet frames trusted [.list ⟨0⟩] := by
  intro function receiver arguments heap _ held _ good
  have notes := held (.list ⟨0⟩) (List.mem_singleton.2 rfl)
  refine ⟨Heap.Spares.setItems ?_ ⟨0⟩, ?_⟩
  · intro item member
    rcases List.mem_append.1 member with member | member
    · exact notes.part (.item member)
    · exact good item member
  · rintro _ ⟨⟩
    exact Heap.isolated_plain rfl

/-- The notes of the host and a list of the caller, a scope with the list, a count and the host's
function, and a local name. -/
def desk : Heap where
  lists := #[[], [.number 1]]
  maps := #[
    .ofList [("count", .number 1), ("items", .list ⟨1⟩), ("note", .function ⟨0, "note", .host⟩)],
    .ofList [("last", .null)]]
  functions := 1

/-- The context over these maps, and the heap with the maps that it adds. -/
def deskContext : Context := (Context.make desk ⟨0⟩ (some ⟨1⟩) .default).1

def deskStart : Heap := (Context.make desk ⟨0⟩ (some ⟨1⟩) .default).2

/-- The item at a count that is stepped twice, after the host was told. -/
def countedItem : Expr :=
  .index ⟨"index", 0, 29⟩ (.symbol ⟨"identifier", 0, 5⟩ "items")
    (.binary ⟨"operator", 6, 22⟩ .comma
      (.call ⟨"call", 6, 13⟩ (.symbol ⟨"identifier", 6, 4⟩ "note")
        (.stepAfter ⟨"postfix", 11, 7⟩ .increment (.symbol ⟨"identifier", 11, 5⟩ "count")))
      (.stepAfter ⟨"postfix", 21, 7⟩ .increment (.symbol ⟨"identifier", 21, 5⟩ "count")))

theorem desk_secludes :
    desk.Secludes (callerFrames ⟨0⟩ (some ⟨1⟩)) (·.name = "note") [.list ⟨0⟩] := by
  have numbers (ref : ListRef) :
      desk.Isolated (callerFrames ⟨0⟩ (some ⟨1⟩)) (·.name = "note") (.list ref) := by
    refine Heap.isolated_list ?_
    intro item member
    obtain ⟨_ | _ | index⟩ := ref
    · cases member
    · rw [List.mem_singleton.1 member]
      exact Heap.isolated_plain rfl
    · cases member
  refine ⟨by decide, ?_, by simpa using numbers ⟨0⟩⟩
  intro frame member name value present
  simp only [callerFrames, Option.toList_some, List.cons_append, List.nil_append, List.mem_cons,
    List.not_mem_nil, or_false] at member
  rcases member with rfl | rfl
  · have bound := Dictionary.mem_of_get?_ofList present
    simp only [List.mem_cons, Prod.mk.injEq, List.not_mem_nil, or_false] at bound
    obtain ⟨_, rfl⟩ := bound
    exact Heap.isolated_plain rfl
  · have bound := Dictionary.mem_of_get?_ofList present
    simp only [List.mem_cons, Prod.mk.injEq, List.not_mem_nil, or_false] at bound
    rcases bound with ⟨_, rfl⟩ | ⟨_, rfl⟩ | ⟨_, rfl⟩
    · exact Heap.isolated_plain rfl
    · exact numbers ⟨1⟩
    · exact Heap.isolated_function fun _ => rfl

/-- Reading the item and assigning to it leave the scope and the local names as they were. -/
theorem keeps_callerFrames_countedItem :
    (∀ frame ∈ callerFrames ⟨0⟩ (some ⟨1⟩),
        ((countedItem.evaluate notingHost deskContext).runOn ⟨deskStart, []⟩).2.heap.entries frame =
          desk.entries frame) ∧
      ∀ frame ∈ callerFrames ⟨0⟩ (some ⟨1⟩),
        ((countedItem.assign notingHost deskContext .null).runOn
          ⟨deskStart, []⟩).2.heap.entries frame = desk.entries frame := by
  have made : Context.make desk ⟨0⟩ (some ⟨1⟩) .default = (deskContext, deskStart) := rfl
  obtain ⟨evaluated, assigned⟩ :=
    Expr.keeps_callerFrames rfl desk_secludes notingHost_discreet countedItem [] deskStart made
  exact ⟨evaluated, assigned .null (Heap.isolated_plain rfl)⟩

end

end Parlance
