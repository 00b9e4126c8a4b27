import Parlance.Proofs.Evaluation.Invocation
import Parlance.Proofs.Evaluation.Location
import Parlance.Proofs.Text.Splitting

/-!
# Joining what was split

A string that is split at a separator becomes a list of strings, and this list, joined with the same
separator, is the string again. Both calls take the separator for a text, or for missing, on heaps
that differ only in what the calls themselves make.
-/

namespace Parlance

variable {heap former latter : Heap} {machine : Machine} {arguments : List Value}

/-! ### Separators -/

/-- The arguments name the same separator while the heap grows. -/
theorem separator?_of_grows (closed : former.Closed) (grows : former.Grows latter)
    (has : ∀ argument ∈ arguments, former.Has argument) :
    separator? latter arguments = separator? former arguments := by
  cases arguments with
  | nil => rfl
  | cons separator arguments =>
      have same := Value.text_of_grows closed grows (List.forall_mem_cons.1 has).1
      cases separator with
      | undefined => rfl
      | _ => exact congrArg some same

theorem separator?_cons {separator : Value} (present : separator ≠ .undefined)
    (arguments : List Value) :
    separator? heap (separator :: arguments) = some (separator.text heap) := by
  cases separator with
  | undefined => exact absurd rfl present
  | _ => rfl

/-- The parts of a text that is split at a separator, which may be missing or empty. -/
def Text.partsFor (text : Text) : (separator : Option Text) → List Text
  | none => [text]
  | some [] => text.map fun char => [char]
  | some separator => Text.split separator text

/-- Joining the parts undoes splitting, whatever stands for a missing separator. -/
theorem Text.join_partsFor (text missing : Text) (separator : Option Text) :
    Text.join (separator.getD missing) (text.partsFor separator) = text := by
  match separator with
  | none => exact join_singleton missing text
  | some [] => exact join_chars text
  | some (char :: separator) => exact join_split (List.cons_ne_nil char separator) text

theorem Text.not_isInfix_of_mem_partsFor {text separator part : Text} (nonempty : separator ≠ [])
    (member : part ∈ text.partsFor (some separator)) : ¬separator <:+: part := by
  obtain ⟨char, separator, rfl⟩ := List.exists_cons_of_ne_nil nonempty
  exact not_isInfix_of_mem_split nonempty member

/-! ### Lists of strings -/

namespace Value

theorem rendersItems_ofText (heap : Heap) (inside : List ListRef) (parts : List Text) :
    RendersItems heap inside (parts.map ofText) parts := by
  induction parts with
  | nil => exact .nil
  | cons part parts ih =>
      have here : Renders heap inside (ofText part) (String.ofList part).toList := .string
      rw [String.toList_ofList] at here
      exact .item rfl here ih

/-- A list of strings is joined to their texts. -/
theorem joinItems_ofText {ref : ListRef} {parts : List Text}
    (items : heap.items ref = parts.map ofText) (separator : Text) :
    joinItems heap ref separator = Text.join separator parts := by
  refine (joins_joinItems heap ref separator).unique (.items List.not_mem_nil ?_)
  rw [items]
  exact rendersItems_ofText heap [ref] parts

end Value

/-! ### The methods -/

theorem runOn_split (text : Text) (arguments : List Value) (machine : Machine) :
    (StringMethod.split.call text arguments).runOn machine =
      let made := machine.heap.newList
        ((text.partsFor (separator? machine.heap arguments)).map Value.ofText)
      (.ok (.list made.1), { machine with heap := made.2 }) := by
  rfl

theorem runOn_join (ref : ListRef) (arguments : List Value) (machine : Machine) :
    (ListMethod.join.call ref arguments).runOn machine =
      (.ok (.ofText (Value.joinItems machine.heap ref
        ((separator? machine.heap arguments).getD [',']))), machine) :=
  rfl

/-- A string that is split and then joined with the same arguments is the string again, and no part
contains the text of the separator, unless this is undefined or its text is empty. -/
theorem join_undoes_split (host : Host) (closed : machine.heap.Closed)
    (has : ∀ argument ∈ arguments, machine.heap.Has argument) (text : String) :
    ∃ ref there later,
      ((Value.string text).invoke host "split" arguments).runOn machine = (.ok (.list ref), there) ∧
      ((Value.list ref).invoke host "join" arguments).runOn there =
        (.ok (.string text), later) ∧
      ∀ separator others, arguments = separator :: others → separator ≠ .undefined →
        separator.text machine.heap ≠ [] →
        ∀ item ∈ there.heap.items ref, ∃ part : String, item = .string part ∧
          ¬separator.text machine.heap <:+: part.toList := by
  -- Reading a method and making a list leave the given values with the texts that they have.
  have grown := machine.grows_withFunction "split" (.stringMethod .split)
  let start := machine.withFunction "split" (.stringMethod .split)
  let parts := Text.partsFor text.toList (separator? machine.heap arguments)
  let made := start.heap.newList (parts.map Value.ofText)
  let there : Machine := { start with heap := made.2 }
  have further : machine.heap.Grows (there.withFunction "join" (.listMethod .join)).heap :=
    (grown.trans (start.heap.grows_newList _)).trans (there.grows_withFunction _ _)
  have splits : ((Value.string text).invoke host "split" arguments).runOn machine =
      (.ok (.list made.1), there) := by
    rw [Value.runOn_invoke_string rfl, runOn_split, separator?_of_grows closed grown has]
  have joins : ((Value.list made.1).invoke host "join" arguments).runOn there =
      (.ok (.string text), there.withFunction "join" (.listMethod .join)) := by
    have items : (there.withFunction "join" (.listMethod .join)).heap.items made.1 =
        parts.map Value.ofText := Heap.items_newList_new _ _
    rw [Value.runOn_invoke_list rfl, runOn_join, separator?_of_grows closed further has,
      Value.joinItems_ofText items, Text.join_partsFor, Value.ofText, String.ofList_toList]
  refine ⟨made.1, there, _, splits, joins, ?_⟩
  rintro separator others rfl present nonempty item member
  have items : there.heap.items made.1 = parts.map Value.ofText := Heap.items_newList_new _ _
  rw [items] at member
  obtain ⟨part, inParts, rfl⟩ := List.mem_map.1 member
  refine ⟨String.ofList part, rfl, ?_⟩
  rw [String.toList_ofList]
  apply Text.not_isInfix_of_mem_partsFor nonempty
  rwa [← separator?_cons present]

/-- A machine with a list whose text is a letter and a comma. -/
def lettered : Machine := .ofHeap (Heap.empty.newList [.string "a", .null]).2

/-- The list as a separator, and a separator that overlaps itself in the text. -/
theorem join_undoes_split_overlapping :
    (∃ ref there later,
      ((Value.string "a,a,,a").invoke silentHost "split" [.list ⟨0⟩]).runOn lettered =
        (.ok (.list ref), there) ∧
      ((Value.list ref).invoke silentHost "join" [.list ⟨0⟩]).runOn there =
        (.ok (.string "a,a,,a"), later) ∧
      ∀ item ∈ there.heap.items ref, ∃ part : String, item = .string part ∧
        ¬"a,".toList <:+: part.toList) ∧
    ∃ ref there later,
      ((Value.string "aaa").invoke silentHost "split" [.string "aa"]).runOn lettered =
        (.ok (.list ref), there) ∧
      ((Value.list ref).invoke silentHost "join" [.string "aa"]).runOn there =
        (.ok (.string "aaa"), later) := by
  have closed : lettered.heap.Closed := Heap.closed_empty.newList (by simp [Heap.Has])
  have text : (Value.list ⟨0⟩).text lettered.heap = "a,".toList := by decide +kernel
  constructor
  · have has : lettered.heap.Has (.list ⟨0⟩) := Nat.zero_lt_one
    obtain ⟨ref, there, later, splits, joins, free⟩ :=
      join_undoes_split silentHost closed (List.forall_mem_singleton.2 has) "a,a,,a"
    have free := free _ [] rfl (by simp) (by rw [text]; decide)
    rw [text] at free
    exact ⟨ref, there, later, splits, joins, free⟩
  · have has : lettered.heap.Has (.string "aa") := trivial
    obtain ⟨ref, there, later, splits, joins, _⟩ :=
      join_undoes_split silentHost closed (List.forall_mem_singleton.2 has) "aaa"
    exact ⟨ref, there, later, splits, joins⟩

end Parlance
