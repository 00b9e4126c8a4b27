import Parlance.Evaluation.Meaning
import Parlance.Proofs.Evaluation.Discipline

/-!
# Evaluation keeps disciplines

Every use of an expression keeps to any discipline that admits the context and trusts the host, and
gives good values.
-/

namespace Parlance

variable {discipline : Discipline} {host : Host} {context : Context} {machine : Machine}
  {value : Value} {name : String}

open Eval

namespace Value

theorem newMethod_keeps (sound : discipline.Sound machine.heap) {code : Option FunctionCode}
    (builtIn : code ≠ some .host) :
    (newMethod name code).Keeps discipline machine discipline.Good := by
  cases code with
  | some code =>
      rw [newMethod]
      obtain ⟨soundThere, later⟩ := discipline.newFunction sound name code
      refine Keeps.bind (fun function _ => function.code ≠ .host) (Keeps.onHeap soundThere later
        fun same => builtIn (congrArg some same)) ?_
      intro function there sound _ builtIn
      exact Keeps.pure sound (discipline.method _ function builtIn)
  | none => exact Keeps.pure sound (discipline.plain _ _ rfl)

theorem getProperty_keeps (sound : discipline.Sound machine.heap)
    (good : discipline.Good value machine.heap) (name : String) :
    (value.getProperty name).Keeps discipline machine discipline.Good := by
  refine Keeps.heap_bind ?_
  cases value with
  | undefined => exact Keeps.throw sound
  | null => exact Keeps.throw sound
  | map ref => exact Keeps.pure sound (discipline.getD_get? sound good name)
  | list ref =>
      dsimp only
      split
      · exact Keeps.pure sound (discipline.plain _ _ rfl)
      · split
        · exact Keeps.pure sound (discipline.getElem? sound good _)
        · refine newMethod_keeps sound ?_
          cases ListMethod.ofName? name <;> simp
  | string text =>
      dsimp only
      split
      · exact Keeps.pure sound (discipline.plain _ _ rfl)
      · split
        · refine Keeps.pure sound ?_
          split <;> exact discipline.plain _ _ rfl
        · refine newMethod_keeps sound ?_
          cases StringMethod.ofName? name <;> simp
  | function target =>
      refine Keeps.pure sound ?_
      split <;> exact discipline.plain _ _ rfl
  | bool _ => exact Keeps.pure sound (discipline.plain _ _ rfl)
  | number _ => exact Keeps.pure sound (discipline.plain _ _ rfl)

theorem setProperty_keeps (sound : discipline.Sound machine.heap)
    (owner : discipline.Good value machine.heap) (name : String) {newValue : Value}
    (good : discipline.Good newValue machine.heap) :
    (value.setProperty name newValue).Keeps discipline machine fun _ _ => True := by
  refine Keeps.heap_bind ?_
  cases value with
  | map ref => exact Keeps.setHeap (discipline.insert sound owner good name)
  | list ref =>
      dsimp only
      split
      · split
        · rename_i latter put
          exact Keeps.setHeap (discipline.putItem? sound owner good put)
        · exact Keeps.throw sound
      · exact Keeps.throw sound
  | _ => exact Keeps.throw sound

end Value

namespace Context

theorem read_keeps (ready : discipline.Ready context machine) (name : String) :
    (context.read name).Keeps discipline machine discipline.Good := by
  refine Keeps.heap_bind ?_
  split
  · rename_i value found
    obtain ⟨frame, held, present⟩ := Option.bind_eq_some_iff.1 found
    exact Keeps.pure ready.sound (ready.admits.reads _ ready.sound (discipline.refl _) frame
      (List.mem_of_find?_eq_some held) name value present)
  · split
    · exact Keeps.throw ready.sound
    · exact Keeps.pure ready.sound (discipline.plain _ _ rfl)

theorem assign_keeps (ready : discipline.Ready context machine) (name : String)
    (good : discipline.Good value machine.heap) :
    (context.assign name value).Keeps discipline machine fun _ _ => True := by
  refine Keeps.heap_bind ?_
  extract_lets write
  have writes : (write ()).Keeps discipline machine fun _ _ => True := by
    simp only [write]
    split
    · rename_i frame target
      exact Keeps.setHeap (ready.admits.writes _ ready.sound (discipline.refl _) name frame target
        value good)
    · exact Keeps.throw ready.sound
  split
  · exact Keeps.throw ready.sound
  · exact writes

end Context

theorem ListMethod.call_keeps (sound : discipline.Sound machine.heap) (method : ListMethod)
    {ref : ListRef} (owner : discipline.Good (.list ref) machine.heap) {arguments : List Value}
    (good : discipline.GoodAll arguments machine.heap) :
    (method.call ref arguments).Keeps discipline machine discipline.Good := by
  have part {items : List Value} (within : items ⊆ machine.heap.items ref) :
      ∀ item ∈ items, discipline.Good item machine.heap :=
    fun item member => discipline.item sound owner item (within member)
  refine Keeps.heap_bind ?_
  cases method with
  | join => exact Keeps.pure sound (discipline.plain _ _ rfl)
  | push =>
      refine Keeps.bind (fun _ _ => True) (Keeps.setHeap (discipline.setItems sound ?_ ref)) ?_
      · intro item member
        rcases List.mem_append.1 member with member | member
        · exact discipline.item sound owner item member
        · exact good item member
      · intro _ there sound _ _
        exact Keeps.pure sound (discipline.plain _ _ rfl)
  | pop =>
      obtain ⟨soundThere, later⟩ :=
        discipline.setItems sound (part (List.dropLast_subset _)) ref
      refine Keeps.bind (fun item heap => discipline.Good (item.getD .undefined) heap)
        (Keeps.onHeap soundThere later ?_) ?_
      · refine discipline.stays later ?_
        rw [Heap.popItem]
        cases last : (machine.heap.items ref).getLast? with
        | none => exact discipline.plain _ _ rfl
        | some item => exact discipline.item sound owner item (List.mem_of_getLast? last)
      · intro item there sound _ good
        exact Keeps.pure sound good
  | indexOf =>
      refine Keeps.pure sound ?_
      cases List.findIdx? _ (machine.heap.items ref) <;> exact discipline.plain _ _ rfl
  | includes => exact Keeps.pure sound (discipline.plain _ _ rfl)
  | slice =>
      have within : sliceOf machine.heap (machine.heap.items ref) arguments ⊆
          machine.heap.items ref := fun item member =>
        List.mem_of_mem_take (List.mem_of_mem_drop member)
      obtain ⟨soundThere, later, made⟩ := discipline.newList sound (part within)
      refine Keeps.bind (fun made => discipline.Good (.list made))
        (Keeps.onHeap soundThere later made) ?_
      intro made there sound _ good
      exact Keeps.pure sound good

theorem StringMethod.call_keeps (sound : discipline.Sound machine.heap) (method : StringMethod)
    (text : Text) (arguments : List Value) :
    (method.call text arguments).Keeps discipline machine discipline.Good := by
  refine Keeps.heap_bind ?_
  cases method with
  | indexOf =>
      refine Keeps.pure sound ?_
      cases Text.position? _ text <;> exact discipline.plain _ _ rfl
  | split =>
      have plain (parts : List Text) : discipline.GoodAll (parts.map .ofText) machine.heap := by
        intro item member
        obtain ⟨part, _, rfl⟩ := List.mem_map.1 member
        exact discipline.plain _ _ rfl
      obtain ⟨soundThere, later, made⟩ := discipline.newList sound (plain _)
      refine Keeps.bind (fun made => discipline.Good (.list made))
        (Keeps.onHeap soundThere later made) ?_
      intro made there sound _ good
      exact Keeps.pure sound good
  | _ => exact Keeps.pure sound (discipline.plain _ _ rfl)

theorem Function.call_keeps (trusts : discipline.Trusts host)
    (sound : discipline.Sound machine.heap) {function : Function}
    (callee : discipline.Good (.function function) machine.heap) {receiver : Value}
    (owned : discipline.Good receiver machine.heap) {arguments : List Value}
    (good : discipline.GoodAll arguments machine.heap) :
    (function.call host receiver arguments).Keeps discipline machine discipline.Good := by
  rw [Function.call]
  split
  · split
    · exact ListMethod.call_keeps sound _ owned good
    · exact Keeps.throw sound
  · split
    · exact StringMethod.call_keeps sound _ _ _
    · exact Keeps.throw sound
  · rename_i code
    obtain ⟨soundThere, later, result⟩ :=
      trusts function receiver arguments machine.heap code sound callee owned good
    exact ⟨soundThere, later, result⟩

/-- Every use of the expression keeps to the discipline and gives good values. -/
structure Meaning.Keeps (discipline : Discipline) (context : Context) (meaning : Meaning) :
    Prop where
  value : ∀ machine, discipline.Ready context machine →
    meaning.value.Keeps discipline machine discipline.Good
  assign : ∀ machine, discipline.Ready context machine → ∀ value,
    discipline.Good value machine.heap →
    (meaning.assign value).Keeps discipline machine fun _ _ => True
  arguments : ∀ machine, discipline.Ready context machine →
    meaning.arguments.Keeps discipline machine discipline.GoodAll
  callee : ∀ machine, discipline.Ready context machine →
    meaning.callee.Keeps discipline machine discipline.GoodBoth

namespace Meaning

theorem keeps_ofValue {value : Eval Value}
    (keeps : ∀ machine, discipline.Ready context machine →
      value.Keeps discipline machine discipline.Good) :
    (ofValue value).Keeps discipline context where
  value := keeps
  assign machine ready _ _ := Eval.Keeps.throw ready.sound
  arguments machine ready := by
    refine Eval.Keeps.bind _ (keeps machine ready) ?_
    intro result there sound _ good
    exact Eval.Keeps.pure sound (by simpa [Discipline.GoodAll] using good)
  callee machine ready := by
    refine Eval.Keeps.bind _ (keeps machine ready) ?_
    intro result there sound _ good
    exact Eval.Keeps.pure sound ⟨discipline.plain _ _ rfl, good⟩

theorem keeps_ofPlace {value : Eval Value} {assign : Value → Eval Unit}
    (keeps : ∀ machine, discipline.Ready context machine →
      value.Keeps discipline machine discipline.Good)
    (writes : ∀ machine, discipline.Ready context machine → ∀ value,
      discipline.Good value machine.heap →
      (assign value).Keeps discipline machine fun _ _ => True) :
    (ofPlace value assign).Keeps discipline context :=
  { keeps_ofValue keeps with assign := writes }

theorem keeps_ofProperty {κ : Type} {place : Eval (Value × κ)} {read : Value → κ → Eval Value}
    {write : Value → κ → Value → Eval Unit}
    (keeps : ∀ machine, discipline.Ready context machine →
      place.Keeps discipline machine fun found => discipline.Good found.1)
    (reads : ∀ machine object key, discipline.Sound machine.heap →
      discipline.Good object machine.heap →
      (read object key).Keeps discipline machine discipline.Good)
    (writes : ∀ machine object key value, discipline.Sound machine.heap →
      discipline.Good object machine.heap → discipline.Good value machine.heap →
      (write object key value).Keeps discipline machine fun _ _ => True) :
    (ofProperty place read write).Keeps discipline context := by
  have callee (machine : Machine) (ready : discipline.Ready context machine) :
      (ofProperty place read write).callee.Keeps discipline machine discipline.GoodBoth := by
    refine Eval.Keeps.bind _ (keeps machine ready) ?_
    rintro ⟨object, key⟩ there sound _ good
    refine Eval.Keeps.bind _ (reads there object key sound good) ?_
    intro value there sound later owned
    exact Eval.Keeps.pure sound ⟨discipline.stays later good, owned⟩
  refine { keeps_ofPlace ?_ ?_ with callee := callee }
  · intro machine ready
    exact Eval.Keeps.map (callee machine ready) fun _ _ both => both.2
  · intro machine ready value owned
    refine Eval.Keeps.bind _ (keeps machine ready) ?_
    rintro ⟨object, key⟩ there sound later good
    exact writes there object key value sound good (discipline.stays later owned)

variable {operand callee left right : Meaning}

theorem step_keeps (keeps : operand.Keeps discipline context)
    (ready : discipline.Ready context machine) (step : Step) :
    (operand.step step).Keeps discipline machine discipline.GoodBoth := by
  refine Eval.Keeps.bind _ (keeps.value machine ready) ?_
  intro value there sound later _
  refine Eval.Keeps.heap_bind ?_
  refine Eval.Keeps.bind _ (keeps.assign there (ready.later sound later) _
    (discipline.plain _ _ rfl)) ?_
  intro _ there sound _ _
  exact Eval.Keeps.pure sound ⟨discipline.plain _ _ rfl, discipline.plain _ _ rfl⟩

theorem good_unaryApply (heap : Heap) (operator : UnaryOperator) (value : Value) :
    discipline.Good (operator.apply heap value) heap := by
  cases operator <;> exact discipline.plain _ _ rfl

theorem unary_keeps (keeps : operand.Keeps discipline context)
    (ready : discipline.Ready context machine) (operator : UnaryOperator) :
    (unary operator operand).Keeps discipline machine discipline.Good := by
  have applied : (do
      let value ← operand.value
      return operator.apply (← Eval.heap) value).Keeps discipline machine discipline.Good := by
    refine Eval.Keeps.bind _ (keeps.value machine ready) ?_
    intro value there sound _ _
    exact Eval.Keeps.heap_bind (Eval.Keeps.pure sound (good_unaryApply _ operator value))
  cases operator with
  | stepBy step => exact Eval.Keeps.map (step_keeps keeps ready step) fun _ _ both => both.2
  | _ => exact applied

theorem good_binaryApply {heap : Heap} (operator : BinaryOperator) {first second : Value}
    (left : discipline.Good first heap) (right : discipline.Good second heap) :
    discipline.Good (operator.apply heap first second) heap := by
  cases operator with
  | plus =>
      rw [BinaryOperator.apply, Value.add]
      split <;> exact discipline.plain _ _ rfl
  | and =>
      rw [BinaryOperator.apply]
      split <;> assumption
  | or =>
      rw [BinaryOperator.apply]
      split <;> assumption
  | comma => exact right
  | _ => exact discipline.plain _ _ rfl

theorem binary_keeps (first : left.Keeps discipline context)
    (second : right.Keeps discipline context) (ready : discipline.Ready context machine)
    (operator : BinaryOperator) :
    (binary operator left right).Keeps discipline machine discipline.Good := by
  refine Eval.Keeps.bind _ (first.value machine ready) ?_
  intro value there sound later good
  have ready := ready.later sound later
  have applied : (do
      let other ← right.value
      return operator.apply (← Eval.heap) value other).Keeps discipline there
        discipline.Good := by
    refine Eval.Keeps.bind _ (second.value there ready) ?_
    intro other there sound later owned
    exact Eval.Keeps.heap_bind (Eval.Keeps.pure sound
      (good_binaryApply operator (discipline.stays later good) owned))
  cases operator with
  | and =>
      dsimp only
      split
      · exact second.value there ready
      · exact Eval.Keeps.pure sound good
  | or =>
      dsimp only
      split
      · exact Eval.Keeps.pure sound good
      · exact second.value there ready
  | comma => exact second.value there ready
  | _ => exact applied

theorem sequence_keeps (first : left.Keeps discipline context)
    (second : right.Keeps discipline context) (ready : discipline.Ready context machine) :
    (sequence left right).Keeps discipline machine discipline.GoodAll := by
  refine Eval.Keeps.bind _ (first.arguments machine ready) ?_
  intro values there sound later good
  refine Eval.Keeps.bind _ (second.value there (ready.later sound later)) ?_
  intro value there sound later owned
  refine Eval.Keeps.pure sound ?_
  intro item member
  rcases List.mem_append.1 member with member | member
  · exact discipline.stays later (good item member)
  · rw [List.mem_singleton.1 member]
    exact owned

theorem call_keeps (trusts : discipline.Trusts host) (target : callee.Keeps discipline context)
    {arguments : Eval (List Value)}
    (given : ∀ machine, discipline.Ready context machine →
      arguments.Keeps discipline machine discipline.GoodAll)
    (ready : discipline.Ready context machine) (text : Text) :
    (call host callee text arguments).Keeps discipline machine discipline.Good := by
  refine Eval.Keeps.bind _ (target.callee machine ready) ?_
  rintro ⟨receiver, function⟩ there sound later ⟨owned, called⟩
  refine Eval.Keeps.bind _ (given there (ready.later sound later)) ?_
  intro values there sound later good
  split
  · exact Function.call_keeps trusts sound (discipline.stays later called)
      (discipline.stays later owned) good
  · exact Eval.Keeps.throw sound

end Meaning

open Meaning in
/-- Every use of an expression keeps to a discipline that trusts the host. -/
theorem Expr.meaning_keeps (trusts : discipline.Trusts host) (context : Context) (expr : Expr) :
    (expr.meaning host context).Keeps discipline context := by
  induction expr with
  | symbol _ name =>
      exact keeps_ofPlace (fun _ ready => Context.read_keeps ready name)
        fun _ ready _ => Context.assign_keeps ready name
  | literal _ value =>
      cases value <;>
        exact keeps_ofValue fun _ ready => Eval.Keeps.pure ready.sound (discipline.plain _ _ rfl)
  | member _ object property ih =>
      refine keeps_ofProperty ?_ ?_ ?_
      · intro machine ready
        refine Eval.Keeps.bind _ (ih.value machine ready) ?_
        intro value there sound _ good
        exact Eval.Keeps.pure sound good
      · intro machine object name sound good
        exact Value.getProperty_keeps sound good name
      · intro machine object name value sound owner good
        exact Value.setProperty_keeps sound owner name good
  | index _ object key ihObject ihKey =>
      refine keeps_ofProperty ?_ ?_ ?_
      · intro machine ready
        refine Eval.Keeps.bind _ (ihObject.value machine ready) ?_
        intro value there sound later good
        refine Eval.Keeps.bind _ (ihKey.value there (ready.later sound later)) ?_
        intro name there sound later _
        exact Eval.Keeps.pure sound (discipline.stays later good)
      · intro machine object key sound good
        exact Eval.Keeps.heap_bind (Value.getProperty_keeps sound good _)
      · intro machine object key value sound owner good
        exact Eval.Keeps.heap_bind (Value.setProperty_keeps sound owner _ good)
  | call _ callee arguments ihCallee ihArguments =>
      exact keeps_ofValue fun _ ready => call_keeps trusts ihCallee ihArguments.arguments ready _
  | callEmpty _ callee ih =>
      refine keeps_ofValue fun _ ready => call_keeps trusts ih ?_ ready _
      intro machine ready
      exact Eval.Keeps.pure ready.sound (by simp [Discipline.GoodAll])
  | unary _ operator operand ih =>
      exact keeps_ofValue fun _ ready => unary_keeps ih ready operator
  | stepAfter _ step operand ih =>
      exact keeps_ofValue fun _ ready =>
        Eval.Keeps.map (step_keeps ih ready step) fun _ _ both => both.1
  | binary _ operator left right ihLeft ihRight =>
      have plain := keeps_ofValue fun _ ready => binary_keeps ihLeft ihRight ready operator
      cases operator with
      | comma => exact { plain with arguments := fun _ => sequence_keeps ihLeft ihRight }
      | _ => exact plain
  | ternary _ condition truthy falsy ihCondition ihTruthy ihFalsy =>
      refine keeps_ofValue fun machine ready => ?_
      refine Eval.Keeps.bind _ (ihCondition.value machine ready) ?_
      intro value there sound later _
      split
      · exact ihTruthy.value there (ready.later sound later)
      · exact ihFalsy.value there (ready.later sound later)
  | wrapper _ inner ih =>
      refine { ih with arguments := ?_ }
      intro machine ready
      refine Eval.Keeps.bind _ (ih.value machine ready) ?_
      intro value there sound _ good
      exact Eval.Keeps.pure sound (by simpa [Discipline.GoodAll] using good)

end Parlance
