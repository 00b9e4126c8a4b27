import Parlance.Evaluation.Property

/-!
# Contexts

A context is a row of maps in which names are looked up from the front. By default a temporary map
stands before the maps of the caller and a map of constants behind them, and assigning a name
writes to the temporary map. With a raw scope there are only the maps of the caller, and assigning a
name writes to the first that has it, or else to the scope.
-/

namespace Parlance

/-- How expressions are evaluated: on the maps of the caller alone, and with unknown names read as
undefined. -/
structure Options where
  rawScope : Bool
  notStrict : Bool
  deriving Repr, DecidableEq

/-- The default options. -/
def Options.default : Options := ⟨false, false⟩

/-- The maps in which names are looked up, the map for assignments if there is one of its own, and
whether unknown names are errors. -/
structure Context where
  frames : List MapRef
  temporary : Option MapRef
  strict : Bool
  deriving Repr, DecidableEq

/-- The names that have values by default. -/
def constants : Dictionary Value :=
  .ofList
    [("null", .null), ("undefined", .undefined), ("true", .bool true), ("false", .bool false),
      ("NaN", .number Binary.undefinedResult), ("Infinity", .number Binary.infinity)]

/-- The values by default are plain data. -/
theorem isObject_constants {name : String} {value : Value}
    (found : constants.get? name = some value) : value.isObject = false := by
  have member := Dictionary.mem_of_get?_ofList found
  simp only [List.mem_cons, Prod.mk.injEq, List.not_mem_nil, or_false] at member
  rcases member with ⟨_, rfl⟩ | ⟨_, rfl⟩ | ⟨_, rfl⟩ | ⟨_, rfl⟩ | ⟨_, rfl⟩ | ⟨_, rfl⟩ <;> rfl

namespace Context

/-- Makes a context over a scope and, before it, local names. -/
def make (heap : Heap) (scope : MapRef) (locals : Option MapRef) (options : Options) :
    Context × Heap :=
  if options.rawScope then (⟨locals.toList ++ [scope], none, !options.notStrict⟩, heap)
  else
    let (temporary, heap) := heap.newMap .empty
    let (constants, heap) := heap.newMap constants
    (⟨temporary :: locals.toList ++ [scope, constants], some temporary, !options.notStrict⟩, heap)

/-- The first map that has the name. -/
def holder? (context : Context) (heap : Heap) (name : String) : Option MapRef :=
  context.frames.find? fun frame => (heap.entries frame).contains name

/-- Whether a map has the name. -/
def contains (context : Context) (heap : Heap) (name : String) : Bool :=
  (context.holder? heap name).isSome

/-- The value of the name in the first map that has it. -/
def lookup? (context : Context) (heap : Heap) (name : String) : Option Value :=
  (context.holder? heap name).bind fun frame => heap.get? frame name

/-- The map that an assignment to the name writes to. -/
def target? (context : Context) (heap : Heap) (name : String) : Option MapRef :=
  match context.temporary, context.holder? heap name with
  | some temporary, _ => some temporary
  | none, some frame => some frame
  | none, none => context.frames.getLast?

/-- Assigns a value to the name. In a strict context a map must have the name already. -/
def assign (context : Context) (name : String) (value : Value) : Eval Unit := do
  let heap ← Eval.heap
  if context.strict && !context.contains heap name then throw (.undefinedVariable name)
  match context.target? heap name with
  | some frame => Eval.setHeap (heap.insert frame name value)
  | none => throw (.undefinedVariable name)

/-- Reads the name. In a strict context a map must have it. -/
def read (context : Context) (name : String) : Eval Value := do
  match context.lookup? (← Eval.heap) name with
  | some value => return value
  | none => if context.strict then throw (.undefinedVariable name) else return .undefined

end Context

end Parlance
