import Parlance.Proofs.Arithmetic.Building
import Parlance.Proofs.Arithmetic.Token
import Parlance.Proofs.Tree.Nodes

/-!
# Expressions read like their sources

An expression is read in order: operands and operators as they stand, brackets around what they
hold. So is a tree, token by token. An expression reads what the nodes read that build it, so none of
them is lost, repeated or moved when a source is compiled, and the expression reads what the tree of
the source reads. Only the parentheses that group are not read.
-/

namespace Parlance

/-- One token as it is read: the value of a literal, or another token's text with the name of its
term. -/
inductive Lexeme where
  | literal (value : Constant)
  | written (name : String) (text : Text)

namespace Lexeme

/-- The token of a term with this name, as it is read. Numbers and strings are decoded. -/
def ofToken (name : String) (text : Text) : Lexeme :=
  match name with
  | "number" =>
      match Arithmetic.readNumber? text with
      | some value => literal (.number value)
      | none => written name text
  | "string" =>
      match Arithmetic.readString? text with
      | some value => literal (.string (String.ofList value))
      | none => written name text
  | name => written name text

theorem ofToken_number {text : Text} {value : Float}
    (reads : Arithmetic.readNumber? text = some value) :
    ofToken "number" text = literal (.number value) := by
  simp [ofToken, reads]

theorem ofToken_string {text value : Text} (reads : Arithmetic.readString? text = some value) :
    ofToken "string" text = literal (.string (String.ofList value)) := by
  simp [ofToken, reads]

theorem ofToken_other {name : String} (text : Text)
    (other : name ≠ "number" ∧ name ≠ "string") : ofToken name text = written name text := by
  simp [ofToken, other]

end Lexeme

mutual

/-- The tokens of the node in the order of the source. Of the groups, all but parentheses read their
markers around what they hold. -/
def Node.reading : Node → List Lexeme
  | .token name _ _ content _ => [.ofToken name content]
  | .group name _ _ start stop _ _ _ children =>
      if name = "paren" then Node.readingOfAll children
      else .written name start :: Node.readingOfAll children ++ [.written name stop]

/-- The tokens of the nodes one after the other. -/
def Node.readingOfAll : List Node → List Lexeme
  | [] => []
  | node :: rest => node.reading ++ Node.readingOfAll rest

end

/-- What a bracket reads around other tokens. -/
def bracketed (name opening closing : String) (inside : List Lexeme) : List Lexeme :=
  .written name opening.toList :: inside ++ [.written name closing.toList]

/-- The tokens of the expression in the order in which they stand. -/
def Expr.reading : Expr → List Lexeme
  | .symbol _ name => [.written "identifier" name.toList]
  | .literal _ value => [.literal value]
  | .member _ object property =>
      object.reading ++ [.written "dot" ['.'], .written "property" property.toList]
  | .index _ object key => object.reading ++ bracketed "index" "[" "]" key.reading
  | .call _ callee arguments => callee.reading ++ bracketed "call" "(" ")" arguments.reading
  | .callEmpty _ callee => callee.reading ++ bracketed "call" "(" ")" []
  | .unary _ operator operand => .written "prefix" operator.symbol.toList :: operand.reading
  | .stepAfter _ step operand => operand.reading ++ [.written "postfix" step.symbol.toList]
  | .binary _ operator left right =>
      left.reading ++ .written "operator" operator.symbol.toList :: right.reading
  | .ternary _ condition truthy falsy =>
      condition.reading ++ .written "operator" ['?'] ::
        (truthy.reading ++ .written "operator" [':'] :: falsy.reading)
  | .wrapper _ inner => inner.reading

/-- Parentheses are not read. -/
@[simp] theorem Expr.reading_wrap (expr : Expr) (origin : Origin) :
    (expr.wrap origin).reading = expr.reading := by
  cases expr <;> rfl

namespace Arithmetic

/-! ### Tokens and brackets of the language -/

/-- The node has the texts that the language gives to its name: a dot is a dot, and the groups stand
between their brackets. -/
inductive InLanguage : Node → Prop where
  | token {name position length content leading} (dot : name = "dot" → content = ['.']) :
      InLanguage (.token name position length content leading)
  | paren {position length content leading trailing children} :
      InLanguage (.group "paren" position length ['('] [')'] content leading trailing children)
  | call {position length content leading trailing children} :
      InLanguage (.group "call" position length ['('] [')'] content leading trailing children)
  | index {position length content leading trailing children} :
      InLanguage (.group "index" position length ['['] [']'] content leading trailing children)

/-- A marker with one fixed text finds nothing else. -/
theorem eq_of_match? {matcher : Matcher} {text marker ahead : Text}
    (fixed : matcher.texts? = some [text]) (some : text ≠ [])
    (found : matcher.match? ahead = Option.some marker) : marker = text := by
  rw [Matcher.match?_of_texts? fixed (by simpa using some.symm)] at found
  exact List.mem_singleton.1 (List.mem_of_find?_eq_some found)

/-- What the language makes has the texts of the language. -/
theorem inLanguage_of_makes {node : Node} (makes : grammar.Makes node) : InLanguage node := by
  have listed : ∀ {term}, term ∈ grammar.terms → outlineOf term ∈ outlines := by
    intro term member
    rw [← grammar_outlined.1]
    exact List.mem_map_of_mem member
  cases makes with
  | @token term ahead marker position length leading member shape found =>
      refine .token fun named => ?_
      have dots : ∀ outline ∈ outlines, outline.name = "dot" → outline.start = some [['.']] := by
        decide
      exact eq_of_match? (dots _ (listed member) named) (by simp) found
  | @group term stop subgroups ahead marker behind closing _ _ _ _ _ _ member shape opens closes =>
      have groups : ∀ outline ∈ outlines, outline.stop ≠ none →
          outline ∈ [Outline.ofGroup "paren" "(" ")", .ofGroup "call" "(" ")",
            .ofGroup "index" "[" "]"] := by
        decide
      have outlined := groups _ (listed member) (by simp [outlineOf, Term.stop?, shape])
      have between : ∀ {name opening closes : String},
          outlineOf term = .ofGroup name opening closes → opening.toList ≠ [] →
          closes.toList ≠ [] →
          term.name = name ∧ marker = opening.toList ∧ closing = closes.toList := by
        intro name opening last outline someOpening someLast
        simp only [outlineOf, Outline.ofGroup, Term.stop?, shape, Option.map_some,
          Outline.mk.injEq, Option.some.injEq] at outline
        obtain ⟨named, start, ends, _⟩ := outline
        exact ⟨named, eq_of_match? start someOpening opens, eq_of_match? ends someLast closes⟩
      simp only [List.mem_cons, List.not_mem_nil, or_false] at outlined
      rcases outlined with outline | outline | outline
      all_goals
        obtain ⟨named, rfl, rfl⟩ := between outline (by decide) (by decide)
        rw [named]
        constructor

theorem InLanguage.closing_of_call {node : Node} (inLanguage : InLanguage node)
    (named : node.IsGroupOf "call") : node.closing = [')'] := by
  cases inLanguage <;> simp_all [Node.IsGroupOf, Node.isToken, Node.name, Node.closing]

/-! ### What nodes read -/

variable {nodes : List Node} {node : Node} {made value : Expr}

@[simp] theorem readingOfAll_append (nodes others : List Node) :
    Node.readingOfAll (nodes ++ others) = Node.readingOfAll nodes ++ Node.readingOfAll others := by
  induction nodes with
  | nil => rfl
  | cons node rest ih => simp [Node.readingOfAll, ih]

/-- The node is one of the language, and what it compiles to reads what its children read. -/
structure ReadsInside (node : Node) : Prop where
  inLanguage : InLanguage node
  inside : ∀ inner, compileInside node = .ok inner →
    inner.reading = Node.readingOfAll node.children

/-- A token reads its text, if it is not a literal. -/
theorem reading_of_isTokenOf {name : String} (other : name ≠ "number" ∧ name ≠ "string")
    (named : node.IsTokenOf name) : node.reading = [.written name (textOf node)] := by
  obtain ⟨isToken, named⟩ := named
  cases node with
  | token term position length content leading =>
      rw [← show term = name from named] at other ⊢
      simp [Node.reading, Lexeme.ofToken_other _ other, textOf, Node.content?]
  | group => cases isToken

/-- A dot reads as one. -/
theorem reading_of_dot (inLanguage : InLanguage node) (dotted : node.IsTokenOf "dot") :
    node.reading = [.written "dot" ['.']] := by
  rw [reading_of_isTokenOf (by decide) dotted]
  cases inLanguage with
  | token isDot => simp [textOf, Node.content?, isDot dotted.2]
  | _ => cases dotted.1

/-- An operator between values reads its symbol. -/
theorem reading_of_writesBetween {symbol : String} (inLanguage : InLanguage node)
    (writes : node.WritesBetween symbol) :
    node.reading = [.written "operator" symbol.toList] := by
  obtain ⟨named, written⟩ := writes
  cases inLanguage with
  | token =>
      obtain rfl := Option.some.inj written
      have name_eq : _ = "operator" := named
      subst name_eq
      simp [Node.reading, Lexeme.ofToken_other]
  | _ => simp [Node.name, operatorName] at named

theorem reading_of_call (inLanguage : InLanguage node) (named : node.IsGroupOf "call") :
    node.reading = bracketed "call" "(" ")" (Node.readingOfAll node.children) := by
  obtain ⟨isGroup, named⟩ := named
  cases inLanguage with
  | token => cases isGroup
  | call => simp [Node.reading, Node.children, bracketed]
  | _ => simp [Node.name] at named

theorem reading_of_index (inLanguage : InLanguage node) (named : node.IsGroupOf "index") :
    node.reading = bracketed "index" "[" "]" (Node.readingOfAll node.children) := by
  obtain ⟨isGroup, named⟩ := named
  cases inLanguage with
  | token => cases isGroup
  | index => simp [Node.reading, Node.children, bracketed]
  | _ => simp [Node.name] at named

/-! ### What is built from nodes -/

theorem Atom.reading (atom : Atom node made) (reads : ReadsInside node) :
    made.reading = node.reading := by
  cases atom with
  | number named decoded =>
      cases node with
      | token =>
          obtain rfl := named.2
          exact (congrArg (fun lexeme => [lexeme]) (Lexeme.ofToken_number decoded)).symm
      | group => cases named.1
  | string named decoded =>
      cases node with
      | token =>
          obtain rfl := named.2
          exact (congrArg (fun lexeme => [lexeme]) (Lexeme.ofToken_string decoded)).symm
      | group => cases named.1
  | identifier named => simp [reading_of_isTokenOf (by decide) named, Expr.reading]
  | paren named compiled =>
      rw [Expr.reading_wrap, reads.inside _ compiled]
      cases node with
      | token => cases named.1
      | group name =>
          have paren : name = "paren" := named.2
          simp [Node.reading, paren, Node.children]

/-- A link reads the value and then its nodes. -/
theorem Link.reading (link : Link value nodes made) (reads : ∀ node ∈ nodes, ReadsInside node) :
    made.reading = value.reading ++ Node.readingOfAll nodes := by
  cases link with
  | @member dot property dotted named =>
      simp [memberOf, Expr.reading, Node.readingOfAll,
        reading_of_dot (reads dot (by simp)).inLanguage dotted,
        reading_of_isTokenOf (by decide) named]
  | @callEmpty node named holdsNothing =>
      simp [Expr.reading, Node.readingOfAll, holdsNothing,
        reading_of_call (reads node (by simp)).inLanguage named]
  | @call node arguments named _ compiled =>
      simp [Expr.reading, Node.readingOfAll, (reads node (by simp)).inside _ compiled,
        reading_of_call (reads node (by simp)).inLanguage named]
  | @index node key named compiled =>
      simp [Expr.reading, Node.readingOfAll, (reads node (by simp)).inside _ compiled,
        reading_of_index (reads node (by simp)).inLanguage named]

/-- An expression reads what the nodes read that build it. -/
theorem Builds.reading (builds : Builds nodes made) (reads : ∀ node ∈ nodes, ReadsInside node) :
    made.reading = Node.readingOfAll nodes := by
  induction builds with
  | @atom node made atom =>
      simpa [Node.readingOfAll] using atom.reading (reads node (by simp))
  | link _ link ih =>
      rw [readingOfAll_append, ← ih fun node member => reads node (List.mem_append_left _ member)]
      exact link.reading fun node member => reads node (List.mem_append_right _ member)
  | step _ named writes ih =>
      simp [Expr.reading, Node.readingOfAll, reading_of_isTokenOf (by decide) named, writes,
        ih fun node member => reads node (List.mem_append_left _ member)]
  | unary named writes _ ih =>
      simp [Expr.reading, Node.readingOfAll, reading_of_isTokenOf (by decide) named, writes,
        ih fun node member => reads node (List.mem_cons_of_mem _ member)]
  | @binary _ _ node _ _ _ _ writes _ ihLeft ihRight =>
      simp [binaryOf, Expr.reading, Node.readingOfAll,
        reading_of_writesBetween (reads node (by simp)).inLanguage writes,
        ihLeft fun node member => reads node (by simp [member]),
        ihRight fun node member => reads node (by simp [member])]
  | @ternary _ _ question _ _ colon _ _ _ opens _ closes _ ih ihTruthy ihFalsy =>
      simp [Expr.reading, Node.readingOfAll,
        reading_of_writesBetween (reads question (by simp)).inLanguage opens,
        reading_of_writesBetween (reads colon (by simp)).inLanguage closes,
        ih fun node member => reads node (by simp [member]),
        ihTruthy fun node member => reads node (by simp [member]),
        ihFalsy fun node member => reads node (by simp [member])]

/-- What a node compiles to reads what its children read, if they are made by the language. -/
theorem compileInside_reading (makes : ∀ child ∈ node.children, grammar.MakesAll child)
    (compiled : compileInside node = .ok made) : made.reading = Node.readingOfAll node.children := by
  revert makes
  refine compileInside_induction ?_ compiled
  intro node made builds inside makes
  refine builds.reading fun child within => ?_
  refine ⟨inLanguage_of_makes (makes child within child .self), fun inner compiled => ?_⟩
  exact inside child within inner compiled fun inner among other contains =>
    makes child within other ((Node.Contains.child .self among).trans contains)

/-- An expression compiled from a source reads exactly the tokens of the source's tree, in their
order and each once. -/
theorem reading_of_compile {source : Text} {made : Expr} (compiled : compile source = .ok made) :
    ∃ tree, grammar.parse .plain source = .ok tree ∧
      made.reading = Node.readingOfAll tree.children := by
  unfold compile at compiled
  split at compiled
  · rename_i tree parsed
    exact ⟨tree, parsed, compileInside_reading (Grammar.parse_makesAll parsed) compiled⟩
  · cases compiled

theorem reading_of_compile_conditional : ∃ made tree,
    compile "a ? f('x\\n', b[c]) : -(d + 1).e++, g()".toList = .ok made ∧
    grammar.parse .plain "a ? f('x\\n', b[c]) : -(d + 1).e++, g()".toList = .ok tree ∧
    made.reading = Node.readingOfAll tree.children ∧ made.reading.length = 23 := by
  have counted : (compile "a ? f('x\\n', b[c]) : -(d + 1).e++, g()".toList).toOption.map
      (·.reading.length) = some 23 := by
    decide +kernel
  obtain ⟨made, compiled, length⟩ := Option.map_eq_some_iff.1 counted
  have compiled := toOption_eq_some_iff.1 compiled
  obtain ⟨tree, parsed, reads⟩ := reading_of_compile compiled
  exact ⟨made, tree, compiled, parsed, reads, length⟩

end Arithmetic

end Parlance
