import Parlance.Proofs.Arithmetic.Deriving
import Parlance.Proofs.Arithmetic.Leading
import Parlance.Proofs.Arithmetic.Printable

/-!
# Reading canonical texts

The canonical text of a printable expression leads through nodes that derive the expression again, up
to what canonical texts do not show. Everything but a comma list comes back as a chain, since
operators are written with parentheses around them.
-/

namespace Parlance

theorem Expr.plain_wrap (expr : Expr) (origin : Origin) :
    (expr.wrap origin).plain =
      if expr.isSequence then .wrapper .nowhere expr.plain else expr.plain := by
  cases expr <;> rfl

namespace Arithmetic

variable {inside : Node → Expr → Prop} {node : Node} {nodes others : List Node}
  {expr left right : Expr} {text rest : Text}

/-! ### Rereading -/

/-- The nodes derive the expression again, up to what its canonical text does not show, and as a
chain if it is no comma list. -/
def IsReread (expr : Expr) (nodes : List Node) : Prop :=
  ∃ derived, IsSequence Gives nodes derived ∧
    (expr.isSequence = false → IsChain Gives nodes derived) ∧ derived.plain = expr.named.plain

theorem IsReread.of_chain {derived : Expr} (chain : IsChain Gives nodes derived)
    (same : derived.plain = expr.named.plain) : IsReread expr nodes :=
  ⟨derived, chain.isOperand.isBinary _, fun _ => chain, same⟩

theorem IsReread.chain (reread : IsReread expr nodes) (single : expr.isSequence = false) :
    ∃ derived, IsChain Gives nodes derived ∧ derived.plain = expr.named.plain := by
  obtain ⟨derived, _, chain, same⟩ := reread
  exact ⟨derived, chain single, same⟩

/-- What is derived between brackets. -/
theorem IsReread.gives (reread : IsReread expr node.children) :
    ∃ derived, Gives node derived ∧ derived.plain = expr.named.plain := by
  obtain ⟨derived, sequence, _, same⟩ := reread
  exact ⟨derived, sequence.gives, same⟩

theorem IsReread.ne_nil (reread : IsReread expr nodes) : nodes ≠ [] := by
  obtain ⟨_, sequence, _⟩ := reread
  exact sequence.ne_nil

theorem IsReread.isSequence_derived {derived : Expr} (same : derived.plain = expr.named.plain) :
    derived.isSequence = expr.isSequence := by
  rw [← Expr.isSequence_plain, same, Expr.isSequence_plain, Expr.isSequence_named]

theorem delimited_cons {char : Char} (member : char ∈ delimiters) : Delimited (char :: rest) := by
  rintro _ ⟨⟩
  exact member

theorem isVisible_of_opensValue {char : Char} (opens : Expr.opensValue char = true) :
    isVisible char = true := by
  have plain : char.toNat < 128 := by
    simp only [Expr.opensValue, Bool.or_eq_true, beq_iff_eq] at opens
    rcases opens with ((starts | digit) | rfl) | rfl
    · exact toNat_lt_of_startsName char starts
    · exact toNat_lt_of_continuesName char (continuesName_of_isDigit digit)
    · decide
    · decide
  have every : (onPlain fun char => !Expr.opensValue char || isVisible char) = true := by decide
  simpa [opens] using of_onPlain every plain

theorem isVisible_head (printable : expr.Printable) (rest : Text) :
    ∀ char ∈ (expr.canonical ++ rest).head?, isVisible char = true := by
  obtain ⟨first, others, text, opens⟩ := printable.exists_head
  rw [text]
  rintro _ ⟨⟩
  exact isVisible_of_opensValue opens

/-- A parenthesis around what leads through nodes that give an expression. -/
theorem LeadsTo.parens {holds : List Node → Prop}
    (leads : LeadsTo valueIds text (')' :: rest) operationIds holds)
    (gives : ∀ node : Node, holds node.children →
      ∃ derived, Gives node derived ∧ (derived.wrap .nowhere).plain = expr.named.plain) :
    LeadsTo valueIds (['('] ++ (text ++ [')'])) rest operationIds (IsReread expr) := by
  obtain ⟨_, _, _, _, _, _, idle, _⟩ := candidates_idle
  refine (LeadsTo.group (opensGroup_paren _) (by decide) idle leads).mono ?_
  rintro _ ⟨node, rfl, named, here⟩
  obtain ⟨derived, gives, same⟩ := gives node here
  exact .of_chain (.atom (.paren named gives)) same

/-- Operands with a symbol between them, which has blanks around it. -/
theorem leadsTo_between {holds holdsBehind : List Node → Prop} {former latter symbol : Text}
    (leads : LeadsTo valueIds former (' ' :: (symbol ++ ' ' :: latter) ++ rest) operationIds holds)
    (takes : TakesToken operationIds "operator" symbol (' ' :: latter ++ rest) valueIds)
    (visibleSymbol : ∀ char ∈ (symbol ++ ' ' :: latter ++ rest).head?, isVisible char = true)
    (visible : ∀ char ∈ (latter ++ rest).head?, isVisible char = true)
    (leadsOn : LeadsTo valueIds latter rest operationIds holdsBehind) :
    LeadsTo valueIds (former ++ ' ' :: (symbol ++ ' ' :: latter)) rest operationIds fun nodes =>
      ∃ left node right, nodes = left ++ node :: right ∧ holds left ∧
        (node.name = operatorName ∧ node.content? = some symbol) ∧ holdsBehind right := by
  obtain ⟨_, _, _, idleValue, _, idle, _⟩ := candidates_idle
  have behind := LeadsTo.appendBlank (.token takes) idleValue visible leadsOn
  refine (leads.appendBlank idle visibleSymbol behind).mono ?_
  rintro _ ⟨left, _, rfl, here, _, right, rfl, ⟨node, rfl, named, content⟩, hereBehind⟩
  exact ⟨left, node, right, rfl, here, ⟨named.2, content⟩, hereBehind⟩

/-- In front of a delimiter, the canonical text leads through nodes that derive the expression. A dot
may follow neither the digits of a whole number nor a comma list. -/
def Leads (expr : Expr) : Prop :=
  ∀ rest, Delimited rest →
    ('.' ∈ rest.head? → expr.isWholeNumber = false ∧ expr.isSequence = false) →
    LeadsTo valueIds expr.canonical rest operationIds (IsReread expr)

theorem Leads.before {char : Char} (leads : Leads expr) (member : char ∈ delimiters)
    (noPoint : char ≠ '.') (rest : Text) :
    LeadsTo valueIds expr.canonical (char :: rest) operationIds (IsReread expr) := by
  refine leads _ (delimited_cons member) ?_
  rintro ⟨⟩
  exact absurd rfl noPoint

section

variable {origin : Origin} {object callee key arguments operand condition truthy falsy inner : Expr}

/-- A name leads through an identifier that derives its symbol. -/
theorem leadsTo_name {name : String} (isName : IsName name.toList) (delimited : Delimited rest)
    (shown : expr.named.plain = .symbol .nowhere name) :
    LeadsTo valueIds name.toList rest operationIds (IsReread expr) := by
  refine (LeadsTo.token (takesToken_name isName delimited)).mono ?_
  rintro _ ⟨node, rfl, isToken, content⟩
  have chain : IsChain Gives [node] (.symbol .nowhere (String.ofList (textOf node))) :=
    .atom (.identifier isToken)
  exact .of_chain chain (by simp [textOf, content, Expr.plain, shown])

theorem leads_symbol {name : String} (named : IsName name.toList) : Leads (.symbol origin name) :=
  fun _ delimited _ => leadsTo_name named delimited rfl

theorem leads_string {value : String} : Leads (.literal origin (.string value)) := by
  intro rest _ _
  refine (LeadsTo.token (takesToken_string value.toList rest)).mono ?_
  rintro _ ⟨node, rfl, isToken, content⟩
  have reads : readString? (textOf node) = some value.toList := by
    rw [textOf, content]
    exact readString?_quoted value.toList
  exact .of_chain (.atom (.string isToken reads)) (by simp [Expr.plain, Expr.named])

theorem leads_number {value : Float} (unsigned : Binary.IsUnsigned value) :
    Leads (.literal origin (.number value)) := by
  intro rest delimited apart
  by_cases finite : Binary.isFinite value = true
  · have numeral := Numeral.isNumeral_write finite unsigned
    have point : '.' ∉ (Numeral.write value).toList → '.' ∉ rest.head? := by
      intro noPoint head
      have whole := (apart head).1
      simp [Expr.isWholeNumber, Expr.unwrapped, finite, noPoint] at whole
    refine (LeadsTo.token (takesToken_number numeral delimited point)).mono ?_
    rintro _ ⟨node, rfl, isToken, content⟩
    have reads : readNumber? (textOf node) = some value := by
      rw [textOf, content]
      exact Numeral.readNumber?_write finite unsigned
    exact .of_chain (.atom (.number isToken reads)) (by simp [Expr.plain, Expr.named, finite])
  · -- The text of an infinite number is a name.
    have written := Numeral.write_of_infinite (Bool.eq_false_iff.2 finite) unsigned
    have isName : IsName (Numeral.write value).toList := by
      rw [written]
      exact ⟨'I', "nfinity".toList, rfl, by decide, List.all_eq_true.1 (by decide)⟩
    exact leadsTo_name isName delimited (by simp [Expr.plain, Expr.named, finite])

theorem leads_member {property : String} (leads : Leads object) (single : object.isSequence = false)
    (apart : object.isWholeNumber = false) (named : IsName property.toList) :
    Leads (.member origin object property) := by
  intro rest delimited _
  have dotted := takesToken_dot (property.toList ++ rest)
  have behind := (LeadsTo.token dotted).append (.token (takesToken_property named delimited))
  have former := leads (['.'] ++ property.toList ++ rest) (delimited_cons (by decide)) fun _ =>
    ⟨apart, single⟩
  refine (former.append behind).mono ?_
  rintro _ ⟨former, _, rfl, reread, _, _, rfl, ⟨dot, rfl, isDot, _⟩, node, rfl, isProperty, content⟩
  obtain ⟨derived, chain, same⟩ := reread.chain single
  refine .of_chain (.member chain isDot isProperty) ?_
  simp [textOf, content, Expr.plain, Expr.named, same]

theorem leads_callEmpty (leads : Leads callee) (single : callee.isSequence = false) :
    Leads (.callEmpty origin callee) := by
  intro rest _ _
  obtain ⟨_, _, _, _, idle, _⟩ := candidates_idle
  have behind := LeadsTo.emptyGroup (opensGroup_call ([')'] ++ rest)) idle
  refine ((leads.before (by decide) (by decide) _).append behind).mono ?_
  rintro _ ⟨former, _, rfl, reread, node, rfl, isCall, holdsNothing⟩
  obtain ⟨derived, chain, same⟩ := reread.chain single
  exact .of_chain (.callEmpty chain isCall holdsNothing) (by simp [Expr.plain, Expr.named, same])

theorem leads_call (leads : Leads callee) (single : callee.isSequence = false)
    (leadsInside : Leads arguments) : Leads (.call origin callee arguments) := by
  intro rest _ _
  obtain ⟨_, _, _, _, _, _, idle, _⟩ := candidates_idle
  have behind := LeadsTo.group (opensGroup_call (arguments.canonical ++ [')'] ++ rest)) (by decide)
    idle (leadsInside.before (by decide) (by decide) rest)
  have text : (Expr.call origin callee arguments).canonical =
      callee.canonical ++ (['('] ++ (arguments.canonical ++ [')'])) := by
    simp [Expr.canonical]
  rw [text]
  refine ((leads.before (by decide) (by decide) _).append behind).mono ?_
  rintro _ ⟨former, _, rfl, reread, node, rfl, isCall, rereadInside⟩
  obtain ⟨derived, chain, same⟩ := reread.chain single
  obtain ⟨derivedInside, gives, sameInside⟩ := rereadInside.gives
  refine .of_chain (.call chain isCall rereadInside.ne_nil gives) ?_
  simp [Expr.plain, Expr.named, same, sameInside]

theorem leads_index (leads : Leads object) (single : object.isSequence = false)
    (leadsInside : Leads key) : Leads (.index origin object key) := by
  intro rest _ _
  obtain ⟨_, _, _, _, _, _, _, idle⟩ := candidates_idle
  have behind := LeadsTo.group (opensGroup_index (key.canonical ++ [']'] ++ rest)) (by decide) idle
    (leadsInside.before (by decide) (by decide) rest)
  have text : (Expr.index origin object key).canonical =
      object.canonical ++ (['['] ++ (key.canonical ++ [']'])) := by
    simp [Expr.canonical]
  rw [text]
  refine ((leads.before (by decide) (by decide) _).append behind).mono ?_
  rintro _ ⟨former, _, rfl, reread, node, rfl, isIndex, rereadInside⟩
  obtain ⟨derived, chain, same⟩ := reread.chain single
  obtain ⟨derivedInside, gives, sameInside⟩ := rereadInside.gives
  refine .of_chain (.index chain isIndex gives) ?_
  simp [Expr.plain, Expr.named, same, sameInside]

theorem leads_unary {operator : UnaryOperator} (printable : operand.Printable)
    (leads : Leads operand) (single : operand.isSequence = false) :
    Leads (.unary origin operator operand) := by
  intro rest _ _
  obtain ⟨first, others, starts, opens⟩ := printable.exists_head
  have apart : first ≠ '+' ∧ first ≠ '-' := by
    constructor
    · rintro rfl
      exact absurd opens (by decide)
    · rintro rfl
      exact absurd opens (by decide)
  have signed := takesToken_unary operator apart (others ++ ')' :: rest)
  rw [← List.cons_append, ← starts] at signed
  have inside := (LeadsTo.token signed).append (leads.before (by decide) (by decide) rest)
  refine inside.parens ?_
  rintro node ⟨_, nodes, children, ⟨token, rfl, isPrefix, content⟩, reread⟩
  obtain ⟨derived, chain, same⟩ := reread.chain single
  have writes : textOf token = operator.symbol.toList := by simp [textOf, content]
  have sequence : IsSequence Gives node.children (.unary .nowhere operator derived) := by
    rw [children]
    exact (IsOperand.unary isPrefix writes chain.isOperand).isBinary _
  refine ⟨_, sequence.gives, ?_⟩
  simp [Expr.wrap, Expr.plain, Expr.isSequence, Expr.named, same]

theorem leads_stepAfter {step : Step} (leads : Leads operand) (single : operand.isSequence = false) :
    Leads (.stepAfter origin step operand) := by
  intro rest _ _
  have starts : ∃ sign others, step.symbol.toList = sign :: others ∧ sign ∈ delimiters ∧
      sign ≠ '.' := by
    cases step with
    | increment => exact ⟨'+', ['+'], rfl, by decide, by decide⟩
    | decrement => exact ⟨'-', ['-'], rfl, by decide, by decide⟩
  obtain ⟨sign, others, symbol, delimits, noPoint⟩ := starts
  have former := leads.before delimits noPoint (others ++ ')' :: rest)
  rw [← List.cons_append, ← symbol] at former
  have inside := former.append (.token (takesToken_step step (')' :: rest)))
  have text : (Expr.stepAfter origin step operand).canonical =
      ['('] ++ (operand.canonical ++ step.symbol.toList ++ [')']) := rfl
  rw [text]
  refine inside.parens ?_
  rintro node ⟨nodes, _, children, reread, token, rfl, isStep, content⟩
  obtain ⟨derived, chain, same⟩ := reread.chain single
  have writes : textOf token = step.symbol.toList := by simp [textOf, content]
  have sequence : IsSequence Gives node.children (.stepAfter .nowhere step derived) := by
    rw [children]
    exact (IsOperand.post (.step (.chain chain) isStep writes)).isBinary _
  refine ⟨_, sequence.gives, ?_⟩
  simp [Expr.wrap, Expr.plain, Expr.isSequence, Expr.named, same]

/-- The text of an operator starts with a character that can be seen. -/
theorem isVisible_symbol (operator : BinaryOperator) (rest : Text) :
    ∀ char ∈ (operator.symbol.toList ++ rest).head?, isVisible char = true := by
  have starts : ∃ first others, operator.symbol.toList = first :: others ∧
      isVisible first = true := by
    cases operator <;> exact ⟨_, _, rfl, by decide⟩
  obtain ⟨first, others, symbol, visible⟩ := starts
  rw [symbol]
  rintro _ ⟨⟩
  exact visible

theorem leads_operator {operator : BinaryOperator} (noComma : operator ≠ .comma)
    (leadsLeft : Leads left) (leadsRight : Leads right) (printable : right.Printable)
    (singleLeft : left.isSequence = false) (singleRight : right.isSequence = false) :
    Leads (.binary origin operator left right) := by
  intro rest _ _
  have text : (Expr.binary origin operator left right).canonical = ['('] ++
      (left.canonical ++ ' ' :: (operator.symbol.toList ++ ' ' :: right.canonical) ++ [')']) := by
    cases operator <;> first | exact absurd rfl noComma | simp [Expr.canonical]
  rw [text]
  have inside := leadsTo_between (leadsLeft.before (by decide) (by decide) _)
    (takesToken_operator operator (right.canonical ++ ')' :: rest))
    (by rw [List.append_assoc]; exact isVisible_symbol operator _) (isVisible_head printable _)
    (leadsRight.before (by decide) (by decide) rest)
  refine inside.parens ?_
  rintro node ⟨former, token, latter, children, rereadLeft, writes, rereadRight⟩
  obtain ⟨derivedLeft, chainLeft, sameLeft⟩ := rereadLeft.chain singleLeft
  obtain ⟨derivedRight, chainRight, sameRight⟩ := rereadRight.chain singleRight
  have sequence : IsSequence Gives node.children
      (.binary .nowhere operator derivedLeft derivedRight) := by
    rw [children]
    exact .tighter (chainLeft.isOperand.applied (exists_level noComma) writes chainRight.isOperand)
  refine ⟨_, sequence.gives, ?_⟩
  have single : (Expr.binary .nowhere operator derivedLeft derivedRight).isSequence = false := by
    cases operator <;> first | exact absurd rfl noComma | rfl
  rw [Expr.plain_wrap, single]
  simp [Expr.plain, Expr.named, sameLeft, sameRight]

theorem leads_comma (leadsLeft : Leads left) (leadsRight : Leads right) (printable : right.Printable)
    (singleRight : right.isSequence = false) : Leads (.binary origin .comma left right) := by
  intro rest delimited apart
  obtain ⟨_, _, _, idle, _⟩ := candidates_idle
  have leadsOn := leadsRight rest delimited fun point => nomatch (apart point).2
  have behind := LeadsTo.appendBlank (.token (takesToken_operator .comma (right.canonical ++ rest)))
    idle (isVisible_head printable rest) leadsOn
  refine ((leadsLeft.before (by decide) (by decide) _).append behind).mono ?_
  rintro _ ⟨former, _, rfl, ⟨derivedLeft, sequence, _, sameLeft⟩, _, latter, rfl,
    ⟨token, rfl, named, content⟩, rereadRight⟩
  obtain ⟨derivedRight, chainRight, sameRight⟩ := rereadRight.chain singleRight
  refine ⟨.binary .nowhere .comma derivedLeft derivedRight, ?_, ?_, ?_⟩
  · exact .applied sequence (by decide) ⟨named.2, content⟩ (chainRight.isOperand.isBinary _)
  · rintro ⟨⟩
  · simp [Expr.plain, Expr.named, sameLeft, sameRight]

theorem leads_ternary (leadsCondition : Leads condition) (leadsTruthy : Leads truthy)
    (leadsFalsy : Leads falsy) (printableTruthy : truthy.Printable) (printableFalsy : falsy.Printable)
    (singleCondition : condition.isSequence = false) (singleTruthy : truthy.isSequence = false)
    (singleFalsy : falsy.isSequence = false) :
    Leads (.ternary origin condition truthy falsy) := by
  intro rest _ _
  have text : (Expr.ternary origin condition truthy falsy).canonical = ['('] ++
      (condition.canonical ++ ' ' :: (Mark.question.symbol.toList ++ ' ' ::
        (truthy.canonical ++ ' ' :: (Mark.colon.symbol.toList ++ ' ' :: falsy.canonical))) ++
        [')']) := by
    simp [Expr.canonical, Mark.symbol]
  rw [text]
  have behind := leadsTo_between (leadsTruthy.before (by decide) (by decide) _)
    (takesToken_mark .colon (falsy.canonical ++ ')' :: rest))
    (by rintro _ ⟨⟩; decide) (isVisible_head printableFalsy _)
    (leadsFalsy.before (by decide) (by decide) rest)
  have inside := leadsTo_between (leadsCondition.before (by decide) (by decide) _)
    (takesToken_mark .question _) (by rintro _ ⟨⟩; decide)
    (by rw [List.append_assoc]; exact isVisible_head printableTruthy _) behind
  refine inside.parens ?_
  rintro node ⟨former, question, _, children, rereadCondition, opens, between, colon, latter, rfl,
    rereadTruthy, closes, rereadFalsy⟩
  obtain ⟨derivedCondition, chainCondition, sameCondition⟩ := rereadCondition.chain singleCondition
  obtain ⟨derivedTruthy, chainTruthy, sameTruthy⟩ := rereadTruthy.chain singleTruthy
  obtain ⟨derivedFalsy, chainFalsy, sameFalsy⟩ := rereadFalsy.chain singleFalsy
  have ternary : IsTernary Gives node.children
      (.branch derivedCondition (.operand derivedTruthy) (.operand derivedFalsy)) := by
    rw [children]
    exact .branch (chainCondition.isOperand.isBinary _) opens
      (.operand (chainTruthy.isOperand.isBinary _)) closes
      (.operand (chainFalsy.isOperand.isBinary _))
  obtain ⟨derived, gives, settles⟩ := ternary.gives
  obtain rfl := settles.unique (.step .operand)
  refine ⟨_, gives, ?_⟩
  simp [Expr.wrap, Expr.plain, Expr.isSequence, Expr.named, sameCondition, sameTruthy, sameFalsy]

theorem leads_wrapper (leads : Leads inner) : Leads (.wrapper origin inner) := by
  intro rest delimited apart
  by_cases sequence : inner.isSequence = true
  · have text : (Expr.wrapper origin inner).canonical = ['('] ++ (inner.canonical ++ [')']) := by
      simp [Expr.canonical, sequence]
    rw [text]
    refine (leads.before (by decide) (by decide) rest).parens ?_
    intro node reread
    obtain ⟨derived, gives, same⟩ := reread.gives
    refine ⟨derived, gives, ?_⟩
    simp [Expr.plain_wrap, IsReread.isSequence_derived same, sequence, Expr.plain, Expr.named, same]
  · have single : inner.isSequence = false := Bool.eq_false_iff.2 sequence
    have text : (Expr.wrapper origin inner).canonical = inner.canonical := by
      simp [Expr.canonical, single]
    rw [text]
    refine (leads rest delimited fun point => ⟨(apart point).1, single⟩).mono ?_
    intro nodes reread
    obtain ⟨derived, chain, same⟩ := reread.chain single
    exact .of_chain chain (by simp [Expr.plain, Expr.named, single, same])

end

/-- The canonical text of a printable expression leads through nodes that derive it again, if no
member is one of a whole number. -/
theorem leads_of_printable (printable : expr.Printable) (apart : expr.every Expr.keepsPoint = true) :
    Leads expr := by
  induction expr with
  | symbol origin name => exact leads_symbol printable
  | literal origin value =>
      cases value with
      | number value => exact leads_number printable
      | string text => exact leads_string
  | member origin object property ih =>
      obtain ⟨single, printable, named⟩ := printable
      simp only [Expr.every, Expr.keepsPoint, Bool.and_eq_true, Bool.not_eq_true'] at apart
      exact leads_member (ih printable apart.2) single apart.1 named
  | index origin object key ih ihKey =>
      obtain ⟨single, printable, printableKey⟩ := printable
      simp only [Expr.every, Bool.and_eq_true] at apart
      exact leads_index (ih printable apart.1.2) single (ihKey printableKey apart.2)
  | call origin callee arguments ih ihArguments =>
      obtain ⟨single, printable, printableArguments⟩ := printable
      simp only [Expr.every, Bool.and_eq_true] at apart
      exact leads_call (ih printable apart.1.2) single (ihArguments printableArguments apart.2)
  | callEmpty origin callee ih =>
      simp only [Expr.every, Bool.and_eq_true] at apart
      exact leads_callEmpty (ih printable.2 apart.2) printable.1
  | unary origin operator operand ih =>
      simp only [Expr.every, Bool.and_eq_true] at apart
      exact leads_unary printable.2 (ih printable.2 apart.2) printable.1
  | stepAfter origin step operand ih =>
      simp only [Expr.every, Bool.and_eq_true] at apart
      exact leads_stepAfter (ih printable.2 apart.2) printable.1
  | binary origin operator left right ihLeft ihRight =>
      obtain ⟨singleLeft, singleRight, printableLeft, printableRight⟩ := printable
      simp only [Expr.every, Bool.and_eq_true] at apart
      have leadsLeft := ihLeft printableLeft apart.1.2
      have leadsRight := ihRight printableRight apart.2
      by_cases comma : operator = .comma
      · subst comma
        exact leads_comma leadsLeft leadsRight printableRight singleRight
      · exact leads_operator comma leadsLeft leadsRight printableRight (singleLeft comma) singleRight
  | ternary origin condition truthy falsy ihCondition ihTruthy ihFalsy =>
      obtain ⟨⟨singleCondition, singleTruthy, singleFalsy⟩, printableCondition, printableTruthy,
        printableFalsy⟩ := printable
      simp only [Expr.every, Bool.and_eq_true] at apart
      exact leads_ternary (ihCondition printableCondition apart.1.1.2)
        (ihTruthy printableTruthy apart.1.2) (ihFalsy printableFalsy apart.2) printableTruthy
        printableFalsy singleCondition singleTruthy singleFalsy
  | wrapper origin inner ih =>
      simp only [Expr.every, Bool.and_eq_true] at apart
      exact leads_wrapper (ih printable apart.2)

end Arithmetic

end Parlance
