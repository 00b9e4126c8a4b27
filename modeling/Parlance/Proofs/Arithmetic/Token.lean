import Parlance.Arithmetic.Language
import Parlance.Expr.Canonical
import Parlance.Proofs.Arithmetic.Quoted
import Parlance.Proofs.Arithmetic.Row
import Parlance.Proofs.Number.Written
import Parlance.Proofs.Pattern.Shape
import Parlance.Proofs.Tree.Description

/-!
# Tokens of the arithmetic language

Which candidate starts with a text, and how far it takes it. The terms are outlined in a table, with
the fixed texts that their markers choose between. The four patterns are known by their shapes: names,
numbers, strings and blanks.
-/

namespace Parlance.Arithmetic

open Numeral (IsDigits IsNumeral)

/-! ### The terms -/

/-- A term without its patterns: the fixed texts of its markers and the candidates inside it and
after it. -/
structure Outline where
  name : String
  start : Option (List Text)
  stop : Option (Option (List Text))
  inside : List TermId
  next : Option (List TermId)
  keeps : Bool
  deriving DecidableEq

/-- The outline of a term. -/
def outlineOf (term : Term) : Outline :=
  ⟨term.name, term.start.texts?, term.stop?.map Matcher.texts?, term.subgroups, term.postgroups,
    term.samePostgroups⟩

/-- The candidates where a value is due. -/
def valueIds : List TermId := [0, 7, 8, 9, 10]

/-- The candidates behind a value. -/
def operationIds : List TermId := [1, 2, 3, 5, 6]

/-- The candidates behind a dot. -/
def propertyIds : List TermId := [4]

/-- The outline of a token, with the fixed texts of its marker. -/
def Outline.ofToken (name : String) (texts : Option (List String)) (next : List TermId) : Outline :=
  ⟨name, texts.map (·.map String.toList), none, [], some next, false⟩

/-- The outline of a group around values. -/
def Outline.ofGroup (name opening closing : String) : Outline :=
  ⟨name, some [opening.toList], some (some [closing.toList]), valueIds, some operationIds, false⟩

/-- The outlines of all terms, in their order. -/
def outlines : List Outline :=
  [.ofGroup "paren" "(" ")", .ofGroup "call" "(" ")", .ofGroup "index" "[" "]",
    .ofToken "dot" (some ["."]) propertyIds,
    .ofToken "property" none operationIds,
    .ofToken "postfix" (some ["++", "--"]) operationIds,
    .ofToken "operator" (some operatorSymbols) valueIds,
    .ofToken "prefix" (some ["++", "--", "!", "~", "+", "-"]) valueIds,
    .ofToken "number" none operationIds, .ofToken "string" none operationIds,
    .ofToken "identifier" none operationIds, ⟨"whitespace", none, none, [], none, false⟩]

theorem grammar_outlined :
    grammar.terms.map outlineOf = outlines ∧ grammar.root = valueIds ∧ grammar.aether = some 11 := by
  decide +kernel

/-- The markers of the language find only what stands at the cursor. -/
theorem grammar_findsPrefixes : grammar.FindsPrefixes :=
  Grammar.findsPrefixes_of_isAnchored (by decide +kernel)

variable {id : TermId} {ids earlier later : List TermId} {term : Term} {outline : Outline}
  {text rest ahead : Text} {char : Char}

theorem exists_term (listed : outlines[id]? = some outline) :
    ∃ term, grammar.term? id = some term ∧ outlineOf term = outline := by
  rw [← grammar_outlined.1, List.getElem?_map] at listed
  exact Option.map_eq_some_iff.1 listed

theorem outlineOf_eq (named : grammar.term? id = some term) (listed : outlines[id]? = some outline) :
    outlineOf term = outline := by
  obtain ⟨other, namedOther, rfl⟩ := exists_term listed
  rw [named] at namedOther
  cases namedOther
  rfl

theorem body_of_stop? (noStop : term.stop? = none) : term.body = .token := by
  cases shape : term.body with
  | token => rfl
  | group stop inside => simp [Term.stop?, shape] at noStop

/-! ### Fixed texts -/

/-- The first candidate that has one of its fixed texts ahead, with that text. Candidates behind one
that is a pattern are not looked at. -/
def firstText? : List TermId → Text → Option (Outline × Text)
  | [], _ => none
  | id :: ids, ahead => do
      let outline ← outlines[id]?
      let texts ← outline.start
      match texts.find? (·.isPrefixOf ahead) with
      | some text => some (outline, text)
      | none => firstText? ids ahead

/-- A term's fixed texts tell what its marker finds. -/
theorem match?_of_outline {texts : List Text} (named : grammar.term? id = some term)
    (listed : outlines[id]? = some outline) (fixed : outline.start = some texts) (ahead : Text) :
    term.start.match? ahead = texts.find? (·.isPrefixOf ahead) := by
  have nonempty : (outlines.all fun outline => outline.start.all fun texts => [] ∉ texts) = true := by
    decide
  have here := List.all_eq_true.1 nonempty outline (List.mem_of_getElem? listed)
  rw [fixed, Option.all_some, decide_eq_true_eq] at here
  refine Matcher.match?_of_texts? ?_ here
  rw [← fixed, ← outlineOf_eq named listed]
  rfl

theorem firstToStart_of_firstText? (first : firstText? ids ahead = some (outline, text)) :
    ∃ term, grammar.FirstToStart ids ahead term ∧ outlineOf term = outline ∧
      term.start.match? ahead = some text := by
  induction ids with
  | nil => cases first
  | cons id ids ih =>
      obtain ⟨head, listed, remaining⟩ := Option.bind_eq_some_iff.1 first
      obtain ⟨texts, fixed, remaining⟩ := Option.bind_eq_some_iff.1 remaining
      obtain ⟨term, named, outlined⟩ := exists_term listed
      have finds := match?_of_outline named listed fixed ahead
      split at remaining
      · rename_i found
        cases remaining
        rw [found] at finds
        exact ⟨term, (Grammar.firstToStart_cons_of_starts named (by simp [finds])).2 rfl, outlined,
          finds⟩
      · rename_i absent
        obtain ⟨other, firstOther, found⟩ := ih remaining
        refine ⟨other, (Grammar.firstToStart_cons_of_not_starts ?_).2 firstOther, found⟩
        intro head namedHead
        cases named.symm.trans namedHead
        rw [finds, absent]

/-! ### Patterns -/

/-- The characters that names start with. -/
def startsName (char : Char) : Bool := char.isAlpha || char == '_' || char == '$'

/-- The characters that names go on with. -/
def continuesName (char : Char) : Bool := char.isAlphanum || char == '_' || char == '$'

/-- The characters that may stand behind a token of a canonical text. -/
def delimiters : List Char := [')', ']', ',', ' ', '.', '[', '(', '+', '-']

/-- The text is empty or starts with a delimiter. -/
def Delimited (rest : Text) : Prop := ∀ char ∈ rest.head?, char ∈ delimiters

/-- A letter, an underscore or a dollar sign, with more of these or digits behind it. -/
def IsName (text : Text) : Prop :=
  ∃ first others, text = first :: others ∧ startsName first = true ∧
    ∀ char ∈ others, continuesName char = true

/-- Whether the pattern is one for names. -/
def isNamePattern : Pattern → Bool
  | .seq (.chars first) (.rounds (.chars other) 0 none true) =>
      first.isTest startsName && other.isTest continuesName
  | _ => false

/-- Whether the pattern takes digits with a point between them, and neither an exponent nor a
hexadecimal numeral in front of a delimiter. -/
def isNumberPattern : Pattern → Bool
  | .alt (.seq (.chars _) (.seq (.chars mark) _))
      (.seq
        (.alt (.seq (.rounds (.chars whole) 1 none true)
          (.seq (.rounds (.chars point) 0 (some 1) true)
            (.rounds (.chars fraction) 0 none true))) _)
        (.rounds (.seq (.chars exponent) _) 0 (some 1) true)) =>
      (onPlain fun char => !char.isDigit ||
        !mark.contains char && whole.contains char && fraction.contains char) &&
      point.contains '.' &&
      delimiters.all fun char => !mark.contains char && !whole.contains char &&
        !fraction.contains char && !exponent.contains char && (char == '.' || !point.contains char)
  | _ => false

/-- Whether the pattern takes double quotes around anything in which backslashes stand before double
quotes and backslashes. -/
def isStringPattern : Pattern → Bool
  | .alt (.seq (.chars opening)
      (.seq (.rounds (.alt (.chars (.compl special)) (.seq (.chars slash) (.chars any))) 0 none true)
        (.chars closing))) _ =>
      opening.contains '"' && closing.contains '"' && special.singles? == some ['"', '\\'] &&
        special.contains '"' && special.contains '\\' && slash.contains '\\' &&
        !slash.contains '"' && any.contains '"' && any.contains '\\'
  | _ => false

/-- Whether the pattern takes one blank and stops at characters that pass the test. -/
def isBlankPattern (visible : Char → Bool) : Pattern → Bool
  | .rounds (.chars blank) 1 none true =>
      blank.contains ' ' && onPlain fun char => !visible char || !blank.contains char
  | _ => false

section

variable {pattern : Pattern}

theorem toNat_lt_of_continuesName (char : Char) (goesOn : continuesName char = true) :
    char.toNat < 128 := by
  simp only [continuesName, Char.isAlphanum, Char.isAlpha, Char.isUpper, Char.isLower,
    Char.isDigit, Bool.or_eq_true, Bool.and_eq_true, decide_eq_true_eq, beq_iff_eq,
    UInt32.le_iff_toNat_le, ge_iff_le] at goesOn
  have code : char.toNat = char.val.toNat := rfl
  have codes : 'Z'.val.toNat = 90 ∧ 'z'.val.toNat = 122 ∧ '9'.val.toNat = 57 := by decide
  rcases goesOn with (inRange | rfl) | rfl
  · omega
  · decide
  · decide

theorem continuesName_of_startsName {char : Char} (starts : startsName char = true) :
    continuesName char = true := by
  simp only [startsName, continuesName, Char.isAlphanum, Bool.or_eq_true] at *
  rcases starts with (letter | underscore) | dollar
  · exact .inl (.inl (.inl letter))
  · exact .inl (.inr underscore)
  · exact .inr dollar

theorem continuesName_of_isDigit {char : Char} (digit : char.isDigit = true) :
    continuesName char = true := by
  simp [continuesName, Char.isAlphanum, digit]

theorem toNat_lt_of_startsName (char : Char) (starts : startsName char = true) :
    char.toNat < 128 :=
  toNat_lt_of_continuesName char (continuesName_of_startsName starts)

theorem not_continuesName_of_delimited (delimited : Delimited rest) :
    ∀ char ∈ rest.head?, continuesName char = false := by
  intro char head
  have every : (delimiters.all (!continuesName ·)) = true := by decide
  simpa using List.all_eq_true.1 every char (delimited char head)

theorem takes_name (shape : isNamePattern pattern = true) (named : IsName text)
    (delimited : Delimited rest) : pattern.Takes text rest := by
  unfold isNamePattern at shape
  split at shape
  · rename_i first other
    rw [Bool.and_eq_true] at shape
    have starts := CharSet.contains_eq_of_isTest shape.1 toNat_lt_of_startsName
    have goesOn := CharSet.contains_eq_of_isTest shape.2 toNat_lt_of_continuesName
    obtain ⟨char, others, rfl, startsHere, goesOnHere⟩ := named
    have behind : (Pattern.rounds (.chars other) 0 none true).Takes others rest :=
      Pattern.takes_chars_star (fun char member => (goesOn char).trans (goesOnHere char member))
        fun char head => (goesOn char).trans (not_continuesName_of_delimited delimited char head)
    exact Pattern.takes_seq (Pattern.takes_chars ((starts char).trans startsHere) _) behind
  · cases shape

theorem isName_of_spells (shape : isNamePattern pattern = true) (spells : pattern.Spells text) :
    IsName text := by
  unfold isNamePattern at shape
  split at shape
  · rename_i first other
    rw [Bool.and_eq_true] at shape
    have starts := CharSet.contains_eq_of_isTest shape.1 toNat_lt_of_startsName
    have goesOn := CharSet.contains_eq_of_isTest shape.2 toNat_lt_of_continuesName
    obtain ⟨_, _, rfl, ⟨char, member, rfl⟩, parts, rfl, each, _⟩ := spells
    refine ⟨char, parts.flatten, rfl, (starts char).symm.trans member, ?_⟩
    intro char member
    obtain ⟨part, among, inside⟩ := List.mem_flatten.1 member
    obtain ⟨only, within, rfl⟩ := each part among
    rw [List.mem_singleton.1 inside]
    exact (goesOn only).symm.trans within
  · cases shape

/-- Digits, an optional point and more digits take a numeral. -/
theorem takes_decimal {whole point fraction : CharSet} (numeral : IsNumeral text)
    (isPoint : point.contains '.' = true) (notWhole : whole.contains '.' = false)
    (ofDigit : ∀ char : Char, char.isDigit = true →
      whole.contains char = true ∧ fraction.contains char = true)
    (ofHead : ∀ char ∈ rest.head?, whole.contains char = false ∧ fraction.contains char = false)
    (apart : '.' ∉ text → ∀ char ∈ rest.head?, point.contains char = false) :
    (Pattern.seq (.rounds (.chars whole) 1 none true)
      (.seq (.rounds (.chars point) 0 (some 1) true)
        (.rounds (.chars fraction) 0 none true))).Takes text rest := by
  have wholeTakes : ∀ {digits behind : Text}, IsDigits digits →
      (∀ char ∈ behind.head?, whole.contains char = false) →
      (Pattern.rounds (.chars whole) 1 none true).Takes digits behind :=
    fun isDigits stops => Pattern.takes_chars_plus
      (fun char member => (ofDigit char (isDigits.2 char member)).1) isDigits.1 stops
  have fractionTakes : ∀ {digits : Text}, (∀ char ∈ digits, char.isDigit = true) →
      (Pattern.rounds (.chars fraction) 0 none true).Takes digits rest :=
    fun isDigits => Pattern.takes_chars_star
      (fun char member => (ofDigit char (isDigits char member)).2) fun char head => (ofHead char head).2
  cases numeral with
  | whole isDigits =>
      have noFraction : (Pattern.rounds (.chars fraction) 0 none true).Takes [] rest :=
        fractionTakes (by simp)
      have noPoint : (Pattern.rounds (.chars point) 0 (some 1) true).Takes [] rest :=
        Pattern.takes_optional_nil (Pattern.stops_chars (apart isDigits.not_mem_point))
      have behind := Pattern.takes_seq noPoint noFraction
      have isWhole := wholeTakes isDigits fun char head => (ofHead char head).1
      have takes := Pattern.takes_seq isWhole behind
      simpa using takes
  | fraction isWhole isFraction =>
      have behind := Pattern.takes_seq (Pattern.takes_optional (Pattern.takes_chars isPoint _))
        (fractionTakes isFraction.2)
      refine Pattern.takes_seq (wholeTakes isWhole ?_) behind
      rintro _ ⟨⟩
      exact notWhole

theorem takes_numeral (shape : isNumberPattern pattern = true) (numeral : IsNumeral text)
    (delimited : Delimited rest) (apart : '.' ∉ text → '.' ∉ rest.head?) :
    pattern.Takes text rest := by
  unfold isNumberPattern at shape
  split at shape
  · rename_i zero mark hexadecimal whole point fraction pointFirst exponent power
    simp only [Bool.and_eq_true, List.all_eq_true, Bool.not_eq_true', Bool.or_eq_true, beq_iff_eq]
      at shape
    obtain ⟨⟨atDigits, isPoint⟩, atDelimiters⟩ := shape
    have ofDigit : ∀ char : Char, char.isDigit = true → mark.contains char = false ∧
        whole.contains char = true ∧ fraction.contains char = true := by
      intro char digit
      have here := of_onPlain atDigits
        (toNat_lt_of_continuesName char (continuesName_of_isDigit digit))
      simpa [digit, and_assoc] using here
    have ofDelimiter : ∀ char ∈ delimiters, mark.contains char = false ∧
        (whole.contains char = false ∧ fraction.contains char = false) ∧
        exponent.contains char = false ∧ (char = '.' ∨ point.contains char = false) := by
      intro char member
      simpa [and_assoc] using atDelimiters char member
    have ofHead := fun char head => ofDelimiter char (delimited char head)
    have ofPoint := ofDelimiter '.' (by decide)
    have decimal := takes_decimal numeral isPoint ofPoint.2.1.1
      (fun char digit => (ofDigit char digit).2) (fun char head => (ofHead char head).2.1)
      fun noPoint char head => (ofHead char head).2.2.2.resolve_left fun isPoint =>
        apart noPoint (isPoint ▸ head)
    have noExponent : (Pattern.rounds (.seq (.chars exponent) power) 0 (some 1) true).Takes [] rest :=
      Pattern.takes_optional_nil
        (Pattern.stops_seq (Pattern.stops_chars fun char head => (ofHead char head).2.2.1))
    rw [← List.append_nil text]
    refine Pattern.takes_alt_right ?_ (Pattern.takes_seq (Pattern.takes_alt_left decimal) noExponent)
    rw [List.append_nil]
    -- Behind the first character stands neither mark of a hexadecimal numeral.
    obtain ⟨first, others, rfl, _⟩ := numeral.exists_digit
    refine Pattern.stops_seq_chars (Pattern.stops_seq (Pattern.stops_chars ?_))
    intro char head
    cases others with
    | nil => exact (ofHead char head).1
    | cons second others =>
        cases head
        have inside : char ∈ first :: char :: others := by simp
        rcases numeral.isDigit_or_point inside with digit | rfl
        · exact (ofDigit char digit).1
        · exact ofPoint.1
  · cases shape

/-- Canonical string literals show a character as one part. -/
theorem isQuotedPart_escapedChar {special slash any : CharSet} {chars : List Char}
    (singles : special.singles? = some chars) (listed : ∀ char ∈ chars, char = '\\' ∨ char = '"')
    (specialSlash : special.contains '\\' = true) (isSlash : slash.contains '\\' = true)
    (anyQuote : any.contains '"' = true) (anySlash : any.contains '\\' = true) (char : Char) :
    Pattern.IsQuotedPart special slash any (escapedChar char) := by
  by_cases escaped : char = '\\' ∨ char = '"'
  · rw [escapedChar, if_pos escaped]
    have anyHere : any.contains char = true := by
      rcases escaped with rfl | rfl
      · exact anySlash
      · exact anyQuote
    exact .inr ⟨'\\', char, specialSlash, isSlash, anyHere, rfl⟩
  · rw [escapedChar, if_neg escaped]
    refine .inl ⟨char, ?_, rfl⟩
    rw [Bool.eq_false_iff]
    exact fun member => escaped (listed char (CharSet.mem_of_singles? singles member))

/-- The characters of a text as a canonical string literal shows them stand between double quotes. -/
theorem takes_quoted (shape : isStringPattern pattern = true) (text rest : Text) :
    pattern.Takes ('"' :: text.flatMap escapedChar ++ ['"']) rest := by
  unfold isStringPattern at shape
  split at shape
  · rename_i opening special slash any closing other
    simp only [Bool.and_eq_true, Bool.not_eq_true', beq_iff_eq] at shape
    obtain ⟨⟨⟨⟨⟨⟨⟨⟨opens, closes⟩, singles⟩, specialQuote⟩, specialSlash⟩, isSlash⟩, notSlash⟩,
      anyQuote⟩, anySlash⟩ := shape
    have each : ∀ part ∈ text.map escapedChar, Pattern.IsQuotedPart special slash any part := by
      intro part member
      obtain ⟨char, _, rfl⟩ := List.mem_map.1 member
      exact isQuotedPart_escapedChar singles (by simp) specialSlash isSlash anyQuote anySlash char
    have inner := Pattern.takes_seq (Pattern.takes_quotedParts each specialQuote notSlash rest)
      (Pattern.takes_chars closes rest)
    rw [List.flatMap_def, List.cons_append]
    exact Pattern.takes_alt_left (Pattern.takes_seq (Pattern.takes_chars opens _) inner)
  · cases shape

theorem takes_blank {visible : Char → Bool} (shape : isBlankPattern visible pattern = true)
    (plain : ∀ char, visible char = true → char.toNat < 128)
    (seen : ∀ char ∈ rest.head?, visible char = true) : pattern.Takes [' '] rest := by
  unfold isBlankPattern at shape
  split at shape
  · rename_i blank
    obtain ⟨isBlank, apart⟩ := Bool.and_eq_true_iff.1 shape
    refine Pattern.takes_chars_plus (by simpa using isBlank) (by simp) ?_
    intro char head
    have here := of_onPlain apart (plain char (seen char head))
    simpa [seen char head] using here
  · cases shape

end

/-- Whether no candidate can start with the character. -/
def idleAt (ids : List TermId) (char : Char) : Bool :=
  ids.all fun id => (grammar.term? id).all (·.start.isIdleAt char)

theorem noneStarts_of_idleAt (idle : idleAt ids char = true) (rest : Text) :
    grammar.NoneStarts ids (char :: rest) := by
  intro id member term named
  have here := List.all_eq_true.1 idle id member
  rw [named, Option.all_some] at here
  exact Matcher.match?_of_isIdleAt here rest

theorem firstToStart_of_noneStarts (none : grammar.NoneStarts earlier ahead)
    (named : grammar.term? id = some term) (found : term.start.match? ahead = some text)
    (later : List TermId) : grammar.FirstToStart (earlier ++ id :: later) ahead term :=
  ⟨earlier, id, later, rfl, none, named, by simp [found]⟩

/-- Whether the pattern of the term passes the test. -/
def shapeAt (id : TermId) (test : Pattern → Bool) : Bool :=
  (grammar.term? id).any fun term => term.start.searcher.body?.any test

theorem exists_shape {test : Pattern → Bool} (shaped : shapeAt id test = true) :
    ∃ term pattern, grammar.term? id = some term ∧ term.start.searcher.body? = some pattern ∧
      test pattern = true := by
  unfold shapeAt at shaped
  cases named : grammar.term? id with
  | none =>
      rw [named] at shaped
      cases shaped
  | some term =>
      rw [named, Option.any_some] at shaped
      cases shape : term.start.searcher.body? with
      | none =>
          rw [shape] at shaped
          cases shaped
      | some pattern =>
          rw [shape, Option.any_some] at shaped
          exact ⟨term, pattern, rfl, shape, shaped⟩

/-- Whether a character is a plain one that can be seen. -/
def isVisible (char : Char) : Bool := decide (32 < char.toNat ∧ char.toNat < 127)

theorem toNat_lt_of_isVisible (char : Char) (visible : isVisible char = true) :
    char.toNat < 128 := by
  have bounds := of_decide_eq_true visible
  omega

/-- Whether no match of the pattern starts like a sign or like the name of the undefined number. -/
def startsUnsigned (pattern : Pattern) : Bool :=
  ['+', '-', 'n', 'N'].all (!pattern.canStart ·)

/-- The patterns have the shapes by which they are known. -/
theorem patterns_shaped :
    shapeAt 4 isNamePattern = true ∧ shapeAt 8 isNumberPattern = true ∧
      shapeAt 9 isStringPattern = true ∧ shapeAt 10 isNamePattern = true ∧
      shapeAt 11 (isBlankPattern isVisible) = true ∧ shapeAt 8 startsUnsigned = true := by
  decide +kernel

/-- Which candidates cannot start with which characters. -/
theorem candidates_idle :
    (onPlain fun char => !startsName char || idleAt [0, 7, 8, 9] char) = true ∧
      (onPlain fun char => !char.isDigit || idleAt [0, 7] char) = true ∧
      idleAt [0, 7, 8] '"' = true ∧ idleAt valueIds ' ' = true ∧ idleAt valueIds ')' = true ∧
      idleAt operationIds ' ' = true ∧ idleAt operationIds ')' = true ∧
      idleAt operationIds ']' = true := by
  decide +kernel

/-! ### Tokens and brackets -/

/-- The first candidate to start with the text and the rest behind it is a token of this name, which
takes the text and leads to the next candidates. -/
def TakesToken (candidates : List TermId) (name : String) (text rest : Text) (next : List TermId) :
    Prop :=
  ∃ term, grammar.FirstToStart candidates (text ++ rest) term ∧ term.name = name ∧
    term.body = .token ∧ term.candidatesAfter candidates = next ∧
    term.start.match? (text ++ rest) = some text

/-- The first candidate to start is a group of this name around values, which takes the opening
bracket and ends with the closing one. -/
def OpensGroup (candidates : List TermId) (name : String) (opening closing rest : Text) : Prop :=
  ∃ term stop, grammar.FirstToStart candidates (opening ++ rest) term ∧ term.name = name ∧
    term.body = .group stop valueIds ∧ stop.texts? = some [closing] ∧
    term.candidatesAfter candidates = operationIds ∧
    term.start.match? (opening ++ rest) = some opening

variable {candidates next : List TermId} {name : String} {texts : Option (List String)}

theorem takesToken_of_outline (first : grammar.FirstToStart candidates (text ++ rest) term)
    (outlined : outlineOf term = .ofToken name texts next)
    (found : term.start.match? (text ++ rest) = some text) :
    TakesToken candidates name text rest next := by
  simp only [outlineOf, Outline.ofToken, Outline.mk.injEq, Option.map_eq_none_iff] at outlined
  obtain ⟨named, _, noStop, _, after, changes⟩ := outlined
  exact ⟨term, first, named, body_of_stop? noStop, by simp [Term.candidatesAfter, after, changes],
    found⟩

theorem opensGroup_of_outline {opening closing : String}
    (first : grammar.FirstToStart candidates (opening.toList ++ rest) term)
    (outlined : outlineOf term = .ofGroup name opening closing)
    (found : term.start.match? (opening.toList ++ rest) = some opening.toList) :
    OpensGroup candidates name opening.toList closing.toList rest := by
  simp only [outlineOf, Outline.ofGroup, Outline.mk.injEq, Option.map_eq_some_iff] at outlined
  obtain ⟨named, _, ⟨stop, isStop, closes⟩, inside, after, changes⟩ := outlined
  refine ⟨term, stop, first, named, ?_, closes, ?_, found⟩
  · cases shape : term.body with
    | token => simp [Term.stop?, shape] at isStop
    | group other subgroups =>
        simp only [Term.stop?, Term.subgroups, shape, Option.some.injEq] at isStop inside
        rw [isStop, inside]
  · simp [Term.candidatesAfter, after, changes]

/-- The token that the first fixed text ahead belongs to. -/
theorem takesToken_of_firstText? (texts : Option (List String))
    (first : firstText? candidates (text ++ rest) = some (.ofToken name texts next, text)) :
    TakesToken candidates name text rest next := by
  obtain ⟨term, starts, outlined, found⟩ := firstToStart_of_firstText? first
  exact takesToken_of_outline starts outlined found

theorem opensGroup_of_firstText? (opening closing : String)
    (first : firstText? candidates (opening.toList ++ rest) =
      some (.ofGroup name opening closing, opening.toList)) :
    OpensGroup candidates name opening.toList closing.toList rest := by
  obtain ⟨term, starts, outlined, found⟩ := firstToStart_of_firstText? first
  exact opensGroup_of_outline starts outlined found

/-- The token of a pattern, where none of the candidates before it starts. -/
theorem takesToken_of_pattern {test : Pattern → Bool} (shaped : shapeAt id test = true)
    (listed : outlines[id]? = some (.ofToken name texts next))
    (none : grammar.NoneStarts earlier (text ++ rest)) (some : text ≠ [])
    (takes : ∀ pattern, test pattern = true → pattern.Takes text rest) (later : List TermId) :
    TakesToken (earlier ++ id :: later) name text rest next := by
  obtain ⟨term, pattern, named, shape, passes⟩ := exists_shape shaped
  have found := Matcher.match?_of_takes shape (takes pattern passes) some
  exact takesToken_of_outline (firstToStart_of_noneStarts none named found later)
    (outlineOf_eq named listed) found

theorem takesToken_name (named : IsName text) (delimited : Delimited rest) :
    TakesToken valueIds "identifier" text rest operationIds := by
  obtain ⟨_, _, _, shaped, _⟩ := patterns_shaped
  obtain ⟨first, others, rfl, starts, _⟩ := id named
  have idle : idleAt [0, 7, 8, 9] first = true := by
    simpa [starts] using of_onPlain candidates_idle.1 (toNat_lt_of_startsName first starts)
  have noneStarts := noneStarts_of_idleAt idle (others ++ rest)
  exact takesToken_of_pattern shaped rfl noneStarts (by simp)
    (fun pattern shape => takes_name shape named delimited) []

theorem takesToken_property (named : IsName text) (delimited : Delimited rest) :
    TakesToken propertyIds "property" text rest operationIds := by
  obtain ⟨shaped, _⟩ := patterns_shaped
  have some : text ≠ [] := by
    obtain ⟨_, _, rfl, _⟩ := named
    simp
  have noneStarts : grammar.NoneStarts [] (text ++ rest) := by simp [Grammar.NoneStarts]
  exact takesToken_of_pattern shaped rfl noneStarts some
    (fun pattern shape => takes_name shape named delimited) []

theorem takesToken_number (numeral : IsNumeral text) (delimited : Delimited rest)
    (apart : '.' ∉ text → '.' ∉ rest.head?) :
    TakesToken valueIds "number" text rest operationIds := by
  obtain ⟨_, shaped, _⟩ := patterns_shaped
  obtain ⟨first, others, rfl, digit⟩ := numeral.exists_digit
  have idle : idleAt [0, 7] first = true := by
    simpa [digit] using of_onPlain candidates_idle.2.1
      (toNat_lt_of_continuesName first (continuesName_of_isDigit digit))
  have noneStarts := noneStarts_of_idleAt idle (others ++ rest)
  exact takesToken_of_pattern shaped rfl noneStarts (by simp)
    (fun pattern shape => takes_numeral shape numeral delimited apart) [9, 10]

theorem takesToken_string (text rest : Text) :
    TakesToken valueIds "string" ('"' :: text.flatMap escapedChar ++ ['"']) rest operationIds := by
  obtain ⟨_, _, shaped, _⟩ := patterns_shaped
  obtain ⟨_, _, idle, _⟩ := candidates_idle
  have noneStarts := noneStarts_of_idleAt idle (text.flatMap escapedChar ++ ['"'] ++ rest)
  exact takesToken_of_pattern shaped rfl noneStarts (by simp)
    (fun pattern shape => takes_quoted shape text rest) [10]

theorem opensGroup_paren (rest : Text) : OpensGroup valueIds "paren" ['('] [')'] rest :=
  opensGroup_of_firstText? "(" ")" rfl

theorem opensGroup_call (rest : Text) : OpensGroup operationIds "call" ['('] [')'] rest :=
  opensGroup_of_firstText? "(" ")" rfl

theorem opensGroup_index (rest : Text) : OpensGroup operationIds "index" ['['] [']'] rest :=
  opensGroup_of_firstText? "[" "]" rfl

theorem takesToken_dot (rest : Text) : TakesToken operationIds "dot" ['.'] rest propertyIds :=
  takesToken_of_firstText? (some ["."]) rfl

theorem takesToken_step (step : Step) (rest : Text) :
    TakesToken operationIds "postfix" step.symbol.toList rest operationIds := by
  refine takesToken_of_firstText? (some ["++", "--"]) ?_
  cases step <;> rfl

/-- A symbol in front of an operand is not taken for a longer one if no sign follows. -/
theorem takesToken_unary (operator : UnaryOperator) (apart : char ≠ '+' ∧ char ≠ '-') (rest : Text) :
    TakesToken valueIds "prefix" operator.symbol.toList (char :: rest) valueIds := by
  refine takesToken_of_firstText? (some ["++", "--", "!", "~", "+", "-"]) ?_
  have notTwice : ∀ sign : Char, char ≠ sign →
      List.isPrefixOf [sign, sign] (sign :: char :: rest) = false := by
    intro sign other
    simp [List.isPrefixOf, other.symm]
  cases operator with
  | stepBy step => cases step <;> rfl
  | not => rfl
  | complement => rfl
  | plus =>
      simp [firstText?, outlines, valueIds, Outline.ofGroup, Outline.ofToken,
        UnaryOperator.symbol, notTwice '+' apart.1]
  | minus =>
      simp [firstText?, outlines, valueIds, Outline.ofGroup, Outline.ofToken,
        UnaryOperator.symbol, notTwice '-' apart.2]

theorem takesToken_operator (operator : BinaryOperator) (rest : Text) :
    TakesToken operationIds "operator" operator.symbol.toList (' ' :: rest) valueIds := by
  refine takesToken_of_firstText? (some operatorSymbols) ?_
  cases operator <;> rfl

theorem takesToken_mark (mark : Mark) (rest : Text) :
    TakesToken operationIds "operator" mark.symbol.toList (' ' :: rest) valueIds := by
  refine takesToken_of_firstText? (some operatorSymbols) ?_
  cases mark <;> rfl

end Parlance.Arithmetic
