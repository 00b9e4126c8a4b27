import Parlance.Grammar.Resolution

/-!
# The arithmetic language

Tokens alternate between two lists of candidates. Where a value is due there may be a parenthesis,
an operator in front of a value, a number, a string or a name; behind a value there may be a call,
an index, a dot with a property, a step or an operator between values. This alternation tells the
minus sign in front of a value from the one between two values.
-/

namespace Parlance.Arithmetic

/-- Hexadecimal whole numbers, and decimal numbers with or without fraction and exponent. -/
def numberPattern : Text :=
  "0[xX][0-9a-fA-F]+|(?:\\d+\\.?\\d*|\\.\\d+)(?:[eE][+-]?\\d+)?".toList

/-- Text in double or single quotes, in which a backslash takes the character after it along. -/
def stringPattern : Text :=
  "(?s)\"(?:[^\"\\\\]|\\\\.)*\"|'(?:[^'\\\\]|\\\\.)*'".toList

/-- Plain letters, digits, underscores and dollar signs, not starting with a digit. -/
def identifierPattern : Text :=
  "[A-Za-z_$][A-Za-z0-9_$]*".toList

/-- One or more blanks. -/
def whitespacePattern : Text :=
  "\\s+".toList

/-- A marker of one text. -/
def literal (text : String) : Marker := .literal text.toList

/-- A marker of several texts. -/
def anyOf (texts : List String) : Marker := .anyOf (texts.map String.toList)

/-- The symbols of the operators between values. -/
def operatorSymbols : List String :=
  [">>>", "===", "!==", "<<", ">>", "<=", ">=", "==", "!=", "&&", "||", "*", "/", "%", "+", "-",
    "<", ">", "&", "^", "|", "?", ":", ","]

/-- The description of the arithmetic language. -/
def spec : Spec :=
  Spec.rootedAt "expression"
    |>.phrase "expression" ["value"]
    |>.phrase "value" ["paren", "prefix", "number", "string", "identifier"]
    |>.phrase "operation" ["call", "index", "dot", "postfix", "operator"]
    |>.term "whitespace" (.token (.pattern whitespacePattern))
    |>.term "paren"
      ((TermDefinition.group (literal "(") (literal ")") ["value"]).followedBy ["operation"])
    |>.term "prefix"
      ((TermDefinition.token (anyOf ["++", "--", "!", "~", "+", "-"])).followedBy ["value"])
    |>.term "number" ((TermDefinition.token (.pattern numberPattern)).followedBy ["operation"])
    |>.term "string" ((TermDefinition.token (.pattern stringPattern)).followedBy ["operation"])
    |>.term "identifier"
      ((TermDefinition.token (.pattern identifierPattern)).followedBy ["operation"])
    |>.term "call"
      ((TermDefinition.group (literal "(") (literal ")") ["value"]).followedBy ["operation"])
    |>.term "index"
      ((TermDefinition.group (literal "[") (literal "]") ["value"]).followedBy ["operation"])
    |>.term "dot" ((TermDefinition.token (literal ".")).followedBy ["property"])
    |>.term "property"
      ((TermDefinition.token (.pattern identifierPattern)).followedBy ["operation"])
    |>.term "postfix" ((TermDefinition.token (anyOf ["++", "--"])).followedBy ["operation"])
    |>.term "operator" ((TermDefinition.token (anyOf operatorSymbols)).followedBy ["value"])
    |>.skipping "whitespace"

/-- The grammar of the arithmetic language. Its description resolves, so the other case never
arises. -/
def grammar : Grammar :=
  match spec.resolve with
  | .ok grammar => grammar
  | .error _ => ⟨spec.root, [], .empty, [], none⟩

theorem resolve_spec : spec.resolve = .ok grammar := by
  unfold grammar
  split
  · assumption
  · rename_i fault refused
    have resolves : spec.resolve.isOk = true := by decide +kernel
    rw [refused] at resolves
    cases resolves

end Parlance.Arithmetic
