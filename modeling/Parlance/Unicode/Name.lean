import Parlance.Unicode.Extension
import Parlance.Unicode.Segment
import Parlance.Unicode.Version

/-!
# Names of character classes

General categories, scripts and properties are found by name. Names are matched loosely: case,
spaces, underscores, hyphens and a leading `is` do not matter. Where one name means two things, a
property comes before a category and a category before a script, except that `cf`, `sc` and `lc`
always name categories.
-/

namespace Parlance.Unicode

/-- A character without its case, as far as plain letters go. -/
def plainLower (char : Char) : Char :=
  if 'A' ≤ char ∧ char ≤ 'Z' then Char.ofNat (char.toNat + 32) else char

/-- The form in which names are compared. -/
def looseName (name : List Char) : String :=
  let tidy (chars : List Char) : List Char :=
    (chars.filter fun char => decide (char.toNat < 0x80) && char != ' ' && char != '_' &&
      char != '-').map plainLower
  match name with
  | first :: second :: rest =>
      if plainLower first = 'i' ∧ plainLower second = 's' then
        let bare := tidy rest
        if bare = ['c'] then "isc" else String.ofList bare
      else String.ofList (tidy name)
  | _ => String.ofList (tidy name)

/-- The general categories and their groups, each by its names, with the number of its runs. -/
def categoryNames : List (List String × List Category × Nat) :=
  [(["l", "letter"], Category.letters, 677),
   (["lc", "casedletter"], [.uppercaseLetter, .lowercaseLetter, .titlecaseLetter], 145),
   (["lu", "uppercaseletter"], [.uppercaseLetter], 651),
   (["ll", "lowercaseletter"], [.lowercaseLetter], 662),
   (["lt", "titlecaseletter"], [.titlecaseLetter], 10),
   (["lm", "modifierletter"], [.modifierLetter], 75),
   (["lo", "otherletter"], [.otherLetter], 528),
   (["m", "mark", "combiningmark"], Category.marks, 321),
   (["mn", "nonspacingmark"], [.nonspacingMark], 357),
   (["mc", "spacingmark"], [.spacingMark], 190),
   (["me", "enclosingmark"], [.enclosingMark], 5),
   (["n", "number"], Category.numbers, 144),
   (["nd", "decimalnumber", "digit"], [.decimalNumber], 71),
   (["nl", "letternumber"], [.letterNumber], 12),
   (["no", "othernumber"], [.otherNumber], 72),
   (["p", "punctuation", "punct"], Category.punctuation, 198),
   (["pc", "connectorpunctuation"], [.connectorPunctuation], 6),
   (["pd", "dashpunctuation"], [.dashPunctuation], 20),
   (["ps", "openpunctuation"], [.openPunctuation], 79),
   (["pe", "closepunctuation"], [.closePunctuation], 76),
   (["pi", "initialpunctuation"], [.initialPunctuation], 11),
   (["pf", "finalpunctuation"], [.finalPunctuation], 10),
   (["po", "otherpunctuation"], [.otherPunctuation], 193),
   (["s", "symbol"], Category.symbols, 236),
   (["sm", "mathsymbol"], [.mathSymbol], 65),
   (["sc", "currencysymbol"], [.currencySymbol], 21),
   (["sk", "modifiersymbol"], [.modifierSymbol], 31),
   (["so", "othersymbol"], [.otherSymbol], 187),
   (["z", "separator"], Category.separators, 8),
   (["zs", "spaceseparator"], [.spaceSeparator], 7),
   (["zl", "lineseparator"], [.lineSeparator], 1),
   (["zp", "paragraphseparator"], [.paragraphSeparator], 1),
   (["cc", "control", "cntrl"], [.control], 2),
   (["cf", "format"], [.format], 21),
   (["co", "privateuse"], [.privateUse], 3)]

/-- The characters of the general category with this loose name. -/
def categoryNamed? (name : String) : Option Class :=
  if name = "any" then some ⟨fun _ => true, 1⟩
  else if name = "assigned" then some ⟨fun char => !isUnassigned char, 731⟩
  else if name = "ascii" then some ⟨fun char => decide (char.toNat < 0x80), 1⟩
  else if name = "cn" ∨ name = "unassigned" then some ⟨isUnassigned, 731⟩
  else if name = "c" ∨ name = "other" then
    some ⟨fun char => isAmong [.control, .format, .privateUse] char || isUnassigned char, 736⟩
  else
    (categoryNames.find? (·.1.contains name)).map fun (_, categories, runs) =>
      ⟨isAmong categories, runs⟩

/-- The characters of the script with this loose name. -/
def scriptNamed? (name : String) : Option Class :=
  (scripts.find? (·.names.contains name)).map fun script => .ofStretches script.stretches

/-- The properties, each by its names. -/
def propertyNames : List (List String × Class) :=
  [(["alphabetic", "alpha"], ⟨isAlphabetic, 757⟩),
   (["lowercase", "lower"], ⟨isLowercase, 675⟩),
   (["uppercase", "upper"], ⟨isUppercase, 656⟩),
   (["whitespace", "wspace", "space"], .blank),
   (["cased"], ⟨isCased, 159⟩),
   (["caseignorable", "ci"], ⟨isCaseIgnorable, 452⟩),
   (["graphemeextend", "grext"], ⟨extendsGrapheme, 375⟩),
   (["graphemebase", "grbase"], ⟨isGraphemeBase, 894⟩),
   (["math"], ⟨isMath, 139⟩),
   (["idstart", "ids"], ⟨startsIdentifier, 678⟩),
   (["idcontinue", "idc"], ⟨continuesIdentifier, 794⟩),
   (["xidstart", "xids"],
    ⟨fun char => startsIdentifier char && !listed unstableStart char.toNat, 685⟩),
   (["xidcontinue", "xidc"],
    ⟨fun char => continuesIdentifier char && !listed unstableContinue char.toNat, 801⟩),
   (["joincontrol", "joinc"], ⟨isJoinControl, 1⟩),
   (["changeswhenlowercased", "cwl"], ⟨changesWhenLowercased, 614⟩),
   (["changeswhenuppercased", "cwu"], ⟨changesWhenUppercased, 632⟩),
   (["changeswhencasemapped", "cwcm"],
    ⟨fun char => changesWhenLowercased char || changesWhenUppercased char, 132⟩),
   (["changeswhentitlecased", "cwt"], .ofStretches titlecasing),
   (["changeswhencasefolded", "cwcf"], .ofStretches casefolding),
   (["emoji"], .ofStretches emoji),
   (["emojipresentation", "epres"], .ofStretches emojiPresentation),
   (["emojimodifier", "emod"], .ofStretches emojiModifier),
   (["emojimodifierbase", "ebase"], .ofStretches emojiModifierBase),
   (["emojicomponent", "ecomp"], .ofStretches emojiComponent),
   (["extendedpictographic", "extpict"], .ofStretches extendedPictographic),
   (["hexdigit", "hex"], .ofStretches hexDigit),
   (["asciihexdigit", "ahex"], .ofStretches asciiHexDigit),
   (["dash"], .ofStretches dash),
   (["diacritic", "dia"], .ofStretches diacritic),
   (["extender", "ext"], .ofStretches extender),
   (["ideographic", "ideo"], .ofStretches ideographic),
   (["unifiedideograph", "uideo"], .ofStretches unifiedIdeograph),
   (["quotationmark", "qmark"], .ofStretches quotationMark),
   (["terminalpunctuation", "term"], .ofStretches terminalPunctuation),
   (["sentenceterminal", "sterm"], .ofStretches sentenceTerminal),
   (["softdotted", "sd"], .ofStretches softDotted),
   (["patternsyntax", "patsyn"], .ofStretches patternSyntax),
   (["patternwhitespace", "patws"], .ofStretches patternWhiteSpace),
   (["variationselector", "vs"], .ofStretches variationSelector),
   (["noncharactercodepoint", "nchar"], .ofStretches noncharacter),
   (["defaultignorablecodepoint", "di"], .ofStretches defaultIgnorable),
   (["radical"], .ofStretches radical),
   (["regionalindicator", "ri"], .ofStretches regionalIndicator),
   (["deprecated", "dep"], .ofStretches discouraged),
   (["bidicontrol", "bidic"], .ofStretches bidiControl),
   (["logicalorderexception", "loe"], .ofStretches logicalOrderException),
   (["idsbinaryoperator", "idsb"], .ofStretches idsBinaryOperator),
   (["idstrinaryoperator", "idst"], .ofStretches idsTrinaryOperator),
   (["otherlowercase", "olower"], .ofStretches otherLowercase),
   (["otheruppercase", "oupper"], .ofStretches otherUppercase),
   (["otheralphabetic", "oalpha"], .ofStretches otherAlphabetic)]

/-- The characters with the property of this loose name. -/
def propertyNamed? (name : String) : Option Class :=
  Class.named? propertyNames name

/-- The class that a single name stands for. -/
def classNamed? (name : List Char) : Option Class :=
  let loose := looseName name
  if loose = "cf" ∨ loose = "sc" ∨ loose = "lc" then categoryNamed? loose
  else propertyNamed? loose <|> categoryNamed? loose <|> scriptNamed? loose

/-- The class of the characters for which the property of the first name has the value of the
second. These are general categories, scripts and their extensions, ages and the values for breaks. -/
def valueNamed? (property value : List Char) : Option Class :=
  let loose := looseName value
  match looseName property with
  | "gc" | "generalcategory" => categoryNamed? loose
  | "sc" | "script" => scriptNamed? loose
  | "scx" | "scriptextensions" => extensionNamed? loose
  | "age" => ageNamed? loose
  | "gcb" | "graphemeclusterbreak" => Class.named? graphemeBreaks loose
  | "wb" | "wordbreak" => Class.named? wordBreaks loose
  | "sb" | "sentencebreak" => Class.named? sentenceBreaks loose
  | _ => none

end Parlance.Unicode
