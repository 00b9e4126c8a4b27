import Parlance.Unicode.Class

/-!
# Breaks

Where a text may be broken into graphemes, words and sentences is told by a value that each character
has for each of the three kinds of breaks. The values are derived here from categories and properties
as the standard derives them, with tables for the characters that it names one by one.
-/

namespace Parlance.Unicode

/-- The return. -/
def Class.carriageReturn : Class := .ofStretches [⟨0xD, 0xD, 1⟩]

/-- The line feed. -/
def Class.lineFeed : Class := .ofStretches [⟨0xA, 0xA, 1⟩]

/-- The joiner. -/
def Class.joiner : Class := .ofStretches [⟨0x200D, 0x200D, 1⟩]

/-- The letters that stand for flags. -/
def Class.flagLetters : Class := .ofStretches regionalIndicator

/-- Signs that are written around the letters or digits behind them. -/
def prependedSigns : List Stretch := Stretch.ofText
  "600-605 6DD 70F 890-891 8E2 110BD 110CD"

/-- Whether the character is a sign that is written around the digits behind it. -/
def isNumberSign (char : Char) : Bool :=
  listed prependedSigns char.toNat && char.toNat != 0x70F

/-! ### Graphemes -/

/-- Letters that are drawn with the consonant behind them. -/
def prefixedConsonants : List Stretch := Stretch.ofText
  "D4E 111C2-111C3 113D1 1193F 11941 11A3A 11A84-11A89 11D46 11F02"

/-- Spacing marks that start a grapheme nevertheless. -/
def standaloneMarks : List Stretch := Stretch.ofText
  "102B-102C 1038 1062-1064 1067-106D 1083 1087-108C 108F 109A-109C 1A61 1A63-1A64 AA7B AA7D
   11720-11721"

/-- Whether the character extends what is before it, as a mark or as the tone of a picture. -/
def extendsCluster (char : Char) : Bool :=
  extendsGrapheme char || listed emojiModifier char.toNat

/-- Whether the character stands apart from all others. -/
def breaksCluster (char : Char) : Bool :=
  (isAmong [.control, .format, .lineSeparator, .paragraphSeparator] char ||
    isUnassigned char && listed defaultIgnorable char.toNat) &&
  !(char == '\r' || char == '\n' || isJoinControl char || listed prependedSigns char.toNat ||
    extendsCluster char)

/-- Whether the character takes up room behind the one that it belongs to. -/
def spacesCluster (char : Char) : Bool :=
  (Category.spacingMark.holds char || char.toNat == 0xE33 || char.toNat == 0xEB3) &&
    !(listed standaloneMarks char.toNat || extendsCluster char)

/-- The values for breaks between graphemes, each by its names. -/
def graphemeBreaks : List (List String × Class) :=
  [(["control", "cn"], ⟨breaksCluster, 19⟩),
   (["cr"], .carriageReturn),
   (["lf"], .lineFeed),
   (["extend", "ex"], ⟨extendsCluster, 376⟩),
   (["prepend", "pp"], ⟨fun char =>
      listed prependedSigns char.toNat || listed prefixedConsonants char.toNat, 16⟩),
   (["spacingmark", "sm"], ⟨spacesCluster, 155⟩),
   (["l"], .ofStretches (Stretch.ofText "1100-115F A960-A97C")),
   (["v"], .ofStretches (Stretch.ofText "1160-11A7 D7B0-D7C6 16D63 16D67-16D6A")),
   (["t"], .ofStretches (Stretch.ofText "11A8-11FF D7CB-D7FB")),
   (["lv"], .ofStretches (Stretch.ofText "AC00-D788/1C")),
   (["lvt"], ⟨fun char =>
      listed (Stretch.ofText "AC00-D7A3") char.toNat && (char.toNat - 0xAC00) % 28 != 0, 399⟩),
   (["regionalindicator", "ri"], .flagLetters),
   (["zwj"], .joiner)]

/-! ### Words -/

/-- The letters of Hebrew. -/
def hebrewLetters : List Stretch := Stretch.ofText
  "5D0-5EA 5EF-5F2 FB1D FB1F-FB28 FB2A-FB36 FB38-FB3C FB3E FB40-FB41 FB43-FB44 FB46-FB4F"

/-- Katakana, with the signs that are written among them. -/
def katakanaSigns : List Stretch := Stretch.ofText
  "3031-3035 309B-309C 30A0-30FA 30FC-30FF 31F0-31FF 32D0-32FE 3300-3357 FF66-FF9D 1AFF0-1AFF3
   1AFF5-1AFFB 1AFFD-1AFFE 1B000 1B120-1B122 1B155 1B164-1B167"

/-- The characters of scripts that are written without blanks between words. -/
def unspaced : List Stretch := Stretch.ofText
  "E01-E3A E40-E4E E81-E82 E84 E86-E8A E8C-EA3 EA5 EA7-EBD EC0-EC4 EC6 EC8-ECE EDC-EDF
   1000-103F 1050-108F 109A-109F 1780-17D3 17D7 17DC-17DD 1950-196D 1970-1974 1980-19AB
   19B0-19C9 19DA 19DE-19DF 1A20-1A5E 1A60-1A7C 1AA0-1AAD 3041-3096 309D-309F A9E0-A9EF
   A9FA-A9FE AA60-AAC2 AADB-AADF 11700-1171A 1171D-1172B 1173A-1173B 1173F-11746 1B001-1B11F
   1B132 1B150-1B152 1F200"

/-- Characters that are used as letters of words without being alphabetic. -/
def wordSigns : List Stretch := Stretch.ofText
  "2C2-2C5 2D2-2D7 2DE-2DF 2E5-2EB 2ED 2EF-2FF 55A-55C 55E 58A 5F3 70F A708-A716 A720-A721
   A789-A78A AB5B"

/-- Whether the character extends the part of a word that is before it. -/
def extendsWord (char : Char) : Bool :=
  extendsCluster char || Category.spacingMark.holds char

/-- Whether the character is a letter of a word in a script that has blanks between words. -/
def isWordLetter (char : Char) : Bool :=
  (isAlphabetic char || listed wordSigns char.toNat) &&
    !(listed ideographic char.toNat || listed katakanaSigns char.toNat ||
      listed unspaced char.toNat || listed hebrewLetters char.toNat || extendsWord char)

/-- The values for breaks between words, each by its names. -/
def wordBreaks : List (List String × Class) :=
  [(["cr"], .carriageReturn),
   (["lf"], .lineFeed),
   (["newline", "nl"], .ofStretches (Stretch.ofText "B-C 85 2028-2029")),
   (["extend"], ⟨extendsWord, 325⟩),
   (["zwj"], .joiner),
   (["format", "fo"], ⟨fun char =>
      Category.format.holds char && !(char.toNat == 0x200B || isJoinControl char ||
        listed prependedSigns char.toNat || extendsWord char), 13⟩),
   (["katakana", "ka"], .ofStretches katakanaSigns),
   (["hebrewletter", "hl"], .ofStretches hebrewLetters),
   (["aletter", "le"], ⟨isWordLetter, 595⟩),
   (["singlequote", "sq"], .ofStretches (Stretch.ofText "27")),
   (["doublequote", "dq"], .ofStretches (Stretch.ofText "22")),
   (["midnumlet", "mb"], .ofStretches (Stretch.ofText "2E 2018-2019 2024 FE52 FF07 FF0E")),
   (["midletter", "ml"], .ofStretches
      (Stretch.ofText "3A B7 387 55F 5F4 2027 FE13 FE55 FF1A")),
   (["midnum", "mn"], .ofStretches
      (Stretch.ofText "2C 3B 37E 589 60C-60D 66C 7F8 2044 FE10 FE14 FE50 FE54 FF0C FF1B")),
   (["numeric", "nu"], ⟨fun char =>
      Category.decimalNumber.holds char || char.toNat == 0x66B || isNumberSign char, 78⟩),
   (["extendnumlet", "ex"], ⟨fun char =>
      Category.connectorPunctuation.holds char || char.toNat == 0x202F, 7⟩),
   (["regionalindicator", "ri"], .flagLetters),
   (["wsegspace"], .ofStretches (Stretch.ofText "20 1680 2000-2006 2008-200A 205F 3000"))]

/-! ### Sentences -/

/-- Letters of Georgian, which have case but do not mark the start of a sentence by it. -/
def georgianLetters : List Stretch := Stretch.ofText
  "10D0-10FA 10FD-10FF 1C90-1CBA 1CBD-1CBF"

/-- Points that end a sentence or an abbreviation. -/
def fullStops : List Stretch := Stretch.ofText "2E 2024 FE52 FF0E"

/-- Quotation marks that are the same on both sides, or that are other symbols by their category. -/
def neutralQuotes : List Stretch := Stretch.ofText
  "22 27 275B-2760 2E00-2E01 2E06-2E08 2E0B 1F676-1F678"

/-- Whether the character extends what is before it in a sentence. -/
def extendsSentence (char : Char) : Bool :=
  extendsGrapheme char || Category.spacingMark.holds char || char.toNat == 0x200D

/-- Whether the character is a small letter that a sentence goes on with. -/
def isSentenceLower (char : Char) : Bool :=
  isLowercase char && !(extendsGrapheme char || listed georgianLetters char.toNat)

/-- Whether the character is a capital letter that a sentence may start with. -/
def isSentenceUpper (char : Char) : Bool :=
  (isUppercase char || Category.titlecaseLetter.holds char) &&
    !listed georgianLetters char.toNat

/-- The values for breaks between sentences, each by its names. -/
def sentenceBreaks : List (List String × Class) :=
  [(["cr"], .carriageReturn),
   (["lf"], .lineFeed),
   (["sep", "se"], .ofStretches (Stretch.ofText "85 2028-2029")),
   (["extend", "ex"], ⟨extendsSentence, 324⟩),
   (["format", "fo"], ⟨fun char =>
      Category.format.holds char && !(isJoinControl char || extendsGrapheme char ||
        listed prependedSigns char.toNat), 14⟩),
   (["sp"], ⟨fun char =>
      isBlank char && !listed (Stretch.ofText "A D 85 2028-2029") char.toNat, 9⟩),
   (["lower", "lo"], ⟨isSentenceLower, 673⟩),
   (["upper", "up"], ⟨isSentenceUpper, 657⟩),
   (["oletter", "le"], ⟨fun char =>
      (isAlphabetic char || char.toNat == 0x5F3 || char.toNat == 0x70F) &&
        !(isSentenceLower char || isSentenceUpper char || extendsSentence char), 561⟩),
   (["numeric", "nu"], ⟨fun char =>
      Category.decimalNumber.holds char || char.toNat == 0x66B || char.toNat == 0x66C ||
        isNumberSign char, 78⟩),
   (["aterm", "at"], .ofStretches fullStops),
   (["sterm", "st"], ⟨fun char =>
      listed sentenceTerminal char.toNat && !listed fullStops char.toNat, 84⟩),
   (["close", "cl"], ⟨fun char =>
      isAmong [.openPunctuation, .closePunctuation, .initialPunctuation, .finalPunctuation] char ||
        listed neutralQuotes char.toNat, 45⟩),
   (["scontinue", "sc"], .ofStretches (Stretch.ofText
      "2C-2D 3A-3B 37E 55D 60C-60D 7F8 1802 1808 2013-2014 3001 FE10-FE11 FE13-FE14 FE31-FE32
       FE50-FE51 FE54-FE55 FE58 FE63 FF0C-FF0D FF1A-FF1B FF64"))]

end Parlance.Unicode
