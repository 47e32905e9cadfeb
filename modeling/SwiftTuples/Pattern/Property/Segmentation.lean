import SwiftTuples.Pattern.Property.CaseChange
import SwiftTuples.Pattern.Property.Emoji
import SwiftTuples.Pattern.Property.Script
/-!
# Segmentation of text

The parts that characters play where a text is cut into written characters, into words and into
sentences. Each list names the parts of one of the three cuts.
-/

namespace SwiftTuples.Pattern.Property

open CharSet

/-- The characters of a script of a given name. -/
def script? (name : String) : Option CharSet :=
  (scripts.find? fun (names, _) => names.contains name).map (·.2)

/-- The characters of a script, none if there is no such script. -/
def scriptSet (name : String) : CharSet := (script? name).getD empty

/-- The line feed. -/
def lineFeed : CharSet := ofChar '\n'

/-- The carriage return. -/
def carriageReturn : CharSet := ofChar '\r'

/-- The joiner of pictures and letters. -/
def zeroWidthJoiner : CharSet := single 0x200D

/-- The joiner and the character that keeps letters apart. -/
def zeroWidthJoiners : CharSet := range 0x200C 0x200D

/-- What extends the written character before it. -/
def graphemeExtending : CharSet :=
  (graphemeExtend.union emojiModifier).difference zeroWidthJoiner

/-- Syllables of Hangul without a final consonant. -/
def hangulOpenSyllable : CharSet := ofList ((List.range 399).map fun i => 0xAC00 + 28 * i)

/-- Syllables of Hangul with a final consonant. -/
def hangulClosedSyllable : CharSet := (range 0xAC00 0xD7A3).difference hangulOpenSyllable

/-- Marks with room of their own that do not go with the character before. -/
def detachedMark : CharSet :=
  ⟨[(0x102B, 0x102C), (0x1038, 0x1038), (0x1062, 0x1064), (0x1067, 0x106D), (0x1083, 0x1083),
    (0x1087, 0x108C), (0x108F, 0x108F), (0x109A, 0x109C), (0x1A61, 0x1A61), (0x1A63, 0x1A64),
    (0xAA7B, 0xAA7B), (0xAA7D, 0xAA7D), (0x11720, 0x11721)]⟩

/-- Vowels of Hangul and of Kirat Rai. -/
def joiningVowel : CharSet :=
  ⟨[(0x1160, 0x11A7), (0xD7B0, 0xD7C6), (0x16D63, 0x16D63), (0x16D67, 0x16D6A)]⟩

/-- The parts of written characters by their names. -/
def graphemeBreaks : List (List String × CharSet) := [
  (["cr"], carriageReturn),
  (["lf"], lineFeed),
  (["control", "cn"],
    (unions [lineSeparator, paragraphSeparator, control, format,
      defaultIgnorable.difference assigned]).difference
      (unions [lineFeed, carriageReturn, zeroWidthJoiners, prependedConcatenationMark,
        graphemeExtending])),
  (["extend", "ex"], graphemeExtending),
  (["zwj"], zeroWidthJoiner),
  (["regionalindicator", "ri"], regionalIndicator),
  (["prepend", "pp"],
    prependedConcatenationMark.union
      ⟨[(0xD4E, 0xD4E), (0x111C2, 0x111C3), (0x113D1, 0x113D1), (0x1193F, 0x1193F),
        (0x11941, 0x11941), (0x11A3A, 0x11A3A), (0x11A84, 0x11A89), (0x11D46, 0x11D46),
        (0x11F02, 0x11F02)]⟩),
  (["spacingmark", "sm"],
    (spacingMark.union ⟨[(0xE33, 0xE33), (0xEB3, 0xEB3)]⟩).difference
      (unions [graphemeExtending, detachedMark, joiningVowel])),
  (["l"], ⟨[(0x1100, 0x115F), (0xA960, 0xA97C)]⟩),
  (["v"], joiningVowel),
  (["t"], ⟨[(0x11A8, 0x11FF), (0xD7CB, 0xD7FB)]⟩),
  (["lv"], hangulOpenSyllable),
  (["lvt"], hangulClosedSyllable)]

/-- What extends the character before it in a word. -/
def wordExtending : CharSet := graphemeExtending.union (spacingMark.difference zeroWidthJoiner)

/-- Katakana and the marks used with it. -/
def katakana : CharSet :=
  (scriptSet "kana").union
    ⟨[(0x3031, 0x3035), (0x309B, 0x309C), (0x30A0, 0x30A0), (0x30FC, 0x30FC), (0xFF70, 0xFF70)]⟩

/-- Letters of Hebrew. -/
def hebrewLetter : CharSet := (scriptSet "hebr").intersection otherLetter

/-- Letters of scripts that write no blank between words. -/
def unspacedLetter : CharSet :=
  ⟨[(0xE01, 0xE30), (0xE32, 0xE33), (0xE40, 0xE46), (0xE81, 0xE82), (0xE84, 0xE84), (0xE86, 0xE8A),
    (0xE8C, 0xEA3), (0xEA5, 0xEA5), (0xEA7, 0xEB0), (0xEB2, 0xEB3), (0xEBD, 0xEBD), (0xEC0, 0xEC4),
    (0xEC6, 0xEC6), (0xEDC, 0xEDF), (0x1000, 0x102A), (0x103F, 0x103F), (0x1050, 0x1055),
    (0x105A, 0x105D), (0x1061, 0x1061), (0x1065, 0x1066), (0x106E, 0x1070), (0x1075, 0x1081),
    (0x108E, 0x108E), (0x1780, 0x17B3), (0x17D7, 0x17D7), (0x17DC, 0x17DC), (0x1950, 0x196D),
    (0x1970, 0x1974), (0x1980, 0x19AB), (0x19B0, 0x19C9), (0x1A20, 0x1A54), (0x1AA7, 0x1AA7),
    (0xA9E0, 0xA9E4), (0xA9E6, 0xA9EF), (0xA9FA, 0xA9FE), (0xAA60, 0xAA76), (0xAA7A, 0xAA7A),
    (0xAA7E, 0xAAAF), (0xAAB1, 0xAAB1), (0xAAB5, 0xAAB6), (0xAAB9, 0xAABD), (0xAAC0, 0xAAC0),
    (0xAAC2, 0xAAC2), (0xAADB, 0xAADD), (0x11700, 0x1171A), (0x11740, 0x11746)]⟩

/-- Signs that are read as letters though they are none. -/
def letterLike : CharSet :=
  ⟨[(0xB8, 0xB8), (0x2C2, 0x2C5), (0x2D2, 0x2D7), (0x2DE, 0x2DF), (0x2E5, 0x2EB), (0x2ED, 0x2ED),
    (0x2EF, 0x2FF), (0x55A, 0x55C), (0x55E, 0x55E), (0x58A, 0x58A), (0x5F3, 0x5F3), (0x70F, 0x70F),
    (0xA708, 0xA716), (0xA720, 0xA721), (0xA789, 0xA78A), (0xAB5B, 0xAB5B)]⟩

/-- Digits, the signs that enclose them and the decimal separator of Arabic. -/
def numeric : CharSet :=
  unions [decimalNumber, prependedConcatenationMark.difference (single 0x70F), single 0x66B,
    single 0x19DA]

/-- Formats that a cut looks past. -/
def passedFormat : CharSet :=
  format.difference (unions [zeroWidthJoiners, prependedConcatenationMark, wordExtending])

/-- The parts of words by their names. -/
def wordBreaks : List (List String × CharSet) := [
  (["cr"], carriageReturn),
  (["lf"], lineFeed),
  (["newline", "nl"], ⟨[(0xB, 0xC), (0x85, 0x85), (0x2028, 0x2029)]⟩),
  (["extend"], wordExtending),
  (["zwj"], zeroWidthJoiner),
  (["format", "fo"], passedFormat.difference (single 0x200B)),
  (["regionalindicator", "ri"], regionalIndicator),
  (["katakana", "ka"], katakana),
  (["hebrewletter", "hl"], hebrewLetter),
  (["aletter", "le"],
    (alphabetic.difference
      (unions [ideographic, katakana, scriptSet "hira", wordExtending, hebrewLetter,
        unspacedLetter])).union letterLike),
  (["singlequote", "sq"], ofChar '\''),
  (["doublequote", "dq"], ofChar '"'),
  (["midnumlet", "mb"], midNumLet),
  (["midletter", "ml"], midLetter),
  (["midnum", "mn"],
    ⟨[(0x2C, 0x2C), (0x3B, 0x3B), (0x37E, 0x37E), (0x589, 0x589), (0x60C, 0x60D), (0x66C, 0x66C),
      (0x7F8, 0x7F8), (0x2044, 0x2044), (0xFE50, 0xFE50), (0xFE54, 0xFE54), (0xFF0C, 0xFF0C),
      (0xFF1B, 0xFF1B)]⟩),
  (["numeric", "nu"], numeric),
  (["extendnumlet", "ex"], connectorPunctuation.union (single 0x202F)),
  (["wsegspace"], spaceSeparator.difference ⟨[(0xA0, 0xA0), (0x2007, 0x2007), (0x202F, 0x202F)]⟩)]

/-- Ends of paragraphs. -/
def paragraphEnd : CharSet := ⟨[(0x85, 0x85), (0x2028, 0x2029)]⟩

/-- What extends the character before it in a sentence. -/
def sentenceExtending : CharSet := unions [graphemeExtend, spacingMark, zeroWidthJoiner]

/-- Letters in lower case that a sentence does not start with. -/
def sentenceLower : CharSet := lowercase.difference (graphemeExtend.union georgianLowercase)

/-- Letters in upper case that a sentence starts with. -/
def sentenceUpper : CharSet :=
  (titlecaseLetter.union uppercase).difference ⟨[(0x1C90, 0x1CBA), (0x1CBD, 0x1CBF)]⟩

/-- Full stops, which also stand after abbreviations. -/
def fullStop : CharSet := ⟨[(0x2E, 0x2E), (0x2024, 0x2024), (0xFE52, 0xFE52), (0xFF0E, 0xFF0E)]⟩

/-- The parts of sentences by their names. -/
def sentenceBreaks : List (List String × CharSet) := [
  (["cr"], carriageReturn),
  (["lf"], lineFeed),
  (["sep", "se"], paragraphEnd),
  (["extend", "ex"], sentenceExtending),
  (["format", "fo"], passedFormat),
  (["sp"], whiteSpace.difference (unions [lineFeed, carriageReturn, paragraphEnd])),
  (["lower", "lo"], sentenceLower),
  (["upper", "up"], sentenceUpper),
  (["oletter", "le"],
    (alphabetic.union ⟨[(0x5F3, 0x5F3), (0x70F, 0x70F)]⟩).difference
      (unions [sentenceLower, sentenceUpper, sentenceExtending])),
  (["numeric", "nu"], numeric.union (single 0x66C)),
  (["aterm", "at"], fullStop),
  (["sterm", "st"], sentenceTerminal.difference fullStop),
  (["scontinue", "sc"],
    ⟨[(0x2C, 0x2D), (0x3A, 0x3B), (0x37E, 0x37E), (0x55D, 0x55D), (0x60C, 0x60D), (0x7F8, 0x7F8),
      (0x1802, 0x1802), (0x1808, 0x1808), (0x2013, 0x2014), (0x3001, 0x3001), (0xFE10, 0xFE11),
      (0xFE13, 0xFE14), (0xFE31, 0xFE32), (0xFE50, 0xFE51), (0xFE54, 0xFE55), (0xFE58, 0xFE58),
      (0xFE63, 0xFE63), (0xFF0C, 0xFF0D), (0xFF1A, 0xFF1B), (0xFF64, 0xFF64)]⟩),
  (["close", "cl"],
    unions [openPunctuation, closePunctuation, initialPunctuation, finalPunctuation,
      ⟨[(0x22, 0x22), (0x27, 0x27), (0x275B, 0x2760), (0x2E00, 0x2E01), (0x2E06, 0x2E08),
        (0x2E0B, 0x2E0B), (0x1F676, 0x1F678)]⟩])]

end SwiftTuples.Pattern.Property
