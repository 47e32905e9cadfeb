import SwiftTuples.Pattern.Property.CaseFolding
import SwiftTuples.Pattern.Property.Contributory
import SwiftTuples.Pattern.Property.Letter
import SwiftTuples.Pattern.Property.Listed
import SwiftTuples.Pattern.Property.Mark
import SwiftTuples.Pattern.Property.Numeral
import SwiftTuples.Pattern.Property.Punctuation
import SwiftTuples.Pattern.Property.Separator
import SwiftTuples.Pattern.Property.Symbol
/-!
# Derived properties

Properties that the standard puts together from general categories and from lists. Word characters
are among them: the boundaries of words in a pattern lie where they begin and end.
-/

namespace SwiftTuples.Pattern.Property

open CharSet

/-- Characters in lower case. -/
def lowercase : CharSet := lowercaseLetter.union otherLowercase

/-- Characters in upper case. -/
def uppercase : CharSet := uppercaseLetter.union otherUppercase

/-- Characters with case. -/
def cased : CharSet := unions [lowercase, uppercase, titlecaseLetter]

/-- Letters, letter numbers and the marks that write vowels. -/
def alphabetic : CharSet :=
  unions [lowercase, uppercase, titlecaseLetter, modifierLetter, otherLetter, letterNumber,
    otherAlphabetic]

/-- Marks of any category. -/
def mark : CharSet := unions [nonspacingMark, spacingMark, enclosingMark]

/-- Characters inside a word. -/
def word : CharSet :=
  unions [alphabetic, mark, decimalNumber, connectorPunctuation, joinControl]

/-- Characters of mathematics. -/
def math : CharSet := mathSymbol.union otherMath

/-- Characters that are part of the one before. -/
def graphemeExtend : CharSet := unions [nonspacingMark, enclosingMark, otherGraphemeExtend]

/-- Characters that have a category other than `Cn`. -/
def assigned : CharSet :=
  unions [uppercaseLetter, lowercaseLetter, titlecaseLetter, modifierLetter, otherLetter, mark,
    decimalNumber, letterNumber, otherNumber, connectorPunctuation, dashPunctuation,
    openPunctuation, closePunctuation, initialPunctuation, finalPunctuation, otherPunctuation,
    mathSymbol, currencySymbol, modifierSymbol, otherSymbol, spaceSeparator, lineSeparator,
    paragraphSeparator, control, format, privateUse]

/-- Characters that other characters can go with. -/
def graphemeBase : CharSet :=
  assigned.difference
    (unions [control, format, privateUse, lineSeparator, paragraphSeparator, graphemeExtend])

/-- Characters that are not shown where they are not known. -/
def defaultIgnorable : CharSet :=
  (unions [otherDefaultIgnorable, format, variationSelector]).difference
    (unions [whiteSpace, prependedConcatenationMark, range 0xFFF9 0xFFFB, range 0x13430 0x13440])

/-- Punctuation that stands between the letters of a word. -/
def midLetter : CharSet :=
  ⟨[(0x3A, 0x3A), (0xB7, 0xB7), (0x387, 0x387), (0x55F, 0x55F), (0x5F4, 0x5F4), (0x2027, 0x2027),
    (0xFE13, 0xFE13), (0xFE55, 0xFE55), (0xFF1A, 0xFF1A)]⟩

/-- Punctuation that stands between letters or digits. -/
def midNumLet : CharSet :=
  ⟨[(0x2E, 0x2E), (0x2018, 0x2019), (0x2024, 0x2024), (0xFE52, 0xFE52), (0xFF07, 0xFF07),
    (0xFF0E, 0xFF0E)]⟩

/-- Characters that rules on case look past. -/
def caseIgnorable : CharSet :=
  unions [nonspacingMark, enclosingMark, format, modifierLetter, modifierSymbol, midLetter,
    midNumLet, ofChar '\'']

/-- Characters that languages of patterns keep for themselves. -/
def patternReserved : CharSet := patternSyntax.union patternWhiteSpace

/-- Characters at the start of identifiers. -/
def idStart : CharSet :=
  (unions [uppercaseLetter, lowercaseLetter, titlecaseLetter, modifierLetter, otherLetter,
    letterNumber, otherIdStart]).difference patternReserved

/-- Characters of identifiers. -/
def idContinue : CharSet :=
  (unions [idStart, nonspacingMark, spacingMark, decimalNumber, connectorPunctuation,
    otherIdContinue]).difference patternReserved

/-- Characters of identifiers whose compatible form cannot stand inside one. -/
def compatibleSplit : CharSet :=
  ⟨[(0x37A, 0x37A), (0x309B, 0x309C), (0xFC5E, 0xFC63), (0xFDFA, 0xFDFB), (0xFE70, 0xFE70),
    (0xFE72, 0xFE72), (0xFE74, 0xFE74), (0xFE76, 0xFE76), (0xFE78, 0xFE78), (0xFE7A, 0xFE7A),
    (0xFE7C, 0xFE7C), (0xFE7E, 0xFE7E)]⟩

/-- Characters at the start of identifiers that stay so in compatible form. -/
def xidStart : CharSet :=
  (idStart.difference compatibleSplit).difference
    ⟨[(0xE33, 0xE33), (0xEB3, 0xEB3), (0xFF9E, 0xFF9F)]⟩

/-- Characters of identifiers that stay so in compatible form. -/
def xidContinue : CharSet := idContinue.difference compatibleSplit

/-- Mathematical signs inside identifiers. -/
def idCompatMathContinue : CharSet := idCompatMathStart.union idCompatMathDigit

end SwiftTuples.Pattern.Property
