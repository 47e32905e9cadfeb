import SwiftTuples.Pattern.Property.Derived
/-!
# Characters that change with case

Most characters that change when a text is put into another case are those that fold, or that others
fold to. The rest change into several characters, or keep their case under folding.
-/

namespace SwiftTuples.Pattern.Property

open CharSet

/-- Characters that fold to another. -/
def folding : CharSet := ofList (folds.map (·.1))

/-- Characters that fold to another or that others fold to. -/
def foldingEither : CharSet := folding.union (ofList (folds.map (·.2)))

/-- Characters that change when a text is folded. -/
def changesWhenCasefolded : CharSet :=
  (folding.difference ⟨[(0x1FBE, 0x1FBE), (0x1FD3, 0x1FD3), (0x1FE3, 0x1FE3)]⟩).union
    ⟨[(0xDF, 0xDF), (0x130, 0x130), (0x149, 0x149), (0x587, 0x587), (0x1E9A, 0x1E9A),
      (0x1F80, 0x1F87), (0x1F90, 0x1F97), (0x1FA0, 0x1FA7), (0x1FB2, 0x1FB4), (0x1FB7, 0x1FB7),
      (0x1FC2, 0x1FC4), (0x1FC7, 0x1FC7), (0x1FF2, 0x1FF4), (0x1FF7, 0x1FF7), (0xFB00, 0xFB04),
      (0xFB06, 0xFB06), (0xFB13, 0xFB17)]⟩

/-- Characters that change when a text is put into lower case. -/
def changesWhenLowercased : CharSet :=
  (folding.intersection (uppercase.union titlecaseLetter)).union
    ⟨[(0x130, 0x130), (0x13A0, 0x13F5)]⟩

/-- Characters that change when a text is put into upper case. -/
def changesWhenUppercased : CharSet :=
  (foldingEither.difference uppercase).union
    ⟨[(0x131, 0x131), (0x149, 0x149), (0x1F0, 0x1F0), (0x587, 0x587), (0x1E96, 0x1E9A),
      (0x1F50, 0x1F50), (0x1F52, 0x1F52), (0x1F54, 0x1F54), (0x1F56, 0x1F56), (0x1FB2, 0x1FB2),
      (0x1FB4, 0x1FB4), (0x1FB6, 0x1FB7), (0x1FC2, 0x1FC2), (0x1FC4, 0x1FC4), (0x1FC6, 0x1FC7),
      (0x1FD2, 0x1FD2), (0x1FD6, 0x1FD7), (0x1FE2, 0x1FE2), (0x1FE4, 0x1FE4), (0x1FE6, 0x1FE7),
      (0x1FF2, 0x1FF2), (0x1FF4, 0x1FF4), (0x1FF6, 0x1FF7), (0xFB00, 0xFB04), (0xFB13, 0xFB17)]⟩

/-- Letters of Georgian in lower case, which start no word in upper case. -/
def georgianLowercase : CharSet := ⟨[(0x10D0, 0x10FA), (0x10FD, 0x10FF)]⟩

/-- Characters that change at the start of a word. -/
def changesWhenTitlecased : CharSet :=
  (changesWhenUppercased.difference (titlecaseLetter.union georgianLowercase)).union
    ⟨[(0x1C4, 0x1C4), (0x1C7, 0x1C7), (0x1CA, 0x1CA), (0x1F1, 0x1F1)]⟩

/-- Characters that change in some case. -/
def changesWhenCasemapped : CharSet :=
  unions [changesWhenLowercased, changesWhenUppercased, changesWhenTitlecased]

end SwiftTuples.Pattern.Property
