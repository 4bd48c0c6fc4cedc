import Switchboard.Unicode.CaseOrbit
import Switchboard.Unicode.Property.Segment

/-! Properties that tell which characters have case, and which conversions between cases change
them. -/
namespace Switchboard.Unicode

def cased : CharSet := .join [lowercase, uppercase, Category.titlecaseLetter.members]

/-- The characters that are passed over when case is looked for. -/
def caseIgnorable : CharSet :=
  .join [
    Category.joined [.nonspacingMark, .enclosingMark, .format, .modifierLetter, .modifierSymbol],
    middleOfWord, middleOfWordOrNumber, .single '\'']

def withCounterpart : CharSet := .ofList CaseOrbit.orbits.flatten

/-- Every letter with a counterpart changes, and so does the capital I with a dot. -/
def changesWhenLowercased : CharSet :=
  (withCounterpart ∩ (uppercase ∪ Category.titlecaseLetter.members)) ∪ .single '\u0130'

/-- The letters without a counterpart that have an uppercase form. For most it is several
letters. -/
def uppercasedApart : CharSet := .read
  "131 149 1F0 587 1E96-1E9A 1F50 1F52 1F54 1F56 1FB2 1FB4 1FB6-1FB7 1FC2 1FC4 1FC6-1FC7 1FD2
   1FD6-1FD7 1FE2 1FE4 1FE6-1FE7 1FF2 1FF4 1FF6-1FF7 FB00-FB04 FB13-FB17"

def changesWhenUppercased : CharSet :=
  (withCounterpart ∩ (lowercase ∪ Category.titlecaseLetter.members)) ∪ uppercasedApart

/-- A titlecase letter stays as it is, and so does a Georgian letter. -/
def changesWhenTitlecased : CharSet :=
  (changesWhenUppercased \
    .read
      "1C5 1C8 1CB 1F2 10D0-10FA 10FD-10FF 1F88-1F8F 1F98-1F9F 1FA8-1FAF 1FBC 1FCC 1FFC") ∪
    .read "1C4 1C7 1CA 1F1"

/-- Folding changes what lowercasing changes, and lowercase letters that are not the usual form;
Cherokee folds to capitals. -/
def changesWhenCasefolded : CharSet :=
  (changesWhenLowercased \ .read "13A0-13F5") ∪
    .read
      "B5 DF 149 17F 345 3C2 3D0-3D1 3D5-3D6 3F0-3F1 3F5 587 13F8-13FD 1C80-1C88 1E9A-1E9B
       1F80-1F87 1F90-1F97 1FA0-1FA7 1FB2-1FB4 1FB7 1FC2-1FC4 1FC7 1FF2-1FF4 1FF7 AB70-ABBF
       FB00-FB06 FB13-FB17"

def changesWhenCasemapped : CharSet :=
  .join [changesWhenLowercased, changesWhenUppercased, changesWhenTitlecased]

end Switchboard.Unicode
