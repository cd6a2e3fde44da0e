import Acceptance.Unicode.Category.Letter
import Acceptance.Unicode.Category.Mark
import Acceptance.Unicode.Category.Number
import Acceptance.Unicode.Category.Punctuation
import Acceptance.Unicode.Category.Symbol

/-!
# General categories

Every character has one general category. Categories are named in full or by two letters, and those
with the same first letter form a group that this letter names.
-/

namespace Acceptance.Unicode

/-- The general categories. -/
inductive Category
  | uppercaseLetter | lowercaseLetter | titlecaseLetter | modifierLetter | otherLetter
  | nonspacingMark | spacingMark | enclosingMark
  | decimalNumber | letterNumber | otherNumber
  | connectorPunctuation | dashPunctuation | openPunctuation | closePunctuation
  | initialPunctuation | finalPunctuation | otherPunctuation
  | mathSymbol | currencySymbol | modifierSymbol | otherSymbol
  | spaceSeparator | lineSeparator | paragraphSeparator
  | control | format | privateUse | unassigned
deriving DecidableEq, Inhabited

namespace Category

/-- The categories of assigned characters with their characters. -/
def assignedSets : List (Category × CharSet) :=
  [(uppercaseLetter, Unicode.uppercaseLetter), (lowercaseLetter, Unicode.lowercaseLetter),
    (titlecaseLetter, Unicode.titlecaseLetter), (modifierLetter, Unicode.modifierLetter),
    (otherLetter, Unicode.otherLetter), (nonspacingMark, Unicode.nonspacingMark),
    (spacingMark, Unicode.spacingMark), (enclosingMark, Unicode.enclosingMark),
    (decimalNumber, Unicode.decimalNumber), (letterNumber, Unicode.letterNumber),
    (otherNumber, Unicode.otherNumber), (connectorPunctuation, Unicode.connectorPunctuation),
    (dashPunctuation, Unicode.dashPunctuation), (openPunctuation, Unicode.openPunctuation),
    (closePunctuation, Unicode.closePunctuation),
    (initialPunctuation, Unicode.initialPunctuation),
    (finalPunctuation, Unicode.finalPunctuation), (otherPunctuation, Unicode.otherPunctuation),
    (mathSymbol, Unicode.mathSymbol), (currencySymbol, Unicode.currencySymbol),
    (modifierSymbol, Unicode.modifierSymbol), (otherSymbol, Unicode.otherSymbol),
    (spaceSeparator, Unicode.spaceSeparator), (lineSeparator, Unicode.lineSeparator),
    (paragraphSeparator, Unicode.paragraphSeparator), (control, Unicode.control),
    (format, Unicode.format), (privateUse, Unicode.privateUse)]

/-- The characters of a category. -/
def characters (category : Category) : CharSet :=
  match assignedSets.lookup category with
  | some set => set
  | none => (CharSet.unions (assignedSets.map Prod.snd)).compl

/-- Letters with case. -/
def casedLetters : List Category := [uppercaseLetter, lowercaseLetter, titlecaseLetter]

/-- Letters. -/
def letters : List Category := casedLetters ++ [modifierLetter, otherLetter]

/-- Marks. -/
def marks : List Category := [nonspacingMark, spacingMark, enclosingMark]

/-- Numbers. -/
def numbers : List Category := [decimalNumber, letterNumber, otherNumber]

/-- Punctuation. -/
def punctuation : List Category :=
  [connectorPunctuation, dashPunctuation, openPunctuation, closePunctuation, initialPunctuation,
    finalPunctuation, otherPunctuation]

/-- Symbols. -/
def symbols : List Category := [mathSymbol, currencySymbol, modifierSymbol, otherSymbol]

/-- Separators. -/
def separators : List Category := [spaceSeparator, lineSeparator, paragraphSeparator]

/-- Characters of no other group. -/
def others : List Category := [control, format, privateUse, unassigned]

/-- The names of categories and of their groups in small letters. -/
def names : List (String × List Category) :=
  [("l", letters), ("letter", letters), ("lc", casedLetters), ("casedletter", casedLetters),
    ("lu", [uppercaseLetter]), ("uppercaseletter", [uppercaseLetter]),
    ("ll", [lowercaseLetter]), ("lowercaseletter", [lowercaseLetter]),
    ("lt", [titlecaseLetter]), ("titlecaseletter", [titlecaseLetter]),
    ("lm", [modifierLetter]), ("modifierletter", [modifierLetter]),
    ("lo", [otherLetter]), ("otherletter", [otherLetter]),
    ("m", marks), ("mark", marks), ("combiningmark", marks),
    ("mn", [nonspacingMark]), ("nonspacingmark", [nonspacingMark]),
    ("mc", [spacingMark]), ("spacingmark", [spacingMark]),
    ("me", [enclosingMark]), ("enclosingmark", [enclosingMark]),
    ("n", numbers), ("number", numbers),
    ("nd", [decimalNumber]), ("decimalnumber", [decimalNumber]), ("digit", [decimalNumber]),
    ("nl", [letterNumber]), ("letternumber", [letterNumber]),
    ("no", [otherNumber]), ("othernumber", [otherNumber]),
    ("p", punctuation), ("punctuation", punctuation), ("punct", punctuation),
    ("pc", [connectorPunctuation]), ("connectorpunctuation", [connectorPunctuation]),
    ("pd", [dashPunctuation]), ("dashpunctuation", [dashPunctuation]),
    ("ps", [openPunctuation]), ("openpunctuation", [openPunctuation]),
    ("pe", [closePunctuation]), ("closepunctuation", [closePunctuation]),
    ("pi", [initialPunctuation]), ("initialpunctuation", [initialPunctuation]),
    ("pf", [finalPunctuation]), ("finalpunctuation", [finalPunctuation]),
    ("po", [otherPunctuation]), ("otherpunctuation", [otherPunctuation]),
    ("s", symbols), ("symbol", symbols),
    ("sm", [mathSymbol]), ("mathsymbol", [mathSymbol]),
    ("sc", [currencySymbol]), ("currencysymbol", [currencySymbol]),
    ("sk", [modifierSymbol]), ("modifiersymbol", [modifierSymbol]),
    ("so", [otherSymbol]), ("othersymbol", [otherSymbol]),
    ("z", separators), ("separator", separators),
    ("zs", [spaceSeparator]), ("spaceseparator", [spaceSeparator]),
    ("zl", [lineSeparator]), ("lineseparator", [lineSeparator]),
    ("zp", [paragraphSeparator]), ("paragraphseparator", [paragraphSeparator]),
    ("c", others), ("other", others),
    ("cc", [control]), ("control", [control]), ("cntrl", [control]),
    ("cf", [format]), ("format", [format]),
    ("co", [privateUse]), ("privateuse", [privateUse]),
    ("cn", [unassigned]), ("unassigned", [unassigned])]

/-- The categories that a name stands for. -/
def ofName? (name : String) : Option (List Category) := names.lookup name

end Category

end Acceptance.Unicode
