import Acceptance.Text
import Acceptance.Unicode.Age
import Acceptance.Unicode.Break
import Acceptance.Unicode.Casing
import Acceptance.Unicode.Identifier
import Acceptance.Unicode.ScriptExtension

/-!
# Properties of characters

The sets of characters that have a named property, or a named value of one. In names case, blanks,
underscores, hyphens and characters outside ASCII do not matter, and `is` may stand in front.
-/

namespace Acceptance.Unicode

/-- A name without what does not matter in it. The name of the category of other characters is kept
apart from that of a property, which begins with the same letters. -/
def plainName (name : List Char) : String :=
  let (marked, rest) := match name with
    | 'i' :: 's' :: rest => (true, rest)
    | 'i' :: 'S' :: rest => (true, rest)
    | 'I' :: 's' :: rest => (true, rest)
    | 'I' :: 'S' :: rest => (true, rest)
    | rest => (false, rest)
  let plain := (rest.filter fun c => !(c = ' ' || c = '_' || c = '-' || 0x80 ≤ c.toNat)).map
    Char.toLower
  String.ofList (if marked && plain == ['c'] then ['i', 's', 'c'] else plain)

/-- The set that has a name among others. -/
def named? (sets : List (List String × CharSet)) (name : String) : Option CharSet :=
  (sets.find? fun set => set.1.contains name).map Prod.snd

/-- Properties that a character has or has not, each with its names in small letters. -/
def binaryProperties : List (List String × CharSet) :=
  [(["ahex", "asciihexdigit"], asciiHexDigit), (["alpha", "alphabetic"], alphabetic),
    (["bidic", "bidicontrol"], bidiControl), (["bidim", "bidimirrored"], bidiMirrored),
    (["ci", "caseignorable"], caseIgnorable), (["cased"], cased),
    (["cwcf", "changeswhencasefolded"], changesWhenCasefolded),
    (["cwcm", "changeswhencasemapped"], changesWhenCasemapped),
    (["cwl", "changeswhenlowercased"], changesWhenLowercased),
    (["cwt", "changeswhentitlecased"], changesWhenTitlecased),
    (["cwu", "changeswhenuppercased"], changesWhenUppercased),
    (["dash"], dash), (["dep", "deprecated"], deprecated),
    (["di", "defaultignorablecodepoint"], defaultIgnorable), (["dia", "diacritic"], diacritic),
    (["ebase", "emojimodifierbase"], emojiModifierBase),
    (["ecomp", "emojicomponent"], emojiComponent), (["emod", "emojimodifier"], emojiModifier),
    (["emoji"], emoji), (["epres", "emojipresentation"], emojiPresentation),
    (["ext", "extender"], extender), (["extpict", "extendedpictographic"], extendedPictographic),
    (["grbase", "graphemebase"], graphemeBase), (["grext", "graphemeextend"], graphemeExtend),
    (["grlink", "graphemelink"], graphemeLink), (["hex", "hexdigit"], hexDigit),
    (["hyphen"], hyphen), (["idc", "idcontinue"], identifierContinue),
    (["idcompatmathcontinue"], mathIdentifierContinue),
    (["idcompatmathstart"], mathIdentifierStart), (["ideo", "ideographic"], ideographic),
    (["ids", "idstart"], identifierStart), (["idsb", "idsbinaryoperator"], binaryDescription),
    (["idst", "idstrinaryoperator"], trinaryDescription),
    (["idsu", "idsunaryoperator"], unaryDescription), (["joinc", "joincontrol"], joinControl),
    (["loe", "logicalorderexception"], logicalOrderException),
    (["lower", "lowercase"], lowercase), (["math"], math),
    (["mcm", "modifiercombiningmark"], modifierCombiningMark),
    (["nchar", "noncharactercodepoint"], noncharacter),
    (["oalpha", "otheralphabetic"], otherAlphabetic),
    (["odi", "otherdefaultignorablecodepoint"], otherDefaultIgnorable),
    (["ogrext", "othergraphemeextend"], otherGraphemeExtend),
    (["oidc", "otheridcontinue"], otherIdentifierContinue),
    (["oids", "otheridstart"], otherIdentifierStart),
    (["olower", "otherlowercase"], otherLowercase), (["omath", "othermath"], otherMath),
    (["oupper", "otheruppercase"], otherUppercase), (["patsyn", "patternsyntax"], patternSyntax),
    (["patws", "patternwhitespace"], patternWhiteSpace),
    (["pcm", "prependedconcatenationmark"], prependedConcatenationMark),
    (["qmark", "quotationmark"], quotationMark), (["radical"], radical),
    (["ri", "regionalindicator"], regionalIndicator), (["sd", "softdotted"], softDotted),
    (["sterm", "sentenceterminal"], sentenceTerminal),
    (["term", "terminalpunctuation"], terminalPunctuation),
    (["uideo", "unifiedideograph"], unifiedIdeograph), (["upper", "uppercase"], uppercase),
    (["vs", "variationselector"], variationSelector),
    (["wspace", "whitespace", "space"], whiteSpace),
    (["xidc", "xidcontinue"], stableIdentifierContinue),
    (["xids", "xidstart"], stableIdentifierStart)]

/-- The characters of the general categories that a name stands for. -/
def category? (name : String) : Option CharSet :=
  match name with
  | "any" => some .all
  | "ascii" => some (.ofRanges [(0, 0x7F)])
  | "assigned" => some Category.unassigned.characters.compl
  | _ => (Category.ofName? name).map fun found => .unions (found.map Category.characters)

/-- The characters of the script with a name. -/
def script? (name : String) : Option CharSet := (Script.ofName? name).map Script.characters

/-- The characters with a named property: one that a character has or has not, a general category, or
a script. -/
def property? (name : String) : Option CharSet :=
  (named? binaryProperties name).or ((category? name).or (script? name))

/-- The classes of characters that decide where a letter ends, each with its names. -/
def letterBreaks : List (List String × CharSet) :=
  [(["cn", "control"], letterControl), (["cr"], returnChar), (["ex", "extend"], letterExtend),
    (["l"], leadingConsonant), (["lf"], feedChar), (["lv"], openSyllable),
    (["lvt"], closedSyllable), (["pp", "prepend"], prependedSign),
    (["ri", "regionalindicator"], regionalIndicator), (["sm", "spacingmark"], letterSpacing),
    (["t"], trailingConsonant), (["v"], vowel), (["zwj"], joiner)]

/-- The classes of characters that decide where a word ends, each with its names. -/
def wordBreaks : List (List String × CharSet) :=
  [(["cr"], returnChar), (["dq", "doublequote"], .single '"'), (["ex", "extendnumlet"], wordJoin),
    (["extend"], wordExtend), (["fo", "format"], wordFormat), (["hl", "hebrewletter"], hebrewLetter),
    (["ka", "katakana"], katakanaLetter), (["le", "aletter"], wordLetter), (["lf"], feedChar),
    (["mb", "midnumlet"], betweenBoth), (["ml", "midletter"], betweenLetters),
    (["mn", "midnum"], betweenDigits), (["nl", "newline"], newline), (["nu", "numeric"], wordNumber),
    (["ri", "regionalindicator"], regionalIndicator), (["sq", "singlequote"], .single '\''),
    (["wsegspace"], wordSpace), (["zwj"], joiner)]

/-- The classes of characters that decide where a sentence ends, each with its names. -/
def sentenceBreaks : List (List String × CharSet) :=
  [(["at", "aterm"], sentenceStop), (["cl", "close"], sentenceClose), (["cr"], returnChar),
    (["ex", "extend"], sentenceExtend), (["fo", "format"], sentenceFormat),
    (["le", "oletter"], sentenceLetter), (["lf"], feedChar), (["lo", "lower"], sentenceLower),
    (["nu", "numeric"], sentenceNumber), (["sc", "scontinue"], sentenceContinue),
    (["se", "sep"], sentenceSeparator), (["sp"], sentenceSpace), (["st", "sterm"], sentenceEnd),
    (["up", "upper"], sentenceUpper)]

/-- The properties with more than two values: the names of each, and the characters with a value. -/
def valuedProperties : List (List String × (String → Option CharSet)) :=
  [(["gc", "generalcategory"], category?), (["sc", "script"], script?),
    (["scx", "scriptextensions"], fun value => (Script.ofName? value).map Script.used),
    (["age"], ofAge?), (["gcb", "graphemeclusterbreak"], named? letterBreaks),
    (["wb", "wordbreak"], named? wordBreaks), (["sb", "sentencebreak"], named? sentenceBreaks)]

/-- The characters that have a named value of a named property. -/
def propertyValue? (property value : String) : Option CharSet := do
  let found ← valuedProperties.find? fun valued => valued.1.contains property
  found.2 value

end Acceptance.Unicode
