import RuleGrammar.Unicode.Blank
import RuleGrammar.Unicode.Block
import RuleGrammar.Unicode.Boundary
import RuleGrammar.Unicode.Composition
import RuleGrammar.Unicode.Identifier
import RuleGrammar.Unicode.Layout
import RuleGrammar.Unicode.Membership
import RuleGrammar.Unicode.Quantity
import RuleGrammar.Unicode.Ranges
import RuleGrammar.Unicode.Script
import RuleGrammar.Unicode.Shaping

/-! Properties of code points and the values they take. A yes-or-no property has two values.
Another one has a value that code points have by default, and further ones. Names are in
capitals, without hyphens, underscores and blanks. -/

namespace RuleGrammar.Unicode

/-- A value that a property takes, and the code points where it does. -/
structure PropertyValue where
  names : List Text
  contains : CodePoint → Bool

/-- A property: its names, the value that stands first, and its other values. -/
structure Property where
  names : List Text
  fallback : PropertyValue
  others : List PropertyValue
  isYesNo : Bool

/-- The texts of some strings. -/
def nameTexts (names : List String) : List Text :=
  names.map Text.ofString

namespace Property

/-- The value of a property that goes by a name. -/
def value? (property : Property) (name : Text) : Option PropertyValue :=
  (property.fallback :: property.others).find? (·.names.contains name)

/-- A property that a code point has or has not. -/
def yesNo (names : List Text) (contains : CodePoint → Bool) : Property where
  names := names
  fallback := ⟨nameTexts ["N", "NO", "F", "FALSE"], fun c => !contains c⟩
  others := [⟨nameTexts ["Y", "YES", "T", "TRUE"], contains⟩]
  isYesNo := true

/-- The first set of a table that holds a code point. Its place says which value it is. -/
def placeIn (sets : List NamedSet) (c : CodePoint) : Option Nat :=
  sets.findIdx? (·.contains c)

/-- A property whose values other than the default one are the sets of a table. A code point
that two sets hold has the value of the first. -/
def ofTable (names fallback : List String) (table : String) : Property :=
  let sets := readTable table
  { names := nameTexts names
    fallback := ⟨nameTexts fallback, fun c => (placeIn sets c).isNone⟩
    others := sets.mapIdx fun place set => ⟨set.names, fun c => placeIn sets c = some place⟩
    isYesNo := false }

end Property

/-! ### General categories and scripts -/

/-- The names of general categories and of groups of them, with the categories meant. -/
def categoryNames : List (List String × List Category) :=
  [(["L", "LETTER", "L&"], [.lu, .ll, .lt, .lm, .lo]), (["LU", "UPPERCASELETTER"], [.lu]),
    (["LL", "LOWERCASELETTER"], [.ll]), (["LT", "TITLECASELETTER"], [.lt]),
    (["LC", "CASEDLETTER"], [.lu, .ll, .lt]), (["LM", "MODIFIERLETTER"], [.lm]),
    (["LO", "OTHERLETTER"], [.lo]), (["M", "MARK", "COMBININGMARK", "M&"], [.mn, .mc, .me]),
    (["MN", "NONSPACINGMARK"], [.mn]), (["MC", "SPACINGMARK"], [.mc]),
    (["ME", "ENCLOSINGMARK"], [.me]), (["N", "NUMBER", "N&"], [.nd, .nl, .no]),
    (["ND", "DECIMALNUMBER", "DIGIT"], [.nd]), (["NL", "LETTERNUMBER"], [.nl]),
    (["NO", "OTHERNUMBER"], [.no]),
    (["P", "PUNCTUATION", "PUNCT", "P&"], [.pc, .pd, .ps, .pe, .pi, .pf, .po]),
    (["PC", "CONNECTORPUNCTUATION"], [.pc]), (["PD", "DASHPUNCTUATION"], [.pd]),
    (["PS", "OPENPUNCTUATION"], [.ps]), (["PE", "CLOSEPUNCTUATION"], [.pe]),
    (["PI", "INITIALPUNCTUATION"], [.pi]), (["PF", "FINALPUNCTUATION"], [.pf]),
    (["PO", "OTHERPUNCTUATION"], [.po]), (["S", "SYMBOL", "S&"], [.sm, .sc, .sk, .so]),
    (["SM", "MATHSYMBOL"], [.sm]), (["SC", "CURRENCYSYMBOL"], [.sc]),
    (["SK", "MODIFIERSYMBOL"], [.sk]), (["SO", "OTHERSYMBOL"], [.so]),
    (["Z", "SEPARATOR", "Z&"], [.zs, .zl, .zp]), (["ZS", "SPACESEPARATOR"], [.zs]),
    (["ZL", "LINESEPARATOR"], [.zl]), (["ZP", "PARAGRAPHSEPARATOR"], [.zp]),
    (["C", "OTHER", "C&"], [.cc, .cf, .cs, .co, .cn]), (["CC", "CONTROL", "CNTRL"], [.cc]),
    (["CF", "FORMAT"], [.cf]), (["CS", "SURROGATE"], [.cs]), (["CO", "PRIVATEUSE"], [.co]),
    (["ASSIGNED"], Category.all.filter (· ≠ .cn))]

/-- The general category. Code points that are not assigned have the default one. -/
def generalCategory : Property where
  names := nameTexts ["GC", "GENERALCATEGORY"]
  fallback := ⟨nameTexts ["CN", "UNASSIGNED"], fun c => c.category = .cn⟩
  others := categoryNames.map fun row => ⟨nameTexts row.1, fun c => row.2.contains c.category⟩
  isYesNo := false

def script : Property :=
  .ofTable ["SC", "SCRIPT"] ["ZZZZ", "UNKNOWN"] scriptTable

def block : Property :=
  .ofTable ["BLK", "BLOCK"] ["NB", "NOBLOCK"] blockTable

/-- The code points with scripts beside or in place of their own. -/
def sharedScripts : List NamedSet :=
  readTable sharedScriptTable

/-- Whether a script uses a code point: as one of those that share it, or as its own. -/
def usedIn (value : PropertyValue) (c : CodePoint) : Bool :=
  match sharedScripts.find? (·.contains c) with
  | some shared => value.names.any shared.names.contains
  | none => value.contains c

/-- The scripts that use a code point, of which there may be several. -/
def scriptExtensions : Property where
  names := nameTexts ["SCX", "SCRIPTEXTENSIONS"]
  fallback := ⟨script.fallback.names, usedIn script.fallback⟩
  others := script.others.map fun value => ⟨value.names, usedIn value⟩
  isYesNo := false

/-! ### Yes-or-no properties -/

def otherAlphabetic : List Stretch :=
  readStretches otherAlphabeticTable

def otherLowercase : List Stretch :=
  readStretches otherLowercaseTable

def otherUppercase : List Stretch :=
  readStretches otherUppercaseTable

def isAlphabetic (c : CodePoint) : Bool :=
  c.isLetterLike || inStretches otherAlphabetic c

def isLowercase (c : CodePoint) : Bool :=
  c.category = .ll || inStretches otherLowercase c

def isUppercase (c : CodePoint) : Bool :=
  c.category = .lu || inStretches otherUppercase c

/-- Code points that leave a mark on paper. -/
def isGraphic (c : CodePoint) : Bool :=
  !c.isWhiteSpace &&
    match c.category with
    | .cc | .cs | .cn => false
    | _ => true

/-- Punctuation and symbols, but no letters. -/
def isMark (c : CodePoint) : Bool :=
  !isAlphabetic c &&
    match c.category with
    | .pc | .pd | .ps | .pe | .pi | .pf | .po | .sm | .sc | .sk | .so => true
    | _ => false

/-- The seven code points that end a line. -/
def isVerticalSpace (c : CodePoint) : Bool :=
  (0x0A ≤ c.value && c.value ≤ 0x0D) || c.value = 0x85 || c.value = 0x2028 || c.value = 0x2029

/-- Code points that are looked past where letters of both cases meet: marks, modifiers, and the
points and quotes that stand inside words. -/
def isCaseIgnorable (c : CodePoint) : Bool :=
  match c.category with
  | .mn | .me | .cf | .lm | .sk => true
  | _ =>
      let n := c.value
      n = 0x27 || n = 0x2E || n = 0x3A || n = 0xB7 || n = 0x387 || n = 0x55F || n = 0x5F4
        || n = 0x2018 || n = 0x2019 || n = 0x2024 || n = 0x2027 || n = 0xFE13 || n = 0xFE52
        || n = 0xFE55 || n = 0xFF07 || n = 0xFF0E || n = 0xFF1A

/-- The properties that a table lists. -/
def memberships : List NamedSet :=
  readTable membershipTable

/-- Whether the property of a name in the table holds of a code point. -/
def isListed (name : String) (c : CodePoint) : Bool :=
  match memberships.find? (·.names.contains (Text.ofString name)) with
  | some set => set.contains c
  | none => false

/-- Code points that begin a written character. -/
def isGraphemeBase (c : CodePoint) : Bool :=
  match c.category with
  | .cc | .cf | .cs | .co | .cn | .zl | .zp => false
  | _ => !isListed "GREXT" c

/-- The yes-or-no properties that follow from other ones. -/
def derivedProperties : List (List String × (CodePoint → Bool)) :=
  [(["WSPACE", "WHITESPACE", "SPACE"], CodePoint.isWhiteSpace),
    (["XIDS", "XIDSTART"], CodePoint.isIdentifierStart),
    (["XIDC", "XIDCONTINUE"], CodePoint.isIdentifierPart),
    (["IDS", "IDSTART"], fun c => c.isOtherStart || (c.isLetterLike && c.value ≠ 0x2E2F)),
    (["IDC", "IDCONTINUE"], fun c => c.isIdentifierPart
      || (c.changesIdentifier && c.value ≠ 0x2E2F)),
    (["ALPHA", "ALPHABETIC"], isAlphabetic),
    (["LOWER", "LOWERCASE"], isLowercase),
    (["UPPER", "UPPERCASE"], isUppercase),
    (["OALPHA", "OTHERALPHABETIC"], inStretches otherAlphabetic),
    (["OLOWER", "OTHERLOWERCASE"], inStretches otherLowercase),
    (["OUPPER", "OTHERUPPERCASE"], inStretches otherUppercase),
    (["CASED"], fun c => isLowercase c || isUppercase c || c.category = .lt),
    (["CI", "CASEIGNORABLE"], isCaseIgnorable),
    (["CWCM", "CHANGESWHENCASEMAPPED"], fun c =>
      isListed "CWL" c || isListed "CWT" c || isListed "CWU" c),
    (["GRBASE", "GRAPHEMEBASE"], isGraphemeBase),
    (["ANY"], fun _ => true),
    (["WORD"], CodePoint.isWord),
    (["ALNUM", "ALPHANUMERIC"], fun c => isAlphabetic c || c.category = .nd),
    (["BLANK"], CodePoint.isHorizontalSpace),
    (["H", "HORIZSPACE"], CodePoint.isHorizontalSpace),
    (["V", "VERTSPACE"], isVerticalSpace),
    (["XDIGIT"], fun c => c.category = .nd || isListed "HEX" c),
    (["POSIXALNUM"], fun c => isAlphabetic c || c.isAsciiDigit),
    (["POSIXDIGIT"], CodePoint.isAsciiDigit),
    (["POSIXPUNCT"], isMark),
    (["POSIXXDIGIT"], fun c => c.hexDigit?.isSome),
    (["GRAPH"], isGraphic),
    (["PRINT"], fun c => isGraphic c || c.category = .zs)]

/-! ### All properties -/

/-- The properties that tables give values to. -/
def tabledProperties : List Property :=
  [.ofTable ["BC", "BIDICLASS"] ["L", "LEFTTORIGHT"] directionTable,
    .ofTable ["CCC", "CANONICALCOMBININGCLASS"] ["NR", "NOTREORDERED", "0"] combiningTable,
    .ofTable ["DT", "DECOMPOSITIONTYPE"] ["NONE"] decompositionTable,
    .ofTable ["EA", "EASTASIANWIDTH"] ["N", "NEUTRAL"] widthTable,
    .ofTable ["GCB", "GRAPHEMECLUSTERBREAK"] ["XX", "OTHER"] graphemeTable,
    .ofTable ["HST", "HANGULSYLLABLETYPE"] ["NA", "NOTAPPLICABLE"] hangulTable,
    .ofTable ["INCB", "INDICCONJUNCTBREAK"] ["NONE"] conjunctTable,
    .ofTable ["INPC", "INDICPOSITIONALCATEGORY"] ["NA"] indicPositionTable,
    .ofTable ["INSC", "INDICSYLLABICCATEGORY"] ["OTHER"] indicSyllableTable,
    .ofTable ["JG", "JOININGGROUP"] ["NOJOININGGROUP"] joiningGroupTable,
    .ofTable ["JT", "JOININGTYPE"] ["U", "NONJOINING"] joiningTypeTable,
    .ofTable ["LB", "LINEBREAK"] ["XX", "UNKNOWN"] lineBreakTable,
    .ofTable ["NT", "NUMERICTYPE"] ["NONE"] numericTypeTable,
    .ofTable ["NV", "NUMERICVALUE"] ["NAN"] numericValueTable,
    .ofTable ["SB", "SENTENCEBREAK"] ["XX", "OTHER"] sentenceTable,
    .ofTable ["WB", "WORDBREAK"] ["XX", "OTHER"] wordTable]

def properties : List Property :=
  [generalCategory, script, scriptExtensions, block] ++ tabledProperties
    ++ derivedProperties.map (fun row => .yesNo (nameTexts row.1) row.2)
    ++ memberships.map fun set => .yesNo set.names set.contains

/-- The property that goes by a name. -/
def property? (name : Text) : Option Property :=
  properties.find? (·.names.contains name)

end RuleGrammar.Unicode
