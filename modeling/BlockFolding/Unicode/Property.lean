import BlockFolding.Unicode.Age
import BlockFolding.Unicode.Segmentation

/-
  Looking a property up by name

  Names of properties and of their values are compared loosely: upper and lower case are alike,
  and spaces, `_`, `-` and a leading "is" do not count. A name alone asks for a property that a
  character has or lacks, else for a general category, else for a script; a property with a
  value asks for one of the properties that have values here. A name may be known and still have
  no set: then `unknownProperty` or `unknownValue` says which of the two words failed.
-/

namespace BlockFolding.Unicode

/-- Why a property has no set. -/
inductive LookupFailure where
  | unknownProperty
  | unknownValue
  deriving DecidableEq, Repr

/-- A name without its leading "is", whatever its case. -/
def dropIs : List Char → Option (List Char)
  | i :: s :: rest => if i.toLower = 'i' ∧ s.toLower = 's' then some rest else none
  | _ => none

/-- The ASCII letters, digits and signs of a name that count, in lower case. -/
def looseChars (name : List Char) : List Char :=
  (name.filter fun c => c ≤ '\x7f' && c != ' ' && c != '_' && c != '-').map Char.toLower

/-- The form of a name in which it is compared. "isc" keeps its "is", or it would read as the
one-letter name of a category. -/
def looseName (name : String) : String :=
  match dropIs name.toList with
  | none => String.ofList (looseChars name.toList)
  | some rest =>
    let chars := looseChars rest
    if chars = ['c'] then "isc" else String.ofList chars

/-- The names that stand for a property with values, or for one without a set. -/
def otherPropertyNames : List String := [
  "bc", "bidiclass", "bmg", "bidimirroringglyph", "bpb", "bidipairedbracket", "bpt",
  "bidipairedbrackettype", "blk", "block", "ccc", "canonicalcombiningclass", "ce",
  "compositionexclusion", "cf", "casefolding", "compex", "fullcompositionexclusion", "cwkcf",
  "changeswhennfkccasefolded", "dm", "decompositionmapping", "dt", "decompositiontype", "ea",
  "eastasianwidth", "equideo", "equivalentunifiedideograph", "fcnfkc", "fcnfkcclosure", "hst",
  "hangulsyllabletype", "incb", "indicconjunctbreak", "inpc", "indicpositionalcategory", "insc",
  "indicsyllabiccategory", "isc", "ocomment", "jg", "joininggroup", "jsn", "jamoshortname", "jt",
  "joiningtype", "lb", "linebreak", "lc", "lowercasemapping", "na", "name", "na1",
  "unicode1name", "namealias", "nfcqc", "nfcquickcheck", "nfdqc", "nfdquickcheck", "nfkccf",
  "nfkccasefold", "nfkcqc", "nfkcquickcheck", "nfkcscf", "nfkcsimplecasefold", "nfkdqc",
  "nfkdquickcheck", "nt", "numerictype", "nv", "numericvalue", "scf", "simplecasefolding", "sfc",
  "slc", "simplelowercasemapping", "stc", "simpletitlecasemapping", "suc",
  "simpleuppercasemapping", "tc", "titlecasemapping", "uc", "uppercasemapping", "vo",
  "verticalorientation", "xonfc", "expandsonnfc", "xonfd", "expandsonnfd", "xonfkc",
  "expandsonnfkc", "xonfkd", "expandsonnfkd", "cjkaccountingnumeric", "kaccountingnumeric",
  "cjkothernumeric", "kothernumeric", "cjkprimarynumeric", "kprimarynumeric",
  "cjkcompatibilityvariant", "kcompatibilityvariant", "cjkiicore", "kiicore", "cjkirggsource",
  "kirggsource", "cjkirghsource", "kirghsource", "cjkirgjsource", "kirgjsource",
  "cjkirgkpsource", "kirgkpsource", "cjkirgksource", "kirgksource", "cjkirgmsource",
  "kirgmsource", "cjkirgssource", "kirgssource", "cjkirgtsource", "kirgtsource",
  "cjkirguksource", "kirguksource", "cjkirgusource", "kirgusource", "cjkirgvsource",
  "kirgvsource", "cjkrsunicode", "krsunicode", "unicoderadicalstroke", "urs", "cjkmandarin",
  "kmandarin", "cjktotalstrokes", "ktotalstrokes", "cjkunihancore2020", "kunihancore2020",
  "kehcat", "kehdesc", "kehhg", "kehifao", "kehjsesh", "kehnomirror", "kehnorotate"]

/-- The properties whose values have sets. -/
inductive ValuedProperty where
  | generalCategory
  | script
  | scriptExtensions
  | age
  | graphemeClusterBreak
  | wordBreak
  | sentenceBreak
  deriving DecidableEq, Repr

def ValuedProperty.find? (name : String) : Option ValuedProperty :=
  if name ∈ ["gc", "generalcategory"] then some .generalCategory
  else if name ∈ ["sc", "script"] then some .script
  else if name ∈ ["scx", "scriptextensions"] then some .scriptExtensions
  else if name = "age" then some .age
  else if name ∈ ["gcb", "graphemeclusterbreak"] then some .graphemeClusterBreak
  else if name ∈ ["wb", "wordbreak"] then some .wordBreak
  else if name ∈ ["sb", "sentencebreak"] then some .sentenceBreak
  else none

/-- The characters for which the property has the value of that loose name. -/
def ValuedProperty.chars? (value : String) : ValuedProperty → Option CharSet
  | .generalCategory => Named.find? value Category.table
  | .script => (Script.find? value).map Script.Entry.chars
  | .scriptExtensions => (Script.find? value).map Script.Entry.extended
  | .age => Age.find? value
  | .graphemeClusterBreak => Named.find? value GraphemeBreak.table
  | .wordBreak => Named.find? value WordBreak.table
  | .sentenceBreak => Named.find? value SentenceBreak.table

/-- Whether the loose name is that of some property, with a set or without. -/
def isPropertyName (name : String) : Bool :=
  (Named.find? name Binary.table).isSome || (ValuedProperty.find? name).isSome ||
    otherPropertyNames.contains name

/-- The general category or script that a loose name stands for. "cf", "sc" and "lc" reach this
although they also abbreviate properties. -/
def lookupValueAlone (name : String) : Except LookupFailure CharSet :=
  match Named.find? name Category.table with
  | some chars => .ok chars
  | none =>
    if Category.withoutCharacters.contains name then .error .unknownValue
    else match Script.find? name with
      | some script => .ok script.chars
      | none =>
        if Script.withoutCharacters.contains name then .error .unknownValue
        else .error .unknownProperty

def lookupName (name : String) : Except LookupFailure CharSet :=
  let name := looseName name
  if name ∈ ["cf", "sc", "lc"] then lookupValueAlone name
  else match Named.find? name Binary.table with
    | some chars => .ok chars
    | none => if isPropertyName name then .error .unknownProperty else lookupValueAlone name

/-- The characters for which the named property has the named value. -/
def lookupValue (property value : String) : Except LookupFailure CharSet :=
  let property := looseName property
  if !isPropertyName property then .error .unknownProperty
  else match (ValuedProperty.find? property).bind (·.chars? (looseName value)) with
    | some chars => .ok chars
    | none => .error .unknownValue

end BlockFolding.Unicode
