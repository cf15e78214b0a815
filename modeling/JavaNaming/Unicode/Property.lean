import JavaNaming.Unicode.Age
import JavaNaming.Unicode.Binary
import JavaNaming.Unicode.Category
import JavaNaming.Unicode.CharSet
import JavaNaming.Unicode.Script
import JavaNaming.Unicode.Segment

/-!
# Properties by name

`setNamed` finds a set by the name of a two-valued property, a general category or a script.
`setWith` finds the characters for which a property has a given value. Case, spaces, hyphens,
underscores and a leading "is" do not matter in names.

The sets that text processing needs most often have names of their own here: `whiteSpace`,
`alphabetic`, `numeric`, `decimalDigit` and `word`.
-/

namespace JavaNaming.Unicode

/-- Why there is no set for a name. -/
inductive PropertyError where
  | unknownProperty
  | unknownValue
deriving DecidableEq, Repr

/-- A name in the form in which the tables have it. -/
def normalName (name : List Char) : String :=
  let hasIs := match name with
    | i :: s :: _ => i.toLower == 'i' && s.toLower == 's'
    | _ => false
  let letters := (if hasIs then name.drop 2 else name).filterMap fun c =>
    if c == ' ' || c == '_' || c == '-' || c.toNat > 127 then none else some c.toLower
  if hasIs && letters == ['c'] then "isc" else String.ofList letters

/-- The set of an entry. -/
def NamedSet.chars (s : NamedSet) : CharSet := CharSet.ofTable s.ranges

/-- The set of the categories with the given names. -/
def unionOf (table : List NamedSet) (names : List String) : CharSet :=
  names.foldl (fun acc n => ((NamedSet.find? table n).map fun e => acc.union e.chars).getD acc)
    CharSet.empty

/-- The set of a general category, or of several under one name. -/
def category? (name : String) : Option CharSet :=
  match name with
  | "any" => some CharSet.full
  | "assigned" => (NamedSet.find? categories "cn").map (·.chars.complement)
  | "ascii" => some (CharSet.range 0 127)
  | _ =>
    match NamedSet.find? categories name with
    | some e => some e.chars
    | none => (categoryGroups.find? (·.1.contains name)).map fun g => unionOf categories g.2

/-- The category of code points that are no characters. It has a name and no set. -/
def isSurrogate (name : String) : Bool := name == "cs" || name == "surrogate"

/-- The characters that are used with a script, by its entry. -/
def extended (e : NamedSet) : CharSet :=
  if e.names.contains "common" || e.names.contains "inherited" then
    scriptExtensions.foldl (fun acc x => acc.diff x.chars) e.chars
  else
    match e.names.head?.bind (NamedSet.find? scriptExtensions) with
    | some x => e.chars.union x.chars
    | none => e.chars

/-- The characters that the version of an entry and all before it had. -/
def upToAge (name : String) : Option CharSet :=
  if ages.any (·.names.contains name) then
    let before := ages.takeWhile fun e => !e.names.contains name
    let own := (NamedSet.find? ages name).toList
    some ((before ++ own).foldl (fun acc e => acc.union e.chars) CharSet.empty)
  else none

/-- Names of properties that have neither a set of their own nor values that can be asked for. -/
def otherProperties : List String := [
  "bc", "bidiclass", "bidimirroringglyph", "bidipairedbracket", "bidipairedbrackettype", "blk",
  "block", "bmg", "bpb", "bpt", "canonicalcombiningclass", "casefolding", "ccc", "ce", "cf",
  "changeswhennfkccasefolded", "cjkaccountingnumeric", "cjkcompatibilityvariant", "cjkiicore",
  "cjkirggsource", "cjkirghsource", "cjkirgjsource", "cjkirgkpsource", "cjkirgksource",
  "cjkirgmsource", "cjkirgssource", "cjkirgtsource", "cjkirguksource", "cjkirgusource",
  "cjkirgvsource", "cjkothernumeric", "cjkprimarynumeric", "cjkrsunicode", "compex",
  "compositionexclusion", "cwkcf", "decompositionmapping", "decompositiontype", "dm", "dt", "ea",
  "eastasianwidth", "equideo", "equivalentunifiedideograph", "expandsonnfc", "expandsonnfd",
  "expandsonnfkc", "expandsonnfkd", "fcnfkc", "fcnfkcclosure", "fullcompositionexclusion",
  "hangulsyllabletype", "hst", "incb", "indicconjunctbreak", "indicpositionalcategory",
  "indicsyllabiccategory", "inpc", "insc", "isc", "isocomment", "jamoshortname", "jg",
  "joininggroup", "joiningtype", "jsn", "jt", "kaccountingnumeric", "kcompatibilityvariant",
  "kehcat", "kehdesc", "kehhg", "kehifao", "kehjsesh", "kiicore", "kirggsource", "kirghsource",
  "kirgjsource", "kirgkpsource", "kirgksource", "kirgmsource", "kirgssource", "kirgtsource",
  "kirguksource", "kirgusource", "kirgvsource", "kothernumeric", "kprimarynumeric", "krsunicode",
  "lb", "lc", "linebreak", "lowercasemapping", "na", "na1", "name", "namealias", "nfcqc",
  "nfcquickcheck", "nfdqc", "nfdquickcheck", "nfkccasefold", "nfkccf", "nfkcqc", "nfkcquickcheck",
  "nfkcscf", "nfkcsimplecasefold", "nfkdqc", "nfkdquickcheck", "nt", "numerictype", "numericvalue",
  "nv", "scf", "sfc", "simplecasefolding", "simplelowercasemapping", "simpletitlecasemapping",
  "simpleuppercasemapping", "slc", "stc", "suc", "tc", "titlecasemapping", "uc", "unicode1name",
  "unicoderadicalstroke", "uppercasemapping", "urs", "verticalorientation", "vo", "xonfc", "xonfd",
  "xonfkc", "xonfkd"]

/-- Names of the properties that are asked for with a value. -/
def valuedProperties : List String := [
  "gc", "generalcategory", "sc", "script", "scx", "scriptextensions", "age", "gcb",
  "graphemeclusterbreak", "wb", "wordbreak", "sb", "sentencebreak"]

/-- Whether a name is that of a property. -/
def isProperty (name : String) : Bool :=
  (NamedSet.find? binaryProperties name).isSome || otherProperties.contains name ||
    valuedProperties.contains name

/-- The set with the given name. A few short names are those of categories although properties have
them too. -/
def setNamed (name : List Char) : Except PropertyError CharSet :=
  let n := normalName name
  if isProperty n && n != "cf" && n != "sc" && n != "lc" then
    match NamedSet.find? binaryProperties n with
    | some e => .ok e.chars
    | none => .error .unknownProperty
  else
    match category? n with
    | some s => .ok s
    | none =>
      match NamedSet.find? scripts n with
      | some e => .ok e.chars
      | none =>
        if isSurrogate n || emptyScripts.contains n then .error .unknownValue
        else .error .unknownProperty

/-- The characters for which a property has a given value. -/
def setWith (name value : List Char) : Except PropertyError CharSet :=
  let n := normalName name
  let v := normalName value
  let among := fun (found : Option CharSet) =>
    match found with
    | some s => .ok s
    | none => .error .unknownValue
  match n with
  | "gc" | "generalcategory" => among (category? v)
  | "sc" | "script" => among ((NamedSet.find? scripts v).map (·.chars))
  | "scx" | "scriptextensions" => among ((NamedSet.find? scripts v).map extended)
  | "age" => among (upToAge v)
  | "gcb" | "graphemeclusterbreak" => among ((NamedSet.find? graphemeBreaks v).map (·.chars))
  | "wb" | "wordbreak" => among ((NamedSet.find? wordBreaks v).map (·.chars))
  | "sb" | "sentencebreak" => among ((NamedSet.find? sentenceBreaks v).map (·.chars))
  | _ => if isProperty n then .error .unknownValue else .error .unknownProperty

/-- The set with the given name, which is known to be in the tables. -/
def known (name : String) : CharSet :=
  match setNamed name.toList with
  | .ok s => s
  | .error _ => CharSet.empty

/-- Blank characters. -/
def whiteSpace : CharSet := known "White_Space"

/-- Letters and what counts as letters. -/
def alphabetic : CharSet := known "Alphabetic"

/-- Digits and other numbers. -/
def numeric : CharSet := known "Number"

/-- Digits of decimal numbers. -/
def decimalDigit : CharSet := known "Decimal_Number"

/-- Characters of words. -/
def word : CharSet :=
  (((alphabetic.union (known "Mark")).union decimalDigit).union
    (known "Connector_Punctuation")).union (known "Join_Control")

end JavaNaming.Unicode
