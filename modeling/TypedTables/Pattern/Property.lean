import TypedTables.Text.AlphabeticTable
import TypedTables.Text.Blank
import TypedTables.Text.Category
import TypedTables.Text.Lowercase
import TypedTables.Text.ScriptTable

/-!
# Character properties by name

A pattern names a property of characters: a general category, a script, or a property that holds
or does not.  Case, spaces, hyphens and underscores of a name do not matter.
-/

namespace TypedTables.Pattern

open TypedTables.Text

/-- A property of characters. -/
inductive Property
  | categories (codes : List String)
  | script (code : String)
  | any
  | ascii
  | assigned
  | alphabetic
  | lowercase
  | uppercase
  | whiteSpace
  | cased
  | caseIgnorable
  deriving Repr, DecidableEq

/-- The general categories with their short and long names, groups of them included. -/
def categoryNames : List (List String × List String) := [
  (["lu", "uppercaseletter"], ["Lu"]), (["ll", "lowercaseletter"], ["Ll"]),
  (["lt", "titlecaseletter"], ["Lt"]), (["lm", "modifierletter"], ["Lm"]),
  (["lo", "otherletter"], ["Lo"]), (["lc", "casedletter", "l&"], ["Lu", "Ll", "Lt"]),
  (["l", "letter"], ["Lu", "Ll", "Lt", "Lm", "Lo"]),
  (["mn", "nonspacingmark"], ["Mn"]), (["mc", "spacingmark"], ["Mc"]),
  (["me", "enclosingmark"], ["Me"]), (["m", "mark", "combiningmark"], ["Mn", "Mc", "Me"]),
  (["nd", "decimalnumber", "digit"], ["Nd"]), (["nl", "letternumber"], ["Nl"]),
  (["no", "othernumber"], ["No"]), (["n", "number"], ["Nd", "Nl", "No"]),
  (["pc", "connectorpunctuation"], ["Pc"]), (["pd", "dashpunctuation"], ["Pd"]),
  (["ps", "openpunctuation"], ["Ps"]), (["pe", "closepunctuation"], ["Pe"]),
  (["pi", "initialpunctuation"], ["Pi"]), (["pf", "finalpunctuation"], ["Pf"]),
  (["po", "otherpunctuation"], ["Po"]),
  (["p", "punctuation", "punct"], ["Pc", "Pd", "Ps", "Pe", "Pi", "Pf", "Po"]),
  (["sm", "mathsymbol"], ["Sm"]), (["sc", "currencysymbol"], ["Sc"]),
  (["sk", "modifiersymbol"], ["Sk"]), (["so", "othersymbol"], ["So"]),
  (["s", "symbol"], ["Sm", "Sc", "Sk", "So"]),
  (["zs", "spaceseparator"], ["Zs"]), (["zl", "lineseparator"], ["Zl"]),
  (["zp", "paragraphseparator"], ["Zp"]), (["z", "separator"], ["Zs", "Zl", "Zp"]),
  (["cc", "control", "cntrl"], ["Cc"]), (["cf", "format"], ["Cf"]),
  (["cs", "surrogate"], ["Cs"]), (["co", "privateuse"], ["Co"]), (["cn", "unassigned"], ["Cn"]),
  (["c", "other"], ["Cc", "Cf", "Cs", "Co", "Cn"])]

/-- Properties that hold or do not, with their names. -/
def plainProperties : List (List String × Property) := [
  (["any"], .any), (["ascii"], .ascii), (["assigned"], .assigned),
  (["alphabetic", "alpha"], .alphabetic), (["lowercase", "lower"], .lowercase),
  (["uppercase", "upper"], .uppercase), (["whitespace", "wspace", "space"], .whiteSpace),
  (["cased"], .cased), (["caseignorable", "ci"], .caseIgnorable)]

/-- A name in small letters without separators. -/
def normalizeName (name : String) : String :=
  String.ofList <| (name.toList.filter fun c => c != '_' && c != '-' && c != ' ').map Char.toLower

/-- The value of the first entry that has a name. -/
def valueNamed? {α : Type} (table : List (List String × α)) (name : String) : Option α :=
  (table.find? (·.1.contains name)).map (·.2)

/-- The general categories with a normalized name. -/
def categoryProperty? (name : String) : Option Property :=
  (valueNamed? categoryNames name).map .categories

def scriptProperty? (name : String) : Option Property :=
  match scriptNames.lookup name with
  | some code => some (.script code)
  | none => ((scriptNames.find? fun entry => entry.2.toLower == name).map (·.2)).map .script

def property? (name : String) : Option Property :=
  let normalized := normalizeName name
  let bare := if normalized.startsWith "is" then (normalized.drop 2).toString else normalized
  [normalized, bare].findSome? fun word =>
    valueNamed? plainProperties word <|> categoryProperty? word <|> scriptProperty? word

/-- The property that takes a value of a named kind. -/
def valuedProperty? (kind value : String) : Option Property :=
  let word := normalizeName value
  match normalizeName kind with
  | "gc" | "generalcategory" =>
    categoryProperty? word <|>
      if ["any", "ascii", "assigned"].contains word then valueNamed? plainProperties word else none
  | "sc" | "script" | "scx" | "scriptextensions" => scriptProperty? word
  | _ => none

def scriptStarts : Array RunStart :=
  unfoldRuns scriptRuns

namespace Property

def holds (c : Char) : Property → Bool
  | categories codes => codes.contains (category c)
  | script code => runCode scriptStarts c.toNat == code
  | any => true
  | ascii => c.toNat < 0x80
  | assigned => category c != "Cn"
  | alphabetic =>
    ["Lu", "Ll", "Lt", "Lm", "Lo", "Nl"].contains (category c) || inRanges otherAlphabetic c.toNat
  | lowercase => isLowercase c
  | uppercase => isUppercase c
  | whiteSpace => isBlank c
  | cased => isCased c
  | caseIgnorable => isCaseIgnorable c

end Property

end TypedTables.Pattern
