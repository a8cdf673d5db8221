import AssetLint.Unicode.Addition
import AssetLint.Unicode.Age
import AssetLint.Unicode.BinaryProperty
import AssetLint.Unicode.CaseFolding
import AssetLint.Unicode.GeneralCategory
import AssetLint.Unicode.Script

/-!
Character classes by name. A property name is read loosely: case, blanks, hyphens and
underscores do not count, and neither does a leading `is`.
-/
namespace AssetLint.Unicode

/-- The loose form under which names are compared. -/
def looseName (name : List Char) : List Char :=
  let lowered (rest : List Char) :=
    (rest.filter fun c => c.toNat ≤ 0x7F && c ≠ ' ' && c ≠ '_' && c ≠ '-').map Char.toLower
  match name with
  | i :: s :: rest =>
    if i.toLower = 'i' ∧ s.toLower = 's' then
      match lowered rest with
      | ['c'] => "isc".toList
      | plain => plain
    else lowered name
  | _ => lowered name

/-- Characters of some two-letter categories. -/
def categories (abbreviations : List String) : Ranges :=
  Ranges.normalized <|
    (GeneralCategory.spans.filter fun row => abbreviations.contains row.1).flatMap fun row =>
      Ranges.ofText row.2.2

def surrogates : Ranges := [(0xD800, 0xDFFF)]

/-- Everything without a row in the table of categories. -/
def unassigned : Ranges :=
  Ranges.complement <| Ranges.normalized <|
    surrogates ++ GeneralCategory.spans.flatMap fun row => Ranges.ofText row.2.2

/-- A general category, or a group of categories, under its loose name. -/
def categoryNamed? (name : String) : Option Ranges :=
  match name with
  | "any" => some [(0, lastCode)]
  | "ascii" => some [(0, 0x7F)]
  | "assigned" => some unassigned.complement
  | "cn" | "unassigned" => some unassigned
  | "c" | "other" =>
    some (Ranges.union (categories ["cc", "cf", "co"]) (unassigned ++ surrogates))
  | "l" | "letter" => some (categories ["lu", "ll", "lt", "lm", "lo"])
  | "lc" | "casedletter" => some (categories ["lu", "ll", "lt"])
  | "m" | "mark" | "combiningmark" => some (categories ["mn", "mc", "me"])
  | "n" | "number" => some (categories ["nd", "nl", "no"])
  | "p" | "punctuation" | "punct" =>
    some (categories ["pc", "pd", "ps", "pe", "pi", "pf", "po"])
  | "s" | "symbol" => some (categories ["sm", "sc", "sk", "so"])
  | "z" | "separator" => some (categories ["zs", "zl", "zp"])
  | _ =>
    (GeneralCategory.spans.find? fun row => row.1 = name || row.2.1.contains name).map
      fun row => Ranges.ofText row.2.2

private def rowNamed? (rows : List (List String × String)) (name : String) : Option Ranges :=
  (rows.find? fun row => row.1.contains name).map fun row => Ranges.ofText row.2

def scriptNamed? (name : String) : Option Ranges :=
  rowNamed? Script.spans name

def scriptExtensionNamed? (name : String) : Option Ranges :=
  (rowNamed? Script.extendedSpans name).or (scriptNamed? name)

def binaryNamed? (name : String) : Option Ranges :=
  rowNamed? BinaryProperty.spans name

/-- Everything that was assigned in a version of the standard or earlier. -/
def assignedBy? (version : String) : Option Ranges :=
  let earlier := Age.spans.takeWhile fun row => !row.1.contains version
  (rowNamed? Age.spans version).map fun added =>
    Ranges.normalized (added ++ earlier.flatMap fun row => Ranges.ofText row.2)

/-- The members of a binary property that the table has. -/
def members (property : String) : Ranges :=
  (binaryNamed? property).getD []

/-- Letters, marks, decimal digits, connectors and join controls. -/
def wordRanges : Ranges :=
  Ranges.normalized <|
    members "alphabetic" ++ members "joincontrol" ++ categories ["mn", "mc", "me", "nd", "pc"]

def digitRanges : Ranges :=
  categories ["nd"]

def blankRanges : Ranges :=
  members "whitespace"

private def hiddenRanges : Ranges :=
  Ranges.normalized <|
    categories ["cc", "cf", "co", "zl", "zp", "zs"] ++ unassigned ++
      members "defaultignorablecodepoint"

/-- Marks that extend the character before them; the letters with this property show alone. -/
private def extendingRanges : Ranges :=
  (members "graphemeextend").difference (categories ["lm"])

private def addedRanges : Ranges :=
  (Ranges.ofText Addition.characterText).difference (Ranges.ofText Addition.markText)

/-- Characters that show as themselves on their own: no control, format, private, ignorable,
unassigned or extending character, and of the separators only the space. -/
def showsAlone (c : Char) : Bool :=
  c = ' ' || (c.toNat < 0x7F && 0x20 ≤ c.toNat) || addedRanges.contains c ||
    !(hiddenRanges.contains c || extendingRanges.contains c)

/-- Letters, and other characters that are used as such. -/
def isLetter (c : Char) : Bool :=
  c.isAlpha || (members "alphabetic").contains c ||
    (Ranges.ofText Addition.letterText).contains c

/-- Decimal digits and all other numbers. -/
def isNumber (c : Char) : Bool :=
  c.isDigit || (categories ["nd", "nl", "no"]).contains c ||
    (Ranges.ofText Addition.numberText).contains c

def orbits : List (List Nat) :=
  (Text.splitOn ',' CaseFolding.orbitText.toList).map fun orbit =>
    (words orbit).filterMap hexNumber?

/-- The set with every character that folds together with one of it. -/
def caseFold (ranges : Ranges) : Ranges :=
  let added := orbits.filter fun orbit => orbit.any ranges.holds
  Ranges.normalized (ranges ++ added.flatten.map fun n => (n, n))

end AssetLint.Unicode
