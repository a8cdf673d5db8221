import AssetLint.Text.Lines
import AssetLint.Unicode.Ranges
import AssetLint.Yaml.Value

/-!
Values of plain scalars. The first reading that fits wins: null, boolean, integer, float, and
text otherwise.
-/
namespace AssetLint.Yaml

/-- Integers of more than 64 bits that still fit in 128 are no values. -/
inductive PlainInteger where
  | fits (value : Int)
  | tooWide (value : Int)
  deriving DecidableEq, Repr

def readNull (text : String) : Bool :=
  text = "null" || text = "Null" || text = "NULL" || text = "~"

def readBool? (text : String) : Option Bool :=
  if text = "true" ∨ text = "True" ∨ text = "TRUE" then some true
  else if text = "false" ∨ text = "False" ∨ text = "FALSE" then some false
  else none

/-- Drops one leading character of the given ones. -/
def withoutSign (signs : List Char) (text : List Char) : List Char :=
  match text with
  | c :: rest => if signs.contains c then rest else text
  | [] => []

/-- A number with leading zeros and no more than digits is text. -/
def hasLeadingZero (text : List Char) : Bool :=
  let digits := withoutSign ['-', '+'] text
  1 < digits.length && digits.head? = some '0' && digits.all Char.isDigit

def digitsIn? (radix : Nat) (digits : List Char) : Option Nat :=
  if digits.isEmpty then none
  else
    digits.foldl (fun value c => do
      let digit ← Unicode.hexDigit? c
      if digit < radix then return radix * (← value) + digit else none) (some 0)

/-- The digits after `0x`, `0o` or `0b`. -/
def radixDigits? : List Char → Option (Option Nat)
  | '0' :: 'x' :: digits => some (digitsIn? 16 digits)
  | '0' :: 'o' :: digits => some (digitsIn? 8 digits)
  | '0' :: 'b' :: digits => some (digitsIn? 2 digits)
  | _ => none

/-- The magnitude after the sign. -/
def magnitude? (whole digits : List Char) : Option Nat :=
  match radixDigits? digits with
  | some (some n) => some n
  | some none => none
  | none => if hasLeadingZero whole then none else digitsIn? 10 digits

def readInteger? (text : List Char) : Option PlainInteger :=
  match text with
  | '-' :: digits =>
    match magnitude? text digits with
    | some n =>
      if n ≤ Nat.pow 2 63 then some (.fits (-n))
      else if n ≤ Nat.pow 2 127 then some (.tooWide (-n))
      else none
    | none => none
  | _ =>
    match magnitude? text (withoutSign ['+'] text) with
    | some n =>
      if n < Nat.pow 2 64 then some (.fits n)
      else if n < Nat.pow 2 128 then some (.tooWide n)
      else none
    | none => none

/-- Decimals such as `12`, `1.`, `.5` and `1.5e-3`, without a sign. -/
def readDecimal? (text : List Char) : Option (Nat × Int) :=
  let whole := text.takeWhile Char.isDigit
  let rest := text.dropWhile Char.isDigit
  let (fraction, rest) :=
    match rest with
    | '.' :: rest => (rest.takeWhile Char.isDigit, rest.dropWhile Char.isDigit)
    | _ => ([], rest)
  let shift : Int := fraction.length
  match digitsIn? 10 (whole ++ fraction), rest with
  | some digits, [] => some (digits, -shift)
  | some digits, c :: power =>
    if c = 'e' ∨ c = 'E' then
      match power with
      | '-' :: power => (digitsIn? 10 power).map fun n => (digits, -(n : Int) - shift)
      | power => (digitsIn? 10 (withoutSign ['+'] power)).map fun n => (digits, n - shift)
    else none
  | none, _ => none

/-- A finite double, or one of the spellings of infinity and NaN. -/
def readFloat? (text : List Char) : Option Binary64 :=
  let unsigned := withoutSign ['+'] text
  if text.head? = some '+' ∧ (unsigned.head? = some '+' ∨ unsigned.head? = some '-') then none
  else if [".inf", ".Inf", ".INF"].contains (String.ofList unsigned) then some (.infinite false)
  else if ["-.inf", "-.Inf", "-.INF"].contains (String.ofList text) then some (.infinite true)
  else if [".nan", ".NaN", ".NAN"].contains (String.ofList text) then some .nan
  else
    match unsigned with
    | '-' :: digits => do
      let (digits, power) ← readDecimal? digits
      Binary64.ofDecimal? true digits power
    | _ => do
      let (digits, power) ← readDecimal? unsigned
      Binary64.ofDecimal? false digits power

end AssetLint.Yaml
