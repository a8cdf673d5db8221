import AssetLint.Decimal.Shortest

/-!
Values of documents. Mappings keep the order of the document; as keys, mappings are compared
without regard to order and numbers by value within their kind.
-/
namespace AssetLint.Yaml

inductive Number where
  | integer (value : Int)
  | float (value : Binary64)
  deriving DecidableEq, Repr

namespace Number

/-- At most 16 digits before the point and four zeros after it; otherwise an exponent. -/
def layout : Decimal.Layout := ⟨some 16, some 4⟩

def text : Number → String
  | integer value => toString value
  | float .nan => ".nan"
  | float (.infinite false) => ".inf"
  | float (.infinite true) => "-.inf"
  | float (.finite negative mantissa exponent) => layout.writeFinite negative mantissa exponent

def same : Number → Number → Bool
  | integer a, integer b => a = b
  | float a, float b => a.same b
  | _, _ => false

/-- Neither zero nor NaN. -/
def isTruthy : Number → Bool
  | integer value => value ≠ 0
  | float .nan => false
  | float value => !value.isZero

end Number

inductive Value where
  | null
  | bool (value : Bool)
  | number (value : Number)
  | string (text : String)
  | sequence (items : List Value)
  | mapping (entries : List (Value × Value))
  | tagged (tag : String) (value : Value)
  deriving Repr

/-- A mapping as its entries in document order. -/
abbrev Mapping := List (Value × Value)

namespace Value

/-- Null, `false`, zero, NaN and the empty string count as absent, whatever their tags. -/
def isTruthy : Value → Bool
  | null => false
  | bool value => value
  | number value => value.isTruthy
  | string text => !text.isEmpty
  | sequence _ => true
  | mapping _ => true
  | tagged _ value => value.isTruthy

/-- A sequence, looking through tags. -/
def isSequence : Value → Bool
  | sequence _ => true
  | tagged _ value => value.isSequence
  | _ => false

def kind : Value → String
  | null => "null"
  | bool _ => "boolean"
  | number _ => "number"
  | string _ => "string"
  | sequence _ => "sequence"
  | mapping _ => "mapping"
  | tagged .. => "tagged value"

def boolText (value : Bool) : String :=
  if value then "true" else "false"

/-- The name of the field that a key stands for. -/
def keyName : Value → String
  | string text => text
  | number value => value.text
  | bool value => boolText value
  | null => "null"
  | value => "<" ++ value.kind ++ ">"

mutual

/-- Equality of keys. -/
def same : Value → Value → Bool
  | null, null => true
  | bool a, bool b => a = b
  | number a, number b => a.same b
  | string a, string b => a = b
  | sequence as, sequence bs => sameItems as bs
  | mapping as, mapping bs => as.length = bs.length && sameEntries as bs
  | tagged s a, tagged t b => s = t && same a b
  | _, _ => false

def sameItems : List Value → List Value → Bool
  | [], [] => true
  | a :: as, b :: bs => same a b && sameItems as bs
  | _, _ => false

/-- Every entry of the first mapping is one of the second. -/
def sameEntries : List (Value × Value) → List (Value × Value) → Bool
  | [], _ => true
  | (k, v) :: rest, entries =>
    (entries.any fun entry => same k entry.1 && same v entry.2) && sameEntries rest entries

end

end Value

namespace Mapping

/-- The value of a string key. -/
def get? (entries : Mapping) (field : String) : Option Value :=
  match entries with
  | [] => none
  | (.string name, value) :: rest => if name = field then some value else Mapping.get? rest field
  | _ :: rest => Mapping.get? rest field

end Mapping
end AssetLint.Yaml
