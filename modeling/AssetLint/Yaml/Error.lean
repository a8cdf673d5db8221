import AssetLint.Text.Quoted
import AssetLint.Yaml.Document
import AssetLint.Yaml.Value

/-!
Errors of reading a value, with the way to the part of the value that was being read.
-/
namespace AssetLint.Yaml

inductive TrailStep where
  | item (index : Nat)
  | field (key : String)
  /-- A key that is no scalar. -/
  | unnamed
  deriving DecidableEq, Repr

/-- Steps from the part to the whole value, innermost first. -/
abbrev Trail := List TrailStep

namespace Trail

def text : Trail → String
  | [] => "."
  | .item index :: outer => text outer ++ "[" ++ toString index ++ "]"
  | .field key :: [] => key
  | .field key :: outer => text outer ++ "." ++ key
  | .unnamed :: [] => "?"
  | .unnamed :: outer => text outer ++ ".?"

/-- A lead-in for messages; the whole value has none. -/
def lead (trail : Trail) : String :=
  if trail.text = "." then "" else trail.text ++ ": "

end Trail

/-- What stood where something else was expected. -/
inductive Found where
  | unit
  | bool (value : Bool)
  | integer (value : Int)
  | wideInteger (value : Int)
  | float (value : Binary64)
  | string (text : String)
  | sequence
  | mapping
  deriving DecidableEq, Repr

/-- A float here never has an exponent. -/
def plainFloat : Binary64 → String
  | .nan => "NaN"
  | .infinite false => "inf"
  | .infinite true => "-inf"
  | .finite negative mantissa exponent =>
    (⟨none, none⟩ : Decimal.Layout).writeFinite negative mantissa exponent

def codeQuoted (text : String) : String :=
  "`" ++ text ++ "`"

namespace Found

def text : Found → String
  | unit => "unit value"
  | bool value => "boolean " ++ codeQuoted (Value.boolText value)
  | integer value => "integer " ++ codeQuoted (toString value)
  | wideInteger value =>
    "integer " ++ codeQuoted (toString value) ++ if value < 0 then " as i128" else " as u128"
  | float value => "floating point " ++ codeQuoted (plainFloat value)
  | string text => "string " ++ Text.quoted text
  | sequence => "sequence"
  | mapping => "map"

end Found

inductive Complaint where
  | repeatedKey (key : Value)
  | invalidType (found : Found) (expected : String)
  | invalidValue (text : String) (expected : String)
  | missingField (field : String)
  | repeatedField (field : String)
  | unknownField (field : String) (known : List String)
  deriving Repr

def alternatives (names : List String) : String :=
  match names.map codeQuoted with
  | [] => "nothing"
  | [name] => name
  | [first, second] => first ++ " or " ++ second
  | many => "one of " ++ String.intercalate ", " many

def Complaint.text : Complaint → String
  | repeatedKey key =>
    "duplicate entry " ++
      match key with
      | .null => "with null key"
      | .bool value => "with key " ++ codeQuoted (Value.boolText value)
      | .number value => "with key " ++ value.text
      | .string text => "with key " ++ Text.quoted text
      | _ => "in YAML map"
  | invalidType found expected => "invalid type: " ++ found.text ++ ", expected " ++ expected
  | invalidValue text expected =>
    "invalid value: string " ++ Text.quoted text ++ ", expected " ++ expected
  | missingField field => "missing field " ++ codeQuoted field
  | repeatedField field => "duplicate field " ++ codeQuoted field
  | unknownField field known =>
    "unknown field " ++ codeQuoted field ++ ", expected " ++ alternatives known

inductive ReadError where
  | syntactic (fault : Fault)
  | unknownAnchor (place : Mark)
  | tooDeep (place : Mark)
  | tooManyAliases
  | severalDocuments
  | endOfStream
  /-- The place is that of the innermost value around the complaint. -/
  | rejected (complaint : Complaint) (place : Option (Trail × Mark))
  deriving Repr

namespace ReadError

def message : ReadError → String
  | syntactic fault => fault.message
  | unknownAnchor place => "unknown anchor" ++ place.suffix
  | tooDeep place => "recursion limit exceeded" ++ place.suffix
  | tooManyAliases => "repetition limit exceeded"
  | severalDocuments =>
    "deserializing from YAML containing more than one document is not supported"
  | endOfStream => "EOF while parsing a value"
  | rejected complaint none => complaint.text
  | rejected complaint (some (trail, mark)) => trail.lead ++ complaint.text ++ mark.suffix

def ofDocumentFault : DocumentFault → ReadError
  | .syntactic fault => syntactic fault
  | .unknownAnchor place => unknownAnchor place

/-- Gives a complaint its place unless it has one. -/
def located (trail : Trail) (mark : Mark) : ReadError → ReadError
  | rejected complaint none => rejected complaint (some (trail, mark))
  | error => error

end ReadError
end AssetLint.Yaml
