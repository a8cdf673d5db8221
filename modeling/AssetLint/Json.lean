import AssetLint.Summary
import AssetLint.Unicode.Ranges

/-!
The summary of a run as JSON, with two blanks of indentation. Strings escape quotes,
backslashes and control characters, and nothing else.
-/
namespace AssetLint

inductive Json where
  | bool (value : Bool)
  | number (value : Nat)
  | string (text : String)
  | array (items : List Json)
  | object (fields : List (String × Json))

namespace Json

def hexDigit (n : Nat) : Char :=
  Nat.digitChar n

def escapedChar (c : Char) : List Char :=
  match c with
  | '"' => ['\\', '"']
  | '\\' => ['\\', '\\']
  | '\x08' => ['\\', 'b']
  | '\x0c' => ['\\', 'f']
  | '\n' => ['\\', 'n']
  | '\r' => ['\\', 'r']
  | '\t' => ['\\', 't']
  | c =>
    if c.toNat < 0x20 then ['\\', 'u', '0', '0', hexDigit (c.toNat / 16), hexDigit (c.toNat % 16)]
    else [c]

def quoted (text : String) : List Char :=
  '"' :: text.toList.flatMap escapedChar ++ ['"']

def newLine (indent : Nat) : List Char :=
  '\n' :: List.replicate (2 * indent) ' '

mutual

def pretty (indent : Nat) : Json → List Char
  | bool true => "true".toList
  | bool false => "false".toList
  | number value => (toString value).toList
  | string text => quoted text
  | array [] => ['[', ']']
  | array (item :: items) =>
    '[' :: newLine (indent + 1) ++ pretty (indent + 1) item ++ prettyItems (indent + 1) items ++
      newLine indent ++ [']']
  | object [] => ['\x7b', '\x7d']
  | object ((name, value) :: fields) =>
    '\x7b' :: newLine (indent + 1) ++ quoted name ++ [':', ' '] ++ pretty (indent + 1) value ++
      prettyFields (indent + 1) fields ++ newLine indent ++ ['\x7d']

def prettyItems (indent : Nat) : List Json → List Char
  | [] => []
  | item :: items =>
    ',' :: newLine indent ++ pretty indent item ++ prettyItems indent items

def prettyFields (indent : Nat) : List (String × Json) → List Char
  | [] => []
  | (name, value) :: fields =>
    ',' :: newLine indent ++ quoted name ++ [':', ' '] ++ pretty indent value ++
      prettyFields indent fields

end

def ofIssue (issue : Issue) : Json :=
  .object [
    ("file", .string issue.file.text),
    ("kind", .string issue.kind.name),
    ("message", .string issue.message),
    ("severity", .string issue.severity.name)]

def ofSummary (summary : Summary) : Json :=
  .object [
    ("total_files", .number summary.totalFiles),
    ("valid_files", .number summary.validFiles),
    ("error_files", .number summary.errorFiles),
    ("warning_files", .number summary.warningFiles),
    ("errors", .array (summary.errors.map ofIssue)),
    ("warnings", .array (summary.warnings.map ofIssue))]

/-- The whole answer of a run. -/
def ofRun (summary : Summary) : Json :=
  .object [("ok", .bool !summary.hasErrors), ("data", ofSummary summary)]

def render (json : Json) : String :=
  String.ofList (json.pretty 0)

end Json
end AssetLint
