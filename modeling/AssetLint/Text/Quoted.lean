import AssetLint.Unicode.Class

/-!
Text between double quotes for messages. Quotes, backslashes and the usual controls have
short escapes; any other character that does not show on its own is written by its number.
-/
namespace AssetLint.Text

/-- Lower-case hexadecimal digits without leading zeros. -/
def hexText (n : Nat) : List Char :=
  Nat.toDigits 16 n

def quotedChar (c : Char) : List Char :=
  match c with
  | '\x00' => ['\\', '0']
  | '\t' => ['\\', 't']
  | '\r' => ['\\', 'r']
  | '\n' => ['\\', 'n']
  | '"' => ['\\', '"']
  | '\\' => ['\\', '\\']
  | c =>
    if Unicode.showsAlone c then [c]
    else ['\\', 'u', '\x7b'] ++ hexText c.toNat ++ ['\x7d']

def quoted (text : String) : String :=
  String.ofList ('"' :: text.toList.flatMap quotedChar ++ ['"'])

end AssetLint.Text
