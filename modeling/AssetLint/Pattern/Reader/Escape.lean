import AssetLint.Pattern.Reader
import AssetLint.Unicode.Ranges

/-!
Escapes after a backslash.
-/
namespace AssetLint.Pattern.Read

def isMeta (c : Char) : Bool :=
  "\\.+*?()|[]\x7b\x7d^$#&-~".toList.contains c

/-- Punctuation of ASCII but the angle brackets may be escaped for no reason. -/
def isEscapable (c : Char) : Bool :=
  isMeta c || (c.toNat ≤ 0x7F && !c.isAlphanum && c ≠ '<' && c ≠ '>')

def controlEscape? : Char → Option Char
  | 'a' => some '\x07'
  | 'f' => some '\x0c'
  | 't' => some '\t'
  | 'n' => some '\n'
  | 'r' => some '\r'
  | 'v' => some '\x0b'
  | _ => none

def scalar? (digits : List Char) : Option Char :=
  match Unicode.hexNumber? digits with
  | some n => if n < 0xD800 ∨ (0xDFFF < n ∧ n ≤ 0x10FFFF) then some (Char.ofNat n) else none
  | none => none

/-- The digits of a number that is not in braces. -/
def fixedHex : Nat → List Char → Read (List Char)
  | 0, taken => return taken
  | count + 1, taken => do
    match ← peek? with
    | none => failHere .escapeUnfinished
    | some c =>
      if (Unicode.hexDigit? c).isNone then failHere .hexDigit
      else
        let _ ← next
        fixedHex count (taken ++ [c])

/-- The digits of a number in braces, with the reader at the first of them. -/
def bracedHex (brace : Nat) : Nat → List Char → Read (List Char)
  | 0, taken => return taken
  | fuel + 1, taken => do
    match ← peek? with
    | none => fail .escapeUnfinished brace (← offset)
    | some c =>
      if c = '\x7d' then return taken
      else if (Unicode.hexDigit? c).isNone then failHere .hexDigit
      else
        let _ ← next
        bracedHex brace fuel (taken ++ [c])

/-- A character by its number, with the reader at the letter after the backslash. -/
def hex (start : Nat) (letter : Char) : Read Literal := do
  if !(← next) then failHere .escapeUnfinished
  else if (← peek?) = some '\x7b' then
    let brace ← offset
    let first := brace + 1
    let _ ← next
    let digits ← bracedHex brace ((← get).rest.length + 1) []
    let stop ← offset
    let _ ← next
    if digits.isEmpty then fail .hexEmpty brace (← offset)
    else
      match scalar? digits with
      | some c => return { span := ⟨start, ← offset⟩, char := c }
      | none => fail .hexInvalid first stop
  else
    let first ← offset
    let count := if letter = 'x' then 2 else if letter = 'u' then 4 else 8
    let digits ← fixedHex count []
    let stop ← offset
    match scalar? digits with
    | some c => return { span := ⟨start, stop⟩, char := c, byte := letter = 'x' }
    | none => fail .hexInvalid first stop

/-- The text in braces after `\p`, with the reader at its first character. -/
def bracedName : Nat → List Char → Read (List Char)
  | 0, taken => return taken
  | fuel + 1, taken => do
    match ← peek? with
    | none => failHere .escapeUnfinished
    | some c =>
      if c = '\x7d' then return taken
      else
        let _ ← next
        bracedName fuel (taken ++ [c])

/-- Cuts at the first place where the separator stands. -/
def cutAt? (separator : List Char) : List Char → Option (List Char × List Char)
  | [] => none
  | c :: rest =>
    if separator.isPrefixOf (c :: rest) then some ([], (c :: rest).drop separator.length)
    else (cutAt? separator rest).map fun (before, after) => (c :: before, after)

/-- The property, and whether its value is one not to have. -/
def propertyName (text : List Char) : Bool × PropertyName :=
  match cutAt? ['!', '='] text with
  | some (name, value) => (true, .valued name value)
  | none =>
    match (cutAt? [':'] text).or (cutAt? ['='] text) with
    | some (name, value) => (false, .valued name value)
    | none => (false, .alone text)

/-- A property class, with the reader at the letter after the backslash. -/
def property (start : Nat) (negated : Bool) : Read Primitive := do
  if !(← next) then failHere .escapeUnfinished
  else
    match ← peek? with
    | some '\x7b' =>
      let _ ← next
      let name ← bracedName ((← get).rest.length + 1) []
      skip 1
      let (otherwise, name) := propertyName name
      return .property ⟨start, ← offset⟩ (negated != otherwise) name
    | some '\\' => failHere .propertyUnreadable
    | some c =>
      let _ ← next
      return .property ⟨start, ← offset⟩ negated (.alone [c])
    | none => failHere .escapeUnfinished

def isBoundaryChar (c : Char) : Bool :=
  c.isAlpha || c = '-'

def boundaryChars : Nat → List Char → Read (List Char)
  | 0, taken => return taken
  | fuel + 1, taken => do
    match ← peek? with
    | some c =>
      if isBoundaryChar c then
        let _ ← next
        boundaryChars fuel (taken ++ [c])
      else return taken
    | none => return taken

/-- A word boundary with a name in braces. Braces without a name belong to a counted
repetition and are left alone. -/
def namedBoundary? (start : Nat) : Read (Option Assertion) := do
  let before ← get
  if (← peek?) ≠ some '\x7b' then return none
  else
    let brace ← offset
    if !(← next) then fail .boundaryUnfinished start (← offset)
    else if !(← peek?).any isBoundaryChar then
      set before
      return none
    else
      let first ← offset
      let name ← boundaryChars ((← get).rest.length + 1) []
      let stop ← offset
      if (← peek?) ≠ some '\x7d' then fail .boundaryUnclosed brace stop
      else
        skip 1
        match String.ofList name with
        | "start" => return some .wordStart
        | "end" => return some .wordEnd
        | "start-half" => return some .wordStartHalf
        | "end-half" => return some .wordEndHalf
        | _ => fail .boundaryUnknown first stop

def shortClass? : Char → Option (Bool × ShortClass)
  | 'd' => some (false, .digit)
  | 'D' => some (true, .digit)
  | 's' => some (false, .blank)
  | 'S' => some (true, .blank)
  | 'w' => some (false, .word)
  | 'W' => some (true, .word)
  | _ => none

/-- Reads an escape, with the reader at its backslash. -/
def escape : Read Primitive := do
  let start ← offset
  skip 1
  match ← peek? with
  | none => fail .escapeUnfinished start (← offset)
  | some c =>
    if c.isDigit then fail .backreference start ((← offset) + 1)
    else if c = 'x' ∨ c = 'u' ∨ c = 'U' then return .literal (← hex start c)
    else if c = 'p' ∨ c = 'P' then property start (c = 'P')
    else
      skip 1
      let span : Span := ⟨start, ← offset⟩
      match shortClass? c, controlEscape? c with
      | some (negated, kind), _ => return .short span negated kind
      | none, some control => return .literal { span, char := control }
      | none, none =>
        if isEscapable c then return .literal { span, char := c }
        else
          match c with
          | 'A' => return .assertion span .textStart
          | 'z' => return .assertion span .textEnd
          | 'B' => return .assertion span .notBoundary
          | '<' => return .assertion span .wordStart
          | '>' => return .assertion span .wordEnd
          | 'b' =>
            match ← namedBoundary? start with
            | some kind => return .assertion ⟨start, ← offset⟩ kind
            | none => return .assertion span .boundary
          | _ => fail .escapeUnknown start span.stop

end AssetLint.Pattern.Read
