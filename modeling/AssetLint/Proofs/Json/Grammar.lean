import AssetLint.Json

/-!
The grammar of documents in JSON, for the values that reports are made of: there is no null, and
numbers have no sign, fraction or exponent. Blanks may stand between all parts, and a character of
a string may be escaped in each way that the format knows. What is printed is in the grammar, with
every indentation (`spells_pretty`).
-/
namespace AssetLint.Json

open Unicode

def blanks : List Char :=
  [' ', '\t', '\n', '\r']

def Blank (text : List Char) : Prop :=
  ∀ c ∈ text, c ∈ blanks

/-- The letters that stand for a character after a backslash. -/
def shortEscapes : List (Char × Char) :=
  [('"', '"'), ('\\', '\\'), ('/', '/'), ('b', '\x08'), ('f', '\x0c'), ('n', '\n'), ('r', '\r'),
    ('t', '\t')]

/-- The surrogates that a character above the first plane is split into. -/
def surrogates (c : Char) : Nat × Nat :=
  (0xD800 + (c.toNat - 0x10000) / 0x400, 0xDC00 + (c.toNat - 0x10000) % 0x400)

/-- The spellings of a character in a string. -/
inductive SpellsChar : Char → List Char → Prop where
  | self {c : Char} (printable : 0x20 ≤ c.toNat) (inside : c ≠ '"') (plain : c ≠ '\\') :
      SpellsChar c [c]
  | short {c letter : Char} (listed : (letter, c) ∈ shortEscapes) : SpellsChar c ['\\', letter]
  | unit {c d₁ d₂ d₃ d₄ : Char} (number : hexNumber? [d₁, d₂, d₃, d₄] = some c.toNat) :
      SpellsChar c ['\\', 'u', d₁, d₂, d₃, d₄]
  | pair {c d₁ d₂ d₃ d₄ e₁ e₂ e₃ e₄ : Char} (above : 0x10000 ≤ c.toNat)
      (high : hexNumber? [d₁, d₂, d₃, d₄] = some (surrogates c).1)
      (low : hexNumber? [e₁, e₂, e₃, e₄] = some (surrogates c).2) :
      SpellsChar c ['\\', 'u', d₁, d₂, d₃, d₄, '\\', 'u', e₁, e₂, e₃, e₄]

/-- The spellings of a text between the quotes of a string. -/
inductive SpellsText : List Char → List Char → Prop where
  | nil : SpellsText [] []
  | cons {c : Char} {rest first spelling : List Char} (here : SpellsChar c first)
      (after : SpellsText rest spelling) : SpellsText (c :: rest) (first ++ spelling)

/-- What a piece of a document stands for. -/
inductive Part where
  | value (json : Json)
  /-- A value between blanks. A whole document is one. -/
  | item (json : Json)
  | items (items : List Json)
  | field (name : String) (json : Json)
  | fields (fields : List (String × Json))

inductive Spells : Part → List Char → Prop where
  | boolTrue : Spells (.value (.bool true)) ['t', 'r', 'u', 'e']
  | boolFalse : Spells (.value (.bool false)) ['f', 'a', 'l', 's', 'e']
  | number (n : Nat) : Spells (.value (.number n)) (Nat.toDigits 10 n)
  | string {text : String} {inner : List Char} (spelled : SpellsText text.toList inner) :
      Spells (.value (.string text)) ('"' :: inner ++ ['"'])
  | emptyArray {inside : List Char} (blank : Blank inside) :
      Spells (.value (.array [])) ('[' :: inside ++ [']'])
  | array {items : List Json} {inside : List Char} (spelled : Spells (.items items) inside) :
      Spells (.value (.array items)) ('[' :: inside ++ [']'])
  | emptyObject {inside : List Char} (blank : Blank inside) :
      Spells (.value (.object [])) ('\x7b' :: inside ++ ['\x7d'])
  | object {fields : List (String × Json)} {inside : List Char}
      (spelled : Spells (.fields fields) inside) :
      Spells (.value (.object fields)) ('\x7b' :: inside ++ ['\x7d'])
  | item {json : Json} {before text after : List Char} (start : Blank before)
      (spelled : Spells (.value json) text) (stop : Blank after) :
      Spells (.item json) (before ++ text ++ after)
  | lastItem {json : Json} {text : List Char} (spelled : Spells (.item json) text) :
      Spells (.items [json]) text
  | nextItem {json : Json} {items : List Json} {text rest : List Char}
      (spelled : Spells (.item json) text) (following : Spells (.items items) rest) :
      Spells (.items (json :: items)) (text ++ ',' :: rest)
  | field {name : String} {json : Json} {before inner after text : List Char}
      (start : Blank before) (named : SpellsText name.toList inner) (stop : Blank after)
      (spelled : Spells (.item json) text) :
      Spells (.field name json) (before ++ '"' :: inner ++ '"' :: after ++ ':' :: text)
  | lastField {name : String} {json : Json} {text : List Char}
      (spelled : Spells (.field name json) text) : Spells (.fields [(name, json)]) text
  | nextField {name : String} {json : Json} {fields : List (String × Json)}
      {text rest : List Char} (spelled : Spells (.field name json) text)
      (following : Spells (.fields fields) rest) :
      Spells (.fields ((name, json) :: fields)) (text ++ ',' :: rest)

theorem blank_nil : Blank [] :=
  fun _ member => absurd member List.not_mem_nil

theorem blank_newLine (indent : Nat) : Blank (newLine indent) := by
  intro c member
  rcases List.mem_cons.1 member with rfl | member
  · decide
  · rw [List.eq_of_mem_replicate member]
    decide

theorem blank_space : Blank [' '] := by
  intro c member
  rw [List.mem_singleton.1 member]
  decide

theorem hexNumber?_control : ∀ n < 32,
    hexNumber? ['0', '0', hexDigit (n / 16), hexDigit (n % 16)] = some n := by
  decide

theorem spellsChar_escapedChar (c : Char) : SpellsChar c (escapedChar c) := by
  unfold escapedChar
  split
  · exact .short (by decide)
  · exact .short (by decide)
  · exact .short (by decide)
  · exact .short (by decide)
  · exact .short (by decide)
  · exact .short (by decide)
  · exact .short (by decide)
  · next inside plain _ _ _ _ _ =>
    split
    · next control => exact .unit (hexNumber?_control c.toNat control)
    · next printable => exact .self (Nat.le_of_not_lt printable) inside plain

theorem spellsText_escaped (text : List Char) : SpellsText text (text.flatMap escapedChar) := by
  induction text with
  | nil => exact .nil
  | cons c rest ih => exact .cons (spellsChar_escapedChar c) ih

mutual

theorem spells_pretty (indent : Nat) : (json : Json) → Spells (.value json) (json.pretty indent)
  | bool true => .boolTrue
  | bool false => .boolFalse
  | number n => by
    rw [pretty, Nat.toString_eq_repr, Nat.toList_repr]
    exact .number n
  | string text => .string (spellsText_escaped text.toList)
  | array [] => .emptyArray blank_nil
  | array (item :: items) => by
    have inside := spells_prettyItems (indent + 1) items (blank_newLine (indent + 1))
      (spells_pretty (indent + 1) item) (blank_newLine indent)
    simpa [pretty] using Spells.array inside
  | object [] => .emptyObject blank_nil
  | object ((name, value) :: fields) => by
    have inside := spells_prettyFields (indent + 1) fields (blank_newLine (indent + 1)) name
      (spells_pretty (indent + 1) value) (blank_newLine indent)
    simpa [pretty, quoted] using Spells.object inside

/-- The items that follow one. The grammar counts a comma to the item before it, and the printer to
the one after it, so the statement begins with an item that is already spelled. -/
theorem spells_prettyItems (indent : Nat) : (items : List Json) →
    ∀ {item : Json} {before text after : List Char}, Blank before → Spells (.value item) text →
      Blank after →
      Spells (.items (item :: items)) (before ++ text ++ prettyItems indent items ++ after)
  | [], _, _, _, _, start, spelled, stop => by
    simpa [prettyItems] using Spells.lastItem (.item start spelled stop)
  | next :: items, _, _, _, _, start, spelled, stop => by
    have following := spells_prettyItems indent items (blank_newLine indent)
      (spells_pretty indent next) stop
    simpa [prettyItems] using Spells.nextItem (.item start spelled blank_nil) following

theorem spells_prettyFields (indent : Nat) : (fields : List (String × Json)) →
    ∀ {before after : List Char}, Blank before → (name : String) → ∀ {value : Json}
      {text : List Char}, Spells (.value value) text → Blank after →
      Spells (.fields ((name, value) :: fields))
        (before ++ quoted name ++ [':', ' '] ++ text ++ prettyFields indent fields ++ after)
  | [], _, _, start, name, _, _, spelled, stop => by
    have field := Spells.field start (spellsText_escaped name.toList) blank_nil
      (.item blank_space spelled stop)
    simpa [prettyFields, quoted] using Spells.lastField field
  | (next, value) :: fields, _, _, start, name, _, _, spelled, stop => by
    have field := Spells.field start (spellsText_escaped name.toList) blank_nil
      (.item blank_space spelled blank_nil)
    have following := spells_prettyFields indent fields (blank_newLine indent) next
      (spells_pretty indent value) stop
    simpa [prettyFields, quoted] using Spells.nextField field following

end

end AssetLint.Json
