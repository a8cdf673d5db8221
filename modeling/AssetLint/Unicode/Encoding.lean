import AssetLint.Unicode.Ranges

/-!
UTF-8 by ranges. The encodings of the characters between two bounds are cut into runs that are
the products of one range of bytes for each place.
-/
namespace AssetLint.Unicode

/-- The bytes of a code point. -/
def encode (n : Nat) : List Nat :=
  let trailing (shift : Nat) : Nat := 0x80 + n / shift % 0x40
  if n < 0x80 then [n]
  else if n < 0x800 then [0xC0 + n / 0x40, trailing 1]
  else if n < 0x10000 then [0xE0 + n / 0x1000, trailing 0x40, trailing 1]
  else [0xF0 + n / 0x40000, trailing 0x1000, trailing 0x40, trailing 1]

/-- Where to cut a range so that the first part ends at a bound of the encoding. -/
def lengthCut? (low high : Nat) : Option Nat :=
  [0x7F, 0x7FF, 0xFFFF].find? fun last => low ≤ last && last < high

/-- Where to cut a range, as the last code point of the first part, so that the trailing bytes
run through all their values. -/
def trailingCut? (low high : Nat) : Option Nat :=
  [0x40, 0x1000, 0x40000].findSome? fun size =>
    if low / size = high / size then none
    else if low % size ≠ 0 then some (low - low % size + size - 1)
    else if high % size ≠ size - 1 then some (high - high % size - 1)
    else none

/-- Byte ranges of the encodings, in order. Surrogates have none. Every cut makes a part that
needs no further cut of its kind, so that few rounds are enough. -/
def encodingsWithin : Nat → Nat × Nat → List (List (Nat × Nat))
  | 0, _ => []
  | rounds + 1, (low, high) =>
    let cut (last first : Nat) :=
      encodingsWithin rounds (low, last) ++ encodingsWithin rounds (first, high)
    if high < low then []
    else if low < 0xE000 ∧ 0xD7FF < high then cut 0xD7FF 0xE000
    else
      match lengthCut? low high with
      | some last => cut last (last + 1)
      | none =>
        if high < 0x80 then [[(low, high)]]
        else
          match trailingCut? low high with
          | some last => cut last (last + 1)
          | none => [(encode low).zip (encode high)]

def encodings (range : Nat × Nat) : List (List (Nat × Nat)) :=
  encodingsWithin 16 range

end AssetLint.Unicode
