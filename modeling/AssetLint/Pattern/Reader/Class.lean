import AssetLint.Pattern.Reader.Escape

/-!
Bracketed character classes. Open brackets and pending set operators are kept on a stack.
-/
namespace AssetLint.Pattern

/-- Items next to each other in a class, with their span. -/
structure Union where
  span : Span
  items : List ClassItem

namespace Union

def push (union : Union) (item : ClassItem) : Union :=
  let start := if union.items.isEmpty then item.span.start else union.span.start
  ⟨⟨start, item.span.stop⟩, union.items ++ [item]⟩

def item (union : Union) : ClassItem :=
  match union.items with
  | [] => .empty union.span
  | [single] => single
  | items => .union union.span items

end Union

inductive ClassFrame where
  /-- An open bracket inside the items before it. -/
  | bracket (before : Union) (span : Span) (negated : Bool)
  | operator (operator : ClassOperator) (left : ClassSet)

/-- Members of the named classes of ASCII. -/
def asciiClass? (name : String) : Option (List (Nat × Nat)) :=
  match name with
  | "alnum" => some [(48, 57), (65, 90), (97, 122)]
  | "alpha" => some [(65, 90), (97, 122)]
  | "ascii" => some [(0, 127)]
  | "blank" => some [(9, 9), (32, 32)]
  | "cntrl" => some [(0, 31), (127, 127)]
  | "digit" => some [(48, 57)]
  | "graph" => some [(33, 126)]
  | "lower" => some [(97, 122)]
  | "print" => some [(32, 126)]
  | "punct" => some [(33, 47), (58, 64), (91, 96), (123, 126)]
  | "space" => some [(9, 13), (32, 32)]
  | "upper" => some [(65, 90)]
  | "word" => some [(48, 57), (65, 90), (95, 95), (97, 122)]
  | "xdigit" => some [(48, 57), (65, 70), (97, 102)]
  | _ => none

namespace Read

/-- A class such as `[:alpha:]`; anything else that looks like one is left alone. -/
def asciiClass : Read (Option ClassItem) := do
  let start ← offset
  match (← get).rest with
  | '[' :: ':' :: rest =>
    let (negated, rest) : Bool × List Char :=
      match rest with
      | '^' :: rest => (true, rest)
      | _ => (false, rest)
    let name := rest.takeWhile (· ≠ ':')
    match rest.drop name.length, asciiClass? (String.ofList name) with
    | ':' :: ']' :: _, some members =>
      let stop := start + name.length + if negated then 5 else 4
      skip (stop - start)
      return some (.named ⟨start, stop⟩ negated members)
    | _, _ => return none
  | _ => return none

/-- Literal hyphens at the start of a class. -/
def leadingHyphens (start : Nat) : Nat → Union → Read Union
  | 0, union => return union
  | fuel + 1, union => do
    if (← peek?) = some '-' then
      let place ← offset
      let union := union.push (.literal { span := ⟨place, place + 1⟩, char := '-' })
      if ← next then leadingHyphens start fuel union
      else fail .classUnclosed start start
    else return union

/-- An opening bracket with the items that are literal because they come first. -/
def openBracket : Read ((Span × Bool) × Union) := do
  let start ← offset
  if !(← next) then fail .classUnclosed start (← offset)
  else
    let negated := (← peek?) = some '^'
    if negated then
      if !(← next) then fail .classUnclosed start (← offset)
    let place ← offset
    let union ← leadingHyphens start ((← get).rest.length + 1) ⟨⟨place, place⟩, []⟩
    if union.items.isEmpty ∧ (← peek?) = some ']' then
      let place ← offset
      let union := union.push (.literal { span := ⟨place, place + 1⟩, char := ']' })
      if ← next then return ((⟨start, ← offset⟩, negated), union)
      else fail .classUnclosed start (← offset)
    else return ((⟨start, ← offset⟩, negated), union)

/-- The class was never closed; the innermost open bracket is at fault. -/
def failUnclosed {α : Type} (stack : List ClassFrame) : Read α :=
  let opened := stack.filterMap fun frame =>
    match frame with
    | .bracket _ span _ => some span
    | .operator .. => none
  match opened with
  | span :: _ => fail .classUnclosed span.start span.stop
  | [] => failHere .classUnclosed

def classPrimitive : Read Primitive := do
  match ← peek? with
  | some '\\' => escape
  | some c =>
    let start ← offset
    skip 1
    return .literal { span := ⟨start, start + 1⟩, char := c }
  | none => failHere .classUnclosed

def classItem : Primitive → Read ClassItem
  | .literal written => return .literal written
  | .property span negated name => return .property span negated name
  | .short span negated kind => return .short span negated kind
  | .assertion span _ | .dot span => fail .classEscape span.start span.stop

def classLiteral : Primitive → Read Literal
  | .literal written => return written
  | other => fail .classBoundary other.span.start other.span.stop

/-- The character after the next one, past what does not count between them. -/
def peekPast? : Read (Option Char) := do
  let reader ← get
  let after := reader.rest.drop 1
  if reader.verbose then
    let blankless := after.dropWhile Text.isBlank
    match blankless with
    | '#' :: comment => return (comment.dropWhile Text.isBlank).head?
    | _ => return blankless.head?
  else return after.head?

/-- A single item or a range. -/
def classRange (stack : List ClassFrame) : Read ClassItem := do
  let first ← classPrimitive
  skipIgnorable
  if ← atEnd then failUnclosed stack
  else
    let past ← peekPast?
    if (← peek?) ≠ some '-' ∨ past = some ']' ∨ past = some '-' then classItem first
    else if !(← next) then failUnclosed stack
    else
      let last ← classPrimitive
      let span : Span := ⟨first.span.start, last.span.stop⟩
      let low ← classLiteral first
      let high ← classLiteral last
      if low.char ≤ high.char then return .range span low high
      else fail .classRange span.start span.stop

/-- Applies the operator that waits for its right side. -/
def applyOperator (right : ClassSet) : List ClassFrame → ClassSet × List ClassFrame
  | .operator operator left :: stack =>
    (.binary ⟨left.span.start, right.span.stop⟩ operator left right, stack)
  | stack => (right, stack)

def classOperator? : List Char → Option ClassOperator
  | '&' :: '&' :: _ => some .intersection
  | '-' :: '-' :: _ => some .difference
  | '~' :: '~' :: _ => some .symmetricDifference
  | _ => none

/-- Reads a class to its closing bracket, with the reader inside the innermost open one. -/
def classBody : Nat → List ClassFrame → Union → Read Tree
  | 0, stack, _ => failUnclosed stack
  | fuel + 1, stack, union => do
    skipIgnorable
    match (← get).rest with
    | [] => failUnclosed stack
    | '[' :: _ =>
      match ← asciiClass with
      | some item => classBody fuel stack (union.push item)
      | none =>
        let ((span, negated), inner) ← openBracket
        classBody fuel (.bracket union span negated :: stack) inner
    | ']' :: _ =>
      let (set, stack) := applyOperator (.item union.item) stack
      match stack with
      | .bracket before span negated :: stack =>
        skip 1
        let span : Span := ⟨span.start, ← offset⟩
        if stack.isEmpty then return .bracketed span negated set
        else classBody fuel stack (before.push (.bracketed span negated set))
      | _ => failHere .classUnclosed
    | ahead =>
      match classOperator? ahead with
      | some operator =>
        skip 2
        let (left, stack) := applyOperator (.item union.item) stack
        let place ← offset
        classBody fuel (.operator operator left :: stack) ⟨⟨place, place⟩, []⟩
      | none =>
        let item ← classRange stack
        classBody fuel stack (union.push item)

/-- Reads a class, with the reader at its opening bracket. -/
def bracketed : Read Tree := do
  let ((span, negated), inner) ← openBracket
  let place := span.start
  classBody ((← get).rest.length + 1) [.bracket ⟨⟨place, place⟩, []⟩ span negated] inner

end Read
end AssetLint.Pattern
