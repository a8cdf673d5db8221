import AssetLint.Yaml.Error
import AssetLint.Yaml.Scalar

/-!
Values from documents. An alias stands for the node of its anchor; collections nest at most
128 deep, and aliases are followed at most a hundred times as often as the document has events.
-/
namespace AssetLint.Yaml

def depthLimit : Nat := 128

/-- Number of the next event, and how many aliases were followed so far. -/
structure Position where
  next : Nat := 0
  jumps : Nat := 0

def Position.forward (position : Position) : Position :=
  { position with next := position.next + 1 }

/-- Reads a part of the document. -/
abbrev PartDecoder (α : Type) := Trail → Position → Except ReadError (α × Position)

namespace Document

def eventAt (document : Document) (position : Position) :
    Except ReadError (NodeEvent × Mark) :=
  match document.events[position.next]? with
  | some event => .ok event
  | none =>
    match document.fault with
    | some fault => .error (.ofDocumentFault fault)
    | none => .error .endOfStream

def target? (document : Document) (number : Nat) : Option Nat :=
  (document.anchored.find? fun entry => entry.1 = number).map Prod.snd

/-- Reads the node of an anchor in place of an alias, and goes on after the alias. -/
def throughAlias {α : Type} (document : Document) (decode : PartDecoder α) : PartDecoder α :=
  fun trail position => do
    let (event, mark) ← document.eventAt position
    match event with
    | .alias number =>
      Except.mapError (ReadError.located trail mark) do
        if document.events.size * 100 < position.jumps + 1 then .error .tooManyAliases
        else
          match document.target? number with
          | none => .error .endOfStream
          | some target =>
            let (value, after) ← decode trail ⟨target, position.jumps + 1⟩
            return (value, ⟨position.next + 1, after.jumps⟩)
    | _ => decode trail position

/-- Reads items up to the end of a sequence. -/
def items {α : Type} (document : Document) (decode : PartDecoder α) (trail : Trail) :
    Nat → Nat → Position → Except ReadError (List α × Position)
  | 0, _, position => .ok ([], position)
  | fuel + 1, index, position => do
    let (event, _) ← document.eventAt position
    match event with
    | .sequenceEnd => return ([], position.forward)
    | _ =>
      let (value, position) ← decode (.item index :: trail) position
      let (rest, position) ← items document decode trail fuel (index + 1) position
      return (value :: rest, position)

/-- The step from a mapping to the value of the key at a position. -/
def keyStep (document : Document) (position : Position) : TrailStep :=
  match document.events[position.next]? with
  | some (.scalar _ text _, _) => .field text
  | _ => .unnamed

/-- Reads entries up to the end of a mapping. A repeated key is refused before its value is
read. -/
def entries (document : Document) (decode : PartDecoder Value) (trail : Trail) :
    Nat → Mapping → Position → Except ReadError (Mapping × Position)
  | 0, earlier, position => .ok (earlier, position)
  | fuel + 1, earlier, position => do
    let (event, _) ← document.eventAt position
    match event with
    | .mappingEnd => return (earlier, position.forward)
    | _ =>
      let step := document.keyStep position
      let (key, position) ← decode trail position
      match earlier.find? fun entry => entry.1.same key with
      | some entry => .error (.rejected (.repeatedKey entry.1) none)
      | none =>
        let (value, position) ← decode (step :: trail) position
        entries document decode trail fuel (earlier ++ [(key, value)]) position

end Document

def anyValue : String := "any YAML value"

def integerValue : PlainInteger → Except Found Value
  | .fits value => .ok (.number (.integer value))
  | .tooWide value => .error (.wideInteger value)

/-- The value of a plain scalar without a tag. -/
def plainValue (text : String) : Except Found Value :=
  if text.isEmpty || readNull text then .ok .null
  else
    match readBool? text, readInteger? text.toList with
    | some value, _ => .ok (.bool value)
    | none, some integer => integerValue integer
    | none, none =>
      if hasLeadingZero text.toList then .ok (.string text)
      else
        match readFloat? text.toList with
        | some value => .ok (.number (.float value))
        | none => .ok (.string text)

def coreTag (name : String) : TagText :=
  textBytes ("tag:yaml.org,2002:" ++ name)

/-- The value of a scalar: standard tags fix the kind, a local tag leaves a plain scalar as it
would be without one, and any other tag makes it text. -/
def scalarValue (expected : String) (tag : Option TagText) (text : String) (style : ScalarStyle) :
    Except Complaint Value :=
  let plain := (plainValue text).mapError fun found => .invalidType found expected
  match tag with
  | none => if style = .plain then plain else .ok (.string text)
  | some tag =>
    if tag = coreTag "bool" then
      match readBool? text with
      | some value => .ok (.bool value)
      | none => .error (.invalidValue text "a boolean")
    else if tag = coreTag "int" then
      match readInteger? text.toList with
      | some integer => (integerValue integer).mapError fun found => .invalidType found expected
      | none => .error (.invalidValue text "an integer")
    else if tag = coreTag "float" then
      match readFloat? text.toList with
      | some value => .ok (.number (.float value))
      | none => .error (.invalidValue text "a float")
    else if tag = coreTag "null" then
      if readNull text then .ok .null else .error (.invalidValue text "null")
    else if tag.head? = some 33 ∧ style = .plain then plain
    else .ok (.string text)

/-- Drops an exclamation mark that is not all there is. -/
def dropBang (name : TagText) : TagText :=
  if name.head? = some 33 ∧ 1 < name.length then name.drop 1 else name

/-- The name of a local tag, which is the same with one exclamation mark and with two before
it. A lone exclamation mark is its own name. -/
def localTag? (tag : Option TagText) : Option String := do
  let bytes ← tag
  if bytes.head? = some 33 then String.fromUTF8? ⟨(dropBang (dropBang bytes)).toArray⟩ else none

/-- Puts a value under the local tag of its node, whose name is shown after an exclamation
mark. -/
def underTag (tag : Option TagText) (value : Value) : Value :=
  match localTag? tag with
  | some name => .tagged ("!" ++ name) value
  | none => value

namespace Document

/-- Reads a value that is no alias, with a decoder for what is in it. There is none where no more
collections may be nested. -/
def contentWith (document : Document) (inner : Option (PartDecoder Value)) : PartDecoder Value :=
  fun trail position => do
    let (event, mark) ← document.eventAt position
    let after := position.forward
    Except.mapError (ReadError.located trail mark) do
      match event with
      | .nothing => return (.null, after)
      | .scalar tag text style =>
        let kindTag := if (localTag? tag).isSome then none else tag
        match scalarValue anyValue kindTag text style with
        | .ok value => return (underTag tag value, after)
        | .error complaint => .error (.rejected complaint none)
      | .sequenceStart tag =>
        match inner with
        | none => .error (.tooDeep mark)
        | some decode =>
          let (values, after) ← document.items decode trail (document.events.size + 1) 0 after
          return (underTag tag (.sequence values), after)
      | .mappingStart tag =>
        match inner with
        | none => .error (.tooDeep mark)
        | some decode =>
          let (entries, after) ←
            document.entries decode trail (document.events.size + 1) [] after
          return (underTag tag (.mapping entries), after)
      | .alias _ | .sequenceEnd | .mappingEnd => .error .endOfStream

/-- Reads a value that is no alias, with so many levels of collections left. -/
def content (document : Document) : Nat → PartDecoder Value
  | 0 => document.contentWith none
  | depth + 1 => document.contentWith (some (document.throughAlias (document.content depth)))

end Document

/-- Reads the only document of a text with a decoder. What the decoder rejects is reported
before faults further on, and those before a second document. -/
def decodeWith {α : Type} (decode : Document → PartDecoder α) (text : List Char) :
    Except ReadError α := do
  let (document, followed) := readDocument text
  let (value, _) ← decode document [] {}
  match document.fault with
  | some fault => .error (.ofDocumentFault fault)
  | none => if followed then .error .severalDocuments else return value

def decodeValue (text : List Char) : Except ReadError Value :=
  decodeWith (fun document => document.throughAlias (document.content depthLimit)) text

end AssetLint.Yaml
