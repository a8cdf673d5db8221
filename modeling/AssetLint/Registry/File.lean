import AssetLint.Registry
import AssetLint.Yaml.Decode

/-!
Registry files: a mapping with one list of asset types. A field may be given once, every field
must be known, and a plain empty value stands for an empty list or mapping.
-/
namespace AssetLint.Yaml

/-- What a node is, where something else was expected. -/
def unexpected (event : NodeEvent) (expected : String) : ReadError :=
  match event with
  | .scalar tag text style =>
    match scalarValue expected tag text style with
    | .error complaint => .rejected complaint none
    | .ok value =>
      let found : Found :=
        match value with
        | .null => .unit
        | .bool flag => .bool flag
        | .number (.integer n) => .integer n
        | .number (.float number) => .float number
        | .string text => .string text
        | _ => .unit
      .rejected (.invalidType found expected) none
  | .sequenceStart _ => .rejected (.invalidType .sequence expected) none
  | .mappingStart _ => .rejected (.invalidType .mapping expected) none
  | .nothing | .alias _ | .sequenceEnd | .mappingEnd => .endOfStream

/-- A plain scalar without text, or no document at all. -/
def isVoid : NodeEvent → Bool
  | .nothing => true
  | .scalar _ text style => text.isEmpty && style = .plain
  | _ => false

/-- Reads the text of a scalar, whatever its kind. -/
def scalarNode {α : Type} (expected : String) (accept : String → Except Complaint α)
    (document : Document) : PartDecoder α :=
  document.throughAlias fun trail position => do
    let (event, mark) ← document.eventAt position
    Except.mapError (ReadError.located trail mark) do
      match event with
      | .scalar _ text _ =>
        match accept text with
        | .ok value => return (value, position.forward)
        | .error complaint => .error (.rejected complaint none)
      | event => .error (unexpected event expected)

def textNode (expected : String) : Document → PartDecoder String :=
  scalarNode expected .ok

def listNode {α : Type} (item : Document → PartDecoder α) (document : Document) :
    PartDecoder (List α) :=
  document.throughAlias fun trail position => do
    let (event, mark) ← document.eventAt position
    Except.mapError (ReadError.located trail mark) do
      match event with
      | .sequenceStart _ =>
        document.items (item document) trail (document.events.size + 1) 0 position.forward
      | event =>
        if isVoid event then return ([], position.forward)
        else .error (unexpected event "a sequence")

/-- A field of a record that is being read: whether it has been given, and how to read it. -/
structure RecordField (σ : Type) where
  name : String
  isGiven : σ → Bool
  read : Document → σ → PartDecoder σ

/-- Reads the name of a field. -/
def fieldName {σ : Type} (known : List (RecordField σ)) :
    Document → PartDecoder (RecordField σ) :=
  scalarNode "field identifier" fun name =>
    match known.find? fun field => field.name = name with
    | some field => .ok field
    | none => .error (.unknownField name (known.map RecordField.name))

/-- Reads fields up to the end of a mapping. -/
def fields {σ : Type} (known : List (RecordField σ)) (document : Document) (trail : Trail) :
    Nat → σ → Position → Except ReadError (σ × Position)
  | 0, record, position => .ok (record, position)
  | fuel + 1, record, position => do
    let (event, _) ← document.eventAt position
    match event with
    | .mappingEnd => return (record, position.forward)
    | _ =>
      let step := document.keyStep position
      let (field, position) ← fieldName known document trail position
      if field.isGiven record then .error (.rejected (.repeatedField field.name) none)
      else
        let (record, position) ← field.read document record (step :: trail) position
        fields known document trail fuel record position

/-- Reads a record and checks at its end that nothing is missing. -/
def recordNode {σ α : Type} (expected : String) (known : List (RecordField σ)) (blank : σ)
    (finish : σ → Except Complaint α) (document : Document) : PartDecoder α :=
  document.throughAlias fun trail position => do
    let (event, mark) ← document.eventAt position
    Except.mapError (ReadError.located trail mark) do
      let (record, after) ←
        match event with
        | .mappingStart _ =>
          fields known document trail (document.events.size + 1) blank position.forward
        | event =>
          if isVoid event then .ok (blank, position.forward)
          else .error (unexpected event expected)
      match finish record with
      | .ok value => return (value, after)
      | .error complaint => .error (.rejected complaint none)

def need {α : Type} (name : String) : Option α → Except Complaint α
  | some value => .ok value
  | none => .error (.missingField name)

/-- A field that is stored in an optional part of the record. -/
def field {σ α : Type} (name : String) (get : σ → Option α) (put : σ → α → σ)
    (decode : Document → PartDecoder α) : RecordField σ :=
  { name
    isGiven := fun record => (get record).isSome
    read := fun document record trail position => do
      let (value, after) ← decode document trail position
      return (put record value, after) }

end AssetLint.Yaml

namespace AssetLint.Registry

open Yaml

structure ProbeDraft where
  anyOf : Option (List String) := none
  message : Option String := none

def text : Document → PartDecoder String :=
  textNode "a string"

def probeFields : List (RecordField ProbeDraft) :=
  [field "any_of" ProbeDraft.anyOf (fun draft value => { draft with anyOf := some value })
      (listNode text),
    field "message" ProbeDraft.message (fun draft value => { draft with message := some value })
      text]

def probe : Document → PartDecoder Probe :=
  recordNode "struct ContentProbe" probeFields {} fun draft => do
    let anyOf ← need "any_of" draft.anyOf
    let message ← need "message" draft.message
    return { anyOf, message }

structure SpecDraft where
  name : Option String := none
  directory : Option String := none
  pattern : Option String := none
  required : Option (List String) := none
  optional : Option (List String) := none
  probes : Option (List Probe) := none

def specFields : List (RecordField SpecDraft) :=
  [field "name" SpecDraft.name (fun draft value => { draft with name := some value }) text,
    field "directory" SpecDraft.directory
      (fun draft value => { draft with directory := some value }) (textNode "path string"),
    field "pattern" SpecDraft.pattern (fun draft value => { draft with pattern := some value })
      text,
    field "required_fields" SpecDraft.required
      (fun draft value => { draft with required := some value }) (listNode text),
    field "optional_fields" SpecDraft.optional
      (fun draft value => { draft with optional := some value }) (listNode text),
    field "content_probes" SpecDraft.probes
      (fun draft value => { draft with probes := some value }) (listNode probe)]

def spec : Document → PartDecoder AssetSpec :=
  recordNode "struct AssetTypeSpec" specFields {} fun draft => do
    let name ← need "name" draft.name
    let directory ← need "directory" draft.directory
    let pattern ← need "pattern" draft.pattern
    let required ← need "required_fields" draft.required
    return {
      name, directory := ⟨directory⟩, pattern, required
      optional := draft.optional.getD []
      probes := draft.probes.getD [] }

def fileFields : List (RecordField (Option (List AssetSpec))) :=
  [field "asset_types" id (fun _ value => some value) (listNode spec)]

def specs : Document → PartDecoder (List AssetSpec) :=
  recordNode "struct RegistryFile" fileFields none (need "asset_types")

/-- Reads a registry from a text; the origin names the text in errors. -/
def ofText (text : List Char) (origin : String) : Except RegistryError Registry :=
  match decodeWith specs text with
  | .error reason => .error (.invalidFile origin reason)
  | .ok specs => ofSpecs specs

def load (fs : FileSystem) (path : Path) : Except RegistryError Registry :=
  match fs.readText path with
  | .error error => .error (.io error)
  | .ok text => ofText text path.text

end AssetLint.Registry
