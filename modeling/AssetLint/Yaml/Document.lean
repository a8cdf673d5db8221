import AssetLint.Yaml.Event.Grammar

/-!
One document of a stream as a list of nodes, with its aliases resolved to positions. An anchor
gets the count of distinct anchor names before it as its number, and the last node with a
number is the one that its aliases stand for.
-/
namespace AssetLint.Yaml

inductive NodeEvent where
  /-- Stands for a stream without documents. -/
  | nothing
  | alias (number : Nat)
  | scalar (tag : Option TagText) (text : String) (style : ScalarStyle)
  | sequenceStart (tag : Option TagText)
  | sequenceEnd
  | mappingStart (tag : Option TagText)
  | mappingEnd
  deriving DecidableEq, Repr

/-- Why reading a document stopped early. -/
inductive DocumentFault where
  | syntactic (fault : Fault)
  | unknownAnchor (place : Mark)
  deriving DecidableEq, Repr

structure Document where
  events : Array (NodeEvent × Mark) := #[]
  /-- Positions of the anchored nodes, the last first. -/
  anchored : List (Nat × Nat) := []
  fault : Option DocumentFault := none

/-- A document being read, with the number of each anchor name. -/
structure DocumentReader where
  reader : EventReader
  document : Document := {}
  names : List (String × Nat) := []

namespace DocumentReader

def add (state : DocumentReader) (event : NodeEvent) (mark : Mark) : DocumentReader :=
  { state with
    document := { state.document with events := state.document.events.push (event, mark) } }

/-- Adds a node and gives its anchor a number. -/
def addNode (state : DocumentReader) (anchor : Option String) (event : NodeEvent) (mark : Mark) :
    DocumentReader :=
  match anchor with
  | none => state.add event mark
  | some name =>
    let number := state.names.length
    let names := (name, number) :: state.names.filter fun entry => entry.1 ≠ name
    let anchored := (number, state.document.events.size) :: state.document.anchored
    { state with names, document := { state.document with anchored } }.add event mark

def stop (state : DocumentReader) (fault : DocumentFault) : DocumentReader :=
  { state with document := { state.document with fault := some fault } }

/-- Reads to the end of a document. Only the first one may be without events. -/
def read (first : Bool) : Nat → DocumentReader → Option DocumentReader
  | 0, state => some state
  | fuel + 1, state =>
    match state.reader.step with
    | .error fault => some (state.stop (.syntactic fault))
    | .ok ((event, mark), reader) =>
      let state := { state with reader }
      match event with
      | .streamEnd =>
        if !first then none
        else if state.document.events.isEmpty then some (state.add .nothing mark)
        else some state
      | .documentStart => read first fuel state
      | .documentEnd => some state
      | .alias name =>
        match state.names.find? fun entry => entry.1 = name with
        | some entry => read first fuel (state.add (.alias entry.2) mark)
        | none => some (state.stop (.unknownAnchor mark))
      | .scalar properties text style =>
        read first fuel (state.addNode properties.anchor (.scalar properties.tag text style) mark)
      | .sequenceStart properties =>
        read first fuel (state.addNode properties.anchor (.sequenceStart properties.tag) mark)
      | .sequenceEnd => read first fuel (state.add .sequenceEnd mark)
      | .mappingStart properties =>
        read first fuel (state.addNode properties.anchor (.mappingStart properties.tag) mark)
      | .mappingEnd => read first fuel (state.add .mappingEnd mark)

end DocumentReader

/-- The first document of a text, and whether anything follows it in the stream. A faulty
document is the last one looked at. -/
def readDocument (text : List Char) : Document × Bool :=
  let fuel := 24 * text.length + 64
  match DocumentReader.read true fuel ⟨EventReader.ofText text, {}, []⟩ with
  | none => ({}, false)
  | some state =>
    let followed := state.document.fault.isNone &&
      (DocumentReader.read false fuel ⟨state.reader, {}, []⟩).isSome
    (state.document, followed)

end AssetLint.Yaml
