import AssetLint.Json
import AssetLint.Registry.Builtin
import AssetLint.Registry.File
import AssetLint.Report
import AssetLint.Walk

/-!
A run: load a registry, validate, and write what was found. The text of a run is a banner,
progress lines, and a report; a run in JSON has neither banner nor progress lines, and no report
when a path in it would not be UTF-8. Writing may fail at any byte, but once validation starts it
is carried out to its end.
-/
namespace AssetLint

structure Options where
  /-- Accepted without effect: no file is ever changed. -/
  fix : Bool := false
  verbose : Bool := false
  json : Bool := false
  root : Path := ⟨"."⟩
  /-- A registry file in place of the built-in asset types. -/
  config : Option Path := none
  /-- Files to validate in place of the whole tree. -/
  paths : List Path := []
  deriving DecidableEq, Repr

/-- What a run writes to. It may have room for only so many bytes more. -/
structure Sink where
  written : List UInt8 := []
  room : Option Nat := none
  deriving DecidableEq, Repr

namespace Sink

/-- Takes the bytes there is room for. The error is the sink that is left when some are lost. -/
def writeBytes (sink : Sink) (bytes : List UInt8) : Except Sink Sink :=
  match sink.room with
  | none => .ok { sink with written := sink.written ++ bytes }
  | some room =>
    let after : Sink :=
      { written := sink.written ++ bytes.take room, room := some (room - bytes.length) }
    if bytes.length ≤ room then .ok after else .error after

def write (sink : Sink) (text : String) : Except Sink Sink :=
  sink.writeBytes text.toUTF8.data.toList

/-- Writes texts up to the first that does not fit. -/
def writeAll (sink : Sink) (texts : List String) : Except Sink Sink :=
  texts.foldlM write sink

end Sink

/-- The parts of the text of a run. -/
inductive Part where
  | banner
  | progress
  | report
  deriving DecidableEq, Repr

inductive RunError where
  | noRegistry (file : Path) (error : RegistryError)
  | noBuiltin (error : RegistryError)
  | notWritten (part : Part)
  /-- The report has a path that is not UTF-8. -/
  | notSerialized
  deriving Repr

namespace RunError

def fullSink : String := "sink full"

/-- The messages from the outermost to the innermost cause. -/
def chain : RunError → List String
  | noRegistry file error => ("failed to load registry from " ++ file.text) :: error.chain
  | noBuiltin error => "built-in registry is invalid" :: error.chain
  | notWritten .progress => ["failed to write progress output", fullSink]
  | notWritten _ => [fullSink]
  | notSerialized => ["path contains invalid UTF-8 characters"]

def message (error : RunError) : String :=
  ": ".intercalate error.chain

end RunError

/-- A file named for a run: as it is written if something is there, and under the root if not. -/
def FileSystem.resolveInput (fs : FileSystem) (path root : Path) : Path :=
  if path.isAbsolute || fs.exists? path then path else root.join path

/-- All paths of a summary can be written in JSON. -/
def FileSystem.serializes (fs : FileSystem) (summary : Summary) : Bool :=
  (summary.errors ++ summary.warnings).all fun issue => fs.isUtf8 issue.file

/-- What a run leaves behind. The summary is there when validation was reached. -/
structure RunResult where
  sink : Sink
  summary : Option Summary
  status : Except RunError Nat

namespace Options

def registry (options : Options) (fs : FileSystem) : Except RunError Registry :=
  match options.config with
  | none => Registry.builtin.mapError .noBuiltin
  | some file =>
    let path := fs.resolveInput file options.root
    (Registry.load fs path).mapError (.noRegistry path)

def validate (options : Options) (fs : FileSystem) (registry : Registry) : Summary :=
  if options.paths.isEmpty then registry.validateTree fs options.root
  else
    registry.validatePaths fs options.root
      (options.paths.map fun path => fs.resolveInput path options.root)

def banner (options : Options) : List String :=
  if options.json then [] else ["🔍 Validating asset files...\n\n"]

def progressLine (assetType : AssetType) : String :=
  "Processing " ++ assetType.name ++ "...\n"

/-- One line for every asset type whose directory is walked. -/
def progress (options : Options) (registry : Registry) : List String :=
  if options.verbose && !options.json && options.paths.isEmpty then
    registry.assetTypes.map progressLine
  else []

/-- Writes the line of an asset type. After a line that was lost no more are written. -/
def announce (options : Options) (out : Except Sink Sink) (assetType : AssetType) :
    Except Sink Sink :=
  if options.verbose && !options.json then
    match out with
    | .ok sink => sink.write (progressLine assetType)
    | .error sink => .error sink
  else out

/-- Walks the tree, where each asset type is announced before its walk, or checks the files that
are named. A lost line is known only when everything has been validated. -/
def traverse (options : Options) (fs : FileSystem) (registry : Registry) (sink : Sink) :
    Except Sink Sink × Summary :=
  if options.paths.isEmpty then
    registry.validateTreeWith fs options.root options.announce (.ok sink)
  else (.ok sink, options.validate fs registry)

def report (options : Options) (summary : Summary) : String :=
  if options.json then (Json.ofRun summary).render ++ "\n" else Report.render summary

/-- There is a report: as text always, in JSON if all its paths are UTF-8. -/
def prints (options : Options) (fs : FileSystem) (summary : Summary) : Bool :=
  !options.json || fs.serializes summary

/-- Carries out a run. -/
def run (options : Options) (fs : FileSystem) (sink : Sink) : RunResult :=
  match options.registry fs with
  | .error error => ⟨sink, none, .error error⟩
  | .ok registry =>
    match sink.writeAll options.banner with
    | .error sink => ⟨sink, none, .error (.notWritten .banner)⟩
    | .ok sink =>
      match options.traverse fs registry sink with
      | (.error sink, summary) => ⟨sink, summary, .error (.notWritten .progress)⟩
      | (.ok sink, summary) =>
        if options.prints fs summary then
          match sink.write (options.report summary) with
          | .error sink => ⟨sink, summary, .error (.notWritten .report)⟩
          | .ok sink => ⟨sink, summary, .ok summary.exitCode⟩
        else ⟨sink, summary, .error .notSerialized⟩

section Json

variable {options : Options} (json : options.json = true)
include json

end Json

end Options
end AssetLint
