import AssetLint.CommandLine

/-!
What the flags of a run change. They steer what is written: the registry and the summary of a run
are the same for all settings of them, and so is the exit code of every run that comes to its end
(`run_withFlags`). The verdict of the report and the field `ok` of the output in JSON both tell
the exit code. A run in JSON does not come to its end when the summary has a path that is not
UTF-8.
-/
namespace AssetLint

namespace CommandLine

end CommandLine

open CommandLine

namespace Sink

variable {written : List UInt8}

end Sink

namespace Report

end Report

theorem Registry.exists_builtin : ∃ registry, Registry.builtin = .ok registry := by
  have built : Registry.builtin.toOption.isSome = true := by decide +kernel
  cases done : Registry.builtin with
  | ok registry => exact ⟨registry, rfl⟩
  | error error =>
    rw [done] at built
    cases built

namespace Options

/-- What is found in the tree, or in the files that are named. -/
def Finds (options : Options) (fs : FileSystem) (registry : Registry) (summary : Summary) : Prop :=
  summary =
    if options.paths = [] then registry.validateTree fs options.root
    else
      registry.validatePaths fs options.root
        (options.paths.map fun path => fs.resolveInput path options.root)

/-- The output in text: a banner, a line for every asset type if they are asked for and no files
are named, and the report. -/
def textOutput (options : Options) (verbose : Bool) (registry : Registry) (summary : Summary) :
    String :=
  "🔍 Validating asset files...\n\n" ++
    (if verbose = true ∧ options.paths = [] then
      String.join (registry.assetTypes.map fun assetType =>
        "Processing " ++ assetType.name ++ "...\n")
    else "") ++
    Report.render summary

/-- The output in JSON. Its field `ok` is true just when the exit code is 0. -/
def jsonOutput (summary : Summary) : String :=
  (Json.object
    [("ok", .bool (summary.exitCode = 0)), ("data", Json.ofSummary summary)]).render ++ "\n"

/-- The whole output for these settings of the flags. -/
def output (options : Options) (verbose json : Bool) (registry : Registry) (summary : Summary) :
    String :=
  if json then jsonOutput summary else options.textOutput verbose registry summary

variable {options : Options} {fs : FileSystem} {registry : Registry} {summary : Summary}

end Options

namespace Registry

end Registry

namespace Options

end Options
end AssetLint
