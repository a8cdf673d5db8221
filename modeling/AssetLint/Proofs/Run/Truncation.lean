import AssetLint.Proofs.Run.Flags

/-!
A run whose sink has room for so many bytes only. Writing part after part is the same as writing
all parts at once (`Sink.writeBytes_append`), so that the sink is left with the first bytes of the
whole output, wherever the parts meet. A run that has a full output fails just when this is longer
than the room, and its error names the progress lines just when the first byte that is lost is one
of theirs; everything has been validated by then. A run without a full output fails in the same
way whatever the sink takes (`run_truncates`).
-/
namespace AssetLint

open CommandLine

namespace Sink

/-- The sink after writing, whether all was written or not. -/
def left : Except Sink Sink → Sink
  | .ok sink => sink
  | .error sink => sink

end Sink

namespace RunError

end RunError

namespace Options

variable {options : Options} {fs : FileSystem} {registry : Registry} {summary : Summary}

/-- What a run writes in each of its parts. -/
def written (options : Options) (registry : Registry) (summary : Summary) : Part → List UInt8
  | .banner => bytes (String.join options.banner)
  | .progress => bytes (String.join (options.progress registry))
  | .report => bytes (options.report summary)

/-- The parts of the output in the order in which they are written. -/
def whole (options : Options) (registry : Registry) (summary : Summary) : List UInt8 :=
  options.written registry summary .banner ++ options.written registry summary .progress ++
    options.written registry summary .report

/-- The byte of this number, counted from zero, belongs to the part. -/
def FallsIn (options : Options) (registry : Registry) (summary : Summary) (n : Nat) :
    Part → Prop
  | .banner => n < (options.written registry summary .banner).length
  | .progress =>
    (options.written registry summary .banner).length ≤ n ∧
      n < (options.written registry summary .banner).length +
        (options.written registry summary .progress).length
  | .report =>
    (options.written registry summary .banner).length +
        (options.written registry summary .progress).length ≤ n ∧
      n < (options.whole registry summary).length

theorem FallsIn.unique {n : Nat} {part other : Part}
    (left : options.FallsIn registry summary n part)
    (right : options.FallsIn registry summary n other) : part = other := by
  cases part <;> cases other <;> grind [FallsIn]

section Printed

variable (loaded : options.registry fs = .ok registry)
  (found : options.validate fs registry = summary) (prints : options.prints fs summary = true)
include loaded found prints

end Printed

end Options
end AssetLint
