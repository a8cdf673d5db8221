import AssetLint.Proofs.FileSystem.Reachable
import AssetLint.Proofs.Registry.Construction
import AssetLint.Proofs.Registry.ExitStatus

/-!
The type that a file is checked against, in a run over the tree and by its path. The tree run
gives a type the files below its directory; by its path a file goes to the first type whose
directory holds it. Names of types are distinct, so the two agree on a file just when no type
declared before has a directory around it.
-/
namespace AssetLint

theorem Summary.exitCode_recordFile_empty (outcome : Outcome) :
    (Summary.empty.recordFile outcome).exitCode = 0 ↔ outcome.isValid = true := by
  rw [recordFile_eq]
  simp [exitCode, hasErrors, empty, Outcome.isValid]

namespace AssetType

variable {assetType : AssetType} {fs : FileSystem} {root : Path}

/-- A recorded file is below the root, and its outcome is that of its path. -/
def ChecksBelow (assetType : AssetType) (fs : FileSystem) (root : Path) : Visit → Prop
  | .file _ _ outcome =>
    outcome.path.startsWith root = true ∧ outcome = assetType.validateFile fs outcome.path
  | .listed .. | .known .. | .warning _ => True

theorem checksBelow_visits (formed : fs.WellFormed) :
    ∀ visit ∈ assetType.visits fs root, assetType.ChecksBelow fs root visit := by
  refine visits_cases (fun _ _ _ => trivial) fun present => ?_
  -- Every path that the walk comes to is that of its root with file names joined to it, which
  -- keeps the components of the root in front.
  refine visits_induction (R := fun path => path.startsWith root = true) ?entry
    (fun _ _ _ _ _ _ => trivial) (fun _ _ _ _ => trivial) (fun _ _ _ _ _ _ => trivial) ?file
    present (Path.startsWith_self root) []
  case entry =>
    intro path location entries below _ listing inner member
    obtain ⟨name, given, rfl⟩ := mem_sortedEntries.1 member
    have proper := formed.isFileName (FileSystem.mem_namesAt_of_listAt listing given)
    exact Path.startsWith_join proper below
  case file =>
    intro _ path _ below _ _
    have same := path_validateFile assetType fs path
    exact ⟨by rw [same]; exact below, by rw [same]⟩

theorem checksBelow_outcomes (formed : fs.WellFormed) :
    ∀ outcome ∈ assetType.outcomes fs root, outcome.path.startsWith root = true ∧
      outcome = assetType.validateFile fs outcome.path := by
  intro outcome member
  obtain ⟨directory, name, inside⟩ := exists_file_of_mem_outcomes member
  exact checksBelow_visits formed _ inside

end AssetType

namespace Registry

variable {registry : Registry} {assetType : AssetType} {root path : Path}

/-- The types declared before a type. -/
def earlier (registry : Registry) (assetType : AssetType) : List AssetType :=
  registry.assetTypes.takeWhile fun other => other.name ≠ assetType.name

theorem not_mem_earlier : assetType ∉ registry.earlier assetType := by
  intro member
  have differs := List.all_eq_true.1 List.all_takeWhile assetType member
  simp at differs

/-- The declared types are those before the type, the type itself, and those after it. -/
theorem exists_earlier_append (distinct : (registry.assetTypes.map AssetType.name).Nodup)
    (member : assetType ∈ registry.assetTypes) :
    ∃ later, registry.assetTypes = registry.earlier assetType ++ assetType :: later := by
  unfold earlier
  generalize registry.assetTypes = types at distinct member
  induction types with
  | nil => cases member
  | cons first rest ih =>
    obtain ⟨apart, others⟩ := List.nodup_cons.1 distinct
    rcases List.mem_cons.1 member with rfl | inside
    · exact ⟨rest, by simp⟩
    · have differs : first.name ≠ assetType.name := by
        intro same
        exact apart (same ▸ List.mem_map_of_mem inside)
      obtain ⟨later, shape⟩ := ih others inside
      refine ⟨later, ?_⟩
      rw [List.takeWhile_cons, if_pos (by simpa using differs), List.cons_append, ← shape]

/-- A path in the directory of a type goes to the first type before it that holds the path, and
otherwise to the type. -/
theorem resolve_of_holds (distinct : (registry.assetTypes.map AssetType.name).Nodup)
    (member : assetType ∈ registry.assetTypes) (held : holds root assetType path = true) :
    registry.resolve root path =
      some (((registry.earlier assetType).find? fun other => holds root other path).getD
        assetType) := by
  obtain ⟨later, shape⟩ := exists_earlier_append distinct member
  have first : registry.assetTypes.find? (fun other => holds root other path) =
      some (((registry.earlier assetType).find? fun other => holds root other path).getD
        assetType) := by
    rw [shape, List.find?_append, List.find?_cons, held]
    cases (registry.earlier assetType).find? fun other => holds root other path <;> rfl
  rw [resolve, first]

theorem resolve_eq_iff (distinct : (registry.assetTypes.map AssetType.name).Nodup)
    (member : assetType ∈ registry.assetTypes) (held : holds root assetType path = true) :
    registry.resolve root path = some assetType ↔
      ∀ other ∈ registry.earlier assetType, holds root other path = false := by
  rw [resolve_of_holds distinct member held, Option.some.injEq]
  cases found : (registry.earlier assetType).find? fun other => holds root other path with
  | none => simpa using found
  | some other =>
    have inside := List.mem_of_find?_eq_some found
    have around := List.find?_some found
    constructor
    · intro same
      rw [Option.getD_some] at same
      exact absurd (same ▸ inside) not_mem_earlier
    · intro apart
      rw [apart other inside] at around
      cases around

theorem mem_dispatched {fs : FileSystem} {outcome : Outcome} :
    (assetType, outcome) ∈ registry.dispatched fs root ↔
      assetType ∈ registry.assetTypes ∧
        outcome ∈ assetType.outcomes fs (root.join assetType.directory) := by
  simp only [dispatched, List.mem_flatMap, List.mem_map, Prod.mk.injEq]
  constructor
  · rintro ⟨other, declared, recorded, inside, rfl, rfl⟩
    exact ⟨declared, inside⟩
  · rintro ⟨declared, inside⟩
    exact ⟨assetType, declared, outcome, inside, rfl, rfl⟩

/-- A file that the tree run checks against a type is by its path checked against the first
type whose directory holds it. Where none is declared before, that is the same type, and the
outcome is the same. -/
theorem resolve_dispatched {specs : List AssetSpec} (accepted : ofSpecs specs = .ok registry)
    {fs : FileSystem} (formed : fs.WellFormed) {outcome : Outcome}
    (checked : (assetType, outcome) ∈ registry.dispatched fs root) :
    registry.resolve root outcome.path =
        some (((registry.earlier assetType).find? fun other =>
          holds root other outcome.path).getD assetType) ∧
      (registry.resolve root outcome.path = some assetType ↔
        ∀ other ∈ registry.earlier assetType, holds root other outcome.path = false) ∧
      (registry.resolve root outcome.path = some assetType →
        registry.validatePaths fs root [outcome.path] = Summary.empty.recordFile outcome ∧
          ((registry.validatePaths fs root [outcome.path]).exitCode = 0 ↔
            outcome.isValid = true)) := by
  obtain ⟨member, inside⟩ := mem_dispatched.1 checked
  obtain ⟨below, same⟩ := AssetType.checksBelow_outcomes formed outcome inside
  have distinct := nodup_names_of_ofSpecs accepted
  have held : holds root assetType outcome.path = true := by simp [holds, below]
  refine ⟨resolve_of_holds distinct member held, resolve_eq_iff distinct member held, ?_⟩
  intro own
  have recorded : registry.validatePaths fs root [outcome.path] =
      Summary.empty.recordFile outcome := by
    simp only [validatePaths, List.foldl_cons, List.foldl_nil, validatePath, own]
    rw [← same]
  rw [recorded]
  exact ⟨rfl, Summary.exitCode_recordFile_empty outcome⟩

end Registry

/-- A directory in a directory, with a valid file in the inner one. -/
def FileSystem.nested : FileSystem where
  nodes := [(["a"], .directory 0o755), (["b", "a"], .directory 0o755),
    (["x", "b", "a"], .file "---\nk: v\n---\n".toUTF8 0o644)]

namespace AssetSpec

def outer : AssetSpec where
  name := "outer"
  directory := ⟨"a"⟩
  pattern := "y"
  required := ["k"]

def inner : AssetSpec where
  name := "inner"
  directory := ⟨"a/b"⟩
  pattern := "x"
  required := ["k"]

end AssetSpec

namespace AssetType

open FileSystem

def outer : AssetType := ⟨"outer", ⟨"a"⟩, ⟨"y", .literal ['y']⟩, ["k"], [], []⟩

def inner : AssetType := ⟨"inner", ⟨"a/b"⟩, ⟨"x", .literal ['x']⟩, ["k"], [], []⟩

theorem outcomes_inner : inner.outcomes nested ⟨"./a/b"⟩ = [⟨⟨"./a/b/x"⟩, []⟩] := by
  have finds : nested.Finds ⟨"./a/b"⟩ ["b", "a"] := ⟨rfl, rfl, rfl⟩
  have matched : (Path.fileName? ⟨"./a/b/x"⟩).filter inner.matchesName = some "x" := rfl
  have valid : inner.validateFile nested ⟨"./a/b/x"⟩ = ⟨⟨"./a/b/x"⟩, []⟩ := by
    decide +kernel
  have joined : Path.join ⟨"./a/b"⟩ ⟨"x"⟩ = ⟨"./a/b/x"⟩ := rfl
  have walked := visits_of_single finds rfl rfl matched
  rw [outcomes, walked, joined, valid]
  rfl

end AssetType

namespace Registry

open FileSystem AssetSpec

def outerFirst : Registry := ⟨[AssetType.outer, AssetType.inner]⟩

def innerFirst : Registry := ⟨[AssetType.inner, AssetType.outer]⟩

theorem mem_dispatched_nested {registry : Registry}
    (declared : AssetType.inner ∈ registry.assetTypes) :
    (AssetType.inner, ⟨⟨"./a/b/x"⟩, []⟩) ∈ registry.dispatched nested ⟨"."⟩ := by
  have below : Path.join ⟨"."⟩ AssetType.inner.directory = ⟨"./a/b"⟩ := rfl
  refine mem_dispatched.2 ⟨declared, ?_⟩
  rw [below, AssetType.outcomes_inner]
  exact List.mem_singleton.2 rfl

/-- Where the inner type is declared first, both runs check the file against it. -/
theorem resolve_dispatched_nested :
    innerFirst.resolve ⟨"."⟩ ⟨"./a/b/x"⟩ = some AssetType.inner ∧
      (innerFirst.validatePaths nested ⟨"."⟩ [⟨"./a/b/x"⟩]).exitCode = 0 := by
  have accepted : ofSpecs [inner, outer] = .ok innerFirst := rfl
  have formed : nested.WellFormed := by decide
  have declared : AssetType.inner ∈ innerFirst.assetTypes := List.mem_cons_self
  obtain ⟨_, first, same⟩ := resolve_dispatched accepted formed (mem_dispatched_nested declared)
  have own := first.2 (by decide)
  exact ⟨own, (same own).2.2 rfl⟩

/-- Where the outer type is declared first, the tree run accepts the file and naming it fails. -/
theorem resolve_ne_dispatched :
    ofSpecs [outer, inner] = .ok outerFirst ∧ nested.WellFormed ∧
      (AssetType.inner, ⟨⟨"./a/b/x"⟩, []⟩) ∈ outerFirst.dispatched nested ⟨"."⟩ ∧
      outerFirst.resolve ⟨"."⟩ ⟨"./a/b/x"⟩ = some AssetType.outer ∧
      (outerFirst.validatePaths nested ⟨"."⟩ [⟨"./a/b/x"⟩]).exitCode = 1 :=
  ⟨rfl, by decide, mem_dispatched_nested (by decide), rfl, by decide +kernel⟩

end Registry
end AssetLint
