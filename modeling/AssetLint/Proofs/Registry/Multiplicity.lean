import AssetLint.Proofs.Registry.ExitStatus
import AssetLint.Proofs.Walk.Records

/-!
How often a run over the tree counts a file. What a walk has seen is forgotten when the walk of
the next type begins, so that directories of types may overlap and a file in several of them is
checked against each. Within the walk of one type no file counts twice, whatever the paths of its
directory; across the run a file counts once for every type that takes it.
-/
namespace AssetLint

namespace Registry

variable {registry : Registry} {fs : FileSystem} {root : Path}

/-- The files that a run over the tree counts, as often as it counts them. -/
def recordings (registry : Registry) (fs : FileSystem) (root : Path) : List (Location × String) :=
  registry.assetTypes.flatMap fun assetType =>
    records (assetType.visits fs (root.join assetType.directory))

theorem totalFiles_validateTree (registry : Registry) (fs : FileSystem) (root : Path) :
    (registry.validateTree fs root).totalFiles = (registry.recordings fs root).length := by
  rw [(accounts_validateTree registry fs root).total]
  simp [dispatched, recordings, List.length_flatMap, AssetType.outcomes, length_records]

open Classical in
theorem count_recordings (formed : fs.WellFormed) (entry : Location × String) :
    (registry.recordings fs root).count entry = registry.assetTypes.countP fun assetType =>
      assetType.Takes fs (root.join assetType.directory) entry := by
  unfold recordings
  induction registry.assetTypes with
  | nil => rfl
  | cons assetType rest ih =>
    have once : (records (assetType.visits fs (root.join assetType.directory))).Nodup :=
      AssetType.nodup_records_visits formed
    rw [List.flatMap_cons, List.count_append, ih, List.countP_cons, once.count, Nat.add_comm]
    simp only [AssetType.mem_records_visits_iff formed, decide_eq_true_eq]

theorem nodup_recordings_iff (formed : fs.WellFormed) :
    (registry.recordings fs root).Nodup ↔ registry.assetTypes.Pairwise fun first second =>
      ∀ entry, ¬ (first.Takes fs (root.join first.directory) entry ∧
        second.Takes fs (root.join second.directory) entry) := by
  have once : ∀ assetType ∈ registry.assetTypes,
      (records (assetType.visits fs (root.join assetType.directory))).Nodup :=
    fun _ _ => AssetType.nodup_records_visits formed
  rw [recordings, List.nodup_flatMap, and_iff_right once]
  refine List.Pairwise.iff fun first second => ?_
  show List.Disjoint (records _) (records _) ↔ _
  simp only [List.disjoint_left, AssetType.mem_records_visits_iff formed, not_and]

open Classical in
/-- A run over the tree counts a file once for every type whose walk takes it: never twice within
the walk of one type, and twice in the run just when two types take it. -/
theorem files_count_once_by_type (formed : fs.WellFormed) :
    (∀ assetType ∈ registry.assetTypes,
        (records (assetType.visits fs (root.join assetType.directory))).Nodup) ∧
      (∀ entry, (registry.recordings fs root).count entry =
        registry.assetTypes.countP fun assetType =>
          assetType.Takes fs (root.join assetType.directory) entry) ∧
      (registry.validateTree fs root).totalFiles = (registry.recordings fs root).length ∧
      ((registry.recordings fs root).Nodup ↔
        registry.assetTypes.Pairwise fun first second =>
          ∀ entry, ¬ (first.Takes fs (root.join first.directory) entry ∧
            second.Takes fs (root.join second.directory) entry)) :=
  ⟨fun _ _ => AssetType.nodup_records_visits formed, count_recordings formed,
    totalFiles_validateTree registry fs root, nodup_recordings_iff formed⟩

end Registry

/-- A directory with a file in it, and an alias of the directory. -/
def FileSystem.aliased : FileSystem where
  nodes := [(["a"], .directory 0o755), (["x", "a"], .file "---\nk: v\n---\n".toUTF8 0o644),
    (["b"], .link ⟨"a"⟩)]

namespace AssetSpec

def left : AssetSpec where
  name := "left"
  directory := ⟨"a"⟩
  pattern := "x"
  required := ["k"]

def right : AssetSpec where
  name := "right"
  directory := ⟨"b"⟩
  pattern := "x"
  required := ["k"]

end AssetSpec

namespace Registry

open FileSystem

def leftRight : Registry :=
  ⟨[⟨"left", ⟨"a"⟩, ⟨"x", .literal ['x']⟩, ["k"], [], []⟩,
    ⟨"right", ⟨"b"⟩, ⟨"x", .literal ['x']⟩, ["k"], [], []⟩]⟩

theorem recordings_leftRight :
    leftRight.recordings aliased ⟨"."⟩ = [(["a"], "x"), (["a"], "x")] := by
  have once : ∀ assetType ∈ leftRight.assetTypes,
      records (assetType.visits aliased (Path.join ⟨"."⟩ assetType.directory)) =
        [(["a"], "x")] := by
    intro assetType member
    simp only [leftRight, List.mem_cons, List.not_mem_nil, or_false] at member
    rcases member with rfl | rfl
    · rw [AssetType.visits_of_single ⟨rfl, rfl, rfl⟩ rfl rfl rfl]
      rfl
    · rw [AssetType.visits_of_single ⟨rfl, rfl, rfl⟩ rfl rfl rfl]
      rfl
  rw [recordings, List.flatMap_congr once]
  rfl

theorem files_count_once_by_type_aliased :
    aliased.WellFormed ∧
      (∀ assetType ∈ leftRight.assetTypes,
        (records (assetType.visits aliased (Path.join ⟨"."⟩ assetType.directory))).Nodup) ∧
      ¬ leftRight.assetTypes.Pairwise fun first second => ∀ entry,
        ¬ (first.Takes aliased (Path.join ⟨"."⟩ first.directory) entry ∧
          second.Takes aliased (Path.join ⟨"."⟩ second.directory) entry) := by
  have formed : aliased.WellFormed := by decide
  obtain ⟨once, _, _, apart⟩ := @files_count_once_by_type leftRight aliased ⟨"."⟩ formed
  refine ⟨formed, once, fun disjoint => ?_⟩
  have nodup := apart.2 disjoint
  rw [recordings_leftRight] at nodup
  simp at nodup

/-- Where two types have aliases of one directory, a file in it counts twice in the run. -/
theorem count_leftRight :
    ofSpecs [.left, .right] = .ok leftRight ∧ aliased.WellFormed ∧
      (leftRight.recordings aliased ⟨"."⟩).count (["a"], "x") = 2 ∧
      (leftRight.validateTree aliased ⟨"."⟩).totalFiles = 2 := by
  refine ⟨rfl, by decide, ?_, ?_⟩
  · rw [recordings_leftRight]
    decide
  · rw [totalFiles_validateTree, recordings_leftRight]
    rfl

end Registry
end AssetLint
