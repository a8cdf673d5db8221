import AssetLint.Proofs.Walk.Lockstep

/-!
How far a file that cannot be read or does not pass reaches. In two file systems that differ only
in their files, runs over the tree check the same files against the same types, warn of the same
directories in between, and find the same issues in every file that reads the same in both
(`failures_stay_local`). So what is wrong with one file neither hides nor changes what is found
elsewhere.
-/
namespace AssetLint

/-- The issue is about a directory, or about a file that reads the same in both file systems. -/
def Issue.Unaffected (left right : FileSystem) (issue : Issue) : Prop :=
  issue.kind = .directory ∨ left.readText issue.file = right.readText issue.file

instance (left right : FileSystem) (issue : Issue) : Decidable (issue.Unaffected left right) :=
  inferInstanceAs (Decidable (_ ∨ _))

/-- The same file, with the same issues unless it reads differently. -/
def Outcome.Alike (left right : FileSystem) (first second : Outcome) : Prop :=
  first.path = second.path ∧
    (left.readText first.path = right.readText first.path → first.issues = second.issues)

namespace AssetType

variable {assetType : AssetType} {left right : FileSystem} {path : Path}

theorem kind_of_mem_validateFile {fs : FileSystem} {issue : Issue}
    (member : issue ∈ (assetType.validateFile fs path).issues) : issue.kind ≠ .directory := by
  unfold validateFile at member
  split at member
  · exact (kind_of_mem_validateText member).2
  · rw [List.mem_singleton.1 member]
    nofun

theorem unaffected_validateFile {fs : FileSystem} {issue : Issue}
    (member : issue ∈ (assetType.validateFile fs path).issues) :
    issue.Unaffected left right ↔ left.readText path = right.readText path := by
  have about : issue.file = path := by
    rw [isLocal_validateFile assetType fs path issue member, path_validateFile]
  rw [Issue.Unaffected, about, or_iff_right (kind_of_mem_validateFile member)]

end AssetType

namespace Visit.Alike

variable {assetType : AssetType} {left right : FileSystem} {visit other : Visit}

theorem outcome?_rel (alike : Alike assetType left right visit other) :
    Option.Rel (Outcome.Alike left right) visit.outcome? other.outcome? := by
  cases alike with
  | listed location path => exact .none
  | known location path => exact .none
  | warning issue => exact .none
  | file directory name path =>
    refine .some ⟨?_, fun text => ?_⟩
    · rw [AssetType.path_validateFile, AssetType.path_validateFile]
    · rw [AssetType.path_validateFile] at text
      rw [AssetType.validateFile_congr assetType text]

/-- Without the issues of affected files the visits report the same. -/
theorem unaffected_issues (alike : Alike assetType left right visit other) :
    visit.issues.filter (Issue.Unaffected left right) =
      other.issues.filter (Issue.Unaffected left right) := by
  cases alike with
  | listed location path => rfl
  | known location path => rfl
  | warning issue => rfl
  | file directory name path =>
    simp only [issues]
    by_cases text : left.readText path = right.readText path
    · rw [AssetType.validateFile_congr assetType text]
    · have affected : ∀ fs : FileSystem,
          (assetType.validateFile fs path).issues.filter (Issue.Unaffected left right) = [] := by
        intro fs
        refine List.filter_eq_nil_iff.2 fun issue member => ?_
        rw [decide_eq_true_iff, AssetType.unaffected_validateFile member]
        exact text
      rw [affected, affected]

end Visit.Alike

/-- Nothing but affected files makes lists of visits report differently. -/
theorem unaffected_flatMap {assetType : AssetType} {left right : FileSystem}
    {visits others : List Visit}
    (alike : List.Forall₂ (Visit.Alike assetType left right) visits others) :
    (visits.flatMap Visit.issues).filter (Issue.Unaffected left right) =
      (others.flatMap Visit.issues).filter (Issue.Unaffected left right) := by
  induction alike with
  | nil => rfl
  | cons pair _ ih =>
    rw [List.flatMap_cons, List.flatMap_cons, List.filter_append, List.filter_append,
      pair.unaffected_issues, ih]

namespace Registry

variable {left right : FileSystem}

/-- The issues of a run over the tree, in order. -/
def issues (registry : Registry) (fs : FileSystem) (root : Path) : List Issue :=
  registry.assetTypes.flatMap fun assetType => assetType.issues fs (root.join assetType.directory)

theorem lists_validateTree (registry : Registry) (fs : FileSystem) (root : Path) :
    (registry.validateTree fs root).errors =
        (registry.issues fs root).filter Issue.isError ∧
      (registry.validateTree fs root).warnings =
        (registry.issues fs root).filter fun issue => !issue.isError := by
  have folded : registry.validateTree fs root =
      (registry.assetTypes.flatMap fun assetType =>
        assetType.visits fs (root.join assetType.directory)).foldl
          Summary.recordVisit Summary.empty := by
    rw [List.foldl_flatMap]
    rfl
  have lists := Summary.lists_recordVisits Summary.empty
    (registry.assetTypes.flatMap fun assetType =>
      assetType.visits fs (root.join assetType.directory))
  rw [List.flatMap_assoc] at lists
  rw [folded]
  exact lists

theorem unaffected_issues_eq (same : left.SameTree right) (formed : left.WellFormed)
    (registry : Registry) (root : Path) :
    (registry.issues left root).filter (Issue.Unaffected left right) =
      (registry.issues right root).filter (Issue.Unaffected left right) := by
  unfold issues
  rw [List.filter_flatMap, List.filter_flatMap]
  exact List.flatMap_congr fun assetType _ =>
    unaffected_flatMap (AssetType.lockstep_visits same formed _)

theorem alike_dispatched (same : left.SameTree right) (formed : left.WellFormed)
    (registry : Registry) (root : Path) :
    List.Forall₂
      (fun first second => first.1 = second.1 ∧ Outcome.Alike left right first.2 second.2)
      (registry.dispatched left root) (registry.dispatched right root) := by
  have types : List.Forall₂ Eq registry.assetTypes registry.assetTypes :=
    List.forall₂_same.2 fun _ _ => rfl
  refine List.rel_flatMap types ?_
  rintro assetType _ rfl
  have outcomes : List.Forall₂ (Outcome.Alike left right)
      (assetType.outcomes left (root.join assetType.directory))
      (assetType.outcomes right (root.join assetType.directory)) :=
    List.rel_filterMap (fun _ _ alike => alike.outcome?_rel)
      (AssetType.lockstep_visits same formed _)
  refine List.forall₂_map_left_iff.2 (List.forall₂_map_right_iff.2 ?_)
  exact outcomes.imp fun _ _ alike => ⟨rfl, alike⟩

/-- What a run over the tree finds in one file stays with that file. If no more than the files of
a tree changes, the run visits the same places in the same order with the same warnings about
directories, it checks the same files against the same types, and without the issues of files
that read differently its errors and its warnings are the same. A file that is itself the same
reads the same. -/
theorem failures_stay_local (registry : Registry) (same : left.SameTree right)
    (formed : left.WellFormed) (root : Path) :
    (∀ assetType ∈ registry.assetTypes,
        List.Forall₂ (Visit.Alike assetType left right)
          (assetType.visits left (root.join assetType.directory))
          (assetType.visits right (root.join assetType.directory))) ∧
      List.Forall₂
        (fun first second => first.1 = second.1 ∧ Outcome.Alike left right first.2 second.2)
        (registry.dispatched left root) (registry.dispatched right root) ∧
      (registry.validateTree left root).totalFiles =
        (registry.validateTree right root).totalFiles ∧
      (registry.validateTree left root).errors.filter (Issue.Unaffected left right) =
        (registry.validateTree right root).errors.filter (Issue.Unaffected left right) ∧
      (registry.validateTree left root).warnings.filter (Issue.Unaffected left right) =
        (registry.validateTree right root).warnings.filter (Issue.Unaffected left right) ∧
      ∀ path, (∀ location, left.locate path = .ok location →
          left.node? location = right.node? location) →
        left.readText path = right.readText path := by
  have pairs := alike_dispatched same formed registry root
  have issues := unaffected_issues_eq same formed registry root
  refine ⟨fun _ _ => AssetType.lockstep_visits same formed _, pairs, ?_, ?_, ?_,
    fun _ => same.readText_eq⟩
  · rw [(accounts_validateTree registry left root).total,
      (accounts_validateTree registry right root).total, List.length_map, List.length_map]
    exact pairs.length_eq
  · rw [(lists_validateTree registry left root).1, (lists_validateTree registry right root).1,
      List.filter_comm, issues, List.filter_comm]
  · rw [(lists_validateTree registry left root).2, (lists_validateTree registry right root).2,
      List.filter_comm, issues, List.filter_comm]

end Registry

/-- The siblings, but the one in the directory is no text. -/
def FileSystem.damaged : FileSystem :=
  { siblings with
    nodes := [(["a"], .directory 0o755), (["n", "a"], .file ⟨#[0xff]⟩ 0o644),
      (["a.n"], .file ⟨#[]⟩ 0o644)] }

namespace Registry

open FileSystem

theorem failures_stay_local_damaged :
    siblings.SameTree damaged ∧ siblings.WellFormed ∧
      siblings.readText ⟨"/a/n"⟩ = .ok [] ∧ damaged.readText ⟨"/a/n"⟩ = .error .notText ∧
      (Registry.validateTree ⟨[.notes]⟩ siblings ⟨"/"⟩).totalFiles =
        (Registry.validateTree ⟨[.notes]⟩ damaged ⟨"/"⟩).totalFiles ∧
      (Registry.validateTree ⟨[.notes]⟩ siblings ⟨"/"⟩).errors.filter
          (Issue.Unaffected siblings damaged) =
        (Registry.validateTree ⟨[.notes]⟩ damaged ⟨"/"⟩).errors.filter
          (Issue.Unaffected siblings damaged) := by
  have same : siblings.SameTree damaged :=
    .of_nodes (.cons ⟨rfl, .directory⟩ (.cons ⟨rfl, .file⟩ (.cons ⟨rfl, .file⟩ .nil)))
  have formed : siblings.WellFormed := by decide
  obtain ⟨_, _, total, errors, _, _⟩ := failures_stay_local ⟨[.notes]⟩ same formed ⟨"/"⟩
  exact ⟨same, formed, by decide +kernel, by decide +kernel, total, errors⟩

end Registry
end AssetLint
