import AssetLint.Proofs.Summary.Order
import AssetLint.Validate

/-!
What the checks of one file report. Each check has one kind of issue, and what calls for an issue
is said for each (`mem_nameIssues` and so on); the header either is missing or gives a mapping
whose fields are checked (`headerIssues_cases`). So every issue is about the file itself
(`isLocal_validateText`), and issues come in the order of the checks (`graded_validateText`).
-/
namespace AssetLint

/-- The text has a header, and the header decodes to the mapping. -/
def FrontMatter.Declares (text : List Char) (metadata : Yaml.Mapping) : Prop :=
  ∃ parts, split? text = some parts ∧ decode parts.header = .ok metadata

theorem FrontMatter.Declares.unique {text : List Char} {metadata other : Yaml.Mapping}
    (left : Declares text metadata) (right : Declares text other) : metadata = other := by
  obtain ⟨parts, found, decoded⟩ := left
  obtain ⟨others, again, same⟩ := right
  cases found.symm.trans again
  exact Except.ok.inj (decoded.symm.trans same)

/-- The issues are in the order of the checks, from one place to another. -/
structure Graded (low high : Nat) (issues : List Issue) : Prop where
  within : ∀ issue ∈ issues, low ≤ issue.kind.place ∧ issue.kind.place ≤ high
  ordered : issues.Pairwise fun left right => left.kind.place ≤ right.kind.place

namespace Graded

variable {low middle next high : Nat} {issues others : List Issue}

theorem of_kind (kind : IssueKind) (all : ∀ issue ∈ issues, issue.kind = kind) :
    Graded kind.place kind.place issues := by
  refine ⟨fun issue member => by simp [all issue member], ?_⟩
  refine List.pairwise_of_forall_mem_list fun left here right there => ?_
  rw [all left here, all right there]

theorem append (first : Graded low middle issues) (second : Graded next high others)
    (step : middle ≤ next) (start : low ≤ next) (stop : middle ≤ high) :
    Graded low high (issues ++ others) where
  within := by
    intro issue member
    rcases List.mem_append.1 member with member | member
    · have bounds := first.within issue member
      omega
    · have bounds := second.within issue member
      omega
  ordered := by
    refine List.pairwise_append.2 ⟨first.ordered, second.ordered, ?_⟩
    intro left here right there
    have upper := (first.within left here).2
    have lower := (second.within right there).1
    omega

theorem widen (graded : Graded middle next issues) (start : low ≤ middle) (stop : next ≤ high) :
    Graded low high issues := by
  refine ⟨fun issue member => ?_, graded.ordered⟩
  have bounds := graded.within issue member
  omega

/-- Issues of a kind whose place is elsewhere can be left out without a change. -/
theorem filter_kind_ne (graded : Graded low high issues) (kind : IssueKind)
    (elsewhere : kind.place < low ∨ high < kind.place) :
    issues.filter (fun issue => issue.kind ≠ kind) = issues := by
  apply List.filter_eq_self.2
  intro issue member
  have bounds := graded.within issue member
  have differs : issue.kind ≠ kind := by
    rintro rfl
    omega
  exact decide_eq_true differs

end Graded

namespace AssetType

variable {assetType : AssetType} {path : Path} {text : List Char} {metadata : Yaml.Mapping}
variable {issue : Issue}

theorem mem_nameIssues :
    issue ∈ assetType.nameIssues path ↔
      assetType.matchesPath path = false ∧
        issue =
          ⟨path, .naming, "File name does not match pattern: " ++ assetType.pattern.source⟩ := by
  unfold nameIssues
  cases assetType.matchesPath path <;> simp

theorem mem_requiredIssues :
    issue ∈ assetType.requiredIssues path metadata ↔
      ∃ field ∈ assetType.required, isPresent metadata field = false ∧
        issue = ⟨path, .requiredField, "Missing required field: " ++ field⟩ := by
  simp only [requiredIssues, List.mem_map, List.mem_filter, Bool.not_eq_true', and_assoc,
    eq_comm (b := issue)]

theorem mem_typeIssues :
    issue ∈ typeIssues path metadata ↔
      ∃ field ∈ listFields, isMistyped metadata field = true ∧
        issue = ⟨path, .fieldType, field ++ " field must be an array"⟩ := by
  simp only [typeIssues, List.mem_map, List.mem_filter, and_assoc, eq_comm (b := issue)]

theorem mem_unknownIssues :
    issue ∈ assetType.unknownIssues path metadata ↔
      ∃ entry ∈ metadata, assetType.allows entry.1.keyName = false ∧
        issue = ⟨path, .unknownField, "Unknown field: " ++ entry.1.keyName⟩ := by
  simp only [unknownIssues, unknownFields, List.mem_map, List.mem_filter, Bool.not_eq_true']
  constructor
  · rintro ⟨_, ⟨⟨entry, member, rfl⟩, unknown⟩, rfl⟩
    exact ⟨entry, member, unknown, rfl⟩
  · rintro ⟨entry, member, unknown, rfl⟩
    exact ⟨_, ⟨⟨entry, member, rfl⟩, unknown⟩, rfl⟩

theorem mem_probeIssues :
    issue ∈ assetType.probeIssues path text ↔
      ∃ probe ∈ assetType.probes, probe.isSatisfiedBy text = false ∧
        issue = ⟨path, .contentStructure, probe.message⟩ := by
  simp only [probeIssues, List.mem_map, List.mem_filter, Bool.not_eq_true', and_assoc,
    eq_comm (b := issue)]

theorem kind_of_mem_nameIssues (member : issue ∈ assetType.nameIssues path) :
    issue.kind = .naming := by
  rw [(mem_nameIssues.1 member).2]

theorem kind_of_mem_requiredIssues (member : issue ∈ assetType.requiredIssues path metadata) :
    issue.kind = .requiredField := by
  obtain ⟨_, _, _, rfl⟩ := mem_requiredIssues.1 member
  rfl

theorem kind_of_mem_typeIssues (member : issue ∈ typeIssues path metadata) :
    issue.kind = .fieldType := by
  obtain ⟨_, _, _, rfl⟩ := mem_typeIssues.1 member
  rfl

theorem kind_of_mem_unknownIssues (member : issue ∈ assetType.unknownIssues path metadata) :
    issue.kind = .unknownField := by
  obtain ⟨_, _, _, rfl⟩ := mem_unknownIssues.1 member
  rfl

theorem kind_of_mem_probeIssues (member : issue ∈ assetType.probeIssues path text) :
    issue.kind = .contentStructure := by
  obtain ⟨_, _, _, rfl⟩ := mem_probeIssues.1 member
  rfl

/-- The fields are checked if the header gives a mapping; otherwise there is one issue for it. -/
theorem headerIssues_cases (assetType : AssetType) (path : Path) (text : List Char) :
    (∃ metadata, FrontMatter.Declares text metadata ∧
        assetType.headerIssues path text = assetType.fieldIssues path metadata) ∨
      (∀ metadata, ¬ FrontMatter.Declares text metadata) ∧
        ∃ message, assetType.headerIssues path text = [⟨path, .missingFrontMatter, message⟩] := by
  unfold headerIssues FrontMatter.parse
  cases found : FrontMatter.split? text with
  | none =>
    refine .inr ⟨fun metadata declared => ?_, _, rfl⟩
    obtain ⟨parts, same, _⟩ := declared
    cases found.symm.trans same
  | some parts =>
    simp only [bind, Except.bind]
    cases decoded : FrontMatter.decode parts.header with
    | error error =>
      refine .inr ⟨fun metadata declared => ?_, _, rfl⟩
      obtain ⟨others, same, given⟩ := declared
      cases found.symm.trans same
      cases decoded.symm.trans given
    | ok metadata => exact .inl ⟨metadata, ⟨parts, found, decoded⟩, rfl⟩

theorem isLocal_fieldIssues (member : issue ∈ assetType.fieldIssues path metadata) :
    issue.file = path := by
  simp only [fieldIssues, List.mem_append] at member
  rcases member with (required | mistyped) | unknown
  · obtain ⟨_, _, _, rfl⟩ := mem_requiredIssues.1 required
    rfl
  · obtain ⟨_, _, _, rfl⟩ := mem_typeIssues.1 mistyped
    rfl
  · obtain ⟨_, _, _, rfl⟩ := mem_unknownIssues.1 unknown
    rfl

theorem isLocal_validateText (assetType : AssetType) (path : Path) (text : List Char) :
    (assetType.validateText path text).IsLocal := by
  intro issue member
  simp only [validateText, List.mem_append] at member ⊢
  rcases member with (named | headed) | probed
  · rw [(mem_nameIssues.1 named).2]
  · rcases assetType.headerIssues_cases path text with ⟨_, _, shape⟩ | ⟨_, _, shape⟩
    · exact isLocal_fieldIssues (shape ▸ headed)
    · rw [shape] at headed
      rw [List.mem_singleton.1 headed]
  · obtain ⟨_, _, _, rfl⟩ := mem_probeIssues.1 probed
    rfl

theorem path_validateFile (assetType : AssetType) (fs : FileSystem) (path : Path) :
    (assetType.validateFile fs path).path = path := by
  unfold validateFile
  split <;> rfl

theorem isLocal_validateFile (assetType : AssetType) (fs : FileSystem) (path : Path) :
    (assetType.validateFile fs path).IsLocal := by
  unfold validateFile
  split
  · exact isLocal_validateText assetType path _
  · intro issue member
    cases List.mem_singleton.1 member
    rfl

theorem graded_fieldIssues (assetType : AssetType) (path : Path) (metadata : Yaml.Mapping) :
    Graded 2 4 (assetType.fieldIssues path metadata) := by
  have required : Graded 2 2 (assetType.requiredIssues path metadata) :=
    .of_kind .requiredField fun _ => kind_of_mem_requiredIssues
  have typed : Graded 3 3 (typeIssues path metadata) :=
    .of_kind .fieldType fun _ => kind_of_mem_typeIssues
  have unknown : Graded 4 4 (assetType.unknownIssues path metadata) :=
    .of_kind .unknownField fun _ => kind_of_mem_unknownIssues
  exact (required.append typed (by decide) (by decide) (by decide)).append unknown
    (by decide) (by decide) (by decide)

theorem graded_headerIssues (assetType : AssetType) (path : Path) (text : List Char) :
    Graded 1 4 (assetType.headerIssues path text) := by
  rcases assetType.headerIssues_cases path text with ⟨_, _, shape⟩ | ⟨_, _, shape⟩
  · rw [shape]
    exact (graded_fieldIssues assetType path _).widen (by decide) (by decide)
  · rw [shape]
    refine (Graded.of_kind .missingFrontMatter ?_).widen (by decide) (by decide)
    exact fun issue member => by rw [List.mem_singleton.1 member]

theorem graded_nameIssues (assetType : AssetType) (path : Path) :
    Graded 0 0 (assetType.nameIssues path) :=
  .of_kind .naming fun _ => kind_of_mem_nameIssues

theorem graded_probeIssues (assetType : AssetType) (path : Path) (text : List Char) :
    Graded 5 5 (assetType.probeIssues path text) :=
  .of_kind .contentStructure fun _ => kind_of_mem_probeIssues

theorem graded_validateText (assetType : AssetType) (path : Path) (text : List Char) :
    Graded 0 5 (assetType.validateText path text).issues := by
  have named := graded_nameIssues assetType path
  have headed := graded_headerIssues assetType path text
  have probed := graded_probeIssues assetType path text
  exact (named.append headed (by decide) (by decide) (by decide)).append probed
    (by decide) (by decide) (by decide)

/-- The checks of a text come before the place that the two other kinds share. -/
theorem kind_of_mem_validateText (member : issue ∈ (assetType.validateText path text).issues) :
    issue.kind ≠ .fileError ∧ issue.kind ≠ .directory := by
  have early := ((graded_validateText assetType path text).within issue member).2
  constructor <;> intro same <;> simp [same, IssueKind.place] at early

theorem checked_validateFile (assetType : AssetType) (fs : FileSystem) (path : Path) :
    (assetType.validateFile fs path).issues.Pairwise
      fun left right => left.kind.place ≤ right.kind.place := by
  unfold validateFile
  split
  · exact (graded_validateText assetType path _).ordered
  · exact List.pairwise_singleton _ _

end AssetType
end AssetLint
