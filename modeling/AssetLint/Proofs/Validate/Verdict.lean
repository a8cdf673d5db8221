import AssetLint.Proofs.Validate.Issues

/-!
The verdict on one file. Four checks report errors and two report warnings, and none keeps
another from being made; so a file is valid just when its name matches and its header declares a
mapping that meets the requirements of the type, and it has no issues at all just when, besides,
every key is known and every probe is satisfied (`validateText_exact`).
-/
namespace AssetLint

namespace AssetType

variable {assetType : AssetType} {path : Path} {text : List Char} {metadata : Yaml.Mapping}

/-- The path has a base name, and the name matches the pattern. -/
def IsNamed (assetType : AssetType) (path : Path) : Prop :=
  ∃ name, path.fileName? = some name ∧ assetType.pattern.matches name.toList = true

/-- Every required field has a truthy value, and a truthy value of a field for lists is a
sequence. -/
structure Accepts (assetType : AssetType) (metadata : Yaml.Mapping) : Prop where
  required : ∀ field ∈ assetType.required, ∃ value,
    Yaml.Mapping.get? metadata field = some value ∧ value.isTruthy = true
  listed : ∀ field ∈ ["inputs", "capabilities", "rules"], ∀ value,
    Yaml.Mapping.get? metadata field = some value → value.isTruthy = true →
      value.isSequence = true

/-- Every key stands for a required or an optional field. -/
def Knows (assetType : AssetType) (metadata : Yaml.Mapping) : Prop :=
  ∀ entry ∈ metadata, entry.1.keyName ∈ assetType.required ∨
    entry.1.keyName ∈ assetType.optional

/-- Some needle of every probe stands in the text. -/
def SatisfiesProbes (assetType : AssetType) (text : List Char) : Prop :=
  ∀ probe ∈ assetType.probes, ∃ needle ∈ probe.anyOf, needle.toList <:+: text

end AssetType

/-- None of the issues is an error. -/
def Mild (issues : List Issue) : Prop :=
  ∀ issue ∈ issues, issue.isError = false

namespace Mild

variable {issues others : List Issue}

theorem append_iff : Mild (issues ++ others) ↔ Mild issues ∧ Mild others :=
  List.forall_mem_append

/-- Where every issue would be an error, none is there. -/
theorem iff_nil (grave : ∀ issue ∈ issues, issue.kind.severity = .error) :
    Mild issues ↔ issues = [] := by
  constructor
  · intro mild
    refine List.eq_nil_iff_forall_not_mem.2 fun issue member => ?_
    have error : issue.isError = true := decide_eq_true (grave issue member)
    rw [mild issue member] at error
    cases error
  · rintro rfl issue member
    cases member

end Mild

theorem Probe.isSatisfiedBy_iff {probe : Probe} {text : List Char} :
    probe.isSatisfiedBy text = true ↔ ∃ needle ∈ probe.anyOf, needle.toList <:+: text := by
  simp only [isSatisfiedBy, List.any_eq_true, Text.contains_iff_isInfix]

theorem Outcome.isValid_iff_mild {outcome : Outcome} :
    outcome.isValid = true ↔ Mild outcome.issues := by
  simp [isValid, Mild]

namespace AssetType

variable {assetType : AssetType} {path : Path} {text : List Char} {metadata : Yaml.Mapping}

theorem matchesPath_iff : assetType.matchesPath path = true ↔ assetType.IsNamed path := by
  unfold matchesPath IsNamed
  cases path.fileName? <;> simp [matchesName]

theorem isPresent_iff {field : String} :
    isPresent metadata field = true ↔ ∃ value,
      Yaml.Mapping.get? metadata field = some value ∧ value.isTruthy = true := by
  unfold isPresent
  cases Yaml.Mapping.get? metadata field <;> simp

theorem isMistyped_eq_false_iff {field : String} :
    isMistyped metadata field = false ↔ ∀ value, Yaml.Mapping.get? metadata field = some value →
      value.isTruthy = true → value.isSequence = true := by
  unfold isMistyped
  cases Yaml.Mapping.get? metadata field <;> simp

theorem nameIssues_eq_nil_iff : assetType.nameIssues path = [] ↔ assetType.IsNamed path := by
  rw [← matchesPath_iff]
  unfold nameIssues
  cases assetType.matchesPath path <;> simp

theorem mild_nameIssues_iff : Mild (assetType.nameIssues path) ↔ assetType.IsNamed path := by
  rw [← nameIssues_eq_nil_iff]
  exact Mild.iff_nil fun issue member => by rw [(mem_nameIssues.1 member).2]; rfl

/-- Whatever the mapping, it is accepted just when neither check of its values reports on it. -/
theorem accepts_iff :
    assetType.Accepts metadata ↔
      assetType.requiredIssues path metadata = [] ∧ typeIssues path metadata = [] := by
  simp only [requiredIssues, typeIssues, List.map_eq_nil_iff, List.filter_eq_nil_iff,
    Bool.not_eq_true', Bool.not_eq_false, Bool.not_eq_true]
  constructor
  · intro accepts
    exact ⟨fun field member => isPresent_iff.2 (accepts.required field member),
      fun field member => isMistyped_eq_false_iff.2 (accepts.listed field member)⟩
  · rintro ⟨required, listed⟩
    exact ⟨fun field member => isPresent_iff.1 (required field member),
      fun field member => isMistyped_eq_false_iff.1 (listed field member)⟩

theorem unknownIssues_eq_nil_iff :
    assetType.unknownIssues path metadata = [] ↔ assetType.Knows metadata := by
  rw [List.eq_nil_iff_forall_not_mem]
  constructor
  · intro none entry member
    by_contra unknown
    have refused : assetType.allows entry.1.keyName = false := by simpa [allows] using unknown
    exact none _ (mem_unknownIssues.2 ⟨entry, member, refused, rfl⟩)
  · intro knows issue member
    obtain ⟨entry, among, refused, _⟩ := mem_unknownIssues.1 member
    have unknown : entry.1.keyName ∉ assetType.required ∧ entry.1.keyName ∉ assetType.optional := by
      simpa [allows] using refused
    exact (knows entry among).elim unknown.1 unknown.2

theorem mild_fieldIssues_iff :
    Mild (assetType.fieldIssues path metadata) ↔ assetType.Accepts metadata := by
  have required : Mild (assetType.requiredIssues path metadata) ↔
      assetType.requiredIssues path metadata = [] :=
    Mild.iff_nil fun issue member => by
      obtain ⟨_, _, _, rfl⟩ := mem_requiredIssues.1 member
      rfl
  have typed : Mild (typeIssues path metadata) ↔ typeIssues path metadata = [] :=
    Mild.iff_nil fun issue member => by
      obtain ⟨_, _, _, rfl⟩ := mem_typeIssues.1 member
      rfl
  have unknown : Mild (assetType.unknownIssues path metadata) := by
    intro issue member
    obtain ⟨_, _, _, rfl⟩ := mem_unknownIssues.1 member
    rfl
  rw [fieldIssues, Mild.append_iff, Mild.append_iff, required, typed, and_iff_left unknown]
  exact accepts_iff.symm

theorem fieldIssues_eq_nil_iff :
    assetType.fieldIssues path metadata = [] ↔
      assetType.Accepts metadata ∧ assetType.Knows metadata := by
  rw [fieldIssues, List.append_eq_nil_iff, List.append_eq_nil_iff, ← accepts_iff,
    unknownIssues_eq_nil_iff]

theorem mild_headerIssues_iff :
    Mild (assetType.headerIssues path text) ↔
      ∃ metadata, FrontMatter.Declares text metadata ∧ assetType.Accepts metadata := by
  rcases assetType.headerIssues_cases path text with ⟨metadata, declared, shape⟩ | ⟨none, _, shape⟩
  · rw [shape, mild_fieldIssues_iff]
    refine ⟨fun accepts => ⟨metadata, declared, accepts⟩, ?_⟩
    rintro ⟨other, also, accepts⟩
    exact declared.unique also ▸ accepts
  · rw [shape]
    constructor
    · intro mild
      cases mild _ (List.mem_singleton_self _)
    · rintro ⟨metadata, declared, _⟩
      exact absurd declared (none metadata)

theorem headerIssues_eq_nil_iff :
    assetType.headerIssues path text = [] ↔
      ∃ metadata, FrontMatter.Declares text metadata ∧ assetType.Accepts metadata ∧
        assetType.Knows metadata := by
  rcases assetType.headerIssues_cases path text with ⟨metadata, declared, shape⟩ | ⟨none, _, shape⟩
  · rw [shape, fieldIssues_eq_nil_iff]
    refine ⟨fun accepts => ⟨metadata, declared, accepts⟩, ?_⟩
    rintro ⟨other, also, accepts⟩
    exact declared.unique also ▸ accepts
  · rw [shape]
    constructor
    · exact fun some => absurd some (List.cons_ne_nil _ _)
    · rintro ⟨metadata, declared, _⟩
      exact absurd declared (none metadata)

theorem mild_probeIssues (assetType : AssetType) (path : Path) (text : List Char) :
    Mild (assetType.probeIssues path text) := by
  intro issue member
  obtain ⟨_, _, _, rfl⟩ := mem_probeIssues.1 member
  rfl

theorem probeIssues_eq_nil_iff :
    assetType.probeIssues path text = [] ↔ assetType.SatisfiesProbes text := by
  simp [probeIssues, SatisfiesProbes, Probe.isSatisfiedBy_iff]

/-- A file is valid just when its name matches and its header declares a mapping that the type
accepts. It has no issues just when, besides, every key is known and every probe is satisfied. All
issues are about the file, and none says that it cannot be read or is about a directory. -/
theorem validateText_exact (assetType : AssetType) (path : Path) (text : List Char) :
    ((assetType.validateText path text).isValid = true ↔
        assetType.IsNamed path ∧
          ∃ metadata, FrontMatter.Declares text metadata ∧ assetType.Accepts metadata) ∧
      ((assetType.validateText path text).issues = [] ↔
        assetType.IsNamed path ∧
          (∃ metadata, FrontMatter.Declares text metadata ∧ assetType.Accepts metadata ∧
            assetType.Knows metadata) ∧
          assetType.SatisfiesProbes text) ∧
      ∀ issue ∈ (assetType.validateText path text).issues,
        issue.file = path ∧ issue.kind ≠ .fileError ∧ issue.kind ≠ .directory := by
  refine ⟨?_, ?_, fun issue member =>
    ⟨isLocal_validateText assetType path text issue member, kind_of_mem_validateText member⟩⟩
  · rw [Outcome.isValid_iff_mild, validateText, Mild.append_iff, Mild.append_iff,
      and_iff_left (mild_probeIssues assetType path text), mild_nameIssues_iff,
      mild_headerIssues_iff]
  · rw [validateText, List.append_eq_nil_iff, List.append_eq_nil_iff, nameIssues_eq_nil_iff,
      headerIssues_eq_nil_iff, probeIssues_eq_nil_iff, and_assoc]

end AssetType
end AssetLint
