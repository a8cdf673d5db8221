import AssetLint.Proofs.Registry.Construction
import AssetLint.Proofs.Validate.Verdict

/-!
Issues about single fields. A required field without a value that counts as present is reported
once, however often it is declared, and the fields come in the order in which they are first
declared. A field for lists is reported once if its value counts as present and is no sequence.
Both checks look at a field through one notion of presence, so none is reported by both
(`fieldIssues_exact`).
-/
namespace AssetLint

/-- The mapping has no value for the field, or one that counts as absent. -/
def Lacks (metadata : Yaml.Mapping) (field : String) : Prop :=
  ∀ value, Yaml.Mapping.get? metadata field = some value → value.isTruthy = false

/-- The value of the field counts as present and is no sequence. -/
def Mistypes (metadata : Yaml.Mapping) (field : String) : Prop :=
  ∃ value, Yaml.Mapping.get? metadata field = some value ∧ value.isTruthy = true ∧
    value.isSequence = false

theorem Lacks.not_mistypes {metadata : Yaml.Mapping} {field : String}
    (lacks : Lacks metadata field) : ¬ Mistypes metadata field := by
  rintro ⟨value, found, truthy, _⟩
  rw [lacks value found] at truthy
  cases truthy

/-- From one mapping to another, some required fields have become absent or falsy, and the other
required fields are as they were. -/
structure Omits (required : List String) (metadata changed : Yaml.Mapping)
    (fields : List String) : Prop where
  nodup : fields.Nodup
  among : ∀ field ∈ fields, field ∈ required
  lacks : ∀ field ∈ fields, Lacks changed field
  keeps : ∀ field ∈ required, field ∉ fields →
    Yaml.Mapping.get? changed field = Yaml.Mapping.get? metadata field

/-- Where nothing was lacking before, the omitted fields are those that are lacking now. -/
theorem Omits.mem_iff {required fields : List String} {metadata changed : Yaml.Mapping}
    (omits : Omits required metadata changed fields)
    (compliant : ∀ field ∈ required, ¬ Lacks metadata field) (field : String) :
    field ∈ fields ↔ field ∈ required ∧ Lacks changed field := by
  refine ⟨fun member => ⟨omits.among field member, omits.lacks field member⟩, ?_⟩
  rintro ⟨declared, lacks⟩
  by_contra kept
  have same := omits.keeps field declared kept
  unfold Lacks at lacks
  rw [same] at lacks
  exact compliant field declared lacks

theorem AssetSpec.describes_of_compile {spec : AssetSpec} {assetType : AssetType}
    (compiled : spec.compile = .ok assetType) : spec.Describes assetType := by
  rcases spec.compile_cases with ⟨_, same, _, describes⟩ | ⟨_, failed, _⟩
  · cases compiled.symm.trans same
    exact describes
  · cases compiled.symm.trans failed

namespace Issue

def missingField (path : Path) (field : String) : Issue :=
  ⟨path, .requiredField, "Missing required field: " ++ field⟩

def mistypedField (path : Path) (field : String) : Issue :=
  ⟨path, .fieldType, field ++ " field must be an array"⟩

/-- A list of issues of one kind is kept whole when issues of that kind are picked, and dropped
when issues of another kind are. -/
theorem filter_kind_of_forall {issues : List Issue} {kind : IssueKind}
    (all : ∀ issue ∈ issues, issue.kind = kind) (picked : IssueKind) :
    issues.filter (fun issue => issue.kind = picked) = if kind = picked then issues else [] := by
  split
  · next same =>
    exact List.filter_eq_self.2 fun issue member => decide_eq_true ((all issue member).trans same)
  · next differs =>
    refine List.filter_eq_nil_iff.2 fun issue member found => ?_
    exact differs ((all issue member).symm.trans (of_decide_eq_true found))

end Issue

namespace AssetType

variable {spec : AssetSpec} {assetType : AssetType} {text : List Char} {metadata : Yaml.Mapping}

theorem headerIssues_of_declares (path : Path) (declared : FrontMatter.Declares text metadata) :
    assetType.headerIssues path text = assetType.fieldIssues path metadata := by
  rcases assetType.headerIssues_cases path text with ⟨other, also, shape⟩ | ⟨none, _⟩
  · rw [shape, declared.unique also]
  · exact absurd declared (none metadata)

/-- Issues of one kind all come from the check that reports this kind. -/
theorem filter_kind_validateText (path : Path) (declared : FrontMatter.Declares text metadata)
    (kind : IssueKind) :
    (assetType.validateText path text).issues.filter (fun issue => issue.kind = kind) =
      (if .naming = kind then assetType.nameIssues path else []) ++
        (if .requiredField = kind then assetType.requiredIssues path metadata else []) ++
        (if .fieldType = kind then typeIssues path metadata else []) ++
        (if .unknownField = kind then assetType.unknownIssues path metadata else []) ++
        (if .contentStructure = kind then assetType.probeIssues path text else []) := by
  rw [validateText, headerIssues_of_declares path declared, fieldIssues]
  simp only [List.filter_append, List.append_assoc,
    Issue.filter_kind_of_forall fun _ => @kind_of_mem_nameIssues assetType path _,
    Issue.filter_kind_of_forall fun _ => @kind_of_mem_requiredIssues assetType path metadata _,
    Issue.filter_kind_of_forall fun _ => @kind_of_mem_typeIssues path metadata _,
    Issue.filter_kind_of_forall fun _ => @kind_of_mem_unknownIssues assetType path metadata _,
    Issue.filter_kind_of_forall fun _ => @kind_of_mem_probeIssues assetType path text _]

theorem isPresent_eq_false_iff {field : String} :
    isPresent metadata field = false ↔ Lacks metadata field := by
  rw [Bool.eq_false_iff, ne_eq, isPresent_iff]
  simp only [Lacks, not_exists, not_and, Bool.not_eq_true]

theorem isMistyped_iff {field : String} :
    isMistyped metadata field = true ↔ Mistypes metadata field := by
  unfold isMistyped Mistypes
  cases Yaml.Mapping.get? metadata field <;> simp

/-- The required fields that a mapping lacks, each where it is first declared. -/
theorem exists_missing (compiled : spec.compile = .ok assetType) (path : Path)
    (metadata : Yaml.Mapping) :
    ∃ missing : List String,
      assetType.requiredIssues path metadata = missing.map (Issue.missingField path) ∧
        missing.Nodup ∧
        (∀ field, field ∈ missing ↔ field ∈ spec.required ∧ Lacks metadata field) ∧
        missing.Pairwise fun left right =>
          spec.required.idxOf left < spec.required.idxOf right := by
  have fields := (AssetSpec.describes_of_compile compiled).required
  refine ⟨assetType.required.filter fun field => !isPresent metadata field, rfl,
    fields.nodup.filter _, fun field => ?_, fields.ordered.filter _⟩
  rw [List.mem_filter, fields.mem_iff, Bool.not_eq_true', isPresent_eq_false_iff]

/-- The fields for lists whose value is something else. -/
theorem exists_mistyped (path : Path) (metadata : Yaml.Mapping) :
    ∃ mistyped : List String,
      typeIssues path metadata = mistyped.map (Issue.mistypedField path) ∧
        mistyped.Sublist ["inputs", "capabilities", "rules"] ∧
        ∀ field, field ∈ mistyped ↔
          field ∈ ["inputs", "capabilities", "rules"] ∧ Mistypes metadata field := by
  refine ⟨listFields.filter (isMistyped metadata), rfl, List.filter_sublist, fun field => ?_⟩
  rw [List.mem_filter, isMistyped_iff]
  rfl

theorem filter_requiredField (path : Path) (declared : FrontMatter.Declares text metadata) :
    ((assetType.validateText path text).issues.filter
      fun issue => issue.kind = .requiredField) = assetType.requiredIssues path metadata := by
  rw [filter_kind_validateText path declared]
  simp

theorem filter_fieldType (path : Path) (declared : FrontMatter.Declares text metadata) :
    ((assetType.validateText path text).issues.filter
      fun issue => issue.kind = .fieldType) = typeIssues path metadata := by
  rw [filter_kind_validateText path declared]
  simp

theorem filter_unknownField (path : Path) (declared : FrontMatter.Declares text metadata) :
    ((assetType.validateText path text).issues.filter
      fun issue => issue.kind = .unknownField) = assetType.unknownIssues path metadata := by
  rw [filter_kind_validateText path declared]
  simp

theorem lacks_of_missingField_mem {path : Path} {field : String}
    (declared : FrontMatter.Declares text metadata)
    (member : Issue.missingField path field ∈ (assetType.validateText path text).issues) :
    Lacks metadata field := by
  have reported : Issue.missingField path field ∈ assetType.requiredIssues path metadata := by
    rw [← filter_requiredField path declared]
    exact List.mem_filter.2 ⟨member, rfl⟩
  obtain ⟨other, _, absent, same⟩ := mem_requiredIssues.1 reported
  have named : field = other := (String.append_right_inj _).1 (congrArg Issue.message same)
  rw [named]
  exact isPresent_eq_false_iff.1 absent

theorem mistypes_of_mistypedField_mem {path : Path} {field : String}
    (declared : FrontMatter.Declares text metadata)
    (member : Issue.mistypedField path field ∈ (assetType.validateText path text).issues) :
    Mistypes metadata field := by
  have reported : Issue.mistypedField path field ∈ typeIssues path metadata := by
    rw [← filter_fieldType path declared]
    exact List.mem_filter.2 ⟨member, rfl⟩
  obtain ⟨other, _, mistyped, same⟩ := mem_typeIssues.1 reported
  have named : field = other := (String.append_left_inj _).1 (congrArg Issue.message same)
  rw [named]
  exact isMistyped_iff.1 mistyped

/-- The check of required fields reports every declared field that the mapping lacks, once and in
the order of first declaration, so a compliant document that loses some required fields has as many
such issues. The check of fields for lists reports those whose value counts and is no sequence, and
no field is reported by both. -/
theorem fieldIssues_exact (compiled : spec.compile = .ok assetType) (path : Path)
    (declared : FrontMatter.Declares text metadata) :
    (∃ missing : List String,
        ((assetType.validateText path text).issues.filter
            fun issue => issue.kind = .requiredField) = missing.map (Issue.missingField path) ∧
          missing.Nodup ∧
          (∀ field, field ∈ missing ↔ field ∈ spec.required ∧ Lacks metadata field) ∧
          missing.Pairwise fun left right =>
            spec.required.idxOf left < spec.required.idxOf right) ∧
      (∃ mistyped : List String,
        ((assetType.validateText path text).issues.filter
            fun issue => issue.kind = .fieldType) = mistyped.map (Issue.mistypedField path) ∧
          mistyped.Sublist ["inputs", "capabilities", "rules"] ∧
          ∀ field, field ∈ mistyped ↔
            field ∈ ["inputs", "capabilities", "rules"] ∧ Mistypes metadata field) ∧
      (∀ field, Issue.missingField path field ∈ (assetType.validateText path text).issues →
        Issue.mistypedField path field ∉ (assetType.validateText path text).issues) ∧
      ∀ edited changed fields, FrontMatter.Declares edited changed →
        (∀ field ∈ spec.required, ¬ Lacks metadata field) →
        Omits spec.required metadata changed fields →
        ((assetType.validateText path edited).issues.filter
          fun issue => issue.kind = .requiredField).length = fields.length := by
  refine ⟨?_, ?_, fun field lost found => ?_, ?_⟩
  · rw [filter_requiredField path declared]
    exact exists_missing compiled path metadata
  · rw [filter_fieldType path declared]
    exact exists_mistyped path metadata
  · exact (lacks_of_missingField_mem declared lost).not_mistypes
      (mistypes_of_mistypedField_mem declared found)
  · intro edited changed fields also compliant omits
    obtain ⟨missing, shape, nodup, mem_iff, _⟩ := exists_missing compiled path changed
    have same : missing.Perm fields := (List.perm_ext_iff_of_nodup nodup omits.nodup).2
      fun field => (mem_iff field).trans (omits.mem_iff compliant field).symm
    rw [filter_requiredField path also, shape, List.length_map, same.length_eq]

end AssetType

/-- A declaration that names a required field twice. -/
def AssetSpec.repeating : AssetSpec :=
  { name := "notes", directory := ⟨"d"⟩, pattern := "n", required := ["a", "b", "a", "c"] }

/-- A text with this header and no body. -/
def FrontMatter.headed (header : String) : List Char :=
  "---\n".toList ++ header.toList ++ "\n---\n".toList

namespace AssetType

open FrontMatter

/-- The value of the field is this text. -/
def holdsText (metadata : Yaml.Mapping) (field text : String) : Bool :=
  match Yaml.Mapping.get? metadata field with
  | some (.string found) => found = text
  | _ => false

theorem get?_of_holdsText {metadata : Yaml.Mapping} {field text : String}
    (holds : holdsText metadata field text = true) :
    Yaml.Mapping.get? metadata field = some (.string text) := by
  unfold holdsText at holds
  split at holds
  · next found given => rw [given, of_decide_eq_true holds]
  · cases holds

/-- One of two fields becomes absent and one falsy. -/
theorem fieldIssues_exact_repeating :
    ∃ assetType metadata changed, AssetSpec.repeating.compile = .ok assetType ∧
      Declares (headed "a: 1\nb: [x]\nc: z") metadata ∧
      Declares (headed "b: ''\nc: z") changed ∧
      Omits AssetSpec.repeating.required metadata changed ["b", "a"] ∧
      ((assetType.validateText ⟨"d/n"⟩ (headed "b: ''\nc: z")).issues.filter
        fun issue => issue.kind = .requiredField).length = 2 := by
  have whole : AssetSpec.repeating.compile.toOption.isSome = true := by decide +kernel
  have before : (decode "a: 1\nb: [x]\nc: z".toList).toOption.any (fun metadata =>
      isPresent metadata "a" && isPresent metadata "b" && holdsText metadata "c" "z") = true := by
    decide +kernel
  have after : (decode "b: ''\nc: z".toList).toOption.any (fun metadata =>
      !isPresent metadata "a" && !isPresent metadata "b" && holdsText metadata "c" "z") = true := by
    decide +kernel
  obtain ⟨assetType, compiled⟩ : ∃ assetType, AssetSpec.repeating.compile = .ok assetType := by
    cases done : AssetSpec.repeating.compile with
    | ok assetType => exact ⟨assetType, rfl⟩
    | error error => rw [done] at whole; cases whole
  cases first : decode "a: 1\nb: [x]\nc: z".toList with
  | error error => rw [first] at before; cases before
  | ok metadata =>
    cases second : decode "b: ''\nc: z".toList with
    | error error => rw [second] at after; cases after
    | ok changed =>
      simp only [first, Except.toOption, Option.any_some, Bool.and_eq_true] at before
      simp only [second, Except.toOption, Option.any_some, Bool.and_eq_true,
        Bool.not_eq_true'] at after
      have declared : Declares (headed "a: 1\nb: [x]\nc: z") metadata :=
        ⟨⟨"a: 1\nb: [x]\nc: z".toList, []⟩, by decide +kernel, first⟩
      have edited : Declares (headed "b: ''\nc: z") changed :=
        ⟨⟨"b: ''\nc: z".toList, []⟩, by decide +kernel, second⟩
      have omits : Omits AssetSpec.repeating.required metadata changed ["b", "a"] := by
        refine ⟨by decide, by decide, ?_, ?_⟩
        · simp [← isPresent_eq_false_iff, after.1.1, after.1.2]
        · intro field member kept
          have other : field = "c" := by simp_all [AssetSpec.repeating]
          rw [other, get?_of_holdsText after.2, get?_of_holdsText before.2]
      have compliant : ∀ field ∈ AssetSpec.repeating.required, ¬ Lacks metadata field := by
        have third := get?_of_holdsText before.2
        simp [AssetSpec.repeating, ← isPresent_eq_false_iff, before.1.1, before.1.2]
        simp [isPresent, third, Yaml.Value.isTruthy]
      exact ⟨assetType, metadata, changed, compiled, declared, edited, omits,
        (fieldIssues_exact compiled ⟨"d/n"⟩ declared).2.2.2 _ changed _ edited compliant omits⟩

end AssetType
end AssetLint
