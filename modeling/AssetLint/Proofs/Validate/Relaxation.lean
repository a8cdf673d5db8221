import Mathlib.Data.List.Nodup
import AssetLint.Proofs.Validate.Keys

/-!
What becomes of the findings when a type asks for less. Only two of the checks look at the lists of
fields, and each of them goes through what it looks at one by one: required fields in their order,
and keys in that of the document. So a name that is allowed in addition takes the warnings about
its keys with it, a field that is no longer required takes the error about its absence, and every
other issue stays where it was (`relaxing_only_removes`).
-/
namespace AssetLint

/-- The last list has the names of the first and those added. How often and in which order is of no
interest, and an added name may have been there before. -/
def Adds (names added more : List String) : Prop :=
  ∀ name, name ∈ more ↔ name ∈ names ∨ name ∈ added

theorem Adds.of_distinct {names added more : List String} (adds : Adds names added more) :
    Adds (distinct names) added (distinct more) := by
  intro name
  rw [mem_distinct, mem_distinct, adds name]

/-- A name can be left out before the repetitions are. -/
theorem distinct_filter_ne (name : String) (names : List String) :
    distinct (names.filter (· ≠ name)) = (distinct names).filter (· ≠ name) := by
  induction names with
  | nil => rfl
  | cons first rest ih =>
    by_cases same : first = name
    · subst same
      simpa [distinct] using ih
    · simp only [distinct, List.filter_cons, ne_eq, same, not_false_eq_true, decide_true, if_true]
      rw [← List.filter_comm, ← ih]

namespace AssetType

/-- The same type with other optional fields. -/
def withOptional (assetType : AssetType) (optional : List String) : AssetType :=
  { assetType with optional }

/-- The same type, but the field is not required. -/
def withoutRequired (assetType : AssetType) (field : String) : AssetType :=
  { assetType with required := assetType.required.filter (· ≠ field) }

end AssetType

namespace AssetSpec

def withOptional (spec : AssetSpec) (optional : List String) : AssetSpec :=
  { spec with optional }

def withoutRequired (spec : AssetSpec) (field : String) : AssetSpec :=
  { spec with required := spec.required.filter (· ≠ field) }

variable {spec : AssetSpec} {assetType : AssetType}

theorem compile_eq_ok_iff :
    spec.compile = .ok assetType ↔
      ∃ pattern, Pattern.compile spec.pattern = .ok pattern ∧ spec.required ≠ [] ∧
        (∀ probe ∈ spec.probes, probe.anyOf ≠ []) ∧
        assetType = ⟨spec.name, spec.directory, pattern, distinct spec.required,
          distinct spec.optional, spec.probes⟩ := by
  unfold compile
  cases Pattern.compile spec.pattern with
  | error error => simp
  | ok pattern =>
    by_cases bare : spec.required = []
    · simp [bare]
    · by_cases empty : ∃ probe ∈ spec.probes, probe.anyOf = []
      · have refused : ¬ ∀ probe ∈ spec.probes, probe.anyOf ≠ [] := by simpa using empty
        simp [bare, empty, refused]
      · have needles : ∀ probe ∈ spec.probes, probe.anyOf ≠ [] := by simpa using empty
        simp only [List.isEmpty_iff, bare, if_false, List.any_eq_true, empty, Except.ok.injEq,
          exists_eq_left', ne_eq, not_false_eq_true, true_and]
        exact ⟨fun same => ⟨needles, same.symm⟩, fun same => same.2.symm⟩

theorem compile_withOptional (compiled : spec.compile = .ok assetType) (optional : List String) :
    (spec.withOptional optional).compile = .ok (assetType.withOptional (distinct optional)) := by
  obtain ⟨pattern, whole, filled, needles, rfl⟩ := compile_eq_ok_iff.1 compiled
  exact compile_eq_ok_iff.2 ⟨pattern, whole, filled, needles, rfl⟩

/-- Another required field must be left. -/
theorem compile_withoutRequired (compiled : spec.compile = .ok assetType) {field : String}
    (left : ∃ other ∈ spec.required, other ≠ field) :
    (spec.withoutRequired field).compile = .ok (assetType.withoutRequired field) := by
  obtain ⟨pattern, whole, _, needles, rfl⟩ := compile_eq_ok_iff.1 compiled
  have filled : (spec.withoutRequired field).required ≠ [] := by
    obtain ⟨other, member, differs⟩ := left
    exact List.ne_nil_of_mem (List.mem_filter.2 ⟨member, decide_eq_true differs⟩)
  refine compile_eq_ok_iff.2 ⟨pattern, whole, filled, needles, ?_⟩
  simp only [AssetType.withoutRequired, withoutRequired, distinct_filter_ne]

end AssetSpec

namespace Issue

variable {path : Path} {names : List String} {name other : String}

/-- The issue is the warning about a key that stands for one of the names. -/
def WarnsOf (path : Path) (names : List String) (issue : Issue) : Prop :=
  ∃ name ∈ names, issue = unknownField path name

instance (path : Path) (names : List String) : DecidablePred (WarnsOf path names) :=
  fun issue => inferInstanceAs (Decidable (∃ name ∈ names, issue = unknownField path name))

theorem warnsOf_unknownField_iff : WarnsOf path names (unknownField path name) ↔ name ∈ names := by
  constructor
  · rintro ⟨other, member, same⟩
    obtain rfl : name = other := (String.append_right_inj _).1 (congrArg message same)
    exact member
  · exact fun member => ⟨name, member, rfl⟩

theorem missingField_inj : missingField path name = missingField path other ↔ name = other :=
  ⟨fun same => (String.append_right_inj _).1 (congrArg message same), congrArg _⟩

end Issue

namespace Outcome

variable {outcome : Outcome} {dropped : Issue → Prop} [DecidablePred dropped]

/-- The outcome without some of its issues. The others keep their order. -/
def without (dropped : Issue → Prop) [DecidablePred dropped] (outcome : Outcome) : Outcome :=
  { outcome with issues := outcome.issues.filter fun issue => ¬ dropped issue }

theorem isValid_without (valid : outcome.isValid = true) :
    (outcome.without dropped).isValid = true := by
  rw [isValid_iff_mild] at valid ⊢
  exact fun issue member => valid issue (List.mem_filter.1 member).1

/-- Warnings do not count. -/
theorem isValid_without_of_mild (mild : ∀ issue, dropped issue → issue.isError = false) :
    (outcome.without dropped).isValid = outcome.isValid := by
  rw [Bool.eq_iff_iff]
  refine ⟨fun valid => ?_, isValid_without⟩
  rw [isValid_iff_mild] at valid ⊢
  intro issue member
  by_cases drop : dropped issue
  · exact mild issue drop
  · exact valid issue (List.mem_filter.2 ⟨member, decide_eq_true drop⟩)

end Outcome

namespace AssetType

variable {assetType relaxed : AssetType} {path : Path} {text : List Char}
variable {metadata : Yaml.Mapping} {field : String} {added more : List String}

section

variable {dropped : Issue → Prop} [DecidablePred dropped]

/-- Issues of other kinds than those that depend on the lists of fields are all kept. -/
theorem filter_not_of_kind {issues : List Issue}
    (only : ∀ issue, dropped issue → issue.kind = .requiredField ∨ issue.kind = .unknownField)
    (other : ∀ issue ∈ issues, issue.kind ≠ .requiredField ∧ issue.kind ≠ .unknownField) :
    (issues.filter fun issue => ¬ dropped issue) = issues := by
  refine List.filter_eq_self.2 fun issue member => decide_eq_true fun drop => ?_
  rcases only issue drop with required | unknown
  · exact (other issue member).1 required
  · exact (other issue member).2 unknown

/-- If the two checks that look at the lists of fields lose just the issues dropped, so does the
whole outcome. -/
theorem validateText_eq_without (pattern : relaxed.pattern = assetType.pattern)
    (probes : relaxed.probes = assetType.probes)
    (only : ∀ issue, dropped issue → issue.kind = .requiredField ∨ issue.kind = .unknownField)
    (required : ∀ metadata, relaxed.requiredIssues path metadata =
      (assetType.requiredIssues path metadata).filter fun issue => ¬ dropped issue)
    (unknown : ∀ metadata, relaxed.unknownIssues path metadata =
      (assetType.unknownIssues path metadata).filter fun issue => ¬ dropped issue) :
    relaxed.validateText path text = (assetType.validateText path text).without dropped := by
  have named : relaxed.nameIssues path =
      (assetType.nameIssues path).filter fun issue => ¬ dropped issue := by
    rw [filter_not_of_kind only fun issue member => by rw [kind_of_mem_nameIssues member]; decide]
    unfold nameIssues matchesPath matchesName
    rw [pattern]
  have probed : relaxed.probeIssues path text =
      (assetType.probeIssues path text).filter fun issue => ¬ dropped issue := by
    rw [filter_not_of_kind only fun issue member => by rw [kind_of_mem_probeIssues member]; decide]
    unfold probeIssues
    rw [probes]
  have typed : ∀ metadata, ((typeIssues path metadata).filter fun issue => ¬ dropped issue) =
      typeIssues path metadata := fun metadata =>
    filter_not_of_kind only fun issue member => by rw [kind_of_mem_typeIssues member]; decide
  -- Where the header gives no mapping the fields are not looked at.
  have missing : ∀ message, ([⟨path, .missingFrontMatter, message⟩] : List Issue).filter
      (fun issue => ¬ dropped issue) = [⟨path, .missingFrontMatter, message⟩] := fun message =>
    filter_not_of_kind only fun issue member => by
      rw [List.mem_singleton.1 member]
      exact ⟨nofun, nofun⟩
  have headed : relaxed.headerIssues path text =
      (assetType.headerIssues path text).filter fun issue => ¬ dropped issue := by
    unfold headerIssues
    cases FrontMatter.parse text with
    | error error => exact (missing _).symm
    | ok document =>
      cases found : document.metadata with
      | none => simpa only [found] using (missing _).symm
      | some metadata =>
        simp only [found, fieldIssues, List.filter_append, required, unknown, typed]
  unfold Outcome.without
  rw [validateText, validateText, List.filter_append, List.filter_append, named, probed, headed]

end

theorem allows_withOptional (adds : Adds assetType.optional added more) (name : String) :
    (assetType.withOptional more).allows name =
      (assetType.allows name || decide (name ∈ added)) := by
  simp [withOptional, allows, adds name, Bool.or_assoc]

/-- The keys that stand for an added name are no longer unknown, and all others are as before. -/
theorem unknownFields_withOptional (adds : Adds assetType.optional added more)
    (metadata : Yaml.Mapping) :
    (assetType.withOptional more).unknownFields metadata =
      (assetType.unknownFields metadata).filter fun name => name ∉ added := by
  unfold unknownFields
  rw [List.filter_filter]
  refine List.filter_congr fun name _ => ?_
  rw [allows_withOptional adds, Bool.not_or, Bool.and_comm, decide_not]

theorem unknownIssues_withOptional (adds : Adds assetType.optional added more) (path : Path)
    (metadata : Yaml.Mapping) :
    (assetType.withOptional more).unknownIssues path metadata =
      (assetType.unknownIssues path metadata).filter fun issue => ¬ issue.WarnsOf path added := by
  rw [unknownIssues, unknownFields_withOptional adds, unknownIssues, List.filter_map]
  congr 1
  refine List.filter_congr fun name _ => decide_eq_decide.2 ?_
  exact (not_congr Issue.warnsOf_unknownField_iff).symm

theorem kind_of_warnsOf {issue : Issue} (warns : issue.WarnsOf path added) :
    issue.kind = .unknownField := by
  obtain ⟨_, _, rfl⟩ := warns
  rfl

theorem validateText_withOptional (adds : Adds assetType.optional added more) (path : Path)
    (text : List Char) :
    (assetType.withOptional more).validateText path text =
      (assetType.validateText path text).without (Issue.WarnsOf path added) := by
  refine validateText_eq_without rfl rfl (fun _ warns => .inr (kind_of_warnsOf warns)) ?required
    (unknownIssues_withOptional adds path)
  case required =>
    intro metadata
    refine (List.filter_eq_self.2 fun issue member => ?_).symm
    rw [decide_eq_true_iff]
    intro warns
    cases (kind_of_mem_requiredIssues member).symm.trans (kind_of_warnsOf warns)

/-- The warnings lost, key by key. -/
theorem filter_warnsOf (path : Path) (added : List String)
    (declared : FrontMatter.Declares text metadata) :
    ((assetType.validateText path text).issues.filter fun issue => issue.WarnsOf path added) =
      ((assetType.unknownFields metadata).filter fun name => name ∈ added).map
        (Issue.unknownField path) := by
  have among : ((assetType.validateText path text).issues.filter fun issue =>
      issue.WarnsOf path added) =
        (assetType.unknownIssues path metadata).filter fun issue => issue.WarnsOf path added := by
    rw [← filter_unknownField path declared, List.filter_filter]
    refine List.filter_congr fun issue _ => ?_
    by_cases warns : issue.WarnsOf path added
    · simp [warns, kind_of_warnsOf warns]
    · simp [warns]
  rw [among, unknownIssues, List.filter_map]
  congr 1
  exact List.filter_congr fun name _ => decide_eq_decide.2 Issue.warnsOf_unknownField_iff

section

variable (declared : field ∈ assetType.required) (adds : Adds assetType.optional [field] more)

include declared adds

theorem allows_withoutRequired (name : String) :
    ((assetType.withoutRequired field).withOptional more).allows name = assetType.allows name := by
  rw [Bool.eq_iff_iff]
  simp only [withoutRequired, withOptional, allows, Bool.or_eq_true, List.contains_iff_mem,
    List.mem_filter, decide_eq_true_eq, adds name, List.mem_singleton]
  by_cases same : name = field
  · simp [same, declared]
  · simp [same]

theorem validateText_withoutRequired (path : Path) (text : List Char) :
    ((assetType.withoutRequired field).withOptional more).validateText path text =
      (assetType.validateText path text).without (· = Issue.missingField path field) := by
  refine validateText_eq_without rfl rfl ?only ?required ?unknown
  case only =>
    rintro _ rfl
    exact .inl rfl
  case required =>
    intro metadata
    rw [requiredIssues, requiredIssues, List.filter_map]
    simp only [withoutRequired, withOptional]
    rw [List.filter_comm]
    congr 1
    refine List.filter_congr fun name _ => decide_eq_decide.2 ?_
    exact (not_congr Issue.missingField_inj).symm
  case unknown =>
    intro metadata
    have kept : ((assetType.unknownIssues path metadata).filter fun issue =>
        ¬ issue = Issue.missingField path field) = assetType.unknownIssues path metadata := by
      refine List.filter_eq_self.2 fun issue member => decide_eq_true ?_
      rintro rfl
      cases kind_of_mem_unknownIssues member
    rw [kept, unknownIssues, unknownIssues, unknownFields, unknownFields]
    simp only [allows_withoutRequired declared adds]

end

/-- No field is reported as missing twice. -/
theorem count_missingField_le (once : assetType.required.Nodup) (path : Path) (text : List Char)
    (field : String) :
    (assetType.validateText path text).issues.count (Issue.missingField path field) ≤ 1 := by
  rcases assetType.headerIssues_cases path text with ⟨metadata, declared, _⟩ | ⟨_, message, shape⟩
  · have among : ((assetType.validateText path text).issues.filter fun issue =>
        issue.kind = .requiredField).count (Issue.missingField path field) =
          (assetType.validateText path text).issues.count (Issue.missingField path field) :=
      List.count_filter rfl
    rw [← among, filter_requiredField path declared]
    refine List.nodup_iff_count.1 ?_ _
    exact List.Nodup.map (fun _ _ => Issue.missingField_inj.1) (once.filter _)
  · rw [List.count_eq_zero_of_not_mem]
    · exact Nat.zero_le 1
    · rw [validateText, shape]
      simp only [List.mem_append, List.mem_singleton, not_or]
      refine ⟨⟨fun named => ?_, fun headed => ?_⟩, fun probed => ?_⟩
      · cases kind_of_mem_nameIssues named
      · cases headed
      · cases kind_of_mem_probeIssues probed

/-- A type that asks for less finds less, and nothing else. Further optional fields take the
warnings about the keys that stand for them, and no outcome becomes valid or invalid by that; a
required field that becomes optional takes the error about it, and no valid outcome becomes invalid.
What is left keeps its order. Declarations can be edited like this, and the types that they are
compiled to differ in the same way, with no more than one error about each field. -/
theorem relaxing_only_removes (assetType : AssetType) :
    (∀ added more, Adds assetType.optional added more → ∀ path text,
      (assetType.withOptional more).validateText path text =
          (assetType.validateText path text).without (Issue.WarnsOf path added) ∧
        ((assetType.withOptional more).validateText path text).isValid =
          (assetType.validateText path text).isValid ∧
        ∀ metadata, FrontMatter.Declares text metadata →
          ((assetType.validateText path text).issues.filter fun issue =>
              issue.WarnsOf path added) =
            ((assetType.unknownFields metadata).filter fun name => name ∈ added).map
              (Issue.unknownField path)) ∧
      (∀ field ∈ assetType.required, ∀ more, Adds assetType.optional [field] more →
        ∀ path text,
          ((assetType.withoutRequired field).withOptional more).validateText path text =
              (assetType.validateText path text).without (· = Issue.missingField path field) ∧
            ((assetType.validateText path text).isValid = true →
              (((assetType.withoutRequired field).withOptional more).validateText
                path text).isValid = true)) ∧
      ∀ spec : AssetSpec, spec.compile = .ok assetType →
        (∀ added optional, Adds spec.optional added optional →
          ∃ more, Adds assetType.optional added more ∧
            (spec.withOptional optional).compile = .ok (assetType.withOptional more)) ∧
        (∀ field ∈ spec.required, ∀ optional, Adds spec.optional [field] optional →
          (∃ other ∈ spec.required, other ≠ field) →
            field ∈ assetType.required ∧ ∃ more, Adds assetType.optional [field] more ∧
              ((spec.withoutRequired field).withOptional optional).compile =
                .ok ((assetType.withoutRequired field).withOptional more)) ∧
        ∀ path text field,
          (assetType.validateText path text).issues.count (Issue.missingField path field) ≤ 1 := by
  refine ⟨fun added more adds path text => ?_, fun field declared more adds path text => ?_,
    fun spec compiled => ?_⟩
  · have fewer := validateText_withOptional adds path text
    refine ⟨fewer, ?_, fun _ => filter_warnsOf path added⟩
    rw [fewer]
    refine Outcome.isValid_without_of_mild fun issue warns => ?_
    simp [Issue.isError, Issue.severity, kind_of_warnsOf warns, IssueKind.severity]
  · have fewer := validateText_withoutRequired declared adds path text
    refine ⟨fewer, fun valid => ?_⟩
    rw [fewer]
    exact Outcome.isValid_without valid
  · obtain ⟨_, _, _, _, rfl⟩ := AssetSpec.compile_eq_ok_iff.1 compiled
    refine ⟨fun added optional adds => ?_, fun field member optional adds left => ?_, ?_⟩
    · exact ⟨_, adds.of_distinct, AssetSpec.compile_withOptional compiled optional⟩
    · have fewer := AssetSpec.compile_withoutRequired compiled left
      exact ⟨mem_distinct.2 member, _, adds.of_distinct,
        AssetSpec.compile_withOptional fewer optional⟩
    · exact fun path text field => count_missingField_le (nodup_distinct _) path text field

open FrontMatter in
/-- Of the keys two stand for one added name, and the field that is no longer required was declared
twice. -/
theorem relaxing_only_removes_repeating :
    ∃ assetType metadata laxer, AssetSpec.repeating.compile = .ok assetType ∧
      Declares (headed "a: ''\n1: x\n'1': y") metadata ∧
      (assetType.withOptional ["1", "1"]).validateText ⟨"d/n"⟩ (headed "a: ''\n1: x\n'1': y") =
        (assetType.validateText ⟨"d/n"⟩ (headed "a: ''\n1: x\n'1': y")).without
          (Issue.WarnsOf ⟨"d/n"⟩ ["1"]) ∧
      ((assetType.validateText ⟨"d/n"⟩ (headed "a: ''\n1: x\n'1': y")).issues.filter
        fun issue => issue.WarnsOf ⟨"d/n"⟩ ["1"]).length = 2 ∧
      ((AssetSpec.repeating.withoutRequired "a").withOptional ["a"]).compile = .ok laxer ∧
      laxer.validateText ⟨"d/n"⟩ (headed "a: ''\n1: x\n'1': y") =
        (assetType.validateText ⟨"d/n"⟩ (headed "a: ''\n1: x\n'1': y")).without
          (· = Issue.missingField ⟨"d/n"⟩ "a") := by
  have whole : (Pattern.compile AssetSpec.repeating.pattern).toOption.isSome = true := by
    decide +kernel
  have keys : (decode "a: ''\n1: x\n'1': y".toList).toOption.any (fun metadata =>
      metadata.map (fun entry => entry.1.keyName) = ["a", "1", "1"]) = true := by
    decide +kernel
  cases given : Pattern.compile AssetSpec.repeating.pattern with
  | error error => rw [given] at whole; cases whole
  | ok pattern =>
    cases decoded : decode "a: ''\n1: x\n'1': y".toList with
    | error error => rw [decoded] at keys; cases keys
    | ok metadata =>
      have compiled : AssetSpec.repeating.compile =
          .ok ⟨"notes", ⟨"d"⟩, pattern, ["a", "b", "c"], [], []⟩ :=
        AssetSpec.compile_eq_ok_iff.2 ⟨pattern, given, by decide, by decide, rfl⟩
      have declared : Declares (headed "a: ''\n1: x\n'1': y") metadata :=
        ⟨⟨"a: ''\n1: x\n'1': y".toList, []⟩, by decide +kernel, decoded⟩
      obtain ⟨widened, moved, edited⟩ := relaxing_only_removes
        ⟨"notes", ⟨"d"⟩, pattern, ["a", "b", "c"], [], []⟩
      obtain ⟨fewer, _, warned⟩ := widened ["1"] ["1", "1"] (by simp [Adds]) ⟨"d/n"⟩
        (headed "a: ''\n1: x\n'1': y")
      obtain ⟨required, more, adds, laxed⟩ := (edited AssetSpec.repeating compiled).2.1 "a"
        (by decide) ["a"] (by simp [Adds, AssetSpec.repeating]) ⟨"b", by decide, by decide⟩
      refine ⟨_, metadata, _, compiled, declared, fewer, ?_, laxed,
        (moved "a" required more adds ⟨"d/n"⟩ _).1⟩
      simp only [decoded, Except.toOption, Option.any_some, decide_eq_true_eq] at keys
      rw [warned metadata declared, List.length_map, unknownFields, keys]
      simp [allows]

end AssetType
end AssetLint
