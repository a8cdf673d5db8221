import AssetLint.Proofs.Registry.Construction
import AssetLint.Proofs.Validate.Fields
import AssetLint.Proofs.Yaml.DistinctKeys
import AssetLint.Registry.Builtin

/-!
Documents that meet the schema of a built-in type. What is left to complain of in them is what the
probes look for in the raw text, and only one of the types has a probe: a document of instructions
is to hold one of two spellings of its field for rules. The probe does not look at the decoded
header, so a header that spells this field in another way is reported although the field is there
(`probed_quotedRules`).
-/
namespace AssetLint

namespace AssetType

variable {assetType : AssetType} {path : Path} {text : List Char} {metadata : Yaml.Mapping}

/-- Every key is text and names a field that the type allows. -/
def AllowsKeys (assetType : AssetType) (metadata : Yaml.Mapping) : Prop :=
  ∀ entry ∈ metadata, ∃ field, entry.1 = .string field ∧ field ∈ assetType.allowed

theorem AllowsKeys.knows (keys : assetType.AllowsKeys metadata) : assetType.Knows metadata := by
  intro entry member
  obtain ⟨field, text, allowed⟩ := keys entry member
  rw [text]
  exact List.mem_append.1 (mem_distinct.1 allowed)

/-- The header declares a mapping that meets the schema, and the name matches. -/
structure Complies (assetType : AssetType) (path : Path) (text : List Char) : Prop where
  named : assetType.IsNamed path
  declared : ∃ metadata, FrontMatter.Declares text metadata ∧ assetType.Accepts metadata ∧
    assetType.AllowsKeys metadata

/-- Only the probes can have something to report about a document that meets the schema. -/
theorem Complies.issues_eq (complies : assetType.Complies path text) :
    (assetType.validateText path text).issues = assetType.probeIssues path text := by
  obtain ⟨metadata, declared, accepts, keys⟩ := complies.declared
  have named := nameIssues_eq_nil_iff.2 complies.named
  have headed : assetType.headerIssues path text = [] :=
    headerIssues_eq_nil_iff.2 ⟨metadata, declared, accepts, keys.knows⟩
  rw [validateText, named, headed, List.nil_append, List.nil_append]

/-- Only probes report on the structure of a text. -/
theorem mem_issues_iff_of_contentStructure {issue : Issue} (kind : issue.kind = .contentStructure) :
    issue ∈ (assetType.validateText path text).issues ↔
      issue ∈ assetType.probeIssues path text := by
  refine ⟨fun member => ?_, fun member => List.mem_append_right _ member⟩
  rcases List.mem_append.1 member with early | probed
  · rcases List.mem_append.1 early with named | headed
    · rw [(mem_nameIssues.1 named).2] at kind
      cases kind
    · have place := ((graded_headerIssues assetType path text).within issue headed).2
      simp [kind, IssueKind.place] at place
  · exact probed

end AssetType

/-- One of the two spellings of a field for rules stands in the text. -/
def SpellsRules (text : List Char) : Prop :=
  "rules:".toList <:+: text ∨ "rules =".toList <:+: text

instance (text : List Char) : Decidable (SpellsRules text) :=
  inferInstanceAs (Decidable (_ ∨ _))

namespace Issue

def missingRules (path : Path) : Issue :=
  ⟨path, .contentStructure, "Missing rules section"⟩

end Issue

namespace Registry

open AssetType

variable {registry : Registry} {assetType : AssetType}

theorem describes_builtin (built : builtin = .ok registry)
    (member : assetType ∈ registry.assetTypes) :
    ∃ spec ∈ [prompts, chatmodes, instructions, patterns], spec.Describes assetType := by
  obtain ⟨_, described⟩ := settles_types built
  generalize [prompts, chatmodes, instructions, patterns] = specs at described ⊢
  generalize registry.assetTypes = types at member described
  induction described with
  | nil => cases member
  | cons first _ ih =>
    rcases List.mem_cons.1 member with rfl | inside
    · exact ⟨_, List.mem_cons_self .., first⟩
    · obtain ⟨spec, declared, describes⟩ := ih inside
      exact ⟨spec, List.mem_cons_of_mem _ declared, describes⟩

/-- The type for instructions has one probe, and the other types have none. -/
theorem probes_builtin (built : builtin = .ok registry)
    (member : assetType ∈ registry.assetTypes) :
    (assetType.name = "instructions" ∧ assetType.probes = instructions.probes) ∨
      (assetType.name ≠ "instructions" ∧ assetType.probes = []) := by
  obtain ⟨spec, declared, describes⟩ := describes_builtin built member
  rw [describes.name, describes.probes]
  simp only [List.mem_cons, List.not_mem_nil, or_false] at declared
  rcases declared with rfl | rfl | rfl | rfl
  · exact .inr ⟨by decide, rfl⟩
  · exact .inr ⟨by decide, rfl⟩
  · exact .inl ⟨rfl, rfl⟩
  · exact .inr ⟨by decide, rfl⟩

theorem probeIssues_builtin (built : builtin = .ok registry)
    (member : assetType ∈ registry.assetTypes) (path : Path) (text : List Char) :
    assetType.probeIssues path text =
      if assetType.name = "instructions" ∧ ¬SpellsRules text then [Issue.missingRules path]
      else [] := by
  rcases probes_builtin built member with ⟨name, probes⟩ | ⟨name, probes⟩
  · have satisfied : (⟨["rules:", "rules ="], "Missing rules section"⟩ : Probe).isSatisfiedBy text =
        decide (SpellsRules text) := by
      rw [Bool.eq_iff_iff, Probe.isSatisfiedBy_iff, decide_eq_true_iff]
      simp [SpellsRules]
    rw [probeIssues, probes, instructions]
    by_cases spelt : SpellsRules text <;> simp [satisfied, spelt, name, Issue.missingRules]
  · rw [probeIssues, probes, if_neg fun both => name both.1]
    rfl

/-- A document that meets the schema of its built-in type has no issues, but for one of
instructions in whose text neither spelling of the field for rules stands: it has the one warning
that the section for rules is missing. Any document gets this warning just when it is of
instructions and has neither spelling. -/
theorem issues_builtin (built : builtin = .ok registry)
    (member : assetType ∈ registry.assetTypes) :
    (∀ path text, assetType.Complies path text →
      (assetType.validateText path text).issues =
        if assetType.name = "instructions" ∧ ¬SpellsRules text then [Issue.missingRules path]
        else []) ∧
      ∀ path text, Issue.missingRules path ∈ (assetType.validateText path text).issues ↔
        assetType.name = "instructions" ∧ ¬SpellsRules text := by
  constructor
  · intro path text complies
    rw [complies.issues_eq, probeIssues_builtin built member]
  · intro path text
    rw [mem_issues_iff_of_contentStructure rfl, probeIssues_builtin built member]
    split
    · next both => exact iff_of_true (List.mem_singleton_self _) both
    · next other => exact iff_of_false List.not_mem_nil other

/-- The built-in type for instructions takes the name and what this header declares. -/
def instructionsAccept (path : Path) (header : String) : Bool :=
  builtin.toOption.any fun registry => registry.assetTypes.any fun assetType =>
    assetType.name = "instructions" && assetType.matchesPath path &&
      (FrontMatter.decode header.toList).toOption.any fun metadata =>
        assetType.requiredIssues path metadata = [] && typeIssues path metadata = [] &&
          metadata.all fun entry => assetType.allowed.any entry.1.isTextOf

theorem exists_complies (path : Path) (header : String)
    (accept : instructionsAccept path header = true)
    (parted : FrontMatter.split? (FrontMatter.headed header) = some ⟨header.toList, []⟩) :
    ∃ registry assetType, builtin = .ok registry ∧ assetType ∈ registry.assetTypes ∧
      assetType.name = "instructions" ∧
      assetType.Complies path (FrontMatter.headed header) := by
  unfold instructionsAccept at accept
  obtain ⟨registry, built⟩ : ∃ registry, builtin = .ok registry := by
    cases done : builtin with
    | ok registry => exact ⟨registry, rfl⟩
    | error error => rw [done] at accept; cases accept
  rw [built] at accept
  obtain ⟨assetType, member, accept⟩ := List.any_eq_true.1 accept
  cases decoded : FrontMatter.decode header.toList with
  | error error =>
    rw [decoded] at accept
    simp [Except.toOption] at accept
  | ok metadata =>
    rw [decoded] at accept
    simp only [Except.toOption, Option.any_some, Bool.and_eq_true, decide_eq_true_eq,
      List.all_eq_true, List.any_eq_true] at accept
    obtain ⟨⟨name, named⟩, ⟨required, typed⟩, keys⟩ := accept
    refine ⟨registry, assetType, built, member, name, matchesPath_iff.1 named, metadata,
      ⟨⟨header.toList, []⟩, parted, decoded⟩, accepts_iff.2 ⟨required, typed⟩, ?_⟩
    intro entry inside
    obtain ⟨field, allowed, text⟩ := keys entry inside
    exact ⟨field, Yaml.Value.isTextOf_iff.1 text, allowed⟩

/-- A header that spells the field for rules without quotes. -/
def plainRules : String := "name: a\nglobs: b\nrules: [c]"

/-- A header that declares the same mapping and puts the field for rules in quotes. -/
def quotedRules : String := "name: a\nglobs: b\n'rules': [c]"

/-- The two documents differ in the spelling of one key only. -/
theorem issues_builtin_plainRules :
    ∃ registry assetType, builtin = .ok registry ∧ assetType ∈ registry.assetTypes ∧
      assetType.Complies ⟨"a.instructions.md"⟩ (FrontMatter.headed plainRules) ∧
      (assetType.validateText ⟨"a.instructions.md"⟩ (FrontMatter.headed plainRules)).issues =
        [] := by
  obtain ⟨registry, assetType, built, member, _, complies⟩ :=
    exists_complies ⟨"a.instructions.md"⟩ plainRules (by decide +kernel)
      (by decide +kernel)
  refine ⟨registry, assetType, built, member, complies, ?_⟩
  rw [(issues_builtin built member).1 _ _ complies, if_neg]
  rintro ⟨_, unspelt⟩
  exact unspelt (by decide +kernel)

/-- The header has a rules field that is a sequence, and the document is reported for it. -/
theorem probed_quotedRules :
    ∃ registry assetType, builtin = .ok registry ∧ assetType ∈ registry.assetTypes ∧
      assetType.Complies ⟨"a.instructions.md"⟩ (FrontMatter.headed quotedRules) ∧
      (assetType.validateText ⟨"a.instructions.md"⟩ (FrontMatter.headed quotedRules)).issues =
        [Issue.missingRules ⟨"a.instructions.md"⟩] := by
  obtain ⟨registry, assetType, built, member, name, complies⟩ :=
    exists_complies ⟨"a.instructions.md"⟩ quotedRules (by decide +kernel)
      (by decide +kernel)
  refine ⟨registry, assetType, built, member, complies, ?_⟩
  rw [complies.issues_eq, probeIssues_builtin built member, if_pos]
  exact ⟨name, by decide +kernel⟩

end Registry
end AssetLint
