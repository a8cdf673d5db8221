import AssetLint.Proofs.FrontMatter.BlankHeader
import AssetLint.Proofs.Validate.Fields
import AssetLint.Proofs.Yaml.DistinctKeys

/-!
Which keys name a field. The check for unknown fields goes by the names that keys stand for, and a
number, for one, stands for its digits; the checks of values look for a key that is text. So they
agree on a key just when it is text or its name is not declared (`unknownFields_agree_iff`). A
declared field that looks like a number can be given under a key that neither check minds and none
finds (`unknownFields_disagree_numbered`).
-/
namespace AssetLint

namespace FrontMatter

variable {header text : List Char} {metadata : Yaml.Mapping}

theorem decodeValue_of_decode (decoded : decode header = .ok metadata) :
    Yaml.decodeValue header = .ok (.mapping metadata) := by
  cases blank : isBlankHeader header with
  | false => exact (decode_eq_ok_iff_of_not_isBlankHeader blank).1 decoded
  | true =>
    rw [decode, if_pos blank] at decoded
    cases decoded

theorem hasDistinctKeys_of_decode (decoded : decode header = .ok metadata) :
    Yaml.Mapping.HasDistinctKeys metadata :=
  Yaml.hasDistinctKeys_of_decodeValue (decodeValue_of_decode decoded)

end FrontMatter

def Issue.unknownField (path : Path) (field : String) : Issue :=
  ⟨path, .unknownField, "Unknown field: " ++ field⟩

namespace AssetType

variable {assetType : AssetType} {path : Path} {text : List Char} {metadata : Yaml.Mapping}
variable {field : String}

/-- A mapping lacks a field just when no key that is this text has a truthy value. -/
theorem lacks_iff (distinct : Yaml.Mapping.HasDistinctKeys metadata) :
    Lacks metadata field ↔
      ∀ value, (.string field, value) ∈ metadata → value.isTruthy = false := by
  unfold Lacks
  rw [Yaml.Mapping.get?_eq_map_entryFor?]
  simp only [Option.map_eq_some_iff, Yaml.Mapping.entryFor?_eq_some_iff distinct]
  constructor
  · exact fun lacks value member => lacks value ⟨_, ⟨member, rfl⟩, rfl⟩
  · rintro lacks value ⟨⟨key, _⟩, ⟨member, rfl⟩, rfl⟩
    exact lacks _ member

theorem missingField_mem_iff (declared : FrontMatter.Declares text metadata) :
    Issue.missingField path field ∈ (assetType.validateText path text).issues ↔
      field ∈ assetType.required ∧ Lacks metadata field := by
  have reported : Issue.missingField path field ∈ (assetType.validateText path text).issues ↔
      Issue.missingField path field ∈ assetType.requiredIssues path metadata := by
    rw [← filter_requiredField path declared, List.mem_filter]
    exact (and_iff_left (decide_eq_true rfl)).symm
  rw [reported, mem_requiredIssues]
  constructor
  · rintro ⟨other, required, absent, same⟩
    obtain rfl : field = other := (String.append_right_inj _).1 (congrArg Issue.message same)
    exact ⟨required, isPresent_eq_false_iff.1 absent⟩
  · rintro ⟨required, lacks⟩
    exact ⟨field, required, isPresent_eq_false_iff.2 lacks, rfl⟩

theorem mem_unknownFields_iff :
    field ∈ assetType.unknownFields metadata ↔
      (∃ entry ∈ metadata, entry.1.keyName = field) ∧
        ¬(field ∈ assetType.required ∨ field ∈ assetType.optional) := by
  simp only [unknownFields, List.mem_filter, List.mem_map, allows, Bool.not_eq_true',
    Bool.or_eq_false_iff, List.contains_eq_mem, decide_eq_false_iff_not, not_or]

theorem unknownField_mem_iff (declared : FrontMatter.Declares text metadata) :
    Issue.unknownField path field ∈ (assetType.validateText path text).issues ↔
      field ∈ assetType.unknownFields metadata := by
  have reported : Issue.unknownField path field ∈ (assetType.validateText path text).issues ↔
      Issue.unknownField path field ∈ assetType.unknownIssues path metadata := by
    rw [← filter_unknownField path declared, List.mem_filter]
    exact (and_iff_left (decide_eq_true rfl)).symm
  rw [reported, unknownIssues, List.mem_map]
  constructor
  · rintro ⟨other, unknown, same⟩
    obtain rfl : other = field := (String.append_right_inj _).1 (congrArg Issue.message same)
    exact unknown
  · exact fun unknown => ⟨field, unknown, rfl⟩

/-- The checks of values find an entry that is not reported as unknown, by the name of its key, just
when the key is text or the name is not declared. For a truthy entry, the report of a missing field
of that name comes with one of an unknown field just when the name is not required or a key that is
this text has a truthy value; where the key of the entry is text, no such field is missing. -/
theorem unknownFields_agree_iff {header : List Char}
    (decoded : FrontMatter.decode header = .ok metadata) (assetType : AssetType) :
    (∀ field, Yaml.Mapping.get? metadata field =
        (Yaml.Mapping.entryFor? metadata field).map Prod.snd) ∧
      (∀ entry ∈ metadata,
        (entry.1.keyName ∉ assetType.unknownFields metadata →
            Yaml.Mapping.entryFor? metadata entry.1.keyName = some entry) ↔
          (entry.1.keyName ∈ assetType.required ∨ entry.1.keyName ∈ assetType.optional →
            ∃ name, entry.1 = .string name)) ∧
      ∀ path text, FrontMatter.Declares text metadata → ∀ entry ∈ metadata,
        entry.2.isTruthy = true →
          ((Issue.missingField path entry.1.keyName ∈ (assetType.validateText path text).issues →
              Issue.unknownField path entry.1.keyName ∈
                (assetType.validateText path text).issues) ↔
            (entry.1.keyName ∈ assetType.required → ∃ value,
              (.string entry.1.keyName, value) ∈ metadata ∧ value.isTruthy = true)) ∧
          ((∃ name, entry.1 = .string name) →
            Issue.missingField path entry.1.keyName ∉
              (assetType.validateText path text).issues) := by
  have distinct := FrontMatter.hasDistinctKeys_of_decode decoded
  refine ⟨Yaml.Mapping.get?_eq_map_entryFor? metadata, fun entry member => ?_,
    fun path text declared entry member truthy => ⟨?_, ?_⟩⟩
  · have unreported : entry.1.keyName ∉ assetType.unknownFields metadata ↔
        entry.1.keyName ∈ assetType.required ∨ entry.1.keyName ∈ assetType.optional := by
      rw [mem_unknownFields_iff, not_and_not_right]
      exact ⟨fun declared => declared ⟨entry, member, rfl⟩, fun declared _ => declared⟩
    rw [unreported, Yaml.Mapping.entryFor?_keyName_iff distinct member]
  · rw [missingField_mem_iff declared, unknownField_mem_iff declared, mem_unknownFields_iff,
      lacks_iff distinct]
    constructor
    · intro agree required
      by_contra absent
      have lacks : ∀ value, (.string entry.1.keyName, value) ∈ metadata →
          value.isTruthy = false := fun value there =>
        Bool.eq_false_iff.2 fun found => absent ⟨value, there, found⟩
      exact (agree ⟨required, lacks⟩).2 (.inl required)
    · rintro given ⟨required, lacks⟩
      obtain ⟨value, there, found⟩ := given required
      cases found.symm.trans (lacks value there)
  · rintro ⟨name, named⟩ missing
    have lacks := (lacks_iff distinct).1 ((missingField_mem_iff declared).1 missing).2
    have own : (.string entry.1.keyName, entry.2) ∈ metadata := by
      rw [← Yaml.Value.eq_string_keyName_iff.2 ⟨name, named⟩]
      exact member
    cases truthy.symm.trans (lacks _ own)

/-- A type with a field whose name is also the text of a number. -/
def numbered : AssetType := ⟨"notes", ⟨"d"⟩, ⟨"n", .literal ['n']⟩, ["title", "1"], [], []⟩

/-- The values of two fields, one of which has a number as its key. -/
def numberedEntries : Yaml.Mapping :=
  [(.string "title", .string "z"), (.number (.integer 1), .string "x")]

def isNumberedEntries : Except FrontMatter.HeaderError Yaml.Mapping → Bool
  | .ok [(.string title, .string first), (.number (.integer n), .string second)] =>
    title = "title" && first = "z" && n = 1 && second = "x"
  | _ => false

theorem eq_of_isNumberedEntries {result : Except FrontMatter.HeaderError Yaml.Mapping}
    (same : isNumberedEntries result = true) : result = .ok numberedEntries := by
  unfold isNumberedEntries at same
  split at same
  · simp only [Bool.and_eq_true, decide_eq_true_eq] at same
    obtain ⟨⟨⟨rfl, rfl⟩, rfl⟩, rfl⟩ := same
    rfl
  · cases same

theorem decode_numbered :
    FrontMatter.decode "title: z\n1: x".toList = .ok numberedEntries :=
  eq_of_isNumberedEntries (by decide +kernel)

/-- Of the two keys the one that is text is found. -/
theorem unknownFields_agree_iff_numbered :
    FrontMatter.decode "title: z\n1: x".toList = .ok numberedEntries ∧
      Yaml.Mapping.entryFor? numberedEntries "title" = some (.string "title", .string "z") ∧
      "1" ∉ numbered.unknownFields numberedEntries ∧
      Yaml.Mapping.entryFor? numberedEntries "1" ≠
        some (.number (.integer 1), .string "x") := by
  obtain ⟨_, found, _⟩ := unknownFields_agree_iff decode_numbered numbered
  have text := found (.string "title", .string "z") (List.mem_cons_self ..)
  have number := found (.number (.integer 1), .string "x")
    (List.mem_cons_of_mem _ (List.mem_cons_self ..))
  have unreported : ∀ name, name ∉ numbered.unknownFields numberedEntries := by decide +kernel
  refine ⟨decode_numbered, text.2 (fun _ => ⟨_, rfl⟩) (unreported _), unreported "1",
    fun same => ?_⟩
  obtain ⟨_, key⟩ := number.1 (fun _ => same) (.inl (by decide))
  cases key

/-- The number is no unknown field, and the field that it names is missing. -/
theorem unknownFields_disagree_numbered :
    AssetSpec.compile
        { name := "notes", directory := ⟨"d"⟩, pattern := "n", required := ["title", "1"] } =
      .ok numbered ∧
    FrontMatter.decode "title: z\n1: x".toList = .ok numberedEntries ∧
      Yaml.Value.keyName (.number (.integer 1)) = "1" ∧
      numbered.unknownFields numberedEntries = [] ∧
      Yaml.Mapping.get? numberedEntries "1" = none ∧
      (numbered.validateText ⟨"d/n"⟩ (FrontMatter.headed "title: z\n1: x")).issues =
        [Issue.missingField ⟨"d/n"⟩ "1"] :=
  ⟨rfl, decode_numbered, by decide +kernel, by decide +kernel, rfl, by decide +kernel⟩

end AssetType
end AssetLint
