import AssetLint.Proofs.Decimal.Integers
import AssetLint.Proofs.Validate.Keys

/-!
When the value of a field counts. Tags stand around a value and count for nothing: both questions
that the checks ask of a value, whether it is truthy and whether it is a sequence, look through
them. So a header can be tagged anywhere below its keys without a change in what the checks report
(`fieldIssues_of_retagged`), and a required field is missing just when its value, without its tags,
is one of a few that stand for nothing (`missingField_mem_iff_absent`).
-/
namespace AssetLint

namespace Yaml

namespace Value

/-- The value without the tags around it. -/
def untagged : Value → Value
  | tagged _ value => value.untagged
  | value => value

/-- A tag is put around the value, or around some value inside it. -/
inductive Tags : Value → Value → Prop
  | here (tag : String) (value : Value) : Tags value (.tagged tag value)
  | inTag (tag : String) {value other : Value} (change : Tags value other) :
      Tags (.tagged tag value) (.tagged tag other)
  | inSequence (before after : List Value) {value other : Value} (change : Tags value other) :
      Tags (.sequence (before ++ value :: after)) (.sequence (before ++ other :: after))
  | inMapping (before after : Mapping) (key : Value) {value other : Value}
      (change : Tags value other) :
      Tags (.mapping (before ++ (key, value) :: after)) (.mapping (before ++ (key, other) :: after))

/-- Null, `false`, zero of either sign, NaN and the empty text. -/
inductive Absent : Value → Prop
  | null : Absent .null
  | no : Absent (.bool false)
  | zero : Absent (.number (.integer 0))
  | floatZero (negative : Bool) (exponent : Int) :
      Absent (.number (.float (.finite negative 0 exponent)))
  | nan : Absent (.number (.float .nan))
  | emptyText : Absent (.string "")

variable {value other : Value}

@[simp] theorem isTruthy_untagged (value : Value) : value.untagged.isTruthy = value.isTruthy := by
  fun_induction untagged value with
  | case1 tag value ih => exact ih
  | case2 value _ => rfl

theorem untagged_ne_tagged (value inner : Value) (tag : String) :
    value.untagged ≠ .tagged tag inner := by
  fun_induction untagged value with
  | case1 _ value ih => exact ih
  | case2 value plain => exact plain tag inner

theorem Tags.isTruthy_eq (change : Tags value other) : value.isTruthy = other.isTruthy := by
  induction change with
  | here tag value => rfl
  | inTag tag change ih => exact ih
  | inSequence before after change ih => rfl
  | inMapping before after key change ih => rfl

theorem Tags.isSequence_eq (change : Tags value other) : value.isSequence = other.isSequence := by
  induction change with
  | here tag value => rfl
  | inTag tag change ih => exact ih
  | inSequence before after change ih => rfl
  | inMapping before after key change ih => rfl

theorem Absent.isTruthy_eq (absent : Absent value) : value.isTruthy = false := by
  cases absent <;> rfl

theorem Absent.of_number {number : Number} (falsy : number.isTruthy = false) :
    Absent (.number number) := by
  cases number with
  | integer value =>
    obtain rfl : value = 0 := by simpa [Number.isTruthy] using falsy
    exact .zero
  | float double =>
    cases double with
    | nan => exact .nan
    | infinite negative => simp [Number.isTruthy, Binary64.isZero] at falsy
    | finite negative mantissa exponent =>
      obtain rfl : mantissa = 0 := by simpa [Number.isTruthy, Binary64.isZero] using falsy
      exact .floatZero negative exponent

theorem Absent.of_isTruthy_eq (plain : ∀ tag inner, value ≠ .tagged tag inner)
    (falsy : value.isTruthy = false) : Absent value := by
  cases value with
  | tagged tag inner => exact absurd rfl (plain tag inner)
  | null => exact .null
  | bool flag =>
    obtain rfl : flag = false := falsy
    exact .no
  | number number => exact .of_number falsy
  | string text =>
    obtain rfl : text = "" := by simpa [isTruthy] using falsy
    exact .emptyText
  | sequence items => cases falsy
  | mapping entries => cases falsy

/-- A value counts as absent just when it is one of those values, whatever tags are around it. -/
theorem absent_untagged_iff (value : Value) : Absent value.untagged ↔ value.isTruthy = false := by
  rw [← isTruthy_untagged]
  exact ⟨Absent.isTruthy_eq,
    Absent.of_isTruthy_eq fun tag inner => untagged_ne_tagged value inner tag⟩

end Value

namespace Mapping

/-- A tag is put around the value under some key, or around a value inside that one. -/
inductive Tags : Mapping → Mapping → Prop
  | entry (before after : Mapping) (key : Value) {value other : Value}
      (change : Value.Tags value other) :
      Tags (before ++ (key, value) :: after) (before ++ (key, other) :: after)

/-- One mapping is the other after any number of tags were put around values or taken off. -/
def Retagged (metadata other : Mapping) : Prop :=
  Relation.EqvGen Tags metadata other

variable {metadata other : Mapping}

/-- What the checks ask of the value of a field. -/
def aspects (metadata : Mapping) (field : String) : Option (Bool × Bool) :=
  (get? metadata field).map fun value => (value.isTruthy, value.isSequence)

theorem Tags.aspects_eq (change : Tags metadata other) (field : String) :
    aspects metadata field = aspects other field := by
  cases change with
  | entry before after key change =>
    unfold aspects
    rw [get?_eq_map_entryFor?, get?_eq_map_entryFor?, entryFor?, entryFor?, List.find?_append,
      List.find?_append, List.find?_cons, List.find?_cons]
    cases List.find? (fun entry => entry.1.isTextOf field) before with
    | some found => rfl
    | none =>
      cases Value.isTextOf field key with
      | false => rfl
      | true => simp [change.isTruthy_eq, change.isSequence_eq]

theorem Tags.keys_eq (change : Tags metadata other) :
    metadata.map Prod.fst = other.map Prod.fst := by
  cases change with
  | entry before after key change => simp

/-- What one tag does not change is the same after any number of them. -/
theorem Retagged.view_eq {View : Type} (same : Retagged metadata other) (view : Mapping → View)
    (kept : ∀ left right, Tags left right → view left = view right) :
    view metadata = view other := by
  induction same with
  | rel left right change => exact kept left right change
  | refl metadata => rfl
  | symm left right _ ih => exact ih.symm
  | trans left middle right _ _ first second => exact first.trans second

theorem Retagged.aspects_eq (same : Retagged metadata other) (field : String) :
    aspects metadata field = aspects other field :=
  same.view_eq (fun entries => aspects entries field) fun _ _ change => change.aspects_eq field

theorem Retagged.keys_eq (same : Retagged metadata other) :
    metadata.map Prod.fst = other.map Prod.fst :=
  same.view_eq (fun entries => entries.map Prod.fst) fun _ _ change => change.keys_eq

end Mapping
end Yaml

namespace AssetType

variable {assetType : AssetType} {path : Path} {metadata other : Yaml.Mapping} {field : String}

theorem isPresent_eq_aspects (metadata : Yaml.Mapping) (field : String) :
    isPresent metadata field = (Yaml.Mapping.aspects metadata field).any Prod.fst := by
  unfold isPresent Yaml.Mapping.aspects
  cases Yaml.Mapping.get? metadata field <;> rfl

theorem isMistyped_eq_aspects (metadata : Yaml.Mapping) (field : String) :
    isMistyped metadata field =
      (Yaml.Mapping.aspects metadata field).any fun aspect => aspect.1 && !aspect.2 := by
  unfold isMistyped Yaml.Mapping.aspects
  cases Yaml.Mapping.get? metadata field <;> rfl

/-- The checks of fields see the keys, and of values only whether they are truthy and whether they
are sequences. -/
theorem fieldIssues_of_retagged (same : Yaml.Mapping.Retagged metadata other) :
    assetType.fieldIssues path metadata = assetType.fieldIssues path other := by
  have present : ∀ field, isPresent metadata field = isPresent other field := by
    intro field
    rw [isPresent_eq_aspects, isPresent_eq_aspects, same.aspects_eq]
  have mistyped : isMistyped metadata = isMistyped other := by
    funext field
    rw [isMistyped_eq_aspects, isMistyped_eq_aspects, same.aspects_eq]
  have names : (metadata.map fun entry => entry.1.keyName) =
      other.map fun entry => entry.1.keyName := by
    have keys := congrArg (List.map Yaml.Value.keyName) same.keys_eq
    rw [List.map_map, List.map_map] at keys
    exact keys
  have required : assetType.requiredIssues path metadata =
      assetType.requiredIssues path other := by
    simp only [requiredIssues, present]
  have typed : typeIssues path metadata = typeIssues path other := by
    rw [typeIssues, typeIssues, mistyped]
  have unknown : assetType.unknownIssues path metadata = assetType.unknownIssues path other := by
    rw [unknownIssues, unknownIssues, unknownFields, unknownFields, names]
  rw [fieldIssues, fieldIssues, required, typed, unknown]

/-- A required field is reported just when it has no value, or one that stands for nothing. -/
theorem missingField_mem_iff_absent :
    Issue.missingField path field ∈ assetType.fieldIssues path metadata ↔
      field ∈ assetType.required ∧
        (Yaml.Mapping.get? metadata field = none ∨
          ∃ value, Yaml.Mapping.get? metadata field = some value ∧
            Yaml.Value.Absent value.untagged) := by
  have lacks : isPresent metadata field = false ↔
      Yaml.Mapping.get? metadata field = none ∨
        ∃ value, Yaml.Mapping.get? metadata field = some value ∧
          Yaml.Value.Absent value.untagged := by
    unfold isPresent
    cases Yaml.Mapping.get? metadata field with
    | none => simp
    | some value => simp [Yaml.Value.absent_untagged_iff]
  rw [← lacks]
  constructor
  · intro member
    rcases List.mem_append.1 member with early | unknown
    · rcases List.mem_append.1 early with required | typed
      · obtain ⟨named, declared, absent, same⟩ := mem_requiredIssues.1 required
        obtain rfl : field = named := (String.append_right_inj _).1 (congrArg Issue.message same)
        exact ⟨declared, absent⟩
      · obtain ⟨_, _, _, same⟩ := mem_typeIssues.1 typed
        cases congrArg Issue.kind same
    · obtain ⟨_, _, _, same⟩ := mem_unknownIssues.1 unknown
      cases congrArg Issue.kind same
  · rintro ⟨declared, absent⟩
    have required : Issue.missingField path field ∈ assetType.requiredIssues path metadata :=
      mem_requiredIssues.2 ⟨field, declared, absent, rfl⟩
    exact List.mem_append_left _ (List.mem_append_left _ required)

/-- Tags can be put around values and taken off without a change in the issues about fields. A
required field is reported just when its value, without tags, is one of those that stand for
nothing; so sequences and mappings count, empty ones too, and so do all integers but zero. That is
also what the nearest double of a number says, which integers of 64 bits always have. -/
theorem fieldIssues_through_tags (assetType : AssetType) (path : Path) :
    (∀ metadata other, Yaml.Mapping.Retagged metadata other →
      assetType.fieldIssues path metadata = assetType.fieldIssues path other) ∧
      (∀ metadata field, Issue.missingField path field ∈ assetType.fieldIssues path metadata ↔
        field ∈ assetType.required ∧
          (Yaml.Mapping.get? metadata field = none ∨
            ∃ value, Yaml.Mapping.get? metadata field = some value ∧
              Yaml.Value.Absent value.untagged)) ∧
      (∀ metadata field value, Yaml.Mapping.get? metadata field = some value →
        ((∃ items, value.untagged = .sequence items) ∨
          (∃ entries, value.untagged = .mapping entries) ∨
          ∃ count : Int, count ≠ 0 ∧ value.untagged = .number (.integer count)) →
        Issue.missingField path field ∉ assetType.fieldIssues path metadata) ∧
      (∀ number : Yaml.Number, number.isTruthy =
        number.double?.all fun double => !double.isZero && double ≠ .nan) ∧
      ∀ count : Int, -9223372036854775808 ≤ count → count ≤ 18446744073709551615 →
        ∃ double, Yaml.Number.double? (.integer count) = some double := by
  refine ⟨fun _ _ same => fieldIssues_of_retagged same, fun _ _ => missingField_mem_iff_absent,
    ?_, Yaml.Number.isTruthy_eq_all_double?, fun _ low high => Binary64.exists_ofInt? low high⟩
  intro metadata field value found present reported
  obtain ⟨_, none | ⟨other, again, absent⟩⟩ := missingField_mem_iff_absent.1 reported
  · cases found.symm.trans none
  · obtain rfl : value = other := Option.some.inj (found.symm.trans again)
    rcases present with ⟨items, shape⟩ | ⟨entries, shape⟩ | ⟨count, filled, shape⟩
    · rw [shape] at absent
      cases absent
    · rw [shape] at absent
      cases absent
    · rw [shape] at absent
      cases absent
      exact filled rfl

/-- A type whose required fields are to hold lists. -/
def listing : AssetType :=
  ⟨"notes", ⟨"d"⟩, ⟨"n", .literal ['n']⟩, ["rules", "inputs"], [], []⟩

/-- Under two tags a list is still a list and a zero is still nothing; the greatest integer of 64
bits has a double. -/
theorem fieldIssues_through_tags_twice :
    Yaml.Mapping.Retagged
        [(.string "rules", .sequence []), (.string "inputs", .number (.integer 0))]
        [(.string "rules", .tagged "!a" (.tagged "!b" (.sequence []))),
          (.string "inputs", .tagged "!c" (.number (.integer 0)))] ∧
      listing.fieldIssues ⟨"d/n"⟩
          [(.string "rules", .tagged "!a" (.tagged "!b" (.sequence []))),
            (.string "inputs", .tagged "!c" (.number (.integer 0)))] =
        [Issue.missingField ⟨"d/n"⟩ "inputs"] ∧
      Issue.missingField ⟨"d/n"⟩ "rules" ∉ listing.fieldIssues ⟨"d/n"⟩
          [(.string "rules", .tagged "!a" (.tagged "!b" (.sequence [])))] ∧
      ∃ double, Yaml.Number.double? (.integer 18446744073709551615) = some double := by
  have inner : Yaml.Mapping.Tags
      [(.string "rules", .sequence []), (.string "inputs", .number (.integer 0))]
      [(.string "rules", .tagged "!b" (.sequence [])),
        (.string "inputs", .number (.integer 0))] :=
    .entry [] [(.string "inputs", .number (.integer 0))] (.string "rules") (.here "!b" _)
  have outer : Yaml.Mapping.Tags
      [(.string "rules", .tagged "!b" (.sequence [])), (.string "inputs", .number (.integer 0))]
      [(.string "rules", .tagged "!a" (.tagged "!b" (.sequence []))),
        (.string "inputs", .number (.integer 0))] :=
    .entry [] [(.string "inputs", .number (.integer 0))] (.string "rules") (.here "!a" _)
  have last : Yaml.Mapping.Tags
      [(.string "rules", .tagged "!a" (.tagged "!b" (.sequence []))),
        (.string "inputs", .number (.integer 0))]
      [(.string "rules", .tagged "!a" (.tagged "!b" (.sequence []))),
        (.string "inputs", .tagged "!c" (.number (.integer 0)))] :=
    .entry [(.string "rules", .tagged "!a" (.tagged "!b" (.sequence [])))] [] (.string "inputs")
      (.here "!c" _)
  have same := Relation.EqvGen.trans _ _ _ (.rel _ _ inner)
    (Relation.EqvGen.trans _ _ _ (.rel _ _ outer) (.rel _ _ last))
  obtain ⟨kept, _, present, _, sized⟩ := fieldIssues_through_tags listing ⟨"d/n"⟩
  refine ⟨same, ?_, ?_, sized _ (by decide) (by decide)⟩
  · rw [← kept _ _ same]
    decide
  · exact present _ "rules" (.tagged "!a" (.tagged "!b" (.sequence []))) rfl (.inl ⟨[], rfl⟩)

end AssetType
end AssetLint
