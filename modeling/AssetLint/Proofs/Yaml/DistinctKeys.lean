import AssetLint.Proofs.Yaml.BlankDocument

/-!
Keys of a mapping that was read. A key that repeats an earlier one is refused, so the keys of a
mapping are distinct (`hasDistinctKeys_of_decodeValue`). Keys that are text are equal only where
the texts are, so that a field has one entry at most, and it is the one that a look-up of the field
finds (`entryFor?_eq_some_iff`). A look-up finds no entry whose key is anything but text, whatever
name the key stands for.
-/
namespace AssetLint.Yaml

/-- The key is text, and the text is this name. -/
def Value.isTextOf (name : String) : Value → Bool
  | .string text => text = name
  | _ => false

theorem Value.isTextOf_iff {name : String} {key : Value} :
    key.isTextOf name = true ↔ key = .string name := by
  cases key <;> simp [isTextOf]

/-- A key that is text stands for that text, and no other key is the text that it stands for. -/
theorem Value.eq_string_keyName_iff {key : Value} :
    key = .string key.keyName ↔ ∃ text, key = .string text := by
  constructor
  · exact fun same => ⟨_, same⟩
  · rintro ⟨text, rfl⟩
    rfl

namespace Mapping

variable {entries earlier : Mapping} {field : String} {entry : Value × Value}

/-- No two keys are equal. -/
def HasDistinctKeys (entries : Mapping) : Prop :=
  entries.Pairwise fun left right => left.1.same right.1 = false

/-- The entry that a look-up of a field finds. -/
def entryFor? (entries : Mapping) (field : String) : Option (Value × Value) :=
  entries.find? fun entry => entry.1.isTextOf field

theorem get?_eq_map_entryFor? (entries : Mapping) (field : String) :
    get? entries field = (entryFor? entries field).map Prod.snd := by
  induction entries with
  | nil => rfl
  | cons first rest ih =>
    obtain ⟨key, value⟩ := first
    unfold entryFor? at ih ⊢
    rw [List.find?_cons]
    cases key with
    | string text =>
      by_cases same : text = field
      · have found : Value.isTextOf field (.string text) = true := decide_eq_true same
        simp only [get?, if_pos same, found, Option.map_some]
      · have passed : Value.isTextOf field (.string text) = false := decide_eq_false same
        simp only [get?, if_neg same, passed]
        exact ih
    | _ => exact ih

/-- Where no key is repeated, the entry of a field is the only one. -/
theorem entryFor?_eq_some_iff (distinct : HasDistinctKeys entries) :
    entryFor? entries field = some entry ↔ entry ∈ entries ∧ entry.1 = .string field := by
  constructor
  · intro found
    unfold entryFor? at found
    have named := List.find?_some found
    exact ⟨List.mem_of_find?_eq_some found, Value.isTextOf_iff.1 named⟩
  · rintro ⟨member, named⟩
    have own : entry.1.isTextOf field = true := Value.isTextOf_iff.2 named
    induction entries with
    | nil => cases member
    | cons first rest ih =>
      obtain ⟨apart, others⟩ := List.pairwise_cons.1 distinct
      unfold entryFor? at ih ⊢
      rw [List.find?_cons]
      rcases List.mem_cons.1 member with rfl | inside
      · rw [own]
      · cases taken : first.1.isTextOf field with
        | false => exact ih others inside
        | true =>
          have differs := apart entry inside
          rw [Value.isTextOf_iff.1 taken, named] at differs
          simp [Value.same] at differs

/-- A look-up of the name of a key finds the entry of this key just when the key is text. -/
theorem entryFor?_keyName_iff (distinct : HasDistinctKeys entries) (member : entry ∈ entries) :
    entryFor? entries entry.1.keyName = some entry ↔ ∃ text, entry.1 = .string text := by
  rw [entryFor?_eq_some_iff distinct, and_iff_right member, Value.eq_string_keyName_iff]

theorem HasDistinctKeys.append_singleton (distinct : HasDistinctKeys earlier)
    (fresh : ∀ other ∈ earlier, other.1.same entry.1 = false) :
    HasDistinctKeys (earlier ++ [entry]) := by
  refine List.pairwise_append.2 ⟨distinct, List.pairwise_singleton _ _, ?_⟩
  intro other member last among
  rw [List.mem_singleton.1 among]
  exact fresh other member

end Mapping

theorem eq_mapping_of_underTag {tag : Option TagText} {value : Value} {entries : Mapping}
    (tagged : underTag tag value = .mapping entries) : value = .mapping entries := by
  unfold underTag at tagged
  split at tagged
  · cases tagged
  · exact tagged

theorem isScalar_of_scalarValue {expected text : String} {tag : Option TagText}
    {style : ScalarStyle} {value : Value}
    (read : scalarValue expected tag text style = .ok value) : value.IsScalar := by
  unfold scalarValue at read
  cases tag with
  | none =>
    dsimp only at read
    split at read
    · exact isScalar_of_plainValue (eq_ok_of_mapError read)
    · cases read
      trivial
  | some tag =>
    -- The cases are those of the standard tags, in the order in which they are looked for.
    dsimp only at read
    split at read
    · split at read <;> cases read
      trivial
    · split at read
      · split at read
        · next integer _ =>
          have read := eq_ok_of_mapError read
          cases integer <;> cases read
          trivial
        · cases read
      · split at read
        · split at read <;> cases read
          trivial
        · split at read
          · split at read <;> cases read
            trivial
          · split at read
            · exact isScalar_of_plainValue (eq_ok_of_mapError read)
            · cases read
              trivial

namespace Document

variable {document : Document} {trail : Trail} {position after : Position}
variable {entries earlier : Mapping}

/-- An entry is added only where its key equals none of the keys before it. -/
theorem hasDistinctKeys_of_entries {decode : PartDecoder Value} {fuel : Nat}
    (distinct : Mapping.HasDistinctKeys earlier)
    (read : document.entries decode trail fuel earlier position = .ok (entries, after)) :
    Mapping.HasDistinctKeys entries := by
  induction fuel generalizing earlier position with
  | zero =>
    cases read
    exact distinct
  | succ fuel ih =>
    unfold Document.entries at read
    obtain ⟨⟨event, mark⟩, _, read⟩ := exists_of_bind_eq_ok read
    dsimp only at read
    split at read
    · cases read
      exact distinct
    · obtain ⟨⟨key, onward⟩, _, read⟩ := exists_of_bind_eq_ok read
      dsimp only at read
      split at read
      · cases read
      · next unrepeated =>
        obtain ⟨⟨value, last⟩, _, read⟩ := exists_of_bind_eq_ok read
        refine ih (distinct.append_singleton fun other member => ?_) read
        simpa using List.find?_eq_none.1 unrepeated other member

theorem hasDistinctKeys_of_contentWith {inner : Option (PartDecoder Value)}
    (read : document.contentWith inner trail position = .ok (.mapping entries, after)) :
    Mapping.HasDistinctKeys entries := by
  unfold contentWith at read
  obtain ⟨⟨event, mark⟩, _, read⟩ := exists_of_bind_eq_ok read
  have read := eq_ok_of_mapError read
  cases event with
  | mappingStart tag =>
    cases inner with
    | none => cases read
    | some decode =>
      obtain ⟨⟨found, last⟩, inside, read⟩ := exists_of_bind_eq_ok read
      obtain ⟨same, _⟩ := Prod.mk.inj (Except.ok.inj read)
      cases eq_mapping_of_underTag same
      exact hasDistinctKeys_of_entries .nil inside
  | scalar tag text style =>
    dsimp only at read
    split at read
    · next value decoded =>
      obtain ⟨same, _⟩ := Prod.mk.inj (Except.ok.inj read)
      cases eq_mapping_of_underTag same
      exact (isScalar_of_scalarValue decoded).elim
    · cases read
  | sequenceStart tag =>
    cases inner with
    | none => cases read
    | some decode =>
      obtain ⟨⟨found, last⟩, _, read⟩ := exists_of_bind_eq_ok read
      obtain ⟨same, _⟩ := Prod.mk.inj (Except.ok.inj read)
      cases eq_mapping_of_underTag same
  | _ => cases read

theorem hasDistinctKeys_of_content {depth : Nat}
    (read : document.content depth trail position = .ok (.mapping entries, after)) :
    Mapping.HasDistinctKeys entries := by
  cases depth with
  | zero => exact hasDistinctKeys_of_contentWith read
  | succ depth => exact hasDistinctKeys_of_contentWith read

theorem hasDistinctKeys_of_throughAlias {depth : Nat}
    (read : document.throughAlias (document.content depth) trail position =
      .ok (.mapping entries, after)) : Mapping.HasDistinctKeys entries := by
  unfold throughAlias at read
  obtain ⟨⟨event, mark⟩, _, read⟩ := exists_of_bind_eq_ok read
  cases event with
  | «alias» number =>
    have read := eq_ok_of_mapError read
    split at read
    · cases read
    · split at read
      · cases read
      · obtain ⟨⟨found, last⟩, inside, read⟩ := exists_of_bind_eq_ok read
        cases read
        exact hasDistinctKeys_of_content inside
  | _ => exact hasDistinctKeys_of_content read

end Document

/-- The keys of a mapping that a text was read to are distinct. -/
theorem hasDistinctKeys_of_decodeValue {text : List Char} {entries : Mapping}
    (read : decodeValue text = .ok (.mapping entries)) : Mapping.HasDistinctKeys entries := by
  unfold decodeValue decodeWith at read
  generalize readDocument text = parsed at read
  obtain ⟨document, followed⟩ := parsed
  obtain ⟨⟨found, after⟩, content, read⟩ := exists_of_bind_eq_ok read
  dsimp only at read
  split at read
  · cases read
  · split at read
    · cases read
    · cases read
      exact Document.hasDistinctKeys_of_throughAlias content

end AssetLint.Yaml
