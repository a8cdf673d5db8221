import AssetLint.FrontMatter
import AssetLint.Proofs.Yaml.BlankDocument

/-!
Headers that are refused without being decoded. The check for them cuts lines at line feeds only
and takes any white space before a comment, where the decoder knows more line breaks and fewer
blanks. A header that is blank to the decoder too has no mapping (`Yaml.isScalar_of_decodeValue`);
one that is not can hide a mapping from the check.
-/
namespace AssetLint.FrontMatter

/-- The header passes for blank, and the decoder finds text in it that is neither white space nor a
comment. -/
def HidesContent (header : List Char) : Prop :=
  isBlankHeader header = true ∧ ¬Yaml.HasBlankLines header

instance (header : List Char) : Decidable (HidesContent header) :=
  inferInstanceAs (Decidable (_ ∧ _))

variable {header : List Char} {metadata : Yaml.Mapping}

theorem decode_eq_ok_iff_of_not_isBlankHeader (filled : isBlankHeader header = false) :
    decode header = .ok metadata ↔ Yaml.decodeValue header = .ok (.mapping metadata) := by
  unfold decode
  rw [filled, if_neg Bool.false_ne_true]
  constructor
  · intro decoded
    split at decoded
    · cases decoded
    · next entries value =>
      cases decoded
      exact value
    · cases decoded
    · cases decoded
  · intro value
    rw [value]

/-- A header that is blank to the decoder as well has no mapping. -/
theorem decodeValue_ne_mapping (blank : Yaml.HasBlankLines header) :
    Yaml.decodeValue header ≠ .ok (.mapping metadata) :=
  fun value => Yaml.isScalar_of_decodeValue blank value

/-- The front matter is the mapping that the decoder finds in the header, but for headers that
hide it from the check for blank ones. -/
theorem decode_eq_ok_iff (header : List Char) (metadata : Yaml.Mapping) :
    decode header = .ok metadata ↔
      Yaml.decodeValue header = .ok (.mapping metadata) ∧ ¬HidesContent header := by
  cases blank : isBlankHeader header with
  | false =>
    rw [decode_eq_ok_iff_of_not_isBlankHeader blank]
    exact (and_iff_left fun hides => Bool.false_ne_true (blank.symm.trans hides.1)).symm
  | true =>
    constructor
    · intro decoded
      rw [decode, if_pos blank] at decoded
      cases decoded
    · rintro ⟨value, shown⟩
      have lines : Yaml.HasBlankLines header :=
        Decidable.byContradiction fun content => shown ⟨blank, content⟩
      exact absurd value (decodeValue_ne_mapping lines)

/-- Headers whose only white space is spaces, tabs and line feeds hide nothing. -/
theorem not_hidesContent_of_spacing
    (spacing : ∀ c ∈ header, Text.isBlank c = true → c = ' ' ∨ c = '\t' ∨ c = '\n') :
    ¬HidesContent header := by
  rintro ⟨blank, content⟩
  have feeds : ∀ c ∈ header, Yaml.isBreak c = true → c = '\n' := by
    intro c member ends
    rcases spacing c member (Yaml.isBlank_of_isBreak ends) with rfl | rfl | feed
    · cases ends
    · cases ends
    · exact feed
  refine content fun line parted => ?_
  rw [Yaml.lines_eq_splitOn feeds] at parted
  refine Yaml.IsBlankLine.of_trim (fun c member white => ?_) ?_
  · rcases spacing c (Text.mem_of_mem_splitOn parted member) white with rfl | rfl | rfl
    · rfl
    · rfl
    · exact absurd member (Text.not_mem_of_mem_splitOn '\n' header line parted)
  · simpa using List.all_eq_true.1 blank line parted

/-- The comment ends at the carriage return, and the entry stands on a line of its own. -/
def hiddenAfterReturn : List Char := "# note\ra: 1".toList

/-- A no-break space is text, and so is the number sign next to it. -/
def hiddenAfterNoBreakSpace : List Char := "\u00a0# x: 1".toList

def isEntry (name : String) (number : Int) : Except Yaml.ReadError Yaml.Value → Bool
  | .ok (.mapping [(.string text, .number (.integer n))]) => text = name && n = number
  | _ => false

theorem eq_of_isEntry {name : String} {number : Int} {result : Except Yaml.ReadError Yaml.Value}
    (entry : isEntry name number result = true) :
    result = .ok (.mapping [(.string name, .number (.integer number))]) := by
  unfold isEntry at entry
  split at entry
  · simp only [Bool.and_eq_true, decide_eq_true_eq] at entry
    rw [entry.1, entry.2]
  · cases entry

theorem decode_hidden :
    (decode hiddenAfterReturn = .error .empty ∧
      Yaml.decodeValue hiddenAfterReturn =
        .ok (.mapping [(.string "a", .number (.integer 1))])) ∧
    decode hiddenAfterNoBreakSpace = .error .empty ∧
      Yaml.decodeValue hiddenAfterNoBreakSpace =
        .ok (.mapping [(.string "\u00a0# x", .number (.integer 1))]) :=
  ⟨⟨if_pos (by decide), eq_of_isEntry (by decide +kernel)⟩,
    if_pos (by decide), eq_of_isEntry (by decide +kernel)⟩

end AssetLint.FrontMatter
