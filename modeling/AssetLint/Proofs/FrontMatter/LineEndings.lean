import AssetLint.Proofs.FrontMatter.Lines

/-!
Documents whose lines end in a carriage return and a line feed. The split cuts at line feeds only,
so the carriage return stays at the end of every line but the last (`splitOn_toCrlf`); there it is
a blank, which no marker minds (`markerAt_crlfLines`). What is left of it in the parts of the split
is one before each line feed, and one at the end of a header that has lines (`split_toCrlf`).
-/
namespace AssetLint.FrontMatter

/-- The text with a carriage return before every line feed. -/
def toCrlf (text : List Char) : List Char :=
  text.flatMap fun c => if c = '\n' then ['\r', '\n'] else [c]

def dropReturns (text : List Char) : List Char :=
  text.filter fun c => c ≠ '\r'

def Split.dropReturns (parts : Split) : Split :=
  ⟨FrontMatter.dropReturns parts.header, FrontMatter.dropReturns parts.body⟩

/-- A carriage return at the end of every line but the last. -/
def crlfLines : List (List Char) → List (List Char)
  | [] => []
  | [last] => [last]
  | line :: next :: others => (line ++ ['\r']) :: crlfLines (next :: others)

@[simp] theorem toCrlf_newline (rest : List Char) :
    toCrlf ('\n' :: rest) = '\r' :: '\n' :: toCrlf rest := rfl

theorem toCrlf_cons {c : Char} (plain : c ≠ '\n') (rest : List Char) :
    toCrlf (c :: rest) = c :: toCrlf rest := by
  simp [toCrlf, plain]

theorem toCrlf_append (before after : List Char) :
    toCrlf (before ++ after) = toCrlf before ++ toCrlf after :=
  List.flatMap_append

theorem toCrlf_of_not_mem {line : List Char} (flat : '\n' ∉ line) : toCrlf line = line := by
  induction line with
  | nil => rfl
  | cons c rest ih =>
    have plain : c ≠ '\n' := fun same => flat (by simp [same])
    have inner : '\n' ∉ rest := fun member => flat (List.mem_cons_of_mem c member)
    rw [toCrlf_cons plain, ih inner]

theorem dropReturns_append (before after : List Char) :
    dropReturns (before ++ after) = dropReturns before ++ dropReturns after :=
  List.filter_append ..

@[simp] theorem dropReturns_return (rest : List Char) :
    dropReturns ('\r' :: rest) = dropReturns rest := rfl

theorem dropReturns_cons {c : Char} (other : c ≠ '\r') (rest : List Char) :
    dropReturns (c :: rest) = c :: dropReturns rest := by
  simp [dropReturns, other]

/-- Where no carriage return was, the added ones can be taken out again. -/
theorem dropReturns_toCrlf {text : List Char} (bare : '\r' ∉ text) :
    dropReturns (toCrlf text) = text := by
  induction text with
  | nil => rfl
  | cons c rest ih =>
    have other : c ≠ '\r' := fun same => bare (by simp [same])
    have inner := ih fun member => bare (List.mem_cons_of_mem c member)
    by_cases feed : c = '\n'
    · rw [feed, toCrlf_newline, dropReturns_return, dropReturns_cons (by decide), inner]
    · rw [toCrlf_cons feed, dropReturns_cons other, inner]

theorem crlfLines_append (before : List (List Char)) {after : List (List Char)}
    (more : after ≠ []) :
    crlfLines (before ++ after) = before.map (· ++ ['\r']) ++ crlfLines after := by
  induction before with
  | nil => rfl
  | cons line rest ih =>
    obtain ⟨next, others, shape⟩ : ∃ next others, rest ++ after = next :: others :=
      List.exists_cons_of_ne_nil (by simp [more])
    rw [List.cons_append, shape, crlfLines, ← shape, ih, List.map_cons, List.cons_append]

/-- The lines of the changed text are the lines of the text, each but the last with a carriage
return at its end. -/
theorem splitOn_toCrlf (text : List Char) :
    Text.splitOn '\n' (toCrlf text) = crlfLines (Text.splitOn '\n' text) := by
  induction text with
  | nil => rfl
  | cons c rest ih =>
    obtain ⟨part, parts, shape⟩ := List.exists_cons_of_ne_nil (Text.splitOn_ne_nil '\n' rest)
    by_cases feed : c = '\n'
    · have other : ('\r' : Char) ≠ '\n' := by decide
      rw [feed, toCrlf_newline]
      simp only [Text.splitOn, if_true, if_neg other, ih, shape, crlfLines, List.nil_append]
    · rw [toCrlf_cons feed]
      simp only [Text.splitOn, if_neg feed, ih, shape]
      cases parts <;> rfl

theorem joinWith_crlfLines {parts : List (List Char)} (flat : ∀ part ∈ parts, '\n' ∉ part) :
    Text.joinWith '\n' (crlfLines parts) = toCrlf (Text.joinWith '\n' parts) := by
  induction parts with
  | nil => rfl
  | cons line rest ih =>
    have first : toCrlf line = line := toCrlf_of_not_mem (flat line List.mem_cons_self)
    cases rest with
    | nil => exact first.symm
    | cons next others =>
      have inner := ih fun part member => flat part (List.mem_cons_of_mem line member)
      have filled : crlfLines (next :: others) ≠ [] := by
        cases others <;> simp [crlfLines]
      rw [crlfLines, Text.joinWith_cons '\n' _ filled, inner,
        Text.joinWith_cons '\n' line (List.cons_ne_nil next others), toCrlf_append, first,
        toCrlf_newline]
      simp

/-- The lines of a header, each with its carriage return: there is one at the end as well. -/
theorem joinWith_map_return {parts : List (List Char)} (filled : parts ≠ [])
    (flat : ∀ part ∈ parts, '\n' ∉ part) :
    Text.joinWith '\n' (parts.map (· ++ ['\r'])) =
      toCrlf (Text.joinWith '\n' parts) ++ ['\r'] := by
  induction parts with
  | nil => exact absurd rfl filled
  | cons line rest ih =>
    have first : toCrlf line = line := toCrlf_of_not_mem (flat line List.mem_cons_self)
    cases rest with
    | nil => simp [Text.joinWith, first]
    | cons next others =>
      have inner := ih (List.cons_ne_nil next others)
        fun part member => flat part (List.mem_cons_of_mem line member)
      simp only [List.map_cons, Text.joinWith] at inner ⊢
      rw [inner, toCrlf_append, first, toCrlf_newline]
      simp

/-- The carriage return before a line feed is a blank after the marker. -/
theorem isMarker_append_return (line : List Char) : isMarker (line ++ ['\r']) = isMarker line := by
  have blank : ∀ c ∈ ['\r'], Text.isBlank c = true := by
    intro c member
    rw [List.mem_singleton.1 member]
    decide
  unfold isMarker
  rw [Text.trimEnd_append line blank]

theorem markerAt_crlfLines (all : List (List Char)) (index : Nat) :
    markerAt (crlfLines all) index = markerAt all index := by
  induction all generalizing index with
  | nil => rfl
  | cons line rest ih =>
    cases rest with
    | nil => rfl
    | cons next others =>
      rw [crlfLines]
      cases index with
      | zero => simp [markerAt, isMarker_append_return]
      | succ index =>
        have inner := ih index
        simpa [markerAt] using inner

theorem withoutByteOrderMark_toCrlf (text : List Char) :
    withoutByteOrderMark (toCrlf text) = toCrlf (withoutByteOrderMark text) := by
  cases text with
  | nil => rfl
  | cons c rest =>
    by_cases mark : c = '\ufeff'
    · rw [mark, toCrlf_cons (by decide)]
      rfl
    · by_cases feed : c = '\n'
      · rw [feed]
        rfl
      · rw [toCrlf_cons feed]
        simp [withoutByteOrderMark, mark, toCrlf_cons feed]

theorem lines_toCrlf (text : List Char) : lines (toCrlf text) = crlfLines (lines text) := by
  unfold lines
  rw [withoutByteOrderMark_toCrlf, splitOn_toCrlf]

theorem isSome_split?_toCrlf (text : List Char) :
    (split? (toCrlf text)).isSome = true ↔ (split? text).isSome = true := by
  rw [isSome_split?_iff, isSome_split?_iff, lines_toCrlf]
  simp only [markerAt_crlfLines]

/-- The closing marker line has its carriage return unless it is the last line of the text. -/
theorem Framed.toCrlf {text opening closing : List Char} {header body : List (List Char)}
    (framed : Framed (lines text) opening header closing body) :
    ∃ closing, Framed (lines (toCrlf text)) (opening ++ ['\r']) (header.map (· ++ ['\r'])) closing
      (crlfLines body) := by
  have opened : isMarker (opening ++ ['\r']) = true := by
    rw [isMarker_append_return, framed.opened]
  have plain : ∀ line ∈ header.map (· ++ ['\r']), isMarker line = false := by
    intro line member
    obtain ⟨inner, among, rfl⟩ := List.mem_map.1 member
    rw [isMarker_append_return, framed.plain inner among]
  have shape : lines (FrontMatter.toCrlf text) =
      (opening ++ ['\r']) :: (header.map (· ++ ['\r']) ++ crlfLines (closing :: body)) := by
    rw [lines_toCrlf, framed.shape, ← List.cons_append,
      crlfLines_append _ (List.cons_ne_nil closing body)]
    rfl
  cases body with
  | nil => exact ⟨closing, shape, opened, plain, framed.closed⟩
  | cons next others =>
    refine ⟨closing ++ ['\r'], shape, opened, plain, ?_⟩
    rw [isMarker_append_return, framed.closed]

theorem not_mem_of_mem_lines {text line : List Char} (member : line ∈ lines text) : '\n' ∉ line :=
  Text.not_mem_of_mem_splitOn '\n' _ line member

theorem mem_of_mem_lines {text line : List Char} {c : Char} (member : line ∈ lines text)
    (inside : c ∈ line) : c ∈ text := by
  have kept : c ∈ withoutByteOrderMark text := Text.mem_of_mem_splitOn member inside
  unfold withoutByteOrderMark at kept
  split at kept
  · exact List.mem_cons_of_mem _ kept
  · exact kept

section Framed

variable {text opening closing : List Char} {header body : List (List Char)}

theorem Framed.mem_of_header (framed : Framed (lines text) opening header closing body)
    {line : List Char} (member : line ∈ header) : line ∈ lines text := by
  rw [framed.shape]
  simp [member]

theorem Framed.mem_of_body (framed : Framed (lines text) opening header closing body)
    {line : List Char} (member : line ∈ body) : line ∈ lines text := by
  rw [framed.shape]
  simp [member]

/-- The second line is a marker just when the header has no lines. -/
theorem Framed.markerAt_one (framed : Framed (lines text) opening header closing body) :
    markerAt (lines text) 1 = true ↔ header = [] := by
  rw [framed.shape]
  cases header with
  | nil => simp [markerAt, framed.closed]
  | cons first others =>
    have plain := framed.plain first List.mem_cons_self
    simp [markerAt, plain]

/-- The split of the changed text, by the split of the text. -/
theorem Framed.split?_toCrlf (framed : Framed (lines text) opening header closing body) :
    split? (FrontMatter.toCrlf text) = some
      ⟨if markerAt (lines text) 1 then [] else
          FrontMatter.toCrlf (Text.joinWith '\n' header) ++ ['\r'],
        FrontMatter.toCrlf (Text.joinWith '\n' body)⟩ := by
  obtain ⟨_, returned⟩ := framed.toCrlf
  have after : Text.joinWith '\n' (crlfLines body) =
      FrontMatter.toCrlf (Text.joinWith '\n' body) :=
    joinWith_crlfLines fun line member => not_mem_of_mem_lines (framed.mem_of_body member)
  rw [returned.split?_eq, after]
  by_cases blank : header = []
  · rw [if_pos (framed.markerAt_one.2 blank), blank]
    rfl
  · have between := joinWith_map_return blank
      fun line member => not_mem_of_mem_lines (framed.mem_of_header member)
    rw [if_neg fun marked => blank (framed.markerAt_one.1 marked), between]

end Framed

/-- The parts of the changed text, by the parts of the text. -/
theorem split?_toCrlf {text header body : List Char} (found : split? text = some ⟨header, body⟩) :
    split? (toCrlf text) = some
      ⟨if markerAt (lines text) 1 then [] else toCrlf header ++ ['\r'], toCrlf body⟩ := by
  obtain ⟨_, _, _, _, framed, same⟩ := exists_framed_of_split? found
  obtain ⟨rfl, rfl⟩ := Split.mk.inj same
  exact framed.split?_toCrlf

/-- Where the second line is a marker, nothing is between the two. -/
theorem header_eq_nil_of_markerAt {text header body : List Char}
    (found : split? text = some ⟨header, body⟩) (marked : markerAt (lines text) 1 = true) :
    header = [] := by
  obtain ⟨_, _, _, _, framed, same⟩ := exists_framed_of_split? found
  obtain ⟨rfl, rfl⟩ := Split.mk.inj same
  rw [framed.markerAt_one.1 marked]
  rfl

/-- The parts hold no characters but those of the text, and line feeds. -/
theorem mem_of_split? {text header body : List Char} {c : Char} (plain : c ≠ '\n')
    (found : split? text = some ⟨header, body⟩) (member : c ∈ header ∨ c ∈ body) : c ∈ text := by
  obtain ⟨_, _, _, _, framed, same⟩ := exists_framed_of_split? found
  obtain ⟨rfl, rfl⟩ := Split.mk.inj same
  rcases member with inHeader | inBody
  · obtain ⟨line, among, inside⟩ := Text.mem_joinWith plain inHeader
    exact mem_of_mem_lines (framed.mem_of_header among) inside
  · obtain ⟨line, among, inside⟩ := Text.mem_joinWith plain inBody
    exact mem_of_mem_lines (framed.mem_of_body among) inside

theorem split?_congr {text other : List Char}
    (same : withoutByteOrderMark text = withoutByteOrderMark other) :
    split? text = split? other := by
  unfold split? split
  rw [same]

/-- A text with line feeds alone and the same text with a carriage return before each of them
split alike: one has a header if the other has, and the parts are the same but for the carriage
returns, of which a header that has lines keeps one at its end. A byte order mark changes neither
split. -/
theorem split_toCrlf {text : List Char} (bare : '\r' ∉ text) :
    ((split? (toCrlf text)).isSome = true ↔ (split? text).isSome = true) ∧
      (∀ header body, split? text = some ⟨header, body⟩ →
        split (toCrlf text) = .ok (some
          ⟨if markerAt (lines text) 1 then [] else toCrlf header ++ ['\r'], toCrlf body⟩)) ∧
      (split? (toCrlf text)).map Split.dropReturns = split? text ∧
      (text.head? ≠ some '\ufeff' →
        split? ('\ufeff' :: text) = split? text ∧
          split? (toCrlf ('\ufeff' :: text)) = split? (toCrlf text)) := by
  refine ⟨isSome_split?_toCrlf text, ?_, ?_, ?_⟩
  · intro header body found
    rw [uncut_split, split?_toCrlf found]
  · cases found : split? text with
    | none =>
      have absent : split? (toCrlf text) = none := by
        rw [← Option.not_isSome_iff_eq_none, isSome_split?_toCrlf, found]
        simp
      rw [absent]
      rfl
    | some parts =>
      obtain ⟨header, body⟩ := parts
      have bareHeader : '\r' ∉ header := fun member =>
        bare (mem_of_split? (by decide) found (.inl member))
      have bareBody : '\r' ∉ body := fun member =>
        bare (mem_of_split? (by decide) found (.inr member))
      rw [split?_toCrlf found, Option.map_some, Split.dropReturns, dropReturns_toCrlf bareBody]
      split
      · next marked =>
        rw [header_eq_nil_of_markerAt found marked]
        rfl
      · rw [dropReturns_append, dropReturns_toCrlf bareHeader]
        simp [dropReturns]
  · intro unmarked
    have dropped : withoutByteOrderMark text = text := by
      unfold withoutByteOrderMark
      split
      · exact absurd rfl unmarked
      · rfl
    constructor
    · apply split?_congr
      rw [dropped]
      rfl
    · apply split?_congr
      rw [withoutByteOrderMark_toCrlf, withoutByteOrderMark_toCrlf, dropped]
      rfl

/-- The closing marker is the last line and has no line ending in either text. -/
theorem split_toCrlf_unterminated :
    '\r' ∉ "---\na: 1\n\n---".toList ∧
      split? "---\na: 1\n\n---".toList = some ⟨"a: 1\n".toList, []⟩ ∧
      split "---\r\na: 1\r\n\r\n---".toList = .ok (some ⟨"a: 1\r\n\r".toList, []⟩) ∧
      "---\na: 1\n\n---".toList.head? ≠ some '\ufeff' ∧
      split? ('\ufeff' :: "---\na: 1\n\n---".toList) = some ⟨"a: 1\n".toList, []⟩ := by
  have bare : '\r' ∉ "---\na: 1\n\n---".toList := by decide
  have found : split? "---\na: 1\n\n---".toList = some ⟨"a: 1\n".toList, []⟩ := by
    decide +kernel
  have unmarked : "---\na: 1\n\n---".toList.head? ≠ some '\ufeff' := by decide
  obtain ⟨_, parted, _, marked⟩ := split_toCrlf bare
  exact ⟨bare, found, parted _ _ found, unmarked, (marked unmarked).1.trans found⟩

end AssetLint.FrontMatter
