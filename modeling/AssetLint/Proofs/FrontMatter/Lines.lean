import AssetLint.FrontMatter

/-!
The header of a text by its lines. The scan for the closing marker counts bytes; its invariant
is that the offset is the length of the lines gone by, each with its newline, and that the text
after the opening marker is those lines followed by what remains. So every cut falls between two
lines, and the scan finds the first marker among them.
-/
namespace AssetLint.FrontMatter

/-- The lines of a text, a byte order mark aside. -/
def lines (text : List Char) : List (List Char) :=
  Text.splitOn '\n' (withoutByteOrderMark text)

/-- The line with that index is there and is a marker. -/
def markerAt (lines : List (List Char)) (index : Nat) : Bool :=
  lines[index]?.any isMarker

/-- The text of lines that end in a newline each. -/
def ended (lines : List (List Char)) : List Char :=
  lines.flatMap fun line => line ++ ['\n']

/-- The split at the first marker, where some lines have gone by. -/
def closeLines (gone : List (List Char)) : List (List Char) → Option Split
  | [] => none
  | line :: rest =>
    if isMarker line then some ⟨Text.joinWith '\n' gone, Text.joinWith '\n' rest⟩
    else closeLines (gone ++ [line]) rest

theorem ended_append_singleton (gone : List (List Char)) (line : List Char) :
    ended (gone ++ [line]) = ended gone ++ (line ++ ['\n']) := by
  simp [ended]

/-- Lines without the last newline are the lines with newlines between them. -/
theorem withoutLastNewline_ended (gone : List (List Char)) :
    withoutLastNewline (ended gone) = Text.joinWith '\n' gone := by
  rcases List.eq_nil_or_concat gone with rfl | ⟨before, line, rfl⟩
  · rfl
  · have whole : ended (before ++ [line]) = Text.joinWith '\n' (before ++ [line]) ++ ['\n'] := by
      induction before with
      | nil => simp [ended, Text.joinWith]
      | cons first others ih =>
        have more : others ++ [line] ≠ [] := by simp
        rw [List.cons_append, Text.joinWith_cons '\n' first more, List.append_assoc,
          List.cons_append, ← ih]
        simp [ended]
    rw [List.concat_eq_append, whole, withoutLastNewline, List.getLast?_concat, if_pos rfl,
      List.dropLast_concat]

theorem closeAt_ended (gone : List (List Char)) (remaining body : List Char) :
    closeAt (ended gone ++ remaining) (Text.byteLength (ended gone)) body =
      .ok (some ⟨Text.joinWith '\n' gone, body⟩) := by
  unfold closeAt cut
  rw [Text.takeBytes?_append, ← withoutLastNewline_ended]
  rfl

/-- The scan is never cut short, and it closes at the first marker among the lines to come. -/
theorem scan_eq (gone : List (List Char)) (remaining : List Char) :
    scan (ended gone ++ remaining) (Text.byteLength (ended gone)) remaining =
      .ok (closeLines gone (Text.splitOn '\n' remaining)) := by
  induction length : remaining.length using Nat.strongRecOn generalizing gone remaining with
  | _ size ih =>
  rw [scan]
  split
  · next line rest found =>
    have shape := Text.eq_of_splitOnce? found
    rw [Text.splitOn_of_splitOnce? found, closeLines, Text.joinWith_splitOn]
    split
    · exact closeAt_ended gone remaining rest
    · have shorter : rest.length < size := by
        rw [← length, shape, List.length_append, List.length_cons]
        omega
      -- The lines gone by take in the line and its newline.
      have text : ended gone ++ remaining = ended (gone ++ [line]) ++ rest := by
        rw [shape, ended_append_singleton]
        simp
      have offset : Text.byteLength (ended gone) + (Text.byteLength line + 1) =
          Text.byteLength (ended (gone ++ [line])) := by
        rw [ended_append_singleton, Text.byteLength_append, Text.byteLength_append]
        rfl
      rw [text, offset]
      exact ih rest.length shorter (gone ++ [line]) rest rfl
  · next absent =>
    rw [Text.splitOn_of_splitOnce?_eq_none absent, closeLines, closeLines]
    split
    · exact closeAt_ended gone remaining []
    · rfl

theorem split_eq (text : List Char) :
    split text = .ok (match lines text with
      | [] => none
      | first :: later => if isMarker first then closeLines [] later else none) := by
  unfold split lines
  cases found : Text.splitOnce? '\n' (withoutByteOrderMark text) with
  | none =>
    rw [Text.splitOn_of_splitOnce?_eq_none found]
    simp [closeLines]
  | some parts =>
    obtain ⟨first, afterOpening⟩ := parts
    rw [Text.splitOn_of_splitOnce? found]
    simp only
    split
    · exact scan_eq [] afterOpening
    · rfl

theorem closeLines_append (gone : List (List Char)) {header : List (List Char)}
    {closing : List Char} (body : List (List Char))
    (plain : ∀ line ∈ header, isMarker line = false) (marked : isMarker closing = true) :
    closeLines gone (header ++ closing :: body) =
      some ⟨Text.joinWith '\n' (gone ++ header), Text.joinWith '\n' body⟩ := by
  induction header generalizing gone with
  | nil => simp [closeLines, marked]
  | cons line rest ih =>
    have first := plain line List.mem_cons_self
    have later := ih (gone ++ [line]) fun other member =>
      plain other (List.mem_cons_of_mem _ member)
    rw [List.cons_append, closeLines, first, if_neg Bool.false_ne_true, later, List.append_assoc,
      List.singleton_append]

theorem closeLines_eq_none_iff (gone later : List (List Char)) :
    closeLines gone later = none ↔ ∀ line ∈ later, isMarker line = false := by
  induction later generalizing gone with
  | nil => simp [closeLines]
  | cons line rest ih => cases marked : isMarker line <;> simp [closeLines, marked, ih]

theorem split?_eq_of_lines {text opening closing : List Char} {header body : List (List Char)}
    (shape : lines text = opening :: (header ++ closing :: body))
    (opened : isMarker opening = true) (plain : ∀ line ∈ header, isMarker line = false)
    (closed : isMarker closing = true) :
    split? text = some ⟨Text.joinWith '\n' header, Text.joinWith '\n' body⟩ := by
  unfold split?
  rw [split_eq, shape]
  simp only [opened, if_true]
  exact closeLines_append [] body plain closed

theorem exists_of_closeLines_eq_some {gone later : List (List Char)} {parts : Split}
    (found : closeLines gone later = some parts) :
    ∃ header closing body, later = header ++ closing :: body ∧
      (∀ line ∈ header, isMarker line = false) ∧ isMarker closing = true ∧
      parts = ⟨Text.joinWith '\n' (gone ++ header), Text.joinWith '\n' body⟩ := by
  induction later generalizing gone with
  | nil => cases found
  | cons line rest ih =>
    rw [closeLines] at found
    cases marked : isMarker line with
    | true =>
      rw [if_pos marked] at found
      refine ⟨[], line, rest, rfl, by simp, marked, ?_⟩
      simpa using (Option.some.inj found).symm
    | false =>
      rw [if_neg (by simp [marked])] at found
      obtain ⟨header, closing, body, rfl, plain, closed, shape⟩ := ih found
      refine ⟨line :: header, closing, body, rfl, ?_, closed, ?_⟩
      · exact List.forall_mem_cons.2 ⟨marked, plain⟩
      · simpa using shape

/-- Lines that begin with a header: a marker, lines that are none, and the closing marker. -/
structure Framed (all : List (List Char)) (opening : List Char) (header : List (List Char))
    (closing : List Char) (body : List (List Char)) : Prop where
  shape : all = opening :: (header ++ closing :: body)
  opened : isMarker opening = true
  plain : ∀ line ∈ header, isMarker line = false
  closed : isMarker closing = true

theorem Framed.split?_eq {text opening closing : List Char} {header body : List (List Char)}
    (framed : Framed (lines text) opening header closing body) :
    split? text = some ⟨Text.joinWith '\n' header, Text.joinWith '\n' body⟩ :=
  split?_eq_of_lines framed.shape framed.opened framed.plain framed.closed

theorem exists_framed_of_split? {text : List Char} {parts : Split}
    (found : split? text = some parts) :
    ∃ opening header closing body, Framed (lines text) opening header closing body ∧
      parts = ⟨Text.joinWith '\n' header, Text.joinWith '\n' body⟩ := by
  unfold split? at found
  rw [split_eq] at found
  cases shape : lines text with
  | nil =>
    rw [shape] at found
    cases found
  | cons opening later =>
    rw [shape] at found
    cases opened : isMarker opening with
    | false =>
      simp [opened] at found
    | true =>
      simp only [opened, if_true] at found
      obtain ⟨header, closing, body, rest, plain, closed, same⟩ :=
        exists_of_closeLines_eq_some found
      exact ⟨opening, header, closing, body, ⟨by rw [rest], opened, plain, closed⟩, same⟩

/-- A marker is three hyphens and blanks after them. -/
theorem isMarker_iff {line : List Char} :
    isMarker line = true ↔
      ∃ blanks, line = ['-', '-', '-'] ++ blanks ∧ ∀ c ∈ blanks, Text.isBlank c = true := by
  unfold isMarker
  rw [decide_eq_true_eq]
  constructor
  · intro trimmed
    obtain ⟨blanks, whole, blank⟩ := Text.exists_trimEnd_append line
    rw [trimmed] at whole
    exact ⟨blanks, whole, blank⟩
  · rintro ⟨blanks, rfl, blank⟩
    rw [Text.trimEnd_append _ blank]
    decide

/-- The lines around one that is a marker. -/
theorem exists_markerAt {all : List (List Char)} {index : Nat}
    (marked : markerAt all index = true) :
    ∃ line, isMarker line = true ∧ all[index]? = some line ∧
      all = all.take index ++ line :: all.drop (index + 1) := by
  obtain ⟨line, found, marker⟩ := (Option.any_eq_true _ _).1 marked
  obtain ⟨inside, same⟩ := List.getElem?_eq_some_iff.1 found
  refine ⟨line, marker, found, ?_⟩
  rw [← same, ← List.drop_eq_getElem_cons inside, List.take_append_drop]

theorem markerAt_eq_true_iff {all : List (List Char)} :
    (∃ index, markerAt all index = true) ↔ ∃ line ∈ all, isMarker line = true := by
  constructor
  · rintro ⟨index, marked⟩
    obtain ⟨line, marker, found, _⟩ := exists_markerAt marked
    exact ⟨line, List.mem_of_getElem? found, marker⟩
  · rintro ⟨line, member, marker⟩
    obtain ⟨index, found⟩ := List.mem_iff_getElem?.1 member
    exact ⟨index, by simp [markerAt, found, marker]⟩

/-- A split takes the header from between the first line and the first marker after it. -/
structure SplitsByLines (text : List Char) : Prop where
  uncut : split text = .ok (split? text)
  isSome_iff : (split? text).isSome = true ↔
    markerAt (lines text) 0 = true ∧ ∃ closing, 1 ≤ closing ∧ markerAt (lines text) closing = true
  closed : ∀ closing, markerAt (lines text) 0 = true → 1 ≤ closing →
    markerAt (lines text) closing = true →
    (∀ index, 1 ≤ index → index < closing → markerAt (lines text) index = false) →
    split? text = some
      ⟨Text.joinWith '\n' (((lines text).take closing).drop 1),
        Text.joinWith '\n' ((lines text).drop (closing + 1))⟩

theorem uncut_split (text : List Char) : split text = .ok (split? text) := by
  unfold split?
  rw [split_eq]

theorem isSome_split?_iff (text : List Char) :
    (split? text).isSome = true ↔ markerAt (lines text) 0 = true ∧
      ∃ closing, 1 ≤ closing ∧ markerAt (lines text) closing = true := by
  have whole := split_eq text
  rw [uncut_split] at whole
  rw [Except.ok.inj whole]
  cases lines text with
  | nil => simp [markerAt]
  | cons first later =>
    have shifted : (∃ closing, 1 ≤ closing ∧ markerAt (first :: later) closing = true) ↔
        ∃ index, markerAt later index = true := by
      constructor
      · rintro ⟨closing, after, marked⟩
        obtain ⟨index, rfl⟩ := Nat.exists_eq_add_of_le' after
        exact ⟨index, by simpa [markerAt] using marked⟩
      · rintro ⟨index, marked⟩
        exact ⟨index + 1, Nat.succ_pos index, by simpa [markerAt] using marked⟩
    rw [shifted, markerAt_eq_true_iff]
    have opened : markerAt (first :: later) 0 = isMarker first := by simp [markerAt]
    rw [opened]
    simp only
    split
    · next marked =>
      have closed := closeLines_eq_none_iff [] later
      rw [Option.isSome_iff_ne_none, Ne, closed]
      simp [marked]
    · next unmarked => simp [unmarked]

theorem split?_eq_of_closing {text : List Char} {closing : Nat}
    (opened : markerAt (lines text) 0 = true) (after : 1 ≤ closing)
    (marked : markerAt (lines text) closing = true)
    (least : ∀ index, 1 ≤ index → index < closing → markerAt (lines text) index = false) :
    split? text = some
      ⟨Text.joinWith '\n' (((lines text).take closing).drop 1),
        Text.joinWith '\n' ((lines text).drop (closing + 1))⟩ := by
  obtain ⟨first, firstMarked, firstAt, _⟩ := exists_markerAt opened
  obtain ⟨last, lastMarked, _, whole⟩ := exists_markerAt marked
  have begins : (lines text).take closing = first :: ((lines text).take closing).drop 1 := by
    obtain ⟨inside, same⟩ := List.getElem?_eq_some_iff.1 firstAt
    have there : 0 < ((lines text).take closing).length := by
      rw [List.length_take]
      omega
    have head := List.drop_eq_getElem_cons there
    rw [List.getElem_take, same, List.drop_zero] at head
    exact head
  have shape : lines text = first :: (((lines text).take closing).drop 1 ++
      last :: (lines text).drop (closing + 1)) := by
    rw [← List.cons_append, ← begins]
    exact whole
  have plain : ∀ line ∈ ((lines text).take closing).drop 1, isMarker line = false := by
    intro line member
    obtain ⟨index, found⟩ := List.mem_iff_getElem?.1 member
    rw [List.getElem?_drop, List.getElem?_take, Option.ite_none_right_eq_some] at found
    have unmarked := least (1 + index) (Nat.le_add_right 1 index) found.1
    rw [markerAt, found.2] at unmarked
    exact unmarked
  exact split?_eq_of_lines shape firstMarked plain lastMarked

/-- The lines of a text that was put together from a header and a body. -/
theorem lines_assemble {mark blanks others : List Char} (header body : List Char)
    (order : mark = [] ∨ mark = ['\ufeff']) (flat : '\n' ∉ blanks) (even : '\n' ∉ others) :
    lines (mark ++ (['-', '-', '-'] ++ blanks ++ '\n' :: (header ++ '\n' ::
        (['-', '-', '-'] ++ others ++ '\n' :: body)))) =
      (['-', '-', '-'] ++ blanks) :: (Text.splitOn '\n' header ++
        (['-', '-', '-'] ++ others) :: Text.splitOn '\n' body) := by
  have opening : Text.splitOn '\n' (['-', '-', '-'] ++ blanks) = [['-', '-', '-'] ++ blanks] :=
    Text.splitOn_of_not_mem (by simp [flat])
  have closing : Text.splitOn '\n' (['-', '-', '-'] ++ others) = [['-', '-', '-'] ++ others] :=
    Text.splitOn_of_not_mem (by simp [even])
  have framed : Text.splitOn '\n' (['-', '-', '-'] ++ blanks ++ '\n' :: (header ++ '\n' ::
        (['-', '-', '-'] ++ others ++ '\n' :: body))) =
      (['-', '-', '-'] ++ blanks) :: (Text.splitOn '\n' header ++
        (['-', '-', '-'] ++ others) :: Text.splitOn '\n' body) := by
    rw [Text.splitOn_append, opening, Text.splitOn_append, Text.splitOn_append, closing]
    rfl
  -- The first marker begins with a hyphen, so nothing more is taken for a byte order mark.
  rcases order with rfl | rfl
  · exact framed
  · exact framed

theorem split?_assemble {mark blanks others header : List Char} (body : List Char)
    (order : mark = [] ∨ mark = ['\ufeff'])
    (blank : ∀ c ∈ blanks, Text.isBlank c = true ∧ c ≠ '\n')
    (empty : ∀ c ∈ others, Text.isBlank c = true ∧ c ≠ '\n')
    (plain : ∀ line ∈ Text.splitOn '\n' header, isMarker line = false) :
    split? (mark ++ (['-', '-', '-'] ++ blanks ++ '\n' :: (header ++ '\n' ::
      (['-', '-', '-'] ++ others ++ '\n' :: body)))) = some ⟨header, body⟩ := by
  have shape := lines_assemble header body order (fun member => (blank _ member).2 rfl)
    (fun member => (empty _ member).2 rfl)
  have opened : isMarker (['-', '-', '-'] ++ blanks) = true :=
    isMarker_iff.2 ⟨blanks, rfl, fun c member => (blank c member).1⟩
  have closed : isMarker (['-', '-', '-'] ++ others) = true :=
    isMarker_iff.2 ⟨others, rfl, fun c member => (empty c member).1⟩
  rw [split?_eq_of_lines shape opened plain closed, Text.joinWith_splitOn, Text.joinWith_splitOn]

/-- The header of a text is that of its lines, no cut fails on the way, and a header and a body
that are put together between markers are split into the same again. -/
theorem split_by_lines :
    (∀ text, SplitsByLines text) ∧
      ∀ mark blanks others header body : List Char, mark = [] ∨ mark = ['\ufeff'] →
        (∀ c ∈ blanks, Text.isBlank c = true ∧ c ≠ '\n') →
        (∀ c ∈ others, Text.isBlank c = true ∧ c ≠ '\n') →
        (∀ line ∈ Text.splitOn '\n' header, isMarker line = false) →
        split (mark ++ (['-', '-', '-'] ++ blanks ++ '\n' :: (header ++ '\n' ::
          (['-', '-', '-'] ++ others ++ '\n' :: body)))) = .ok (some ⟨header, body⟩) := by
  constructor
  · intro text
    constructor
    case uncut => exact uncut_split text
    case isSome_iff => exact isSome_split?_iff text
    case closed =>
      intro closing opened after marked least
      exact split?_eq_of_closing opened after marked least
  · intro mark blanks others header body order blank empty plain
    rw [uncut_split, split?_assemble body order blank empty plain]

/-- Blank lines belong to the header, and a later marker to the body. -/
theorem split_by_lines_blank :
    split ('\ufeff' :: "--- \r\n\nä\n---\t\n---\n".toList) =
      .ok (some ⟨"\nä".toList, "---\n".toList⟩) :=
  split_by_lines.2 ['\ufeff'] [' ', '\r'] ['\t'] "\nä".toList "---\n".toList (.inr rfl)
    (by simp [Text.isBlank]) (by simp [Text.isBlank]) (by decide)

end AssetLint.FrontMatter
