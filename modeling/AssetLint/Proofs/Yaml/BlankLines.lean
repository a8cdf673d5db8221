import AssetLint.Yaml.Token.Scalar

/-!
Texts without content. The decoder cuts lines at every line break it knows, and only a space or a
tab may stand before its comments; other white space is text to it. A text all of whose lines are
white space or such comments stays one wherever reading stops in it: after blanks, comments and
breaks, and after a plain scalar, which such a text can still hold (`HasBlankLines.scanPlain`).
-/
namespace AssetLint.Yaml

/-- The lines of a text as the decoder cuts them. -/
def lines : List Char → List (List Char)
  | [] => [[]]
  | c :: rest =>
    if isBreak c then [] :: lines rest
    else
      match lines rest with
      | [] => [[c]]
      | line :: others => (c :: line) :: others

/-- The line is white space, or a comment after spaces and tabs only. -/
def IsBlankLine (line : List Char) : Prop :=
  (∀ c ∈ line, Text.isBlank c = true) ∨ (line.dropWhile isSpaceOrTab).head? = some '#'

instance (line : List Char) : Decidable (IsBlankLine line) :=
  @instDecidableOr _ _ (List.decidableBAll _ line) (inferInstanceAs (Decidable (_ = _)))

/-- All lines of the text are blank or comments to the decoder. -/
def HasBlankLines (text : List Char) : Prop :=
  ∀ line ∈ lines text, IsBlankLine line

instance (text : List Char) : Decidable (HasBlankLines text) :=
  List.decidableBAll IsBlankLine (lines text)

variable {c : Char} {line rest text before after : List Char}

theorem isBlank_of_isSpaceOrTab (blank : isSpaceOrTab c = true) : Text.isBlank c = true := by
  simp only [isSpaceOrTab, Bool.or_eq_true, decide_eq_true_eq] at blank
  rcases blank with rfl | rfl <;> rfl

theorem isBlank_of_isBreak (ends : isBreak c = true) : Text.isBlank c = true := by
  simp only [isBreak, Bool.or_eq_true, decide_eq_true_eq] at ends
  rcases ends with (((rfl | rfl) | rfl) | rfl) | rfl <;> rfl

namespace IsBlankLine

theorem head (blank : IsBlankLine (c :: line)) : Text.isBlank c = true ∨ c = '#' := by
  rcases blank with white | comment
  · exact .inl (white c (List.mem_cons_self ..))
  · cases space : isSpaceOrTab c with
    | true => exact .inl (isBlank_of_isSpaceOrTab space)
    | false =>
      rw [List.dropWhile_cons_of_neg (by simp [space])] at comment
      exact .inr (Option.some.inj comment)

theorem tail (blank : IsBlankLine (c :: line)) (other : c ≠ '#') : IsBlankLine line := by
  rcases blank with white | comment
  · exact .inl fun d member => white d (List.mem_cons_of_mem c member)
  · cases space : isSpaceOrTab c with
    | true =>
      rw [List.dropWhile_cons_of_pos space] at comment
      exact .inr comment
    | false =>
      rw [List.dropWhile_cons_of_neg (by simp [space])] at comment
      exact absurd (Option.some.inj comment) other

/-- No comment starts next to text that is not a space or a tab. -/
theorem head?_ne (blank : IsBlankLine (c :: line)) (other : c ≠ '#')
    (solid : isSpaceOrTab c = false) : line.head? ≠ some '#' := by
  intro next
  rcases blank with white | comment
  · obtain ⟨others, rfl⟩ : ∃ others, line = '#' :: others := by
      cases line with
      | nil => cases next
      | cons d others => exact ⟨others, by rw [Option.some.inj next]⟩
    cases white '#' (by simp)
  · rw [List.dropWhile_cons_of_neg (by simp [solid])] at comment
    exact other (Option.some.inj comment)

theorem of_append (blank : IsBlankLine (before ++ after)) : IsBlankLine before := by
  induction before with
  | nil => exact .inl fun _ member => absurd member List.not_mem_nil
  | cons c rest ih =>
    by_cases hash : c = '#'
    · exact .inr (by rw [hash]; rfl)
    · have first := (blank.head).resolve_right hash
      rcases blank with white | comment
      · exact .inl fun d member => white d (List.mem_append_left after member)
      · cases space : isSpaceOrTab c with
        | true =>
          rw [List.cons_append, List.dropWhile_cons_of_pos space] at comment
          rcases ih (.inr comment) with inner | inner
          · exact .inl (List.forall_mem_cons.2 ⟨first, inner⟩)
          · exact .inr (by rw [List.dropWhile_cons_of_pos space]; exact inner)
        | false =>
          rw [List.cons_append, List.dropWhile_cons_of_neg (by simp [space])] at comment
          exact absurd (Option.some.inj comment) hash

/-- Where the only blanks of a line are spaces and tabs, trimming it finds what the decoder
finds. -/
theorem of_trim
    (spacing : ∀ c ∈ line, Text.isBlank c = true → isSpaceOrTab c = true)
    (blank : Text.trim line = [] ∨ (Text.trim line).head? = some '#') :
    IsBlankLine line := by
  induction line with
  | nil => exact .inl fun _ member => absurd member List.not_mem_nil
  | cons c rest ih =>
    cases white : Text.isBlank c with
    | true =>
      have space := spacing c (List.mem_cons_self ..) white
      have same : Text.trim (c :: rest) = Text.trim rest := by
        rw [Text.trim, Text.trim, Text.trimStart, List.dropWhile_cons_of_pos white]
        rfl
      rw [same] at blank
      rcases ih (fun d member => spacing d (List.mem_cons_of_mem c member)) blank with all | hash
      · exact .inl (List.forall_mem_cons.2 ⟨white, all⟩)
      · exact .inr (by rw [List.dropWhile_cons_of_pos space]; exact hash)
    | false =>
      have start : Text.trimStart (c :: rest) = c :: rest :=
        List.dropWhile_cons_of_neg (by simp [white])
      rw [Text.trim, start] at blank
      obtain ⟨blanks, whole, ending⟩ := Text.exists_trimEnd_append (c :: rest)
      rcases blank with empty | hash
      · rw [empty, List.nil_append] at whole
        have ends := ending c (by rw [← whole]; exact List.mem_cons_self ..)
        exact absurd (white.symm.trans ends) Bool.false_ne_true
      · obtain ⟨inner, shape⟩ := List.head?_eq_some_iff.1 hash
        rw [shape, List.cons_append] at whole
        rw [(List.cons.inj whole).1]
        exact .inr rfl

end IsBlankLine

theorem lines_ne_nil (text : List Char) : lines text ≠ [] := by
  cases text with
  | nil => exact List.cons_ne_nil _ _
  | cons c rest =>
    unfold lines
    split
    · exact List.cons_ne_nil _ _
    · split <;> exact List.cons_ne_nil _ _

theorem lines_cons_of_isBreak (ends : isBreak c = true) :
    lines (c :: rest) = [] :: lines rest := by
  rw [lines, if_pos ends]

theorem lines_eq_splitOn (feeds : ∀ c ∈ text, isBreak c = true → c = '\n') :
    lines text = Text.splitOn '\n' text := by
  induction text with
  | nil => rfl
  | cons c rest ih =>
    have tail := ih fun d member => feeds d (List.mem_cons_of_mem c member)
    rw [lines, Text.splitOn, tail]
    by_cases feed : c = '\n'
    · rw [if_pos (by rw [feed]; rfl), if_pos feed]
    · rewrite [if_neg fun ends => feed (feeds c (List.mem_cons_self ..) ends), if_neg feed]
      cases Text.splitOn '\n' rest <;> rfl

/-- A character that is no break belongs to the first line. -/
theorem exists_lines_cons (inside : isBreak c = false) (rest : List Char) :
    ∃ line others, lines rest = line :: others ∧ lines (c :: rest) = (c :: line) :: others := by
  obtain ⟨line, others, shape⟩ := List.exists_cons_of_ne_nil (lines_ne_nil rest)
  refine ⟨line, others, shape, ?_⟩
  rw [lines, if_neg (by simp [inside]), shape]

/-- A part that a text begins with has the first lines of the text, and the first part of the line
that it ends in. -/
theorem exists_lines_append (before after : List Char) :
    ∃ line others more, lines before = line :: others ∧
      (∃ tail, lines (before ++ after) = (line ++ tail) :: more) ∧
      ((∀ line ∈ more, IsBlankLine line) → ∀ line ∈ others, IsBlankLine line) := by
  induction before with
  | nil =>
    obtain ⟨line, others, shape⟩ := List.exists_cons_of_ne_nil (lines_ne_nil after)
    exact ⟨[], [], others, rfl, ⟨line, shape⟩, fun _ _ member => absurd member List.not_mem_nil⟩
  | cons c rest ih =>
    obtain ⟨line, others, more, first, ⟨tail, whole⟩, kept⟩ := ih
    rw [List.cons_append]
    cases ends : isBreak c with
    | true =>
      rw [lines_cons_of_isBreak ends, lines_cons_of_isBreak ends, first, whole]
      refine ⟨[], line :: others, (line ++ tail) :: more, rfl, ⟨[], rfl⟩, fun blank => ?_⟩
      rw [List.forall_mem_cons] at blank ⊢
      exact ⟨blank.1.of_append, kept blank.2⟩
    | false =>
      obtain ⟨_, _, same, shape⟩ := exists_lines_cons ends rest
      obtain ⟨_, _, again, joined⟩ := exists_lines_cons ends (rest ++ after)
      cases first.symm.trans same
      cases whole.symm.trans again
      exact ⟨c :: line, others, more, shape, ⟨tail, joined⟩, kept⟩

namespace HasBlankLines

theorem nil : HasBlankLines [] := by
  intro line member
  rw [List.mem_singleton.1 member]
  exact .inl fun _ inside => absurd inside List.not_mem_nil

theorem head (blank : HasBlankLines (c :: rest)) : Text.isBlank c = true ∨ c = '#' := by
  cases ends : isBreak c with
  | true => exact .inl (isBlank_of_isBreak ends)
  | false =>
    obtain ⟨line, others, _, shape⟩ := exists_lines_cons ends rest
    unfold HasBlankLines at blank
    rw [shape] at blank
    exact (blank _ (List.mem_cons_self ..)).head

theorem tail (blank : HasBlankLines (c :: rest)) (other : c ≠ '#') : HasBlankLines rest := by
  unfold HasBlankLines at blank ⊢
  cases ends : isBreak c with
  | true =>
    rw [lines_cons_of_isBreak ends] at blank
    exact (List.forall_mem_cons.1 blank).2
  | false =>
    obtain ⟨line, others, first, shape⟩ := exists_lines_cons ends rest
    rw [shape, List.forall_mem_cons] at blank
    rw [first, List.forall_mem_cons]
    exact ⟨blank.1.tail other, blank.2⟩

theorem head?_ne (blank : HasBlankLines (c :: rest)) (other : c ≠ '#')
    (solid : isSpacing c = false) : rest.head? ≠ some '#' := by
  obtain ⟨space, ends⟩ : isSpaceOrTab c = false ∧ isBreak c = false := by
    simpa [isSpacing] using solid
  obtain ⟨line, others, first, shape⟩ := exists_lines_cons ends rest
  unfold HasBlankLines at blank
  rw [shape, List.forall_mem_cons] at blank
  intro next
  obtain ⟨tail, rfl⟩ : ∃ tail, rest = '#' :: tail := by
    cases rest with
    | nil => cases next
    | cons d tail => exact ⟨tail, by rw [Option.some.inj next]⟩
  obtain ⟨inner, more, _, hashed⟩ := exists_lines_cons (c := '#') rfl tail
  cases hashed.symm.trans first
  exact blank.1.head?_ne other space rfl

/-- What comes after the line is blank, whatever the line is. -/
theorem dropWhile_not_isBreak (others : ∀ line ∈ (lines text).tail, IsBlankLine line) :
    HasBlankLines (text.dropWhile fun c => !isBreak c) := by
  induction text with
  | nil => exact nil
  | cons c rest ih =>
    cases ends : isBreak c with
    | true =>
      rw [lines_cons_of_isBreak ends, List.tail_cons] at others
      rw [List.dropWhile_cons_of_neg (by simp [ends])]
      unfold HasBlankLines
      rw [lines_cons_of_isBreak ends, List.forall_mem_cons]
      exact ⟨.inl fun _ member => absurd member List.not_mem_nil, others⟩
    | false =>
      obtain ⟨line, more, first, shape⟩ := exists_lines_cons ends rest
      rw [List.dropWhile_cons_of_pos (by simp [ends])]
      rw [shape, List.tail_cons] at others
      exact ih (by rwa [first, List.tail_cons])

theorem comment (blank : HasBlankLines text) :
    HasBlankLines (text.dropWhile fun c => !isBreak c) :=
  dropWhile_not_isBreak fun line member => blank line (List.mem_of_mem_tail member)

theorem dropWhile {keep : Char → Bool} (blank : HasBlankLines text) (stops : keep '#' = false) :
    HasBlankLines (text.dropWhile keep) := by
  induction text with
  | nil => exact nil
  | cons c rest ih =>
    cases kept : keep c with
    | false => rwa [List.dropWhile_cons_of_neg (by simp [kept])]
    | true =>
      rw [List.dropWhile_cons_of_pos kept]
      have other : c ≠ '#' := fun hash => by
        rw [hash, stops] at kept
        cases kept
      exact ih (blank.tail other)

theorem drop_one (blank : HasBlankLines text) (other : text.head? ≠ some '#') :
    HasBlankLines (text.drop 1) := by
  cases text with
  | nil => exact nil
  | cons c rest => exact blank.tail fun hash => other (by rw [hash]; rfl)

theorem of_append (blank : HasBlankLines (before ++ after)) : HasBlankLines before := by
  obtain ⟨line, others, more, first, ⟨tail, whole⟩, kept⟩ := exists_lines_append before after
  unfold HasBlankLines at blank ⊢
  rw [whole, List.forall_mem_cons] at blank
  rw [first, List.forall_mem_cons]
  exact ⟨blank.1.of_append, kept blank.2⟩

end HasBlankLines

namespace Cursor

variable {cursor after : Cursor}

theorem rest_skipWhile (cursor : Cursor) (keep : Char → Bool) :
    (cursor.skipWhile keep).rest = cursor.rest.dropWhile keep := by
  have whole : cursor.rest.takeWhile keep ++ cursor.rest.dropWhile keep = cursor.rest :=
    List.takeWhile_append_dropWhile
  calc (cursor.skipWhile keep).rest
      = cursor.rest.drop (cursor.rest.takeWhile keep).length := rfl
    _ = (cursor.rest.takeWhile keep ++ cursor.rest.dropWhile keep).drop
          (cursor.rest.takeWhile keep).length := by rw [whole]
    _ = cursor.rest.dropWhile keep := List.drop_left

theorem eq_of_settle {α : Type} {start : Cursor} {result : Except Fault (α × Cursor)}
    {answer : α × Cursor} (settled : start.settle result = .ok answer) : result = .ok answer := by
  unfold settle at settled
  split at settled
  · split at settled <;> cases settled
  · split at settled
    · cases settled
    · exact settled
  · exact settled

theorem blank_of_lineBreak? (blank : HasBlankLines cursor.rest)
    (found : cursor.lineBreak? = some (c, after)) : HasBlankLines after.rest := by
  unfold lineBreak? at found
  split at found
  · next shape =>
    cases found
    rw [shape] at blank
    exact (blank.tail (by decide)).tail (by decide)
  · next shape =>
    split at found
    · next ends =>
      cases found
      rw [shape] at blank
      exact blank.tail fun hash => by rw [hash] at ends; cases ends
    · cases found
  · cases found

/-- The blocks that a reader is given begin the text. -/
theorem blocksBefore_append (bad : Nat) (text : List Char) (offset room : Nat)
    (block : List Char) : ∃ hidden, blocksBefore bad offset room block text ++ hidden =
      block.reverse ++ text := by
  induction text generalizing offset room block with
  | nil => exact ⟨_, rfl⟩
  | cons c rest ih =>
    unfold blocksBefore
    split
    · split
      · exact ⟨c :: rest, by rw [List.append_nil]⟩
      · obtain ⟨hidden, whole⟩ := ih (offset + c.utf8Size) (blockSize - c.utf8Size) [c]
        exact ⟨hidden, by rw [List.append_assoc, whole]; rfl⟩
    · split
      · exact ⟨_, rfl⟩
      · obtain ⟨hidden, whole⟩ := ih (offset + c.utf8Size) (room - c.utf8Size) (c :: block)
        exact ⟨hidden, by rw [whole, List.reverse_cons, List.append_assoc]; rfl⟩

theorem blank_ofText (blank : HasBlankLines text) : HasBlankLines (ofText text).rest := by
  unfold ofText
  split
  · exact blank
  · next offset _ =>
    obtain ⟨hidden, whole⟩ := blocksBefore_append offset text 0 blockSize []
    exact HasBlankLines.of_append (by rw [whole]; exact blank)

end Cursor

theorem Gap.blank_of_read {tabsFrom : Int} {fuel : Nat} {gap done : Gap} {cursor after : Cursor}
    (blank : HasBlankLines cursor.rest)
    (found : gap.read tabsFrom fuel cursor = .ok (done, after)) :
    HasBlankLines after.rest := by
  induction fuel generalizing gap cursor with
  | zero => cases found; exact blank
  | succ fuel ih =>
    unfold Gap.read at found
    split at found
    · next broken => exact ih (Cursor.blank_of_lineBreak? blank broken) found
    · split at found
      · next c rest shape =>
        split at found
        · next space =>
          split at found
          · cases found
          · have left : HasBlankLines (cursor.skip 1).rest := blank.drop_one fun hash => by
              rw [shape] at hash
              rw [Option.some.inj hash] at space
              cases space
            exact ih left found
        · cases found; exact blank
      · cases found; exact blank

/-- A run of text stops before the end of its line and not at a comment, which needs a space or a
tab before it. -/
theorem HasBlankLines.drop_plainRun {inFlow : Bool} (blank : HasBlankLines text)
    (other : text.head? ≠ some '#') :
    HasBlankLines (text.drop (plainRun inFlow text).1.length) := by
  induction text with
  | nil => exact nil
  | cons c rest ih =>
    unfold plainRun
    split
    · exact blank
    · next solid =>
      have plain : c ≠ '#' := fun hash => other (by rw [hash]; rfl)
      split
      · exact blank
      · split
        · exact blank
        · exact ih (blank.tail plain) (blank.head?_ne plain (by simpa using solid))

theorem blank_of_readPlain {inFlow : Bool} {indent : Int} {start : Mark} {fuel : Nat}
    {plain done : PlainText} {gap : Gap} {cursor after : Cursor}
    (blank : HasBlankLines cursor.rest)
    (found : readPlain inFlow indent start fuel plain gap cursor = .ok (done, after)) :
    HasBlankLines after.rest := by
  induction fuel generalizing plain gap cursor with
  | zero => cases found; exact blank
  | succ fuel ih =>
    unfold readPlain at found
    dsimp only at found
    split at found
    · cases found; exact blank
    · next onward =>
      have other : cursor.rest.head? ≠ some '#' := by
        simp only [Cursor.sees, Bool.or_eq_true, decide_eq_true_eq, not_or] at onward
        exact onward.2
      have left : HasBlankLines (cursor.skip (plainRun inFlow cursor.rest).1.length).rest :=
        blank.drop_plainRun other
      split at found
      · cases found
      · split at found
        · cases found; exact left
        · split at found
          · cases found
          · next spaced =>
            split at found
            · cases found; exact Gap.blank_of_read left spaced
            · exact ih (Gap.blank_of_read left spaced) found

theorem HasBlankLines.scanPlain {inFlow : Bool} {indent : Int} {plain : PlainText}
    {cursor after : Cursor} (blank : HasBlankLines cursor.rest)
    (found : scanPlain inFlow indent cursor = .ok (plain, after)) : HasBlankLines after.rest :=
  blank_of_readPlain blank found

end AssetLint.Yaml
