import AssetLint.Proofs.Yaml.BlankLines
import AssetLint.Yaml.Token.Queue

/-!
Tokens of a text without content. Such a text opens nothing and names no key, so that reading
ahead stays on one level: what waits in the queue is a plain scalar or the end of the text.
-/
namespace AssetLint.Yaml

theorem exists_of_bind_eq_ok {ε α β : Type} {first : Except ε α} {onward : α → Except ε β}
    {value : β} (success : first >>= onward = .ok value) :
    ∃ middle, first = .ok middle ∧ onward middle = .ok value := by
  cases first with
  | error fault => cases success
  | ok middle => exact ⟨middle, rfl, success⟩

/-- Plain scalars and the end are all that a text without content comes to. -/
def Lexeme.IsPlain : Lexeme → Prop
  | .streamEnd => True
  | .scalar _ style => style = .plain
  | _ => False

/-- The text ahead is without content, no collection is open, and no key is called for. -/
structure TokenQueue.Idle (queue : TokenQueue) : Prop where
  blank : HasBlankLines queue.cursor.rest
  indent : queue.indent = -1
  outer : queue.outerIndents = []
  level : ∃ key, queue.keys = [key] ∧ ∀ noted ∈ key, noted.required = false
  plain : ∀ token ∈ queue.waiting, token.lexeme.IsPlain

namespace TokenQueue

variable {queue next : TokenQueue} {text : List Char}

theorem idle_ofText (blank : HasBlankLines text) : (ofText text).Idle where
  blank := Cursor.blank_ofText blank
  indent := rfl
  outer := rfl
  level := ⟨none, rfl, fun _ noted => nomatch noted⟩
  plain := fun _ waits => absurd waits List.not_mem_nil

namespace Idle

theorem inFlow (idle : queue.Idle) : queue.inFlow = false := by
  obtain ⟨key, keys, _⟩ := idle.level
  rw [TokenQueue.inFlow, keys]
  rfl

theorem push {lexeme : Lexeme} {start stop : Mark} (idle : queue.Idle) (plain : lexeme.IsPlain) :
    (queue.push lexeme start stop).Idle :=
  { idle with
    plain := fun token waits => by
      rcases List.mem_append.1 waits with before | last
      · exact idle.plain token before
      · rw [List.mem_singleton.1 last]
        exact plain }

theorem drop (idle : queue.Idle) : queue.drop.Idle :=
  { idle with plain := fun token waits => idle.plain token (List.mem_of_mem_drop waits) }

theorem unindentTo (idle : queue.Idle) (column : Int) : (queue.unindentTo column).Idle := by
  unfold TokenQueue.unindentTo
  rw [if_neg (by rw [idle.inFlow]; decide), idle.outer]
  exact { idle with
    outer := rfl
    plain := fun token waits => idle.plain token (by simpa [closeBlocks] using waits) }

theorem skipSpacing (idle : queue.Idle) (fuel : Nat) :
    (TokenQueue.skipSpacing fuel queue).Idle := by
  induction fuel generalizing queue with
  | zero => exact idle
  | succ fuel ih =>
    unfold TokenQueue.skipSpacing
    extract_lets cursor afterMark tabs afterBlanks afterComment
    have marked : HasBlankLines afterMark.rest := by
      unfold afterMark
      split
      · next starts =>
        refine idle.blank.drop_one fun hash => ?_
        rw [Cursor.sees, hash] at starts
        cases starts.2
      · exact idle.blank
    have unblank : HasBlankLines afterBlanks.rest := by
      unfold afterBlanks
      rw [Cursor.rest_skipWhile]
      exact marked.dropWhile (by simp)
    have uncommented : HasBlankLines afterComment.rest := by
      unfold afterComment
      split
      · rw [Cursor.rest_skipWhile]
        exact unblank.comment
      · exact unblank
    split
    · exact { idle with blank := uncommented }
    · next after found =>
      exact ih { idle with blank := Cursor.blank_of_lineBreak? uncommented found }

theorem dropStaleKeys (idle : queue.Idle) (dropped : queue.dropStaleKeys = .ok next) :
    next.Idle := by
  obtain ⟨key, keys, optional⟩ := idle.level
  unfold TokenQueue.dropStaleKeys at dropped
  rw [keys] at dropped
  cases key with
  | none =>
    cases dropped
    exact { idle with level := ⟨none, rfl, optional⟩ }
  | some noted =>
    simp only [List.reverse_singleton, List.mapM_cons, List.mapM_nil, optional noted rfl,
      Bool.false_eq_true, if_false] at dropped
    split at dropped
    · cases dropped
      exact { idle with level := ⟨none, rfl, fun _ noted => nomatch noted⟩ }
    · cases dropped
      exact { idle with level := ⟨some noted, rfl, optional⟩ }

theorem dropKey (idle : queue.Idle) (dropped : queue.dropKey = .ok next) :
    next.Idle := by
  obtain ⟨key, keys, optional⟩ := idle.level
  unfold TokenQueue.dropKey at dropped
  rw [keys] at dropped
  cases key with
  | none =>
    cases dropped
    exact idle
  | some noted =>
    simp only [optional noted rfl, Bool.false_eq_true, if_false] at dropped
    cases dropped
    exact { idle with level := ⟨none, rfl, fun _ noted => nomatch noted⟩ }

/-- A key is called for at the column of an open collection, and none is open. -/
theorem noteKey (idle : queue.Idle) (noted : queue.noteKey = .ok next) : next.Idle := by
  unfold TokenQueue.noteKey at noted
  split at noted
  · obtain ⟨dropped, dropping, noted⟩ := exists_of_bind_eq_ok noted
    cases noted
    have left := idle.dropKey dropping
    obtain ⟨key, keys, _⟩ := left.level
    refine { left with level := ⟨_, by rw [keys]; rfl, fun noted same => ?_⟩ }
    rw [← Option.some.inj same, idle.indent]
    simp
  · cases noted
    exact idle

theorem readPlainScalar (idle : queue.Idle) (read : queue.readPlainScalar = .ok next) :
    next.Idle := by
  unfold TokenQueue.readPlainScalar at read
  obtain ⟨noted, noting, read⟩ := exists_of_bind_eq_ok read
  obtain ⟨⟨plain, after⟩, scanned, read⟩ := exists_of_bind_eq_ok read
  cases read
  have left := idle.noteKey noting
  have past : TokenQueue.Idle { noted with keyAllowed := plain.brokenAfter, cursor := after } :=
    { left with blank := left.blank.scanPlain (Cursor.eq_of_settle scanned) }
  exact past.push rfl

theorem endStream (idle : queue.Idle) (ended : queue.endStream = .ok next) : next.Idle := by
  unfold TokenQueue.endStream at ended
  extract_lets mark cursor atEnd at ended
  obtain ⟨left, dropping, ended⟩ := exists_of_bind_eq_ok ended
  cases ended
  have ending : atEnd.Idle := { idle with }
  have done := (ending.unindentTo (-1)).dropKey dropping
  have closed : TokenQueue.Idle { left with keyAllowed := false } := { done with }
  exact closed.push trivial

/-- No sign but that of a comment stands before text without content. -/
theorem head?_ne (idle : queue.Idle) {sign : Char} (solid : Text.isBlank sign = false)
    (other : sign ≠ '#') : queue.cursor.rest.head? ≠ some sign := by
  intro same
  obtain ⟨rest, shape⟩ := List.head?_eq_some_iff.1 same
  have blank := idle.blank
  rw [shape] at blank
  rcases blank.head with white | hash
  · rw [white] at solid
    cases solid
  · exact other hash

theorem seesMarker_eq_false (idle : queue.Idle) {sign : Char} (solid : Text.isBlank sign = false)
    (other : sign ≠ '#') : queue.cursor.seesMarker sign = false := by
  have absent := idle.head?_ne solid other
  unfold Cursor.seesMarker
  cases shape : queue.cursor.rest with
  | nil => simp
  | cons c rest =>
    rw [shape] at absent
    have differs : c ≠ sign := fun same => absent (by rw [same]; rfl)
    simp [differs]

theorem readToken (idle : queue.Idle) (read : queue.readToken = .ok next) : next.Idle := by
  unfold TokenQueue.readToken at read
  extract_lets cursor at read
  split at read
  · exact idle.endStream read
  · next c rest shape =>
    have other : ∀ sign, Text.isBlank sign = false → sign ≠ '#' → c ≠ sign :=
      fun sign solid unlike same => idle.head?_ne solid unlike (by rw [shape, same]; rfl)
    have quoted : ¬(c = '\'' ∨ c = '"') :=
      not_or.2 ⟨other _ rfl (by decide), other _ rfl (by decide)⟩
    -- the character ahead is white space or `#`, which leaves a plain scalar or a fault
    rw [if_neg fun h => other '%' rfl (by decide) h.1,
      if_neg (by rw [idle.seesMarker_eq_false rfl (by decide)]; decide),
      if_neg (by rw [idle.seesMarker_eq_false rfl (by decide)]; decide),
      if_neg (other '[' rfl (by decide)), if_neg (other '\x7b' rfl (by decide)),
      if_neg (other ']' rfl (by decide)), if_neg (other '\x7d' rfl (by decide)),
      if_neg (other ',' rfl (by decide)), if_neg fun h => other '-' rfl (by decide) h.1,
      if_neg fun h => other '?' rfl (by decide) h.1, if_neg fun h => other ':' rfl (by decide) h.1,
      if_neg (other '*' rfl (by decide)), if_neg (other '&' rfl (by decide)),
      if_neg (other '!' rfl (by decide)), if_neg fun h => other '|' rfl (by decide) h.1,
      if_neg fun h => other '>' rfl (by decide) h.1, if_neg quoted] at read
    split at read
    · exact idle.readPlainScalar read
    · cases read

theorem readAhead (idle : queue.Idle) (read : queue.readAhead = .ok next) : next.Idle := by
  unfold TokenQueue.readAhead at read
  extract_lets spaced at read
  split at read
  · cases read
  · obtain ⟨fresh, dropping, read⟩ := exists_of_bind_eq_ok read
    have left := (idle.skipSpacing _).dropStaleKeys dropping
    exact (left.unindentTo _).readToken read

theorem fill (idle : queue.Idle) {fuel : Nat} (filled : TokenQueue.fill fuel queue = .ok next) :
    next.Idle := by
  induction fuel generalizing queue with
  | zero => cases filled; exact idle
  | succ fuel ih =>
    unfold TokenQueue.fill at filled
    split at filled
    · obtain ⟨ahead, read, filled⟩ := exists_of_bind_eq_ok filled
      exact ih (idle.readAhead read) filled
    · obtain ⟨fresh, dropping, filled⟩ := exists_of_bind_eq_ok filled
      have left := idle.dropStaleKeys dropping
      split at filled
      · obtain ⟨ahead, read, filled⟩ := exists_of_bind_eq_ok filled
        exact ih (left.readAhead read) filled
      · cases filled
        exact left

/-- The next token of a text without content is a plain scalar or the end. -/
theorem peek (idle : queue.Idle) {token : Token} (peeked : queue.peek = .ok (token, next)) :
    token.lexeme.IsPlain ∧ next.Idle := by
  unfold TokenQueue.peek at peeked
  obtain ⟨full, filled, peeked⟩ := exists_of_bind_eq_ok peeked
  have left := idle.fill filled
  split at peeked
  · next first others shape =>
    cases peeked
    exact ⟨left.plain token (by rw [shape]; exact List.mem_cons_self ..), left⟩
  · cases peeked
    exact ⟨trivial, left⟩

end Idle
end TokenQueue
end AssetLint.Yaml
