import AssetLint.Proofs.Pattern.Search
import AssetLint.Registry.Builtin

/-!
Names that the built-in types take. Three of the patterns are a text at the end, and the fourth is a
text at the start, one at the end and anything without a line feed between them. By what their
expressions span, they match just the names of this form (`matches_ending_iff`,
`matches_enclosing_iff`), wherever else in a name the texts may stand.
-/
namespace AssetLint

namespace Pattern

variable {text : List Char} {start stop : Nat}

namespace Expression

/-- A text at the end. -/
def ending (needle : List Char) : Expression :=
  .sequence (.literal needle) (.look .textEnd)

/-- A text at the start and one at the end, and characters of a set between them. -/
def enclosing (first : List Char) (members : Unicode.Ranges) (last : List Char) : Expression :=
  .sequence (.look .textStart)
    (.sequence (.literal first)
      (.sequence (.repetition (.set members) 0 none true) (ending last)))

theorem spans_ending_iff {needle : List Char} :
    (ending needle).Spans text start stop ↔
      stop = start + needle.length ∧ text.drop start = needle := by
  constructor
  · rintro ⟨middle, ⟨rfl, begins⟩, rfl, ends⟩
    refine ⟨rfl, ?_⟩
    have outside : text.length ≤ start + needle.length := by
      simpa [Look.holds] using ends
    have short : (text.drop start).length ≤ needle.length := by
      rw [List.length_drop]
      omega
    exact (begins.eq_of_length_le short).symm
  · rintro ⟨rfl, whole⟩
    have lengths := congrArg List.length whole
    rw [List.length_drop] at lengths
    have outside : text.length ≤ start + needle.length := by omega
    refine ⟨_, ⟨rfl, [], ?_⟩, rfl, by simpa [Look.holds] using outside⟩
    rw [List.append_nil, whole]

/-- So many characters of a set stand in a row. -/
theorem rounds_set_iff {members : Unicode.Ranges} {count : Nat} :
    Rounds ((Expression.set members).Spans text) count start stop ↔
      stop = start + count ∧ ∃ part, part.length = count ∧ part <+: text.drop start ∧
        ∀ c ∈ part, members.contains c = true := by
  induction count generalizing start with
  | zero =>
    constructor
    · rintro rfl
      exact ⟨rfl, [], rfl, List.nil_prefix, by simp⟩
    · rintro ⟨same, _⟩
      exact same.symm
  | succ count ih =>
    constructor
    · rintro ⟨_, ⟨rfl, c, here, member⟩, rest⟩
      obtain ⟨next, part, length, begins, all⟩ := ih.1 rest
      exact ⟨by omega, c :: part, by simp [length], cons_prefix_drop_iff.2 ⟨here, begins⟩,
        List.forall_mem_cons.2 ⟨member, all⟩⟩
    · rintro ⟨next, part, length, begins, all⟩
      obtain ⟨c, rest, rfl⟩ : ∃ c rest, part = c :: rest :=
        List.exists_cons_of_length_eq_add_one length
      obtain ⟨here, inner⟩ := cons_prefix_drop_iff.1 begins
      obtain ⟨member, others⟩ := List.forall_mem_cons.1 all
      refine ⟨start + 1, ⟨rfl, c, here, member⟩, ih.2 ⟨by omega, rest, ?_, inner, others⟩⟩
      simpa using length

end Expression

open Expression

theorem Compiled.matches_ending_iff {pattern : Compiled} {needle : List Char}
    (shape : pattern.expression = ending needle) :
    pattern.matches text = true ↔ needle <:+ text := by
  rw [matches_iff, shape]
  simp only [spans_ending_iff]
  constructor
  · rintro ⟨start, stop, _, _, rfl⟩
    exact List.drop_suffix start text
  · rintro ⟨before, rfl⟩
    exact ⟨before.length, _, by simp, rfl, List.drop_left⟩

/-- Nothing is before the first character only. -/
theorem isNone_charBefore?_iff (inside : start ≤ text.length) :
    (charBefore? text start).isNone = true ↔ start = 0 := by
  unfold charBefore?
  by_cases first : start = 0
  · simp [first]
  · have earlier : start - 1 < text.length := by omega
    rw [if_neg first, List.getElem?_eq_getElem earlier]
    simp [first]

theorem Compiled.matches_enclosing_iff {pattern : Compiled} {first last : List Char}
    {members : Unicode.Ranges} (shape : pattern.expression = enclosing first members last) :
    pattern.matches text = true ↔
      ∃ inner, (∀ c ∈ inner, members.contains c = true) ∧ text = first ++ inner ++ last := by
  rw [matches_iff, shape]
  constructor
  · rintro ⟨start, stop, inside, _, ⟨rfl, before⟩, _, ⟨rfl, begins⟩, _, ⟨count, _, _, run⟩, ends⟩
    obtain rfl := (isNone_charBefore?_iff inside).1 before
    rw [List.drop_zero] at begins
    obtain ⟨rest, rfl⟩ := begins
    obtain ⟨rfl, inner, length, follows, all⟩ := rounds_set_iff.1 run
    rw [Nat.zero_add, List.drop_left] at follows
    obtain ⟨tail, rfl⟩ := follows
    obtain ⟨_, whole⟩ := spans_ending_iff.1 ends
    rw [Nat.zero_add, ← length, ← List.length_append, ← List.append_assoc, List.drop_left] at whole
    exact ⟨inner, all, by rw [whole, List.append_assoc]⟩
  · rintro ⟨inner, all, rfl⟩
    have begins : first <+: (first ++ inner ++ last).drop 0 := by
      rw [List.drop_zero, List.append_assoc]
      exact List.prefix_append first (inner ++ last)
    have follows : inner <+: (first ++ inner ++ last).drop (0 + first.length) := by
      rw [Nat.zero_add, List.append_assoc, List.drop_left]
      exact List.prefix_append inner last
    have ends : (first ++ inner ++ last).drop (0 + first.length + inner.length) = last := by
      rw [Nat.zero_add, ← List.length_append, List.drop_left]
    have run := rounds_set_iff.2 ⟨rfl, inner, rfl, follows, all⟩
    exact ⟨0, _, Nat.zero_le _, 0, ⟨rfl, rfl⟩, _, ⟨rfl, begins⟩, _,
      ⟨inner.length, Nat.zero_le _, nofun, run⟩, spans_ending_iff.2 ⟨rfl, ends⟩⟩

/-- All characters but the line feed. -/
def notNewline : Unicode.Ranges := [(0, 9), (11, 1114111)]

theorem contains_notNewline_iff {c : Char} : notNewline.contains c = true ↔ c ≠ '\n' := by
  have last : c.toNat ≤ 1114111 := by
    have valid := c.valid
    simp only [UInt32.isValidChar, Nat.isValidChar] at valid
    have same : c.toNat = c.val.toNat := rfl
    omega
  have feed : c = '\n' ↔ c.toNat = 10 := by
    constructor
    · rintro rfl
      rfl
    · exact fun same => Char.toNat_inj.1 same
  have within : notNewline.contains c = true ↔
      c.toNat ≤ 9 ∨ (11 ≤ c.toNat ∧ c.toNat ≤ 1114111) := by
    simp [notNewline, Unicode.Ranges.contains, Unicode.Ranges.holds]
  rw [within, ne_eq, feed]
  omega

end Pattern

/-- The type that a declaration describes, with this pattern. -/
def AssetSpec.typeWith (spec : AssetSpec) (expression : Pattern.Expression) : AssetType :=
  { name := spec.name
    directory := spec.directory
    pattern := ⟨spec.pattern, expression⟩
    required := distinct spec.required
    optional := distinct spec.optional
    probes := spec.probes }

namespace AssetSpec

variable {spec : AssetSpec} {name : String}

theorem matchesName_ending_iff (suffix : String) :
    (spec.typeWith (.ending suffix.toList)).matchesName name = true ↔
      suffix.toList <:+ name.toList :=
  Pattern.Compiled.matches_ending_iff rfl

theorem matchesName_enclosing_iff (first last : String) :
    (spec.typeWith (.enclosing first.toList Pattern.notNewline last.toList)).matchesName name =
        true ↔
      ∃ inner : String, '\n' ∉ inner.toList ∧ name = first ++ inner ++ last := by
  have listed : ∀ text, (spec.typeWith
      (.enclosing first.toList Pattern.notNewline last.toList)).pattern.matches text = true ↔
        ∃ inner, (∀ c ∈ inner, Pattern.notNewline.contains c = true) ∧
          text = first.toList ++ inner ++ last.toList :=
    fun text => Pattern.Compiled.matches_enclosing_iff rfl
  unfold AssetType.matchesName
  rw [listed]
  constructor
  · rintro ⟨inner, all, whole⟩
    refine ⟨String.ofList inner, ?_, String.toList_inj.1 ?_⟩
    · rw [String.toList_ofList]
      exact fun member => Pattern.contains_notNewline_iff.1 (all _ member) rfl
    · simpa using whole
  · rintro ⟨inner, flat, rfl⟩
    refine ⟨inner.toList, fun c member => Pattern.contains_notNewline_iff.2 ?_, by simp⟩
    rintro rfl
    exact flat member

end AssetSpec

namespace Registry

/-- The built-in types, and what their patterns come to. -/
theorem builtin_eq :
    builtin = .ok
      ⟨[prompts.typeWith (.ending ".prompt.md".toList),
        chatmodes.typeWith (.ending ".chatmode.md".toList),
        instructions.typeWith (.ending ".instructions.md".toList),
        patterns.typeWith
          (.enclosing "pattern-".toList Pattern.notNewline ".prompt.md".toList)]⟩ :=
  rfl

/-- No name has two endings of which neither is one of the other. -/
theorem not_both_suffixes {left right name : List Char} (apart : ¬ left <:+ right)
    (also : ¬ right <:+ left) : ¬ (left <:+ name ∧ right <:+ name) := by
  rintro ⟨first, second⟩
  rcases Nat.le_total left.length right.length with shorter | longer
  · exact apart (List.suffix_of_suffix_length_le first second shorter)
  · exact also (List.suffix_of_suffix_length_le second first longer)

/-- Three of the built-in types take just the names with their ending, and the fourth takes those
with its ending that also begin with its text and have no line feed in between. So no name is taken
by two of the three, and the first takes every name that the fourth does. -/
theorem builtin_takes_names :
    ∃ prompts chatmodes instructions patterns : AssetType,
      builtin = .ok ⟨[prompts, chatmodes, instructions, patterns]⟩ ∧
      prompts.name = "prompts" ∧ chatmodes.name = "chatmodes" ∧
      instructions.name = "instructions" ∧ patterns.name = "patterns" ∧
      (∀ name : String,
        (prompts.matchesName name = true ↔ ".prompt.md".toList <:+ name.toList) ∧
        (chatmodes.matchesName name = true ↔ ".chatmode.md".toList <:+ name.toList) ∧
        (instructions.matchesName name = true ↔ ".instructions.md".toList <:+ name.toList) ∧
        (patterns.matchesName name = true ↔ ∃ inner : String, '\n' ∉ inner.toList ∧
          name = "pattern-" ++ inner ++ ".prompt.md")) ∧
      ([prompts, chatmodes, instructions].Pairwise fun left right => ∀ name,
        ¬ (left.matchesName name = true ∧ right.matchesName name = true)) ∧
      ∀ name, patterns.matchesName name = true → prompts.matchesName name = true := by
  refine ⟨_, _, _, _, builtin_eq, rfl, rfl, rfl, rfl, fun name => ⟨?_, ?_, ?_, ?_⟩, ?_, ?_⟩
  · exact AssetSpec.matchesName_ending_iff ".prompt.md"
  · exact AssetSpec.matchesName_ending_iff ".chatmode.md"
  · exact AssetSpec.matchesName_ending_iff ".instructions.md"
  · exact AssetSpec.matchesName_enclosing_iff "pattern-" ".prompt.md"
  · simp only [List.pairwise_cons, List.mem_cons, List.not_mem_nil, or_false, forall_eq_or_imp,
      forall_eq, AssetSpec.matchesName_ending_iff, List.Pairwise.nil, and_true, false_implies,
      implies_true]
    refine ⟨⟨fun name => ?_, fun name => ?_⟩, fun name => ?_⟩
    · exact not_both_suffixes (by decide) (by decide)
    · exact not_both_suffixes (by decide) (by decide)
    · exact not_both_suffixes (by decide) (by decide)
  · intro name taken
    obtain ⟨inner, _, rfl⟩ := (AssetSpec.matchesName_enclosing_iff "pattern-" ".prompt.md").1 taken
    refine (AssetSpec.matchesName_ending_iff ".prompt.md").2 ?_
    rw [String.toList_append]
    exact List.suffix_append _ _

end Registry
end AssetLint
