import AssetLint.Pattern.Match

/-!
What it means that a pattern matches. `Expression.Spans` says from where to where in a text an
expression can reach, without regard to how it is searched for. The search carries sets of
positions instead of single ones; every part of it takes a set to all positions that its expression
reaches from there (`reach_follows`). Repetition without a bound stops after as many rounds as
there are positions: each round but the last has to add one (`closure_closed`).
-/
namespace AssetLint.Pattern

/-- So many steps of a relation in a row. -/
def Rounds (leads : Nat → Nat → Prop) : Nat → Nat → Nat → Prop
  | 0, start, stop => start = stop
  | count + 1, start, stop => ∃ middle, leads start middle ∧ Rounds leads count middle stop

/-- The character before a position; there is none before the first. -/
def charBefore? (text : List Char) (position : Nat) : Option Char :=
  if position = 0 then none else text[position - 1]?

/-- The part of the text between two positions matches the expression. -/
def Expression.Spans (text : List Char) : Expression → Nat → Nat → Prop
  | empty, start, stop => start = stop
  | literal needle, start, stop => stop = start + needle.length ∧ needle <+: text.drop start
  | set members, start, stop =>
    stop = start + 1 ∧ ∃ c, text[start]? = some c ∧ members.contains c = true
  | .look condition, start, stop =>
    start = stop ∧ condition.holds (charBefore? text start) text[start]? = true
  | capture inner, start, stop => inner.Spans text start stop
  | .sequence first others, start, stop =>
    ∃ middle, first.Spans text start middle ∧ others.Spans text middle stop
  | either first others, start, stop => first.Spans text start stop ∨ others.Spans text start stop
  | repetition inner least most _, start, stop =>
    ∃ count, least ≤ count ∧ (∀ bound, most = some bound → count ≤ bound) ∧
      Rounds (inner.Spans text) count start stop

theorem rounds_add_iff {leads : Nat → Nat → Prop} {first others start stop : Nat} :
    Rounds leads (first + others) start stop ↔
      ∃ middle, Rounds leads first start middle ∧ Rounds leads others middle stop := by
  induction first generalizing start with
  | zero => simp [Rounds]
  | succ first ih =>
    rw [Nat.succ_add]
    simp only [Rounds, ih]
    constructor
    · rintro ⟨next, step, middle, before, after⟩
      exact ⟨middle, ⟨next, step, before⟩, after⟩
    · rintro ⟨middle, ⟨next, step, before⟩, after⟩
      exact ⟨next, step, middle, before, after⟩

theorem cons_prefix_drop_iff {text rest : List Char} {c : Char} {start : Nat} :
    c :: rest <+: text.drop start ↔ text[start]? = some c ∧ rest <+: text.drop (start + 1) := by
  by_cases inside : start < text.length
  · rw [List.drop_eq_getElem_cons inside, List.getElem?_eq_getElem inside, List.cons_prefix_cons,
      Option.some.injEq, eq_comm]
  · have outside : text.length ≤ start := Nat.le_of_not_lt inside
    rw [List.drop_eq_nil_of_le outside, List.getElem?_eq_none outside]
    simp

namespace Positions

/-- The position is one of the set. -/
def Has (positions : Positions) (position : Nat) : Prop :=
  positions[position]? = some true

/-- The step takes a set to the positions that the relation leads to from there. -/
structure Follows (size : Nat) (step : Positions → Positions) (leads : Nat → Nat → Prop) :
    Prop where
  length_eq : ∀ positions : Positions, positions.length = size → (step positions).length = size
  has_iff : ∀ positions : Positions, positions.length = size → ∀ stop,
    Has (step positions) stop ↔ ∃ start, Has positions start ∧ leads start stop

variable {positions other : Positions} {text : List Char} {size count position : Nat}
variable {step : Positions → Positions} {leads : Nat → Nat → Prop}

theorem length_union (same : other.length = positions.length) :
    (positions.union other).length = positions.length := by
  simp [union, same]

theorem has_union (same : other.length = positions.length) :
    Has (positions.union other) position ↔ Has positions position ∨ Has other position := by
  unfold Has union
  rw [List.getElem?_zipWith]
  by_cases inside : position < positions.length
  · have also : position < other.length := by omega
    rw [List.getElem?_eq_getElem inside, List.getElem?_eq_getElem also]
    simp
  · have outside : positions.length ≤ position := by omega
    have also : other.length ≤ position := by omega
    rw [List.getElem?_eq_none outside, List.getElem?_eq_none also]
    simp

/-- A union either adds nothing or has more positions. -/
theorem union_eq_or_count_lt (same : other.length = positions.length) :
    positions.union other = positions ∨
      positions.count true < (positions.union other).count true := by
  induction positions generalizing other with
  | nil => exact .inl (by simp [union])
  | cons here rest ih =>
    cases other with
    | nil => cases same
    | cons there others =>
      have lengths : others.length = rest.length := by simpa using same
      have inner := ih lengths
      unfold union at inner ⊢
      rw [List.zipWith_cons_cons]
      by_cases kept : (here || there) = here
      · rw [kept]
        rcases inner with equal | more
        · exact .inl (by rw [equal])
        · right
          rw [List.count_cons, List.count_cons]
          omega
      · have fresh : here = false ∧ there = true := by
          cases here <;> cases there <;> simp at kept ⊢
        have least : rest.count true ≤ (List.zipWith or rest others).count true := by
          rcases inner with equal | more
          · exact Nat.le_of_eq (by rw [equal])
          · exact Nat.le_of_lt more
        right
        rw [fresh.1, fresh.2]
        simp
        omega

theorem follows_advance (text : List Char) (keep : Char → Bool) :
    Follows (text.length + 1) (fun positions => positions.advance text keep) fun start stop =>
      stop = start + 1 ∧ ∃ c, text[start]? = some c ∧ keep c = true where
  length_eq := by
    intro positions size
    simp [advance, size]
  has_iff := by
    intro positions size stop
    unfold Has advance
    cases stop with
    | zero => simp
    | succ stop =>
      rw [List.getElem?_cons_succ, List.getElem?_zipWith]
      constructor
      · intro found
        cases here : positions[stop]? with
        | none => simp [here] at found
        | some mark =>
          cases after : text[stop]? with
          | none => simp [here, after] at found
          | some c =>
            simp only [here, after, Option.some.injEq, Bool.and_eq_true] at found
            refine ⟨stop, ?_, rfl, c, after, found.2⟩
            rw [here, found.1]
      · rintro ⟨start, here, next, c, after, kept⟩
        obtain rfl : stop = start := by omega
        simp [here, after, kept]

theorem getElem?_allNeighbours (before : Option Char) (text : List Char) (position : Nat) :
    (allNeighbours before text)[position]? =
      if position ≤ text.length then
        some (if position = 0 then before else text[position - 1]?, text[position]?)
      else none := by
  induction text generalizing before position with
  | nil => cases position <;> simp [allNeighbours]
  | cons c rest ih =>
    cases position with
    | zero => simp [allNeighbours]
    | succ position =>
      rw [allNeighbours, List.getElem?_cons_succ, ih]
      cases position <;> simp

theorem length_allNeighbours (before : Option Char) (text : List Char) :
    (allNeighbours before text).length = text.length + 1 := by
  induction text generalizing before with
  | nil => rfl
  | cons c rest ih => simp [allNeighbours, ih]

theorem follows_restrict (text : List Char) (look : Look) :
    Follows (text.length + 1) (restrict text look) fun start stop =>
      start = stop ∧ look.holds (charBefore? text start) text[start]? = true where
  length_eq := by
    intro positions size
    simp [restrict, size, length_allNeighbours]
  has_iff := by
    intro positions size stop
    unfold Has restrict
    rw [List.getElem?_zipWith, getElem?_allNeighbours]
    constructor
    · intro found
      cases here : positions[stop]? with
      | none => simp [here] at found
      | some mark =>
        have inside : stop ≤ text.length := by
          have bound := (List.getElem?_eq_some_iff.1 here).1
          omega
        simp only [here, if_pos inside, Option.some.injEq, Bool.and_eq_true] at found
        exact ⟨stop, by rw [here, found.1], rfl, found.2⟩
    · rintro ⟨start, here, rfl, holds⟩
      have inside : start ≤ text.length := by
        have bound := (List.getElem?_eq_some_iff.1 here).1
        omega
      rw [here, if_pos inside]
      simpa [charBefore?] using holds

theorem Follows.comp {next : Positions → Positions} {onward : Nat → Nat → Prop}
    (first : Follows size step leads) (second : Follows size next onward) :
    Follows size (fun positions => next (step positions)) fun start stop =>
      ∃ middle, leads start middle ∧ onward middle stop where
  length_eq := fun positions length =>
    second.length_eq _ (first.length_eq positions length)
  has_iff := by
    intro positions length stop
    rw [second.has_iff _ (first.length_eq positions length)]
    simp only [first.has_iff positions length]
    constructor
    · rintro ⟨middle, ⟨start, here, before⟩, after⟩
      exact ⟨start, here, middle, before, after⟩
    · rintro ⟨start, here, middle, before, after⟩
      exact ⟨middle, ⟨start, here, before⟩, after⟩

theorem Follows.congr {others : Nat → Nat → Prop} (follows : Follows size step leads)
    (same : ∀ start stop, leads start stop ↔ others start stop) : Follows size step others where
  length_eq := follows.length_eq
  has_iff := by
    intro positions length stop
    rw [follows.has_iff positions length]
    simp only [same]

theorem follows_literal (text needle : List Char) :
    Follows (text.length + 1)
      (fun positions => needle.foldl (fun reached c => reached.advance text (· = c)) positions)
      fun start stop => stop = start + needle.length ∧ needle <+: text.drop start := by
  induction needle with
  | nil =>
    refine ⟨fun _ length => length, fun positions _ stop => ?_⟩
    simp
  | cons c rest ih =>
    refine ((follows_advance text (· = c)).comp ih).congr fun start stop => ?_
    rw [cons_prefix_drop_iff, List.length_cons]
    constructor
    · rintro ⟨_, ⟨rfl, d, here, same⟩, next, inner⟩
      obtain rfl : d = c := of_decide_eq_true same
      exact ⟨by omega, here, inner⟩
    · rintro ⟨next, here, inner⟩
      exact ⟨start + 1, ⟨rfl, c, here, decide_eq_true rfl⟩, by omega, inner⟩

theorem follows_nowhere (size : Nat) :
    Follows size (fun positions => positions.map fun _ => false) fun _ _ => False where
  length_eq := fun positions length => by rw [List.length_map, length]
  has_iff := by
    intro positions _ stop
    refine iff_of_false ?_ fun ⟨_, _, nowhere⟩ => nowhere
    intro has
    obtain ⟨_, _, same⟩ := List.mem_map.1 (List.mem_of_getElem? has)
    cases same

section Repeat

/-- Stopping early makes no difference. -/
theorem iterate_succ (step : Positions → Positions) (count : Nat) (positions : Positions) :
    iterate step (count + 1) positions = iterate step count (step positions) := by
  have still : ∀ count, step positions = positions → iterate step count positions = positions := by
    intro count fixed
    cases count with
    | zero => rfl
    | succ count => exact if_pos fixed
  by_cases fixed : step positions = positions
  · rw [fixed, still _ fixed, still _ fixed]
  · exact if_neg fixed

theorem follows_iterate (follows : Follows size step leads) (count : Nat) :
    Follows size (iterate step count) (Rounds leads count) := by
  induction count with
  | zero => exact ⟨fun _ length => length, fun positions _ stop => by simp [iterate, Rounds]⟩
  | succ count ih =>
    have unrolled := follows.comp ih
    refine ⟨fun positions length => ?_, fun positions length stop => ?_⟩
    · rw [iterate_succ]
      exact unrolled.length_eq positions length
    · rw [iterate_succ]
      exact unrolled.has_iff positions length stop

/-- The set with what one step reaches from it. -/
def grown (step : Positions → Positions) (positions : Positions) : Positions :=
  positions.union (step positions)

theorem closure_of_fixed (fixed : grown step positions = positions) (count : Nat) :
    closure step count positions = positions := by
  cases count with
  | zero => rfl
  | succ count => exact if_pos fixed

theorem closure_succ (step : Positions → Positions) (count : Nat) (positions : Positions) :
    closure step (count + 1) positions = closure step count (grown step positions) := by
  by_cases fixed : grown step positions = positions
  · rw [fixed, closure_of_fixed fixed, closure_of_fixed fixed]
  · exact if_neg fixed

theorem length_grown (follows : Follows size step leads) (length : positions.length = size) :
    (grown step positions).length = size := by
  have stepped := follows.length_eq positions length
  rw [grown, length_union (by omega), length]

theorem has_grown (follows : Follows size step leads) (length : positions.length = size)
    (stop : Nat) :
    Has (grown step positions) stop ↔
      Has positions stop ∨ ∃ start, Has positions start ∧ leads start stop := by
  have stepped := follows.length_eq positions length
  rw [grown, has_union (by omega), follows.has_iff positions length]

/-- So many rounds reach what that many steps reach, or fewer. -/
theorem follows_closure (follows : Follows size step leads) (count : Nat) :
    Follows size (closure step count) fun start stop =>
      ∃ rounds, rounds ≤ count ∧ Rounds leads rounds start stop := by
  induction count with
  | zero =>
    refine ⟨fun _ length => length, fun positions _ stop => ?_⟩
    simp [closure, Rounds]
  | succ count ih =>
    refine ⟨fun positions length => ?_, fun positions length stop => ?_⟩
    · rw [closure_succ]
      exact ih.length_eq _ (length_grown follows length)
    · rw [closure_succ, ih.has_iff _ (length_grown follows length)]
      simp only [has_grown follows length]
      constructor
      · rintro ⟨middle, here | ⟨start, here, first⟩, rounds, few, run⟩
        · exact ⟨middle, here, rounds, by omega, run⟩
        · exact ⟨start, here, rounds + 1, by omega, middle, first, run⟩
      · rintro ⟨start, here, rounds, few, run⟩
        cases rounds with
        | zero => exact ⟨start, .inl here, 0, by omega, run⟩
        | succ rounds =>
          obtain ⟨middle, first, rest⟩ := run
          exact ⟨middle, .inr ⟨start, here, first⟩, rounds, by omega, rest⟩

/-- Either nothing is new any more, or every round has added a position. -/
theorem closure_fixed_or_count_le (follows : Follows size step leads) (count : Nat)
    (length : positions.length = size) :
    grown step (closure step count positions) = closure step count positions ∨
      positions.count true + count ≤ (closure step count positions).count true := by
  induction count generalizing positions with
  | zero => exact .inr (Nat.le_refl _)
  | succ count ih =>
    rw [closure_succ]
    rcases ih (length_grown follows length) with fixed | many
    · exact .inl fixed
    · have stepped := follows.length_eq positions length
      rcases union_eq_or_count_lt (show (step positions).length = positions.length by omega) with
        fixed | more
      · left
        change grown step positions = positions at fixed
        rw [fixed, closure_of_fixed fixed, fixed]
      · right
        change positions.count true < (grown step positions).count true at more
        omega

/-- After as many rounds as there are positions, nothing is new any more. -/
theorem closure_closed (follows : Follows size step leads) (length : positions.length = size) :
    grown step (closure step size positions) = closure step size positions := by
  rcases closure_fixed_or_count_le follows size length with fixed | many
  · exact fixed
  · have whole := (follows_closure follows size).length_eq positions length
    have stepped := follows.length_eq _ whole
    rcases union_eq_or_count_lt (show (step (closure step size positions)).length =
      (closure step size positions).length by omega) with fixed | more
    · exact fixed
    · have bound := List.count_le_length (a := true)
        (l := (closure step size positions).union (step (closure step size positions)))
      rw [length_union (by omega)] at bound
      omega

/-- Without a bound, all rounds are reached. -/
theorem follows_closure_size (follows : Follows size step leads) :
    Follows size (closure step size) fun start stop =>
      ∃ rounds, Rounds leads rounds start stop := by
  have bounded := follows_closure follows size
  refine ⟨bounded.length_eq, fun positions length stop => ⟨fun found => ?_, ?_⟩⟩
  · obtain ⟨start, here, rounds, _, run⟩ := (bounded.has_iff positions length stop).1 found
    exact ⟨start, here, rounds, run⟩
  · rintro ⟨start, here, rounds, run⟩
    have began : Has (closure step size positions) start :=
      (bounded.has_iff positions length start).2 ⟨start, here, 0, Nat.zero_le _, rfl⟩
    clear here
    induction rounds generalizing start with
    | zero =>
      obtain rfl : start = stop := run
      exact began
    | succ rounds ih =>
      obtain ⟨middle, first, rest⟩ := run
      refine ih middle rest ?_
      rw [← closure_closed follows length]
      exact (has_grown follows (bounded.length_eq positions length) middle).2
        (.inr ⟨start, began, first⟩)

/-- The rounds that are required, and up to so many more. -/
theorem follows_closure_iterate (follows : Follows size step leads) (least extra : Nat) :
    Follows size (fun positions => closure step extra (iterate step least positions))
      fun start stop => ∃ count, least ≤ count ∧ count ≤ least + extra ∧
        Rounds leads count start stop := by
  refine ((follows_iterate follows least).comp (follows_closure follows extra)).congr
    fun start stop => ?_
  constructor
  · rintro ⟨middle, before, rounds, few, after⟩
    exact ⟨least + rounds, by omega, by omega, rounds_add_iff.2 ⟨middle, before, after⟩⟩
  · rintro ⟨count, enough, few, run⟩
    obtain ⟨rounds, rfl⟩ := Nat.exists_eq_add_of_le enough
    obtain ⟨middle, before, after⟩ := rounds_add_iff.1 run
    exact ⟨middle, before, rounds, by omega, after⟩

/-- The rounds that are required, and any number more. -/
theorem follows_closure_size_iterate (follows : Follows size step leads) (least : Nat) :
    Follows size (fun positions => closure step size (iterate step least positions))
      fun start stop => ∃ count, least ≤ count ∧ Rounds leads count start stop := by
  refine ((follows_iterate follows least).comp (follows_closure_size follows)).congr
    fun start stop => ?_
  constructor
  · rintro ⟨middle, before, rounds, after⟩
    exact ⟨least + rounds, by omega, rounds_add_iff.2 ⟨middle, before, after⟩⟩
  · rintro ⟨count, enough, run⟩
    obtain ⟨rounds, rfl⟩ := Nat.exists_eq_add_of_le enough
    obtain ⟨middle, before, after⟩ := rounds_add_iff.1 run
    exact ⟨middle, before, rounds, after⟩

end Repeat

end Positions

open Positions

variable {text : List Char}

/-- The search takes a set of positions to all those that the expression reaches from there. -/
theorem Expression.reach_follows (text : List Char) (expression : Expression) :
    Follows (text.length + 1) (expression.reach text) (expression.Spans text) := by
  induction expression with
  | empty => exact ⟨fun _ length => length, fun positions _ stop => by simp [reach, Spans]⟩
  | literal needle => exact follows_literal text needle
  | set members => exact follows_advance text members.contains
  | look condition => exact follows_restrict text condition
  | capture inner ih => exact ih
  | sequence first others ih next => exact ih.comp next
  | either first others left right =>
    refine ⟨fun positions length => ?_, fun positions length stop => ?_⟩
    · have one := left.length_eq positions length
      have two := right.length_eq positions length
      rw [reach, length_union (by omega), one]
    · have one := left.length_eq positions length
      have two := right.length_eq positions length
      rw [reach, has_union (by omega), left.has_iff positions length,
        right.has_iff positions length]
      simp only [Spans, and_or_left, exists_or]
  | repetition inner least most greedy ih =>
    cases most with
    | none =>
      refine (follows_closure_size_iterate ih least).congr fun start stop => ?_
      simp [Spans]
    | some bound =>
      by_cases empty : bound < least
      · have shape : reach text (.repetition inner least (some bound) greedy) =
            fun positions => positions.map fun _ => false := by
          funext positions
          simp [reach, empty]
        rw [shape]
        refine (follows_nowhere _).congr fun start stop => iff_of_false id ?_
        rintro ⟨count, enough, few, _⟩
        have limit := few bound rfl
        omega
      · have shape : reach text (.repetition inner least (some bound) greedy) = fun positions =>
            closure (inner.reach text) (bound - least)
              (iterate (inner.reach text) least positions) := by
          funext positions
          simp [reach, empty]
        have total : least + (bound - least) = bound := by omega
        rw [shape]
        refine (follows_closure_iterate ih least (bound - least)).congr fun start stop => ?_
        simp [Spans, total]

/-- A pattern matches a text just when its expression spans some part of it. -/
theorem Compiled.matches_iff {pattern : Compiled} :
    pattern.matches text = true ↔
      ∃ start stop, start ≤ text.length ∧ pattern.expression.Spans text start stop := by
  have follows := pattern.expression.reach_follows text
  have length : (List.replicate (text.length + 1) true).length = text.length + 1 := by simp
  have everywhere : ∀ start, Has (List.replicate (text.length + 1) true) start ↔
      start ≤ text.length := by
    intro start
    unfold Has
    rw [List.getElem?_replicate]
    by_cases inside : start ≤ text.length
    · rw [if_pos (Nat.lt_succ_of_le inside)]
      exact iff_of_true rfl inside
    · rw [if_neg fun below => inside (Nat.le_of_lt_succ below)]
      exact iff_of_false nofun inside
  have found : pattern.matches text = true ↔
      ∃ stop, Has (pattern.expression.reach text (List.replicate (text.length + 1) true)) stop := by
    unfold Compiled.matches Has
    rw [List.any_eq_true]
    constructor
    · rintro ⟨mark, member, rfl⟩
      exact List.mem_iff_getElem?.1 member
    · rintro ⟨stop, here⟩
      exact ⟨true, List.mem_of_getElem? here, rfl⟩
  rw [found]
  simp only [follows.has_iff _ length, everywhere]
  constructor
  · rintro ⟨stop, start, inside, spans⟩
    exact ⟨start, stop, inside, spans⟩
  · rintro ⟨start, stop, inside, spans⟩
    exact ⟨stop, start, inside, spans⟩

end AssetLint.Pattern
