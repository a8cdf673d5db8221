import Mathlib.Logic.Relation
import AssetLint.Proofs.Path.Join

/-!
Spellings of a path. Repeated separators, a separator at the end and a dot between two of them are
seen by no component (`SamePunctuated.components_eq`). A leading `./` is a component of its own,
and what two spellings that differ in it share are the components without it (`Respelt.alike`).
-/
namespace AssetLint.Path

/-- A change of spelling that no component shows. -/
inductive Repunctuates : List Char → List Char → Prop
  | separator (before after : List Char) :
      Repunctuates (before ++ '/' :: after) (before ++ '/' :: '/' :: after)
  | trailing {text : List Char} (filled : text ≠ []) : Repunctuates text (text ++ ['/'])
  | here (before after : List Char) :
      Repunctuates (before ++ '/' :: after) (before ++ '/' :: '.' :: '/' :: after)

/-- A change of spelling: one of those, or a `./` before a relative path. -/
inductive Respells : List Char → List Char → Prop
  | inside {text other : List Char} (change : Repunctuates text other) : Respells text other
  | leading {text : List Char} (filled : text ≠ []) (relative : text.head? ≠ some '/') :
      Respells text ('.' :: '/' :: text)

/-- One path is the other after any number of changes, made or taken back, that no component
shows. -/
def SamePunctuated (left right : Path) : Prop :=
  Relation.EqvGen Repunctuates left.text.toList right.text.toList

/-- One path is the other after any number of changes of spelling, made or taken back. -/
def Respelt (left right : Path) : Prop :=
  Relation.EqvGen Respells left.text.toList right.text.toList

/-- What two spellings of a path share. -/
structure Alike (left right : Path) : Prop where
  components : dropHere left.components = dropHere right.components
  isAbsolute : left.isAbsolute = right.isAbsolute
  empty : left.text.toList = [] ↔ right.text.toList = []

/-- Parts that are no inner components may be left out between others. -/
theorem componentsOf_append_cons {parts more : List (List Char)} {part : List Char}
    (filled : parts ≠ []) (further : more ≠ []) (silent : innerComponent? part = none) :
    componentsOf (parts ++ part :: more) = componentsOf (parts ++ more) := by
  rw [componentsOf_append filled (List.cons_ne_nil part more), componentsOf_append filled further,
    List.filterMap_cons, silent]

theorem Repunctuates.componentsOf_eq {text other : List Char} (change : Repunctuates text other) :
    componentsOf (Text.splitOn '/' other) = componentsOf (Text.splitOn '/' text) := by
  cases change with
  | separator before after =>
    have cut : Text.splitOn '/' ('/' :: after) = [] :: Text.splitOn '/' after := by
      simp [Text.splitOn]
    rw [Text.splitOn_append, Text.splitOn_append, cut]
    exact componentsOf_append_cons (Text.splitOn_ne_nil _ _) (Text.splitOn_ne_nil _ _) rfl
  | trailing filled =>
    rw [Text.splitOn_append]
    exact componentsOf_append_nil (splitOn_ne_single_nil filled)
  | here before after =>
    have cut : Text.splitOn '/' ('.' :: '/' :: after) = ['.'] :: Text.splitOn '/' after := by
      simp [Text.splitOn]
    rw [Text.splitOn_append, Text.splitOn_append, cut]
    exact componentsOf_append_cons (Text.splitOn_ne_nil _ _) (Text.splitOn_ne_nil _ _) rfl

theorem Repunctuates.head?_eq {text other : List Char} (change : Repunctuates text other) :
    other.head? = text.head? := by
  cases change with
  | separator before after => cases before <;> rfl
  | trailing filled =>
    obtain ⟨c, rest, rfl⟩ := List.exists_cons_of_ne_nil filled
    rfl
  | here before after => cases before <;> rfl

/-- Neither the empty text nor an absolute path comes of a change, and none is changed into
something else. -/
theorem Repunctuates.ne_nil {text other : List Char} (change : Repunctuates text other) :
    text ≠ [] ∧ other ≠ [] := by
  cases change with
  | separator before after => simp
  | trailing filled => simp [filled]
  | here before after => simp

theorem Respells.ne_nil {text other : List Char} (change : Respells text other) :
    text ≠ [] ∧ other ≠ [] := by
  cases change with
  | inside change => exact change.ne_nil
  | leading filled _ => exact ⟨filled, List.cons_ne_nil _ _⟩

/-- Up to a leading dot, a change of spelling keeps the components. -/
theorem Respells.componentsOf_eq {text other : List Char} (change : Respells text other) :
    dropHere (componentsOf (Text.splitOn '/' text)) =
      dropHere (componentsOf (Text.splitOn '/' other)) := by
  cases change with
  | inside change => rw [change.componentsOf_eq]
  | leading _ relative =>
    have cut : Text.splitOn '/' ('.' :: '/' :: text) = ['.'] :: Text.splitOn '/' text := by
      simp [Text.splitOn]
    rw [← filterMap_innerComponent? relative, cut]
    rfl

/-- What every change keeps is kept by any number of changes. -/
theorem eq_of_eqvGen {View : Type} {change : List Char → List Char → Prop}
    (view : List Char → View) (kept : ∀ text other, change text other → view text = view other)
    {text other : List Char} (same : Relation.EqvGen change text other) : view text = view other :=
  congrArg (Quot.lift view kept) (Quot.eqvGen_sound same)

theorem SamePunctuated.components_eq {left right : Path} (same : SamePunctuated left right) :
    left.components = right.components :=
  eq_of_eqvGen (fun text => componentsOf (Text.splitOn '/' text))
    (fun _ _ change => change.componentsOf_eq.symm) same

theorem SamePunctuated.respelt {left right : Path} (same : SamePunctuated left right) :
    Respelt left right :=
  Relation.EqvGen.mono (fun _ _ change => .inside change) _ _ same

theorem Respelt.alike {left right : Path} (same : Respelt left right) : Alike left right := by
  have rooted : ∀ text other, Respells text other →
      decide (text.head? = some '/') = decide (other.head? = some '/') := by
    intro text other change
    cases change with
    | inside change => rw [change.head?_eq]
    | leading _ relative => simp [relative]
  have filled : ∀ text other, Respells text other →
      decide (text = []) = decide (other = []) := by
    intro text other change
    simp [change.ne_nil.1, change.ne_nil.2]
  exact ⟨eq_of_eqvGen _ (fun _ _ change => change.componentsOf_eq) same,
    eq_of_eqvGen _ rooted same, decide_eq_decide.1 (eq_of_eqvGen _ filled same)⟩

theorem components_ne_nil {path : Path} (filled : path.text.toList ≠ []) :
    path.components ≠ [] := by
  have single := splitOn_ne_single_nil filled
  unfold components
  obtain ⟨first, rest, shape⟩ :=
    List.exists_cons_of_ne_nil (Text.splitOn_ne_nil '/' path.text.toList)
  rw [shape] at single ⊢
  by_cases absolute : first = []
  · have more : rest ≠ [] := fun none => single (by rw [absolute, none])
    simp [componentsOf, absolute, more]
  · by_cases here : first = ['.']
    · simp [componentsOf, here]
    · by_cases up : first = ['.', '.'] <;> simp [componentsOf, innerComponent?, absolute, here, up]

theorem dropHere_append {components more : List Component} (filled : components ≠ []) :
    dropHere (components ++ more) = dropHere components ++ more := by
  obtain ⟨first, rest, rfl⟩ := List.exists_cons_of_ne_nil filled
  cases first <;> rfl

section Join

variable {base other path changed : Path}

theorem SamePunctuated.components_join (bases : SamePunctuated base other)
    (paths : SamePunctuated path changed) :
    (base.join path).components = (other.join changed).components := by
  have rooted := paths.respelt.alike.isAbsolute
  have blank := bases.respelt.alike.empty
  cases relative : path.isAbsolute with
  | true =>
    rw [components_join_of_isAbsolute base relative,
      components_join_of_isAbsolute other (rooted.symm.trans relative), paths.components_eq]
  | false =>
    by_cases empty : base.text.toList = []
    · rw [components_join_of_empty empty, components_join_of_empty (blank.1 empty),
        paths.components_eq]
    · have filled : other.text.toList ≠ [] := fun none => empty (blank.2 none)
      rw [components_join_of_relative relative empty,
        components_join_of_relative (rooted.symm.trans relative) filled, bases.components_eq,
        paths.components_eq]

theorem Alike.components_join (bases : Alike base other) (paths : Alike path changed) :
    dropHere (base.join path).components = dropHere (other.join changed).components := by
  cases relative : path.isAbsolute with
  | true =>
    rw [components_join_of_isAbsolute base relative,
      components_join_of_isAbsolute other (paths.isAbsolute.symm.trans relative), paths.components]
  | false =>
    by_cases empty : base.text.toList = []
    · rw [components_join_of_empty empty, components_join_of_empty (bases.empty.1 empty),
        paths.components]
    · have filled : other.text.toList ≠ [] := fun none => empty (bases.empty.2 none)
      rw [components_join_of_relative relative empty,
        components_join_of_relative (paths.isAbsolute.symm.trans relative) filled,
        dropHere_append (components_ne_nil empty), dropHere_append (components_ne_nil filled),
        bases.components, paths.components]

end Join

end AssetLint.Path
