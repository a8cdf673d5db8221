import AssetLint.FileSystem

/-!
Paths of the entries of a directory. Joining a file name to the path of a directory adds the
name as the last component, and its look-up takes that name as the one step more.
-/
namespace AssetLint

/-- A name that an entry of a directory can have. -/
structure IsFileName (name : String) : Prop where
  nonempty : name.toList ≠ []
  notHere : name.toList ≠ ['.']
  notUp : name.toList ≠ ['.', '.']
  unseparated : '/' ∉ name.toList
  noNull : '\x00' ∉ name.toList

instance (name : String) : Decidable (IsFileName name) :=
  decidable_of_iff
    (name.toList ≠ [] ∧ name.toList ≠ ['.'] ∧ name.toList ≠ ['.', '.'] ∧
      '/' ∉ name.toList ∧ '\x00' ∉ name.toList)
    ⟨fun h => ⟨h.1, h.2.1, h.2.2.1, h.2.2.2.1, h.2.2.2.2⟩,
      fun h => ⟨h.nonempty, h.notHere, h.notUp, h.unseparated, h.noNull⟩⟩

namespace Path

variable {name : String}

theorem not_isAbsolute_of_isFileName (proper : IsFileName name) :
    (Path.mk name).isAbsolute = false := by
  have absent := proper.unseparated
  cases letters : name.toList with
  | nil => simp [isAbsolute, letters]
  | cons c rest =>
    rw [letters] at absent
    have differs : c ≠ '/' := fun same => absent (by simp [same])
    simp [isAbsolute, letters, differs]

/-- The characters of a joined path: a separator is added where there is none. -/
theorem toList_join_of_relative (base : Path) {path : Path} (relative : path.isAbsolute = false) :
    (base.join path).text.toList = base.text.toList ++ path.text.toList ∧
        (base.text.toList = [] ∨ base.text.toList.getLast? = some '/') ∨
      (base.join path).text.toList = base.text.toList ++ '/' :: path.text.toList ∧
        base.text.toList ≠ [] ∧ base.text.toList.getLast? ≠ some '/' := by
  unfold join
  rw [relative, if_neg Bool.false_ne_true]
  split
  · next ends =>
    refine .inl ⟨by simp, ?_⟩
    simpa [String.isEmpty_iff] using ends
  · next ends =>
    refine .inr ⟨by simp, ?_⟩
    simpa [String.isEmpty_iff] using ends

theorem toList_join (path : Path) (proper : IsFileName name) :
    (path.join ⟨name⟩).text.toList = path.text.toList ++ name.toList ∧
        (path.text.toList = [] ∨ path.text.toList.getLast? = some '/') ∨
      (path.join ⟨name⟩).text.toList = path.text.toList ++ '/' :: name.toList ∧
        path.text.toList ≠ [] ∧ path.text.toList.getLast? ≠ some '/' :=
  toList_join_of_relative path (not_isAbsolute_of_isFileName proper)

/-- The parts of a joined path end with the name. An empty part before it is dropped. -/
theorem splitOn_join (path : Path) (proper : IsFileName name) :
    ∃ parts, Text.splitOn '/' (path.join ⟨name⟩).text.toList = parts ++ [name.toList] ∧
      (Text.splitOn '/' path.text.toList = parts ++ [[]] ∨
        Text.splitOn '/' path.text.toList = parts ∧ parts.getLast? ≠ some []) := by
  have whole := Text.splitOn_of_not_mem proper.unseparated
  rcases toList_join path proper with ⟨joined, empty | ended⟩ | ⟨joined, filled, unended⟩
  · refine ⟨[], ?_, .inl ?_⟩
    · rw [joined, empty, List.nil_append, whole, List.nil_append]
    · rw [empty]
      rfl
  · obtain ⟨before, shape⟩ := List.getLast?_eq_some_iff.1 ended
    refine ⟨Text.splitOn '/' before, ?_, .inl ?_⟩
    · rw [joined, shape, List.append_assoc, List.singleton_append, Text.splitOn_append, whole]
    · rw [shape, Text.splitOn_append]
      rfl
  · refine ⟨Text.splitOn '/' path.text.toList, ?_, .inr ⟨rfl, ?_⟩⟩
    · rw [joined, Text.splitOn_append, whole]
    · exact Text.getLast?_splitOn_ne_nil filled unended

theorem innerComponent?_ne_here (part : List Char) : innerComponent? part ≠ some .here := by
  unfold innerComponent?
  split
  · simp
  · split <;> simp

/-- Parts that follow others add what they are as inner components. -/
theorem componentsOf_append {parts more : List (List Char)} (filled : parts ≠ [])
    (further : more ≠ []) :
    componentsOf (parts ++ more) =
      componentsOf (parts ++ [[]]) ++ more.filterMap innerComponent? := by
  obtain ⟨first, rest, rfl⟩ := List.exists_cons_of_ne_nil filled
  have blank : innerComponent? [] = none := rfl
  simp only [List.cons_append, componentsOf, List.filterMap_append, List.filterMap_cons,
    List.filterMap_nil, blank, List.append_nil]
  by_cases absolute : first = []
  · simp [absolute, further]
  · by_cases here : first = ['.'] <;> simp [absolute, here]

/-- An empty part after others adds no component. -/
theorem componentsOf_append_nil {parts : List (List Char)} (rooted : parts ≠ [[]]) :
    componentsOf (parts ++ [[]]) = componentsOf parts := by
  cases parts with
  | nil => rfl
  | cons first parts =>
    have blank : innerComponent? [] = none := rfl
    simp only [List.cons_append, componentsOf, List.filterMap_append, List.filterMap_cons,
      List.filterMap_nil, blank, List.append_nil]
    by_cases absolute : first = []
    · have more : parts ≠ [] := fun none => rooted (by rw [absolute, none])
      simp [absolute, more]
    · simp [absolute]

/-- The components without a leading dot. -/
def dropHere : List Component → List Component
  | .here :: rest => rest
  | components => components

theorem dropHere_of_head? {components : List Component} (other : components.head? ≠ some .here) :
    dropHere components = components := by
  unfold dropHere
  split
  · simp at other
  · rfl

/-- Below another path, a relative path shows its components without a leading dot. -/
theorem filterMap_innerComponent? {text : List Char} (relative : text.head? ≠ some '/') :
    (Text.splitOn '/' text).filterMap innerComponent? =
      dropHere (componentsOf (Text.splitOn '/' text)) := by
  cases text with
  | nil => rfl
  | cons c rest =>
    have differs : c ≠ '/' := fun same => relative (by rw [same]; rfl)
    obtain ⟨part, parts, shape⟩ : ∃ part parts,
        Text.splitOn '/' (c :: rest) = (c :: part) :: parts := by
      rw [Text.splitOn, if_neg differs]
      split
      · exact ⟨[], [], rfl⟩
      · next part parts _ => exact ⟨part, parts, rfl⟩
    rw [shape]
    by_cases here : c :: part = ['.']
    · rw [here]
      rfl
    · have blank : c :: part ≠ [] := List.cons_ne_nil c part
      simp only [componentsOf, if_neg blank, if_neg here, List.filterMap_cons]
      cases first : innerComponent? (c :: part) with
      | none => simp [innerComponent?, here] at first; split at first <;> cases first
      | some component =>
        refine (dropHere_of_head? fun leading => ?_).symm
        exact innerComponent?_ne_here (c :: part) (first.trans leading)

theorem splitOn_ne_single_nil {text : List Char} (filled : text ≠ []) :
    Text.splitOn '/' text ≠ [[]] := by
  intro single
  have whole := Text.joinWith_splitOn '/' text
  rw [single] at whole
  exact filled whole.symm

theorem components_of_toList_eq_nil {path : Path} (empty : path.text.toList = []) :
    path.components = [] := by
  unfold components
  rw [empty]
  rfl

theorem components_join_of_isAbsolute (base : Path) {path : Path}
    (absolute : path.isAbsolute = true) : (base.join path).components = path.components := by
  unfold join
  rw [if_pos absolute]

/-- Under a path that is not empty, a relative path adds its components without a leading dot. -/
theorem components_join_of_relative {base path : Path} (relative : path.isAbsolute = false)
    (filled : base.text.toList ≠ []) :
    (base.join path).components = base.components ++ dropHere path.components := by
  have unrooted : path.text.toList.head? ≠ some '/' := of_decide_eq_false relative
  have more := Text.splitOn_ne_nil '/' path.text.toList
  unfold components
  rcases toList_join_of_relative base relative with ⟨joined, empty | ended⟩ | ⟨joined, _, _⟩
  · exact absurd empty filled
  · obtain ⟨before, shape⟩ := List.getLast?_eq_some_iff.1 ended
    have parts := Text.splitOn_ne_nil '/' before
    rw [joined, shape, List.append_assoc, List.singleton_append, Text.splitOn_append,
      Text.splitOn_append, componentsOf_append parts more, filterMap_innerComponent? unrooted]
    rfl
  · have parts := Text.splitOn_ne_nil '/' base.text.toList
    rw [joined, Text.splitOn_append, componentsOf_append parts more,
      componentsOf_append_nil (splitOn_ne_single_nil filled), filterMap_innerComponent? unrooted]

theorem components_join_of_empty {base path : Path} (empty : base.text.toList = []) :
    (base.join path).components = path.components := by
  cases relative : path.isAbsolute with
  | true => exact components_join_of_isAbsolute base relative
  | false =>
    unfold components
    rcases toList_join_of_relative base relative with ⟨joined, _⟩ | ⟨_, filled, _⟩
    · rw [joined, empty, List.nil_append]
    · exact absurd empty filled

theorem components_of_isFileName (proper : IsFileName name) :
    (Path.mk name).components = [.name name] := by
  have inner : innerComponent? name.toList = some (.name name) := by
    simp [innerComponent?, proper.nonempty, proper.notHere, proper.notUp]
  unfold components
  rw [Text.splitOn_of_not_mem proper.unseparated]
  simp [componentsOf, proper.nonempty, proper.notHere, inner]

theorem components_join (path : Path) (proper : IsFileName name) :
    (path.join ⟨name⟩).components = path.components ++ [.name name] := by
  have last := components_of_isFileName proper
  by_cases empty : path.text.toList = []
  · rw [components_join_of_empty empty, components_of_toList_eq_nil empty, last, List.nil_append]
  · rw [components_join_of_relative (not_isAbsolute_of_isFileName proper) empty, last]
    rfl

theorem fileName?_join (path : Path) (proper : IsFileName name) :
    (path.join ⟨name⟩).fileName? = some name := by
  simp [fileName?, components_join path proper]

theorem startsWith_trans {inner path base : Path} (below : inner.startsWith path = true)
    (inside : path.startsWith base = true) : inner.startsWith base = true :=
  List.isPrefixOf_iff_prefix.2 <|
    (List.isPrefixOf_iff_prefix.1 inside).trans (List.isPrefixOf_iff_prefix.1 below)

theorem startsWith_join {path base : Path} (proper : IsFileName name)
    (inside : path.startsWith base = true) : (path.join ⟨name⟩).startsWith base = true := by
  unfold startsWith at inside ⊢
  rw [components_join path proper, List.isPrefixOf_iff_prefix]
  exact (List.isPrefixOf_iff_prefix.1 inside).trans (List.prefix_append _ _)

theorem startsWith_self (path : Path) : path.startsWith path = true :=
  List.isPrefixOf_iff_prefix.2 (List.prefix_refl _)

theorem isAbsolute_join {path : Path} (proper : IsFileName name)
    (filled : path.text.toList ≠ []) :
    (path.join ⟨name⟩).isAbsolute = path.isAbsolute := by
  obtain ⟨c, rest, letters⟩ := List.exists_cons_of_ne_nil filled
  unfold isAbsolute
  rcases toList_join path proper with ⟨joined, _⟩ | ⟨joined, _⟩ <;>
    rw [joined, letters, List.cons_append, List.head?_cons, List.head?_cons]

theorem noNull_join {path : Path} (proper : IsFileName name)
    (clean : '\x00' ∉ path.text.toList) :
    '\x00' ∉ (path.join ⟨name⟩).text.toList := by
  have tidy := proper.noNull
  rcases toList_join path proper with ⟨joined, _⟩ | ⟨joined, _⟩ <;>
    simp [joined, clean, tidy]

end Path

namespace FileSystem

private theorem stepOf?_of_isFileName {name : String} (proper : IsFileName name) :
    stepOf? name.toList = some (.name name) := by
  simp [stepOf?, proper.nonempty, proper.notHere, proper.notUp]

/-- Looking up a joined path goes to its directory and takes one step more from there; only a
trailing separator of the path of the directory is no longer a step. -/
theorem steps_join (path : Path) {name : String} (proper : IsFileName name) :
    ∃ before, steps (path.join ⟨name⟩) = before ++ [.name name] ∧
      (steps path = before ∨ steps path = before ++ [.mustBeDirectory]) := by
  obtain ⟨parts, joined, shape⟩ := Path.splitOn_join path proper
  refine ⟨parts.filterMap stepOf?, ?_, ?_⟩
  · simp [steps, joined, stepOf?_of_isFileName proper, proper.nonempty]
  · rcases shape with shape | ⟨shape, filled⟩
    · have blank : stepOf? [] = none := rfl
      exact .inr (by simp [steps, shape, blank])
    · exact .inl (by simp [steps, shape, filled])

end FileSystem
end AssetLint
