import Mathlib.Data.List.Forall2
import AssetLint.Proofs.Path.Spelling
import AssetLint.Proofs.Run.Flags

/-!
Spellings of a path, a root or the directories of asset types, and the type that a path belongs
to. What no component shows never matters. A leading `./` can only hide that a directory contains
a path, so that the answer stays the same wherever it hides nothing that counts: where the first
type whose directory contains the path, leading dots apart, contains it as both are written
(`resolve_respelt`). Where it does hide that, another type takes the path (`resolve_ne_respelt`).
-/
namespace AssetLint

namespace Path

variable {path base : Path}

theorem dropHere_leading {components more : List Component} (start : components <+: more) :
    dropHere components <+: dropHere more := by
  cases components with
  | nil => exact List.nil_prefix
  | cons first rest =>
    obtain ⟨tail, rfl⟩ := start
    rw [dropHere_append (List.cons_ne_nil first rest)]
    exact List.prefix_append _ _

/-- The path starts with the base when leading dots are left out of account. -/
def startsLoosely (path base : Path) : Bool :=
  (dropHere base.components).isPrefixOf (dropHere path.components)

theorem startsLoosely_of_startsWith (starts : path.startsWith base = true) :
    path.startsLoosely base = true :=
  List.isPrefixOf_iff_prefix.2 (dropHere_leading (List.isPrefixOf_iff_prefix.1 starts))

/-- A leading dot is no file name. -/
theorem fileName?_eq (path : Path) :
    path.fileName? =
      match (dropHere path.components).getLast? with
      | some (.name text) => some text
      | _ => none := by
  unfold fileName?
  cases path.components with
  | nil => rfl
  | cons first rest =>
    by_cases here : first = .here
    · rw [here]
      cases rest <;> rfl
    · have kept : dropHere (first :: rest) = first :: rest :=
        dropHere_of_head? fun leading => here (Option.some.inj leading)
      rewrite [kept]
      cases (first :: rest).getLast? with
      | none => rfl
      | some last => cases last <;> rfl

theorem Alike.fileName?_eq {other : Path} (alike : Alike path other) :
    path.fileName? = other.fileName? := by
  rw [Path.fileName?_eq, Path.fileName?_eq, alike.components]

end Path

/-- The asset types differ in the spelling of their directories and in nothing else. -/
structure AssetType.Differs (spelt : Path → Path → Prop) (left right : AssetType) : Prop where
  others : right = { left with directory := right.directory }
  directory : spelt left.directory right.directory

namespace AssetType.Differs

variable {spelt : Path → Path → Prop} {left right : AssetType}

theorem matchesName_eq (differs : Differs spelt left right) (name : String) :
    left.matchesName name = right.matchesName name := by
  rw [differs.others]
  rfl

end AssetType.Differs

namespace Registry

variable {registry other : Registry} {root base path changed : Path}

/-- The first of the types that hold a path, or else the first whose pattern matches the name. -/
def choose (holding : AssetType → Bool) (assetTypes : List AssetType) (name? : Option String) :
    Option AssetType :=
  match assetTypes.find? holding with
  | some assetType => some assetType
  | none =>
    match name? with
    | some name => assetTypes.find? fun assetType => assetType.matchesName name
    | none => none

theorem resolve_eq_choose (registry : Registry) (root path : Path) :
    registry.resolve root path =
      choose (fun assetType => holds root assetType path) registry.assetTypes path.fileName? :=
  rfl

/-- The path lies in the directory of the type when leading dots are left out of account. -/
def holdsLoosely (root : Path) (assetType : AssetType) (path : Path) : Bool :=
  path.startsLoosely (root.join assetType.directory) || path.startsLoosely assetType.directory

/-- The first type that holds the path when leading dots are left out of account, if there is one,
also holds it as both are written. -/
def Settled (registry : Registry) (root path : Path) : Prop :=
  ∀ assetType, (registry.assetTypes.find? fun assetType => holdsLoosely root assetType path) =
    some assetType → holds root assetType path = true

theorem holdsLoosely_of_holds {assetType : AssetType} (held : holds root assetType path = true) :
    holdsLoosely root assetType path = true := by
  unfold holds at held
  unfold holdsLoosely
  rw [Bool.or_eq_true] at held ⊢
  exact held.imp Path.startsLoosely_of_startsWith Path.startsLoosely_of_startsWith

theorem find?_holds_eq (settled : registry.Settled root path) :
    (registry.assetTypes.find? fun assetType => holds root assetType path) =
      registry.assetTypes.find? fun assetType => holdsLoosely root assetType path := by
  cases found : registry.assetTypes.find? fun assetType => holdsLoosely root assetType path with
  | none =>
    refine List.find?_eq_none.2 fun assetType member held => ?_
    exact List.find?_eq_none.1 found assetType member (holdsLoosely_of_holds held)
  | some assetType =>
    obtain ⟨_, before, after, shape, earlier⟩ := List.find?_eq_some_iff_append.1 found
    refine List.find?_eq_some_iff_append.2 ⟨settled assetType found, before, after, shape, ?_⟩
    intro first member
    have loosely := earlier first member
    rw [Bool.not_eq_true'] at loosely ⊢
    exact Bool.eq_false_iff.2 fun held => by
      rw [holdsLoosely_of_holds held] at loosely
      cases loosely

theorem resolve_eq_choose_loosely (settled : registry.Settled root path) :
    registry.resolve root path =
      choose (fun assetType => holdsLoosely root assetType path) registry.assetTypes
        path.fileName? := by
  rw [resolve_eq_choose]
  unfold choose
  rw [find?_holds_eq settled]

theorem find?_forall₂ {Related : AssetType → AssetType → Prop} {here there : AssetType → Bool}
    {left right : List AssetType} (pairs : List.Forall₂ Related left right)
    (same : ∀ first second, Related first second → here first = there second) :
    Option.Rel Related (left.find? here) (right.find? there) := by
  induction pairs with
  | nil => exact .none
  | @cons first second _ _ pair _ ih =>
    rw [List.find?_cons, List.find?_cons, same first second pair]
    cases there second with
    | true => exact .some pair
    | false => exact ih

theorem choose_forall₂ {spelt : Path → Path → Prop} {here there : AssetType → Bool}
    {left right : List AssetType} (name? : Option String)
    (pairs : List.Forall₂ (AssetType.Differs spelt) left right)
    (same : ∀ first second, AssetType.Differs spelt first second → here first = there second) :
    Option.Rel (AssetType.Differs spelt) (choose here left name?) (choose there right name?) := by
  have held := find?_forall₂ pairs same
  unfold choose
  generalize left.find? here = first at held ⊢
  generalize right.find? there = second at held ⊢
  cases held with
  | some pair => exact .some pair
  | none =>
    cases name? with
    | none => exact .none
    | some name =>
      exact find?_forall₂ pairs fun _ _ pair => pair.matchesName_eq name

theorem holds_eq {left right : AssetType} (roots : Path.SamePunctuated root base)
    (paths : Path.SamePunctuated path changed)
    (differs : AssetType.Differs Path.SamePunctuated left right) :
    holds root left path = holds base right changed := by
  unfold holds Path.startsWith
  rw [roots.components_join differs.directory, differs.directory.components_eq,
    paths.components_eq]

theorem holdsLoosely_eq {left right : AssetType} (roots : Path.Respelt root base)
    (paths : Path.Respelt path changed)
    (differs : AssetType.Differs Path.Respelt left right) :
    holdsLoosely root left path = holdsLoosely base right changed := by
  have directories := differs.directory.alike
  unfold holdsLoosely Path.startsLoosely
  rw [roots.alike.components_join directories, directories.components, paths.alike.components]

/-- Changes of spelling that no component shows never change the answer, and neither does a leading
`./`, in the path, the root or the directories, as long as the first type whose directory contains
the path, leading dots apart, contains it as written before and after. -/
theorem resolve_respelt (registry other : Registry) (root base path changed : Path) :
    (List.Forall₂ (AssetType.Differs Path.SamePunctuated) registry.assetTypes other.assetTypes →
        Path.SamePunctuated root base → Path.SamePunctuated path changed →
        Option.Rel (AssetType.Differs Path.SamePunctuated) (registry.resolve root path)
          (other.resolve base changed)) ∧
      (List.Forall₂ (AssetType.Differs Path.Respelt) registry.assetTypes other.assetTypes →
        Path.Respelt root base → Path.Respelt path changed →
        registry.Settled root path → other.Settled base changed →
        Option.Rel (AssetType.Differs Path.Respelt) (registry.resolve root path)
          (other.resolve base changed)) := by
  constructor
  · intro types roots paths
    rw [resolve_eq_choose, resolve_eq_choose, paths.respelt.alike.fileName?_eq]
    exact choose_forall₂ _ types fun _ _ differs => holds_eq roots paths differs
  · intro types roots paths before after
    rw [resolve_eq_choose_loosely before, resolve_eq_choose_loosely after,
      paths.alike.fileName?_eq]
    exact choose_forall₂ _ types fun _ _ differs => holdsLoosely_eq roots paths differs

/-- The registry with a leading `./` before every directory. -/
def dotted (registry : Registry) : Registry :=
  ⟨registry.assetTypes.map fun assetType =>
    { assetType with directory := ⟨"./" ++ assetType.directory.text⟩ }⟩

theorem differs_refl {spelt : Path → Path → Prop} (same : ∀ path, spelt path path)
    (assetTypes : List AssetType) :
    List.Forall₂ (AssetType.Differs spelt) assetTypes assetTypes :=
  List.forall₂_same.2 fun assetType _ => ⟨rfl, same assetType.directory⟩

/-- Separators and dots inside, and a leading `./` of both the path and the root. -/
theorem resolve_respelt_builtin :
    ∃ registry, Registry.builtin = .ok registry ∧
      registry.Settled ⟨"repo"⟩ ⟨"repo/patterns/a.prompt.md"⟩ ∧
      registry.Settled ⟨"./repo"⟩ ⟨"./repo/patterns/a.prompt.md"⟩ ∧
      (registry.resolve ⟨"repo"⟩ ⟨"repo/patterns/a.prompt.md"⟩).map AssetType.name =
        some "patterns" ∧
      Option.Rel (AssetType.Differs Path.SamePunctuated)
        (registry.resolve ⟨"repo"⟩ ⟨"repo/patterns/a.prompt.md"⟩)
        (registry.resolve ⟨"repo/"⟩ ⟨"repo//patterns/./a.prompt.md"⟩) ∧
      Option.Rel (AssetType.Differs Path.Respelt)
        (registry.resolve ⟨"repo"⟩ ⟨"repo/patterns/a.prompt.md"⟩)
        (registry.resolve ⟨"./repo"⟩ ⟨"./repo/patterns/a.prompt.md"⟩) := by
  have answers : Registry.builtin.toOption.any (fun registry =>
      ((registry.assetTypes.find? fun assetType =>
          holdsLoosely ⟨"repo"⟩ assetType ⟨"repo/patterns/a.prompt.md"⟩).all fun assetType =>
            holds ⟨"repo"⟩ assetType ⟨"repo/patterns/a.prompt.md"⟩) &&
        ((registry.assetTypes.find? fun assetType =>
          holdsLoosely ⟨"./repo"⟩ assetType ⟨"./repo/patterns/a.prompt.md"⟩).all fun assetType =>
            holds ⟨"./repo"⟩ assetType ⟨"./repo/patterns/a.prompt.md"⟩) &&
        decide ((registry.resolve ⟨"repo"⟩ ⟨"repo/patterns/a.prompt.md"⟩).map AssetType.name =
          some "patterns")) = true := by
    decide +kernel
  obtain ⟨registry, built⟩ := Registry.exists_builtin
  rw [built] at answers
  simp only [Except.toOption, Option.any_some, Bool.and_eq_true, decide_eq_true_eq] at answers
  obtain ⟨⟨plain, led⟩, named⟩ := answers
  have before : registry.Settled ⟨"repo"⟩ ⟨"repo/patterns/a.prompt.md"⟩ :=
    fun assetType found => by rwa [found] at plain
  have after : registry.Settled ⟨"./repo"⟩ ⟨"./repo/patterns/a.prompt.md"⟩ :=
    fun assetType found => by rwa [found] at led
  have ended : Path.SamePunctuated ⟨"repo"⟩ ⟨"repo/"⟩ := .rel _ _ (.trailing (by decide))
  have inside : Path.SamePunctuated ⟨"repo/patterns/a.prompt.md"⟩
      ⟨"repo//patterns/./a.prompt.md"⟩ :=
    .trans _ _ _
      (.rel _ _ (.separator "repo".toList "patterns/a.prompt.md".toList))
      (.rel _ _ (.here "repo//patterns".toList "a.prompt.md".toList))
  have leading : Path.Respelt ⟨"repo"⟩ ⟨"./repo"⟩ :=
    .rel _ _ (.leading (by decide) (by decide))
  have outside : Path.Respelt ⟨"repo/patterns/a.prompt.md"⟩ ⟨"./repo/patterns/a.prompt.md"⟩ :=
    .rel _ _ (.leading (by decide) (by decide))
  have laws := fun base changed =>
    resolve_respelt registry registry ⟨"repo"⟩ base ⟨"repo/patterns/a.prompt.md"⟩ changed
  exact ⟨registry, built, before, after, named,
    (laws _ _).1 (differs_refl (fun _ => .refl _) _) ended inside,
    (laws _ _).2 (differs_refl (fun _ => .refl _) _) leading outside before after⟩

/-- With the built-in asset types a pattern becomes a prompt once its path, its root or the
directories have a leading `./`. -/
theorem resolve_ne_respelt :
    ∃ registry, Registry.builtin = .ok registry ∧
      (registry.resolve ⟨"repo"⟩ ⟨"repo/patterns/pattern-a.prompt.md"⟩).map AssetType.name =
        some "patterns" ∧
      (registry.resolve ⟨"repo"⟩ ⟨"./repo/patterns/pattern-a.prompt.md"⟩).map AssetType.name =
        some "prompts" ∧
      (registry.resolve ⟨"./repo"⟩ ⟨"repo/patterns/pattern-a.prompt.md"⟩).map AssetType.name =
        some "prompts" ∧
      (registry.resolve ⟨"."⟩ ⟨"patterns/pattern-a.prompt.md"⟩).map AssetType.name =
        some "patterns" ∧
      (registry.dotted.resolve ⟨"."⟩ ⟨"patterns/pattern-a.prompt.md"⟩).map AssetType.name =
        some "prompts" := by
  have answers : Registry.builtin.toOption.any (fun registry => decide
      ((registry.resolve ⟨"repo"⟩ ⟨"repo/patterns/pattern-a.prompt.md"⟩).map AssetType.name =
          some "patterns" ∧
        (registry.resolve ⟨"repo"⟩ ⟨"./repo/patterns/pattern-a.prompt.md"⟩).map AssetType.name =
          some "prompts" ∧
        (registry.resolve ⟨"./repo"⟩ ⟨"repo/patterns/pattern-a.prompt.md"⟩).map AssetType.name =
          some "prompts" ∧
        (registry.resolve ⟨"."⟩ ⟨"patterns/pattern-a.prompt.md"⟩).map AssetType.name =
          some "patterns" ∧
        (registry.dotted.resolve ⟨"."⟩ ⟨"patterns/pattern-a.prompt.md"⟩).map AssetType.name =
          some "prompts")) = true := by
    decide +kernel
  obtain ⟨registry, built⟩ := Registry.exists_builtin
  rw [built] at answers
  exact ⟨registry, built, of_decide_eq_true answers⟩

end Registry
end AssetLint
