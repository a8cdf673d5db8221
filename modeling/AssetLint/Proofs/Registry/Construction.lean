import Mathlib.Data.List.Forall2
import Mathlib.Order.Bounds.Basic
import AssetLint.Registry

/-!
Building a registry from declarations. A list of declarations is taken if the names are distinct
and every declaration is well formed by itself (`Admissible`); it is taken in order, and the
fields of a type are those declared, each at its first place (`Describes`). Otherwise the fault is
that of the first declaration with which the list is no longer admissible: a name declared before,
else one of its own, looked for in its pattern, its required fields and its probes in this order
(`FirstFault`).
-/
namespace AssetLint

/-- The names are the declared ones without repetition, in the order in which each is first
declared. -/
structure FirstOccurrences (declared names : List String) : Prop where
  mem_iff : ∀ name, name ∈ names ↔ name ∈ declared
  nodup : names.Nodup
  ordered : names.Pairwise fun left right => declared.idxOf left < declared.idxOf right

theorem mem_distinct {name : String} {names : List String} :
    name ∈ distinct names ↔ name ∈ names := by
  induction names with
  | nil => rfl
  | cons first rest ih =>
    rw [distinct, List.mem_cons, List.mem_cons, List.mem_filter, ih]
    by_cases same : name = first <;> simp [same]

theorem nodup_distinct (names : List String) : (distinct names).Nodup := by
  induction names with
  | nil => exact .nil
  | cons first rest ih =>
    refine List.nodup_cons.2 ⟨fun member => ?_, ih.filter _⟩
    simpa using (List.mem_filter.1 member).2

theorem firstOccurrences_distinct (names : List String) :
    FirstOccurrences names (distinct names) := by
  refine ⟨fun _ => mem_distinct, nodup_distinct names, ?_⟩
  induction names with
  | nil => exact .nil
  | cons first rest ih =>
    have onward : ∀ name, name ≠ first →
        (first :: rest).idxOf name = rest.idxOf name + 1 := fun name differs =>
      List.idxOf_cons_ne rest differs.symm
    have others : ∀ name ∈ (distinct rest).filter (· ≠ first), name ≠ first := fun name member => by
      simpa using (List.mem_filter.1 member).2
    refine List.pairwise_cons.2 ⟨fun name member => ?_, ?_⟩
    · rw [List.idxOf_cons_self, onward name (others name member)]
      exact Nat.succ_pos _
    · refine (ih.filter _).imp_of_mem fun {left right} here there less => ?_
      rw [onward left (others left here), onward right (others right there)]
      exact Nat.succ_lt_succ less

theorem FirstOccurrences.unique {declared names others : List String}
    (left : FirstOccurrences declared names) (right : FirstOccurrences declared others) :
    names = others := by
  have perm : names.Perm others := (List.perm_ext_iff_of_nodup left.nodup right.nodup).2
    fun name => (left.mem_iff name).trans (right.mem_iff name).symm
  exact perm.eq_of_pairwise (fun _ _ _ _ less more => absurd less (Nat.lt_asymm more))
    left.ordered right.ordered

namespace AssetSpec

variable {spec : AssetSpec} {assetType other : AssetType}

/-- The declaration can be compiled by itself. -/
structure WellFormed (spec : AssetSpec) : Prop where
  pattern : ∃ pattern, Pattern.compile spec.pattern = .ok pattern
  required : spec.required ≠ []
  probes : ∀ probe ∈ spec.probes, probe.anyOf ≠ []

/-- The asset type is the one declared. It allows the fields of both declared lists. -/
structure Describes (spec : AssetSpec) (assetType : AssetType) : Prop where
  name : assetType.name = spec.name
  directory : assetType.directory = spec.directory
  pattern : Pattern.compile spec.pattern = .ok assetType.pattern
  required : FirstOccurrences spec.required assetType.required
  optional : FirstOccurrences spec.optional assetType.optional
  probes : assetType.probes = spec.probes
  allowed : ∀ field, field ∈ assetType.allowed ↔ field ∈ spec.required ∨ field ∈ spec.optional
  allows : ∀ field, assetType.allows field = true ↔
    field ∈ spec.required ∨ field ∈ spec.optional

/-- What is wrong with a declaration by itself: its pattern, else its required fields, else its
probes. -/
inductive FirstFault (spec : AssetSpec) : SpecError → Prop
  | invalidPattern {error} (broken : Pattern.compile spec.pattern = .error error) :
      FirstFault spec (.invalidPattern spec.name spec.pattern error.message)
  | noRequiredFields {pattern} (whole : Pattern.compile spec.pattern = .ok pattern)
      (bare : spec.required = []) : FirstFault spec (.noRequiredFields spec.name)
  | emptyProbe {pattern} (whole : Pattern.compile spec.pattern = .ok pattern)
      (filled : spec.required ≠ []) (empty : ∃ probe ∈ spec.probes, probe.anyOf = []) :
      FirstFault spec (.emptyProbe spec.name)

theorem Describes.unique (left : spec.Describes assetType) (right : spec.Describes other) :
    assetType = other := by
  cases assetType
  cases other
  obtain rfl := left.name.trans right.name.symm
  obtain rfl := left.directory.trans right.directory.symm
  obtain rfl := Except.ok.inj (left.pattern.symm.trans right.pattern)
  obtain rfl := left.required.unique right.required
  obtain rfl := left.optional.unique right.optional
  obtain rfl := left.probes.trans right.probes.symm
  rfl

theorem FirstFault.unique {error reason : SpecError} (left : spec.FirstFault error)
    (right : spec.FirstFault reason) : error = reason := by
  cases left with
  | invalidPattern broken =>
    cases right with
    | invalidPattern also => rw [Except.error.inj (broken.symm.trans also)]
    | noRequiredFields whole _ => cases broken.symm.trans whole
    | emptyProbe whole _ _ => cases broken.symm.trans whole
  | noRequiredFields whole bare =>
    cases right with
    | invalidPattern broken => cases whole.symm.trans broken
    | noRequiredFields _ _ => rfl
    | emptyProbe _ filled _ => exact absurd bare filled
  | emptyProbe whole filled _ =>
    cases right with
    | invalidPattern broken => cases whole.symm.trans broken
    | noRequiredFields _ bare => exact absurd bare filled
    | emptyProbe _ _ _ => rfl

theorem FirstFault.not_wellFormed {error : SpecError} (fault : spec.FirstFault error) :
    ¬ spec.WellFormed := by
  intro formed
  obtain ⟨pattern, whole⟩ := formed.pattern
  cases fault with
  | invalidPattern broken => cases whole.symm.trans broken
  | noRequiredFields _ bare => exact formed.required bare
  | emptyProbe _ _ empty =>
    obtain ⟨probe, member, none⟩ := empty
    exact formed.probes probe member none

/-- A declaration gives its asset type if it is well formed, and its first fault otherwise. -/
theorem compile_cases (spec : AssetSpec) :
    (∃ assetType, spec.compile = .ok assetType ∧ spec.WellFormed ∧ spec.Describes assetType) ∨
      ∃ error, spec.compile = .error error ∧ spec.FirstFault error := by
  unfold compile
  cases whole : Pattern.compile spec.pattern with
  | error error => exact .inr ⟨_, rfl, .invalidPattern whole⟩
  | ok pattern =>
    simp only [List.isEmpty_iff]
    split
    · next bare => exact .inr ⟨_, rfl, .noRequiredFields whole bare⟩
    · next filled =>
      split
      · next empty =>
        obtain ⟨probe, member, none⟩ := List.any_eq_true.1 empty
        exact .inr ⟨_, rfl, .emptyProbe whole filled ⟨probe, member, List.isEmpty_iff.1 none⟩⟩
      · next probed =>
        have needles : ∀ probe ∈ spec.probes, probe.anyOf ≠ [] := fun probe member none =>
          probed (List.any_eq_true.2 ⟨probe, member, List.isEmpty_iff.2 none⟩)
        refine .inl ⟨_, rfl, ⟨⟨pattern, whole⟩, filled, needles⟩, ?_⟩
        constructor
        case name => rfl
        case directory => rfl
        case pattern => exact whole
        case required => exact firstOccurrences_distinct spec.required
        case optional => exact firstOccurrences_distinct spec.optional
        case probes => rfl
        case allowed => simp [AssetType.allowed, mem_distinct]
        case allows => simp [AssetType.allows, mem_distinct]

end AssetSpec

namespace Registry

variable {specs before after : List AssetSpec} {spec : AssetSpec} {registry : Registry}

/-- Names are distinct, and every declaration is well formed. -/
structure Admissible (specs : List AssetSpec) : Prop where
  distinct : (specs.map AssetSpec.name).Nodup
  formed : ∀ spec ∈ specs, spec.WellFormed

/-- What is wrong with a declaration after others: its name, else what is wrong with it by
itself. -/
inductive FirstFault (before : List AssetSpec) (spec : AssetSpec) : RegistryError → Prop
  | repeatedName (taken : ∃ other ∈ before, other.name = spec.name) :
      FirstFault before spec (.repeatedName spec.name)
  | spec {error} (fresh : ∀ other ∈ before, other.name ≠ spec.name)
      (fault : spec.FirstFault error) : FirstFault before spec (.spec error)

theorem FirstFault.unique {error reason : RegistryError} (left : FirstFault before spec error)
    (right : FirstFault before spec reason) : error = reason := by
  cases left with
  | repeatedName taken =>
    cases right with
    | repeatedName _ => rfl
    | spec fresh _ =>
      obtain ⟨other, member, same⟩ := taken
      exact absurd same (fresh other member)
  | spec fresh fault =>
    cases right with
    | repeatedName taken =>
      obtain ⟨other, member, same⟩ := taken
      exact absurd same (fresh other member)
    | spec _ also => rw [fault.unique also]

theorem admissible_nil : Admissible [] :=
  ⟨List.nodup_nil, fun _ member => nomatch member⟩

theorem Admissible.sublist (admissible : Admissible specs) (kept : before.Sublist specs) :
    Admissible before :=
  ⟨admissible.distinct.sublist (kept.map _), fun spec member =>
    admissible.formed spec (kept.subset member)⟩

theorem admissible_append_singleton_iff :
    Admissible (before ++ [spec]) ↔
      Admissible before ∧ (∀ other ∈ before, other.name ≠ spec.name) ∧ spec.WellFormed := by
  constructor
  · intro whole
    have distinct := whole.distinct
    rw [List.map_append, List.nodup_append] at distinct
    refine ⟨whole.sublist (List.sublist_append_left _ _), fun other member => ?_,
      whole.formed spec (by simp)⟩
    exact distinct.2.2 _ (List.mem_map_of_mem member) _ (by simp)
  · rintro ⟨admissible, fresh, formed⟩
    constructor
    case distinct =>
      rw [List.map_append, List.nodup_append]
      refine ⟨admissible.distinct, by simp, fun name member last among => ?_⟩
      obtain ⟨other, inside, rfl⟩ := List.mem_map.1 member
      rw [List.map_singleton, List.mem_singleton] at among
      exact among ▸ fresh other inside
    case formed =>
      intro other member
      rcases List.mem_append.1 member with member | member
      · exact admissible.formed other member
      · exact List.mem_singleton.1 member ▸ formed

theorem FirstFault.not_admissible {error : RegistryError} (fault : FirstFault before spec error) :
    ¬ Admissible (before ++ [spec]) := by
  rw [admissible_append_singleton_iff]
  rintro ⟨_, fresh, formed⟩
  cases fault with
  | repeatedName taken =>
    obtain ⟨other, member, same⟩ := taken
    exact fresh other member same
  | spec _ fault => exact fault.not_wellFormed formed

theorem map_name_eq {types : List AssetType}
    (described : List.Forall₂ AssetSpec.Describes specs types) :
    types.map AssetType.name = specs.map AssetSpec.name := by
  induction described with
  | nil => rfl
  | cons first _ ih => rw [List.map_cons, List.map_cons, first.name, ih]

/-- What comes of declarations: the types that they describe, or the first fault. -/
inductive Settles (specs : List AssetSpec) : Except RegistryError (List AssetType) → Prop
  | types {types} (admissible : Admissible specs)
      (described : List.Forall₂ AssetSpec.Describes specs types) : Settles specs (.ok types)
  | fault {before spec after error} (shape : specs = before ++ spec :: after)
      (admissible : Admissible before) (fault : FirstFault before spec error) :
      Settles specs (.error error)

/-- Declarations are added to those before as long as the list stays admissible. -/
theorem settles_extend {types : List AssetType} (admissible : Admissible before)
    (described : List.Forall₂ AssetSpec.Describes before types) (specs : List AssetSpec) :
    Settles (before ++ specs) (extend types specs) := by
  induction specs generalizing before types with
  | nil =>
    rw [List.append_nil]
    exact .types admissible described
  | cons spec rest ih =>
    -- The types so far have the names of the declarations so far, so that the look-up among the
    -- types says what was declared before.
    have names : (types.any fun assetType => assetType.name = spec.name) = true ↔
        ∃ other ∈ before, other.name = spec.name := by
      have listed : spec.name ∈ types.map AssetType.name ↔
          spec.name ∈ before.map AssetSpec.name := by rw [map_name_eq described]
      simpa using listed
    rw [extend]
    split
    · next taken => exact .fault rfl admissible (.repeatedName (names.1 taken))
    · next untaken =>
      have fresh : ∀ other ∈ before, other.name ≠ spec.name := fun other member same =>
        untaken (names.2 ⟨other, member, same⟩)
      rcases spec.compile_cases with
        ⟨assetType, compiled, formed, describes⟩ | ⟨error, failed, fault⟩
      · have onward := ih (admissible_append_singleton_iff.2 ⟨admissible, fresh, formed⟩)
          (List.rel_append described (.cons describes .nil))
        rw [compiled]
        rwa [List.append_assoc] at onward
      · rw [failed]
        exact .fault rfl admissible (.spec fresh fault)

theorem settles_ofSpecs (specs : List AssetSpec) :
    Settles specs ((ofSpecs specs).map Registry.assetTypes) := by
  have same : (ofSpecs specs).map Registry.assetTypes = extend [] specs := by
    unfold ofSpecs
    cases extend [] specs <;> rfl
  rw [same]
  exact settles_extend admissible_nil .nil specs

theorem settles_types (built : ofSpecs specs = .ok registry) :
    Admissible specs ∧ List.Forall₂ AssetSpec.Describes specs registry.assetTypes := by
  have settled := settles_ofSpecs specs
  rw [built] at settled
  cases settled with
  | types admissible described => exact ⟨admissible, described⟩

theorem nodup_names_of_ofSpecs (built : ofSpecs specs = .ok registry) :
    (registry.assetTypes.map AssetType.name).Nodup := by
  obtain ⟨admissible, described⟩ := settles_types built
  rw [map_name_eq described]
  exact admissible.distinct

/-- The fault is that of the least index at which the list is no longer admissible. -/
theorem isLeast_of_fault {error : RegistryError} (failed : ofSpecs specs = .error error) :
    ∃ i spec, IsLeast {i | ¬ Admissible (specs.take (i + 1))} i ∧ specs[i]? = some spec ∧
      FirstFault (specs.take i) spec error := by
  have settled := settles_ofSpecs specs
  rw [failed] at settled
  cases settled with
  | @fault before spec after _ shape admissible fault =>
    subst shape
    refine ⟨before.length, spec, ⟨?_, fun i broken => ?_⟩, by simp, by simpa using fault⟩
    · have upTo : (before ++ spec :: after).take (before.length + 1) = before ++ [spec] := by
        rw [List.take_length_add_append, List.take_succ_cons, List.take_zero]
      show ¬ Admissible ((before ++ spec :: after).take (before.length + 1))
      rw [upTo]
      exact fault.not_admissible
    · by_contra short
      refine broken (admissible.sublist ?_)
      rw [List.take_append_of_le_length (by omega)]
      exact List.take_sublist _ _

/-- Declarations make up a registry just when they are admissible, and it is the one described;
otherwise the error is the first fault of the first declaration that is not to be admitted. -/
theorem ofSpecs_exact (specs : List AssetSpec) :
    ((∃ registry, ofSpecs specs = .ok registry) ↔ Admissible specs) ∧
      (∀ registry, ofSpecs specs = .ok registry ↔
        Admissible specs ∧ List.Forall₂ AssetSpec.Describes specs registry.assetTypes) ∧
      ∀ error, ofSpecs specs = .error error ↔
        ∃ i spec, IsLeast {i | ¬ Admissible (specs.take (i + 1))} i ∧ specs[i]? = some spec ∧
          FirstFault (specs.take i) spec error := by
  have total : Admissible specs → ∃ registry, ofSpecs specs = .ok registry := by
    intro admissible
    cases done : ofSpecs specs with
    | ok registry => exact ⟨registry, rfl⟩
    | error error =>
      obtain ⟨i, _, least, _⟩ := isLeast_of_fault done
      exact absurd (admissible.sublist (List.take_sublist _ _)) least.1
  refine ⟨⟨fun ⟨registry, built⟩ => (settles_types built).1, total⟩, fun registry => ?_,
    fun error => ?_⟩
  · refine ⟨settles_types, fun ⟨admissible, described⟩ => ?_⟩
    obtain ⟨other, built⟩ := total admissible
    have same : registry.assetTypes = other.assetTypes :=
      Relator.RightUnique.forall₂ (fun _ _ _ left right => left.unique right) described
        (settles_types built).2
    cases registry
    cases other
    rw [built]
    exact congrArg _ (congrArg _ same.symm)
  · refine ⟨isLeast_of_fault, fun ⟨i, spec, least, found, fault⟩ => ?_⟩
    cases done : ofSpecs specs with
    | ok registry =>
      exact absurd ((settles_types done).1.sublist (List.take_sublist _ _)) least.1
    | error reason =>
      obtain ⟨j, other, also, here, first⟩ := isLeast_of_fault done
      obtain rfl := least.unique also
      obtain rfl := Option.some.inj (found.symm.trans here)
      rw [fault.unique first]

end Registry
end AssetLint
