import Mathlib.Data.List.Basic
import AssetLint.FileSystem.Change
import AssetLint.Proofs.FileSystem.Reachable

/-!
Look-ups that fail for want of an entry. Along steps that lead somewhere every entry is there, so
it is beyond their goal that nothing is found (`within_notFound_of_append`). What is listed in a
directory can be looked up unless it is a link that leads to nothing
(`WellFormed.locate_join_ne_notFound`).
-/
namespace AssetLint.FileSystem

/-- The entry is a link, and following it ends where there is nothing. -/
def Dangles (fs : FileSystem) (directory : Location) (name : String) : Prop :=
  (fs.node? (name :: directory)).any isLink = true ∧
    fs.stepFrom directory (.name name) = .error .notFound

instance (fs : FileSystem) (directory : Location) (name : String) :
    Decidable (fs.Dangles directory name) :=
  inferInstanceAs (Decidable (_ ∧ _))

/-- No link dangles. -/
def LinksLead (fs : FileSystem) : Prop :=
  ∀ directory name, ¬ fs.Dangles directory name

section

variable {fs : FileSystem} {enter : Location → Step → Except IoError Unit} {links more : Nat}
variable {place goal : Location} {all : List Step}

theorem isSome_node?_of_isDirectoryAt (inside : fs.isDirectoryAt place = true) :
    (fs.node? place).isSome = true := by
  unfold isDirectoryAt at inside
  cases entry : fs.node? place with
  | none => rw [entry] at inside; cases inside
  | some node => rfl

/-- What is followed from a node ends at a node. -/
theorem WellFormed.isSome_node?_of_follows (formed : fs.WellFormed)
    (route : fs.Follows fs.OnDirectory links place all goal)
    (here : (fs.node? place).isSome = true) : (fs.node? goal).isSome = true := by
  induction route with
  | done => exact here
  | @next _ place _ _ _ _ _ _ allowed taken _ ih =>
    refine ih ?_
    cases taken with
    | here => exact here
    | mustBeDirectory _ => exact here
    | enter entry _ => rw [entry]; rfl
    | up =>
      cases place with
      | nil => exact here
      | cons name outer =>
        exact isSome_node?_of_isDirectoryAt (formed.isDirectoryAt_outer allowed)
    | link entry =>
      split
      · rfl
      · exact here

/-- Where there is a node there is an entry, and the other way round. -/
theorem isSome_node?_iff {name : String} {directory : Location} :
    (fs.node? (name :: directory)).isSome = true ↔ name ∈ fs.namesAt directory := by
  simp only [node?, List.cons_ne_nil, if_false, Option.isSome_map, List.find?_isSome,
    decide_eq_true_eq, mem_namesAt]
  constructor
  · rintro ⟨⟨_, node⟩, member, rfl⟩
    exact ⟨node, member⟩
  · rintro ⟨node, member⟩
    exact ⟨_, member, rfl⟩

/-- Only what is in the file system can dangle. -/
theorem linksLead_iff :
    fs.LinksLead ↔ ∀ entry ∈ fs.nodes, ∀ name ∈ entry.1.head?, ¬ fs.Dangles entry.1.tail name := by
  refine ⟨fun whole entry _ name _ => whole entry.1.tail name, ?_⟩
  intro whole directory name dangles
  have there : (fs.node? (name :: directory)).isSome = true := by
    have link := dangles.1
    cases entry : fs.node? (name :: directory) with
    | none => rw [entry] at link; cases link
    | some node => rfl
  obtain ⟨node, member⟩ := mem_namesAt.1 (isSome_node?_iff.1 there)
  exact whole _ member name rfl dangles

instance (fs : FileSystem) : Decidable fs.LinksLead :=
  decidable_of_iff _ linksLead_iff.symm

theorem enterDirectory_ne_notFound {step : Step} (from_ : fs.OnDirectory place step) :
    fs.enterDirectory place step ≠ .error .notFound := by
  rcases enterDirectory_cases from_ with same | ⟨same, _⟩ <;> simp [same]

theorem WellFormed.searchableFromRoot_ne_notFound (formed : fs.WellFormed)
    (inside : fs.isDirectoryAt place = true) :
    fs.searchableFromRoot place ≠ .error .notFound := by
  have own : ∀ {location}, fs.isDirectoryAt location = true →
      fs.searchable location ≠ .error .notFound := by
    intro location inside
    rcases searchable_cases inside with same | same <;> simp [same]
  induction place with
  | nil => exact own inside
  | cons name outer ih =>
    have above := ih (formed.isDirectoryAt_outer inside)
    simp only [searchableFromRoot, bind, Except.bind]
    cases searched : fs.searchableFromRoot outer with
    | error error => rwa [searched] at above
    | ok _ => exact own inside

theorem WellFormed.enterFromRoot_ne_notFound (formed : fs.WellFormed) {step : Step}
    (from_ : fs.OnDirectory place step) : fs.enterFromRoot place step ≠ .error .notFound := by
  cases step with
  | name text => exact formed.searchableFromRoot_ne_notFound from_
  | here => nofun
  | up => nofun
  | mustBeDirectory => nofun

/-- After steps that lead somewhere it is beyond their goal that nothing is found. -/
theorem within_notFound_of_append {before after : List Step}
    (entered : ∀ spot step, fs.OnDirectory spot step → enter spot step ≠ .error .notFound)
    (route : fs.Follows fs.OnDirectory links place before goal)
    (missing : fs.within enter more place (before ++ after) = .error .notFound) :
    ∃ fewer ≤ more, fs.within enter fewer goal after = .error .notFound := by
  have ends := @within_append_cases fs _ goal enter _ _ more after route
  rw [missing] at ends
  rcases ends with ⟨fewer, below, same⟩ | exceeds | ⟨spot, step, error, from_, failed, same⟩
  · exact ⟨fewer, below, same.symm⟩
  · rcases exceeds with same | same <;> cases same
  · cases same
    exact absurd failed (entered spot step from_)

/-- Steps that lead somewhere are not wanting for an entry. -/
theorem within_ne_notFound {all : List Step}
    (entered : ∀ spot step, fs.OnDirectory spot step → enter spot step ≠ .error .notFound)
    (route : fs.Follows fs.OnDirectory links place all goal) :
    fs.within enter more place all ≠ .error .notFound := by
  intro missing
  rw [← List.append_nil all] at missing
  obtain ⟨_, _, nowhere⟩ := within_notFound_of_append entered route missing
  rw [within_nil] at nowhere
  cases nowhere

/-- A path that can be located has a canonical location, or one that is refused. -/
theorem WellFormed.canonical_ne_notFound (formed : fs.WellFormed) {path : Path}
    (located : fs.locate path = .ok goal) : fs.canonical path ≠ .error .notFound := by
  obtain ⟨clean, filled, short, route⟩ := lookup_eq_ok_iff.1 located
  have route := route.weaken fun place step taken => onDirectory_of_canTake taken
  unfold canonical lookup
  rw [if_neg (by simpa using clean), if_neg (by simpa [String.isEmpty_iff] using filled),
    if_neg (Nat.not_lt.2 short)]
  exact within_ne_notFound (fun _ _ => formed.enterFromRoot_ne_notFound) route

theorem stepFrom_ne_notFound_of_leads {directory : Location} {name : String}
    (leads : fs.Leads directory [.name name] goal) :
    fs.stepFrom directory (.name name) ≠ .error .notFound := by
  obtain ⟨_, route⟩ := leads
  exact within_ne_notFound (fun _ _ => enterDirectory_ne_notFound) route

/-- Of the entries of a directory only links can lead to nothing. -/
theorem stepFrom_ne_notFound {directory : Location} {name : String} {node : Node}
    (inside : fs.isDirectoryAt directory = true)
    (entry : fs.node? (name :: directory) = some node) (whole : ¬ fs.Dangles directory name) :
    fs.stepFrom directory (.name name) ≠ .error .notFound := by
  cases plain : isLink node with
  | true => exact fun missing => whole ⟨by rw [entry]; exact plain, missing⟩
  | false => exact stepFrom_ne_notFound_of_leads ⟨0, .next inside (.enter entry plain) .done⟩

/-- Looking up what is listed in a directory fails for want of an entry only at a link that
dangles. -/
theorem WellFormed.locate_join_ne_notFound (formed : fs.WellFormed) {path : Path} {name : String}
    {directory : Location} (located : fs.locate path = .ok directory)
    (inside : fs.isDirectoryAt directory = true) (member : name ∈ fs.namesAt directory)
    (whole : ¬ fs.Dangles directory name) : fs.locate (path.join ⟨name⟩) ≠ .error .notFound := by
  have proper := formed.isFileName member
  obtain ⟨node, entry⟩ := Option.isSome_iff_exists.1 (isSome_node?_iff.2 member)
  obtain ⟨before, joined, same, _, route⟩ := leads_of_locate proper located
  unfold locate
  rcases lookup_join_cases proper located fs.enterDirectory with long | along
  · rw [long]
    nofun
  · rw [along, joined, same]
    intro missing
    obtain ⟨fewer, below, last⟩ :=
      within_notFound_of_append (fun _ _ => enterDirectory_ne_notFound) route missing
    refine stepFrom_ne_notFound inside entry whole ?_
    unfold stepFrom
    rw [within_mono below (by rw [last]; nofun), last]

end

end AssetLint.FileSystem
