import Mathlib.Logic.Relation
import AssetLint.Proofs.FileSystem.Lookup

/-!
Directories that can be reached from a directory over entries and links. What an entry leads to
is said without limits on links and lengths and without the path by which its directory was
reached. Looking up the entry finds just that, or exceeds one of the limits, or fails at a directory
that may not be searched, of which there is none where every directory is accessible.
-/
namespace AssetLint.FileSystem

/-- The nodes make up one tree: they are at different places, their names are file names, and
each is in a directory. -/
structure WellFormed (fs : FileSystem) : Prop where
  distinct : (fs.nodes.map Prod.fst).Nodup
  named : ∀ entry ∈ fs.nodes, ∀ name ∈ entry.1.head?, IsFileName name
  rooted : ∀ entry ∈ fs.nodes, fs.isDirectoryAt entry.1.tail = true

instance (fs : FileSystem) : Decidable fs.WellFormed :=
  decidable_of_iff
    ((fs.nodes.map Prod.fst).Nodup ∧
      (∀ entry ∈ fs.nodes, ∀ name ∈ entry.1.head?, IsFileName name) ∧
      ∀ entry ∈ fs.nodes, fs.isDirectoryAt entry.1.tail = true)
    ⟨fun h => ⟨h.1, h.2.1, h.2.2⟩, fun h => ⟨h.distinct, h.named, h.rooted⟩⟩

/-- The directory can be searched, and it can be listed to the end. -/
def isOpenAt (fs : FileSystem) (location : Location) : Bool :=
  match fs.node? location with
  | some (.directory mode) =>
    fs.allows mode searchBit && fs.allows mode readBit &&
      fs.faults.all fun fault => fault.1 ≠ location
  | _ => false

/-- Every directory can be searched and listed. -/
def Accessible (fs : FileSystem) : Prop :=
  ∀ location ∈ fs.directories, fs.isOpenAt location = true

instance (fs : FileSystem) : Decidable fs.Accessible :=
  inferInstanceAs (Decidable (∀ location ∈ fs.directories, fs.isOpenAt location = true))

/-- A step is taken from a directory. A trailing separator asks for one itself. -/
def OnDirectory (fs : FileSystem) (place : Location) : Step → Prop
  | .mustBeDirectory => True
  | _ => fs.isDirectoryAt place = true

/-- The steps lead from the place to the goal, over however many links. -/
def Leads (fs : FileSystem) (place : Location) (all : List Step) (goal : Location) : Prop :=
  ∃ links, fs.Follows fs.OnDirectory links place all goal

/-- The entry of the directory is a directory itself once links are followed. -/
def HasDirectory (fs : FileSystem) (directory : Location) (name : String) (goal : Location) :
    Prop :=
  name ∈ fs.namesAt directory ∧ fs.Leads directory [.name name] goal ∧
    fs.isDirectoryAt goal = true

/-- The directories that entries lead to from the first on, links followed. -/
def Reachable (fs : FileSystem) : Location → Location → Prop :=
  Relation.ReflTransGen fun directory goal => ∃ name, fs.HasDirectory directory name goal

section

variable {fs : FileSystem} {place goal location directory : Location} {name : String}

theorem filterMap_toOption_map_ok (names : List String) :
    (names.map (@Except.ok IoError String)).filterMap Except.toOption = names := by
  rw [List.filterMap_map]
  exact List.filterMap_some

theorem mem_namesAt : name ∈ fs.namesAt location ↔ ∃ node, (name :: location, node) ∈ fs.nodes := by
  simp only [namesAt, List.mem_filterMap]
  constructor
  · rintro ⟨⟨at_, node⟩, member, found⟩
    cases at_ with
    | nil => cases found
    | cons first outer =>
      simp only [Option.ite_none_right_eq_some, Option.some.injEq] at found
      obtain ⟨rfl, rfl⟩ := found
      exact ⟨node, member⟩
  · rintro ⟨node, member⟩
    exact ⟨_, member, by simp⟩

/-- A listing gives names of entries only, each at most as often as there is an entry of it, also
where it breaks off. -/
theorem sublist_namesAt_of_listAt {entries : List (Except IoError String)}
    (listing : fs.listAt location = .ok entries) :
    (entries.filterMap Except.toOption).Sublist (fs.namesAt location) := by
  unfold listAt at listing
  split at listing
  · split at listing
    · have whole := Except.ok.inj listing
      rw [← whole, entriesAt]
      split
      · exact (filterMap_toOption_map_ok _).symm ▸ List.Sublist.refl _
      · next count error _ =>
        have broken : [(.error error : Except IoError String)].filterMap Except.toOption = [] := rfl
        rw [List.filterMap_append, filterMap_toOption_map_ok, broken, List.append_nil]
        exact List.take_sublist count _
    · cases listing
  · cases listing
  · cases listing

theorem mem_namesAt_of_listAt {entries : List (Except IoError String)}
    (listing : fs.listAt location = .ok entries) (member : .ok name ∈ entries) :
    name ∈ fs.namesAt location :=
  (sublist_namesAt_of_listAt listing).subset (List.mem_filterMap.2 ⟨_, member, rfl⟩)

theorem WellFormed.isFileName (formed : fs.WellFormed) (member : name ∈ fs.namesAt location) :
    IsFileName name := by
  obtain ⟨node, member⟩ := mem_namesAt.1 member
  exact formed.named _ member name rfl

theorem WellFormed.nodup_namesAt (formed : fs.WellFormed) : (fs.namesAt location).Nodup := by
  have apart := List.pairwise_map.1 formed.distinct
  refine apart.filterMap _ fun left right differ name first other second same => differ ?_
  rcases left with ⟨_ | ⟨text, outer⟩, node⟩
  · cases first
  · rcases right with ⟨_ | ⟨text', outer'⟩, node'⟩
    · cases second
    · simp only [Option.ite_none_right_eq_some, Option.some.injEq] at first second
      rw [first.1, first.2, second.1, second.2, same]

/-- What is in a directory of a tree is below the root over directories only. -/
theorem WellFormed.isDirectoryAt_outer (formed : fs.WellFormed)
    (inner : fs.isDirectoryAt (name :: location) = true) : fs.isDirectoryAt location = true := by
  rw [← mem_directories, directories, List.mem_cons, List.mem_map] at inner
  rcases inner with root | ⟨entry, member, same⟩
  · cases root
  · have outer := formed.rooted entry (List.mem_filter.1 member).1
    rwa [same] at outer

theorem isDirectoryAt_of_searchable (searched : fs.searchable place = .ok ()) :
    fs.isDirectoryAt place = true := by
  unfold searchable at searched
  unfold isDirectoryAt
  split at searched
  · next found => simp only [found]
  · cases searched
  · cases searched

theorem searchable_cases (inside : fs.isDirectoryAt place = true) :
    fs.searchable place = .ok () ∨ fs.searchable place = .error .permissionDenied := by
  unfold isDirectoryAt at inside
  unfold searchable
  split at inside
  · next mode entry =>
    rw [entry]
    by_cases allowed : fs.allows mode searchBit = true
    · exact .inl (if_pos allowed)
    · exact .inr (if_neg allowed)
  · cases inside

theorem Accessible.searchable_listAt (access : fs.Accessible)
    (inside : fs.isDirectoryAt location = true) :
    fs.searchable location = .ok () ∧
      fs.listAt location = .ok ((fs.namesAt location).map .ok) := by
  have opened := access location (mem_directories.2 inside)
  unfold isOpenAt at opened
  split at opened
  · next mode found =>
    simp only [Bool.and_eq_true, List.all_eq_true, decide_eq_true_eq] at opened
    obtain ⟨⟨search, read⟩, whole⟩ := opened
    have faultless : fs.faults.find? (fun fault => decide (fault.1 = location)) = none := by
      simpa using whole
    simp [searchable, listAt, found, search, read, entriesAt, faultless]
  · cases opened

theorem Accessible.searchableFromRoot (access : fs.Accessible) (formed : fs.WellFormed)
    (inside : fs.isDirectoryAt location = true) : fs.searchableFromRoot location = .ok () := by
  induction location with
  | nil => exact (access.searchable_listAt inside).1
  | cons name outer ih =>
    have above := ih (formed.isDirectoryAt_outer inside)
    simp only [FileSystem.searchableFromRoot, above]
    exact (access.searchable_listAt inside).1

theorem onDirectory_of_canTake {step : Step} (taken : CanTake fs.enterDirectory place step) :
    fs.OnDirectory place step := by
  cases step with
  | mustBeDirectory => trivial
  | here => exact isDirectoryAt_of_searchable taken.1
  | up => exact isDirectoryAt_of_searchable taken.1
  | name text => exact isDirectoryAt_of_searchable taken.1

/-- A directory is entered unless it may not be searched. -/
theorem enterDirectory_cases {step : Step} (from_ : fs.OnDirectory place step) :
    fs.enterDirectory place step = .ok () ∨
      fs.enterDirectory place step = .error .permissionDenied ∧
        fs.isDirectoryAt place = true ∧ fs.searchable place = .error .permissionDenied := by
  cases step with
  | mustBeDirectory => exact .inl rfl
  | here => exact (searchable_cases from_).imp_right fun refused => ⟨refused, from_, refused⟩
  | up => exact (searchable_cases from_).imp_right fun refused => ⟨refused, from_, refused⟩
  | name text => exact (searchable_cases from_).imp_right fun refused => ⟨refused, from_, refused⟩

/-- Where every directory is accessible, what can be located has a canonical location. -/
theorem Accessible.canonical (access : fs.Accessible) (formed : fs.WellFormed) {path : Path}
    (located : fs.locate path = .ok location) : fs.canonical path = .ok location := by
  obtain ⟨clean, filled, short, route⟩ := lookup_eq_ok_iff.1 located
  refine lookup_eq_ok_iff.2 ⟨clean, filled, short, route.weaken fun place step taken => ?_⟩
  refine ⟨?_, taken.2⟩
  cases step with
  | mustBeDirectory => rfl
  | here => rfl
  | up => rfl
  | name text =>
    exact access.searchableFromRoot formed (isDirectoryAt_of_searchable taken.1)

/-- The look-up failed on a limit, and not for what is in the file system. -/
def ExceedsLimit (found : Lookup) : Prop :=
  found = .error .tooManyLinks ∨ found = .error .nameTooLong

instance (found : Lookup) : Decidable (ExceedsLimit found) :=
  match found with
  | .ok _ => isFalse fun exceeds => by rcases exceeds with same | same <;> cases same
  | .error error =>
    decidable_of_iff (error = .tooManyLinks ∨ error = .nameTooLong) (by simp [ExceedsLimit])

/-- The look-up failed at a directory that may not be searched. -/
def Obstructed (fs : FileSystem) (found : Lookup) : Prop :=
  found = .error .permissionDenied ∧
    ∃ place, fs.isDirectoryAt place = true ∧ fs.searchable place = .error .permissionDenied

theorem Accessible.not_obstructed (access : fs.Accessible) (found : Lookup) :
    ¬ fs.Obstructed found := by
  rintro ⟨_, place, inside, refused⟩
  rw [(access.searchable_listAt inside).1] at refused
  cases refused

/-- Steps that lead somewhere are gone along before any others, unless a limit is exceeded or some
place on the way may not be left. -/
theorem within_append_cases {enter : Location → Step → Except IoError Unit} {links : Nat}
    {before : List Step} (more : Nat) (after : List Step)
    (route : fs.Follows fs.OnDirectory links place before goal) :
    (∃ fewer ≤ more, fs.within enter more place (before ++ after) =
        fs.within enter fewer goal after) ∨
      ExceedsLimit (fs.within enter more place (before ++ after)) ∨
      ∃ spot step error, fs.OnDirectory spot step ∧ enter spot step = .error error ∧
        fs.within enter more place (before ++ after) = .error error := by
  induction route generalizing more with
  | done => exact .inl ⟨more, Nat.le_refl more, rfl⟩
  | @next _ place step _ extra cost rest _ allowed taken _ ih =>
    rw [List.cons_append, within_cons]
    cases entered : enter place step with
    | error error => exact .inr (.inr ⟨place, step, error, allowed, entered, rfl⟩)
    | ok _ =>
      by_cases long : ∃ text, step = .name text ∧ maxNameBytes < text.utf8ByteSize
      · obtain ⟨text, rfl, long⟩ := long
        exact .inr (.inl (.inr (by simp only [Except.bind, atStep, if_pos long])))
      · have short : ∀ text, step = .name text → text.utf8ByteSize ≤ maxNameBytes :=
          fun text same => Nat.not_lt.1 fun longer => long ⟨text, same, longer⟩
        by_cases affordable : cost ≤ more
        · obtain ⟨fewer, rfl⟩ := Nat.exists_eq_add_of_le' affordable
          have onward : fs.atStep enter (fewer + cost) place (rest ++ after) step =
              fs.within enter fewer _ (extra ++ (rest ++ after)) := atStep_of_next taken short
          rw [Except.bind, onward, ← List.append_assoc]
          rcases ih fewer with ⟨least, below, same⟩ | stuck
          · exact .inl ⟨least, Nat.le_trans below (Nat.le_add_right _ _), same⟩
          · exact .inr stuck
        · cases taken with
          | link entry =>
            have none : more = 0 := by omega
            simp only [Except.bind, atStep, if_neg (Nat.not_lt.2 (short _ rfl)), entry, none]
            exact .inr (.inl (.inl rfl))
          | here => exact absurd (Nat.zero_le _) affordable
          | up => exact absurd (Nat.zero_le _) affordable
          | mustBeDirectory _ => exact absurd (Nat.zero_le _) affordable
          | enter _ _ => exact absurd (Nat.zero_le _) affordable

/-- Only the limits and directories that may not be searched keep a look-up from the goal. -/
theorem within_cases {links : Nat} {all : List Step} (more : Nat)
    (route : fs.Follows fs.OnDirectory links place all goal) :
    fs.within fs.enterDirectory more place all = .ok goal ∨
      ExceedsLimit (fs.within fs.enterDirectory more place all) ∨
      fs.Obstructed (fs.within fs.enterDirectory more place all) := by
  have ends := @within_append_cases fs place goal fs.enterDirectory links all more [] route
  rw [List.append_nil] at ends
  rcases ends with ⟨_, _, found⟩ | exceeds | ⟨spot, step, error, from_, failed, same⟩
  · exact .inl (found.trans within_nil)
  · exact .inr (.inl exceeds)
  · rcases enterDirectory_cases from_ with entered | ⟨refused, inside, closed⟩
    · cases failed.symm.trans entered
    · cases failed.symm.trans refused
      exact .inr (.inr ⟨same, spot, inside, closed⟩)

theorem Leads.agree {all : List Step} {other : Location} (left : fs.Leads place all goal)
    (right : fs.Leads place all other) : goal = other := by
  obtain ⟨_, left⟩ := left
  obtain ⟨_, right⟩ := right
  exact left.agree right

/-- The look-up of a path leads to its directory first, and what is looked up in the directory
goes on from there. -/
theorem leads_of_locate {path : Path} (proper : IsFileName name)
    (located : fs.locate path = .ok directory) :
    ∃ before, steps (path.join ⟨name⟩) = before ++ [.name name] ∧
      fs.start (path.join ⟨name⟩) = fs.start path ∧ fs.Leads (fs.start path) before directory := by
  obtain ⟨_, filled, _, route⟩ := lookup_eq_ok_iff.1 located
  have route := route.weaken fun place step taken => onDirectory_of_canTake taken
  obtain ⟨before, joined, shape⟩ := steps_join path proper
  refine ⟨before, joined, ?_, maxLinks, ?_⟩
  · unfold start
    rw [Path.isAbsolute_join proper filled]
  · rcases shape with shape | shape
    · rwa [shape] at route
    · rw [shape] at route
      obtain ⟨middle, first, last⟩ := route.split
      rw [last.eq_of_mustBeDirectory]
      exact first

theorem leads_of_locate_join {path : Path} (proper : IsFileName name)
    (located : fs.locate path = .ok directory)
    (found : fs.locate (path.join ⟨name⟩) = .ok goal) : fs.Leads directory [.name name] goal := by
  obtain ⟨before, joined, same, first⟩ := leads_of_locate proper located
  obtain ⟨_, _, _, route⟩ := lookup_eq_ok_iff.1 found
  have route := route.weaken fun place step taken => onDirectory_of_canTake taken
  rw [joined, same] at route
  obtain ⟨middle, start, last⟩ := route.split
  have here : middle = directory := Leads.agree ⟨_, start⟩ first
  rw [here] at last
  exact ⟨_, last⟩

/-- Whatever comes of looking up an entry under a path of its directory, but for a path that has
become too long, comes of going along its steps. -/
theorem lookup_join_cases {path : Path} (proper : IsFileName name)
    (located : fs.locate path = .ok directory) (enter : Location → Step → Except IoError Unit) :
    fs.lookup enter (path.join ⟨name⟩) = .error .nameTooLong ∨
      fs.lookup enter (path.join ⟨name⟩) = fs.within enter maxLinks
        (fs.start (path.join ⟨name⟩)) (steps (path.join ⟨name⟩)) := by
  obtain ⟨clean, filled, _, _⟩ := lookup_eq_ok_iff.1 located
  have cleanJoined := Path.noNull_join proper clean
  have filledJoined : (path.join ⟨name⟩).text ≠ "" := by
    intro empty
    have letters := Path.toList_join path proper
    simp [empty, proper.nonempty] at letters
  unfold lookup
  rw [if_neg (by simpa using cleanJoined),
    if_neg (by simpa [String.isEmpty_iff] using filledJoined)]
  split
  · exact .inl rfl
  · exact .inr rfl

/-- Looking up an entry under a path of its directory finds what the entry leads to, unless a
limit is exceeded or a directory may not be searched. -/
theorem locate_join_cases {path : Path} (proper : IsFileName name)
    (located : fs.locate path = .ok directory) (leads : fs.Leads directory [.name name] goal) :
    fs.locate (path.join ⟨name⟩) = .ok goal ∨ ExceedsLimit (fs.locate (path.join ⟨name⟩)) ∨
      fs.Obstructed (fs.locate (path.join ⟨name⟩)) := by
  obtain ⟨before, joined, same, _, first⟩ := leads_of_locate proper located
  obtain ⟨_, last⟩ := leads
  have whole := within_cases maxLinks (first.append last)
  rw [← joined, ← same] at whole
  rcases lookup_join_cases proper located fs.enterDirectory with long | along
  · exact .inr (.inl (.inr long))
  · unfold locate
    rw [along]
    exact whole

theorem Accessible.locate_join (access : fs.Accessible) {path : Path}
    (proper : IsFileName name) (located : fs.locate path = .ok directory)
    (leads : fs.Leads directory [.name name] goal) :
    fs.locate (path.join ⟨name⟩) = .ok goal ∨ ExceedsLimit (fs.locate (path.join ⟨name⟩)) :=
  (locate_join_cases proper located leads).imp_right
    fun failed => failed.resolve_right (access.not_obstructed _)

end
end AssetLint.FileSystem
