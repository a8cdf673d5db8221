import AssetLint.Proofs.Walk.Records

/-!
What a walk leaves behind of the directories that its listings give. One whose path can be looked
up is listed, or warned of, or was visited before under another path. One whose path cannot be
looked up is taken for a file: it is recorded as unreadable if its name matches, and passed over in
silence if not. So it is with everything in a directory that can be listed but not searched.
-/
namespace AssetLint

namespace Visit

/-- The path of the directory that a visit is about. -/
def directory? : Visit → Option Path
  | .listed _ path => some path
  | .known _ path => some path
  | .warning issue => some issue.file
  | .file .. => none

/-- The visit was the first to come to the directory: it was listed then, or could not be. -/
inductive Opens (fs : FileSystem) (location : Location) : Visit → Prop
  | listed (path : Path) : Opens fs location (.listed location path)
  | refused {path : Path} {error : IoError} (finds : fs.Finds path location)
      (failed : fs.listAt location = .error error) :
      Opens fs location (AssetType.unreadable path error)

/-- The visit came to a directory by the path. -/
inductive Marks (fs : FileSystem) (path : Path) : Visit → Prop
  | listed {location : Location} (finds : fs.Finds path location) :
      Marks fs path (.listed location path)
  | known {location : Location} (finds : fs.Finds path location) :
      Marks fs path (.known location path)
  | warned (error : IoError) : Marks fs path (AssetType.unreadable path error)

end Visit

section

variable (fs : FileSystem) (visits : List Visit) (location : Location) (path : Path)

/-- The directory was come to in the visits. -/
def Opened : Prop :=
  ∃ visit ∈ visits, visit.Opens fs location

/-- The path led to a directory that an earlier visit had come to. -/
def OpenedBefore : Prop :=
  ∃ first : Visit, first.Opens fs location ∧ [first, .known location path].Sublist visits

/-- A directory was come to by the path. -/
def Marked : Prop :=
  ∃ visit ∈ visits, visit.Marks fs path

/-- The directory is listed under the path, or the path is warned of, or an earlier visit came to
the directory first. -/
inductive Traced : Prop
  | listed (member : .listed location path ∈ visits)
  | known (before : OpenedBefore fs visits location path)
  | warned (error : IoError) (member : AssetType.unreadable path error ∈ visits)

end

section

variable {fs : FileSystem} {visits more : List Visit} {location : Location} {path : Path}

theorem Opened.mono (within : visits ⊆ more) : Opened fs visits location → Opened fs more location
  | ⟨visit, member, opens⟩ => ⟨visit, within member, opens⟩

theorem OpenedBefore.mono (within : visits.Sublist more) :
    OpenedBefore fs visits location path → OpenedBefore fs more location path
  | ⟨first, opens, before⟩ => ⟨first, opens, before.trans within⟩

theorem Marked.mono (within : visits ⊆ more) : Marked fs visits path → Marked fs more path
  | ⟨visit, member, marks⟩ => ⟨visit, within member, marks⟩

theorem Opened.before (opened : Opened fs visits location) (known : .known location path ∈ more) :
    OpenedBefore fs (visits ++ more) location path := by
  obtain ⟨first, member, opens⟩ := opened
  exact ⟨first, opens, (List.singleton_sublist.2 member).append (List.singleton_sublist.2 known)⟩

theorem Traced.exists_mem (traced : Traced fs visits location path) :
    ∃ visit ∈ visits, visit.directory? = some path := by
  cases traced with
  | listed member => exact ⟨_, member, rfl⟩
  | known before =>
    obtain ⟨first, _, before⟩ := before
    have member : .known location path ∈ visits :=
      before.subset (List.mem_cons_of_mem _ (List.mem_singleton_self _))
    exact ⟨_, member, rfl⟩
  | warned error member => exact ⟨_, member, rfl⟩

end

/-- What is seen between the beginning and the end of a part of a walk was come to there, and what
was known was seen at the beginning or come to before; and of the directories among the paths that
the part starts from, and of those in the directories that it lists, each is come to. -/
structure Traces (fs : FileSystem) (starts : Path → Prop) (seen : List Location)
    (visits : List Visit) (after : List Location) : Prop where
  grown : ∀ location ∈ after, location ∈ seen ∨ Opened fs visits location
  known : ∀ location path, .known location path ∈ visits →
    location ∈ seen ∨ OpenedBefore fs visits location path
  covered : ∀ path, starts path → fs.isDirectory path = true → Marked fs visits path
  closed : ∀ listing ∈ listings visits, ∀ entries, fs.listAt listing.1 = .ok entries →
    ∀ inner ∈ AssetType.sortedEntries listing.2 entries, fs.isDirectory inner = true →
      Marked fs visits inner

namespace Traces

variable {fs : FileSystem} {starts others : Path → Prop}
variable {seen middle after : List Location} {visits more : List Visit}

theorem append (first : Traces fs starts seen visits middle)
    (second : Traces fs others middle more after) :
    Traces fs (fun path => starts path ∨ others path) seen (visits ++ more) after where
  grown := by
    intro location member
    rcases second.grown location member with early | opened
    · exact (first.grown location early).imp_right (.mono (List.subset_append_left _ _))
    · exact .inr (opened.mono (List.subset_append_right _ _))
  known := by
    intro location path member
    rcases List.mem_append.1 member with here | there
    · exact (first.known location path here).imp_right (.mono (List.sublist_append_left _ _))
    · rcases second.known location path there with early | before
      · exact (first.grown location early).imp_right fun opened => opened.before there
      · exact .inr (before.mono (List.sublist_append_right _ _))
  covered := by
    rintro path (here | there) isDir
    · exact (first.covered path here isDir).mono (List.subset_append_left _ _)
    · exact (second.covered path there isDir).mono (List.subset_append_right _ _)
  closed := by
    intro listing listed entries given inner among isDir
    rw [listings_append, List.mem_append] at listed
    rcases listed with here | there
    · exact (first.closed listing here entries given inner among isDir).mono
        (List.subset_append_left _ _)
    · exact (second.closed listing there entries given inner among isDir).mono
        (List.subset_append_right _ _)

theorem congr (same : ∀ path, fs.isDirectory path = true → (starts path ↔ others path))
    (traces : Traces fs starts seen visits after) : Traces fs others seen visits after where
  grown := traces.grown
  known := traces.known
  covered := fun path starts isDir => traces.covered path ((same path isDir).2 starts) isDir
  closed := traces.closed

/-- A single visit that lists nothing. -/
theorem single {path : Path} {visit : Visit} (unlisted : visit.listing? = none)
    (grown : ∀ location ∈ after, location ∈ seen ∨ visit.Opens fs location)
    (known : ∀ location path, visit = .known location path → location ∈ seen)
    (marks : visit.Marks fs path) : Traces fs (· = path) seen [visit] after where
  grown := fun location member => (grown location member).imp_right
    fun opens => ⟨visit, List.mem_singleton_self visit, opens⟩
  known := fun location path member => .inl (known location path (List.mem_singleton.1 member).symm)
  covered := by
    rintro path rfl _
    exact ⟨visit, List.mem_singleton_self visit, marks⟩
  closed := by simp [listings, unlisted]

/-- Files and warnings about entries that could not be read. -/
theorem idle (apart : ∀ visit ∈ visits, visit.listing? = none ∧
    ∀ location path, visit ≠ .known location path) :
    Traces fs (fun _ => False) seen visits seen where
  grown := fun _ member => .inl member
  known := fun location path member => absurd rfl ((apart _ member).2 location path)
  covered := nofun
  closed := by
    have none : listings visits = [] :=
      List.filterMap_eq_nil_iff.2 fun visit member => (apart visit member).1
    simp [none]

/-- Listing a directory comes to it first, and what its entries start from covers its
directories. -/
theorem listed {path : Path} {location : Location} {entries : List (Except IoError String)}
    (finds : fs.Finds path location) (listing : fs.listAt location = .ok entries)
    (inside : Traces fs (· ∈ AssetType.sortedEntries path entries) (location :: seen) visits
      after) :
    Traces fs (· = path) seen (.listed location path :: visits) after where
  grown := by
    intro other member
    rcases inside.grown other member with early | opened
    · rcases List.mem_cons.1 early with rfl | early
      · exact .inr ⟨_, List.mem_cons_self, .listed path⟩
      · exact .inl early
    · exact .inr (opened.mono (List.subset_cons_self _ _))
  known := by
    intro other known member
    have later := (List.mem_cons.1 member).resolve_left nofun
    rcases inside.known other known later with early | before
    · rcases List.mem_cons.1 early with rfl | early
      · have opened : Opened fs [.listed other path] other :=
          ⟨_, List.mem_singleton_self _, .listed path⟩
        exact .inr (opened.before later)
      · exact .inl early
    · exact .inr (before.mono (List.sublist_cons_self _ _))
  covered := by
    rintro path rfl _
    exact ⟨_, List.mem_cons_self, .listed finds⟩
  closed := by
    intro other member given shape inner among isDir
    refine Marked.mono (List.subset_cons_self _ _) ?_
    rcases List.mem_cons.1 member with rfl | member
    · cases listing.symm.trans shape
      exact inside.covered inner among isDir
    · exact inside.closed other member given shape inner among isDir

end Traces

namespace AssetType

variable {assetType : AssetType} {fs : FileSystem} {root : Path}

/-- An entry that is no directory is none of the directories of a list of entries. -/
theorem mem_cons_iff_of_isDirectory {path other : Path} {rest : List Path}
    (notDir : fs.isDirectory path = false) (isDir : fs.isDirectory other = true) :
    other ∈ path :: rest ↔ other ∈ rest := by
  have differ : other ≠ path := by
    rintro rfl
    rw [isDir] at notDir
    cases notDir
  rw [List.mem_cons, or_iff_right differ]

theorem traces_walkDirectory {path : Path} {seen : List Location}
    (isDir : fs.isDirectory path = true) :
    Traces fs (· = path) seen (assetType.walkDirectory fs path seen).visits
      (assetType.walkDirectory fs path seen).seenAfter := by
  refine (walk_induction assetType fs
    (P := fun path seen visits after => Traces fs (· = path) seen visits after)
    (Q := fun _ paths seen visits after => Traces fs (· ∈ paths) seen visits after)
    ?uncanonical ?known ?unlisted ?listed ?nil ?inner ?file ?skipped).1 path seen isDir
  case uncanonical =>
    intro path seen error _ _
    exact .single rfl (fun _ member => .inl member) nofun (.warned error)
  case known =>
    intro path seen location finds old
    refine .single rfl (fun _ member => .inl member) (fun other _ same => ?_) (.known finds)
    cases same
    exact old
  case unlisted =>
    intro path seen location error finds _ failed
    refine .single rfl (fun other member => ?_) nofun (.warned error)
    rcases List.mem_cons.1 member with rfl | early
    · exact .inr (.refused finds failed)
    · exact .inl early
  case listed =>
    intro path seen location entries visits after finds _ listing inside
    refine .listed finds listing ((Traces.append (.idle fun visit member => ?_) inside).congr ?_)
    · obtain ⟨issue, rfl, _⟩ := mem_unreadableEntries member
      exact ⟨rfl, nofun⟩
    · intro inner _
      simp
  case nil =>
    intro _ seen
    have none : Traces fs (fun _ => False) seen [] seen := .idle nofun
    exact none.congr fun path _ => by simp
  case inner =>
    intro _ path rest seen visits middle others after _ inside further
    exact (inside.append further).congr fun other _ => List.mem_cons.symm
  case file =>
    intro directory path rest seen name visits after notDir _ further
    have alone : Traces fs (fun _ => False) seen
        [.file directory name (assetType.validateFile fs path)] seen :=
      .idle fun visit member => by
        cases List.mem_singleton.1 member
        exact ⟨rfl, nofun⟩
    refine (alone.append further).congr fun other isDir => ?_
    rw [false_or, mem_cons_iff_of_isDirectory notDir isDir]
  case skipped =>
    intro _ path rest seen visits after notDir _ further
    exact further.congr fun other isDir => (mem_cons_iff_of_isDirectory notDir isDir).symm

/-- What lists a directory is the walk of one. -/
theorem visits_of_mem_listings {listing : Location × Path}
    (listed : listing ∈ listings (assetType.visits fs root)) :
    fs.isDirectory root = true ∧
      assetType.visits fs root = (assetType.walkDirectory fs root []).visits := by
  rcases visits_eq assetType fs root with ⟨issue, _, _, shape⟩ | walked
  · rw [shape] at listed
    cases listed
  · exact walked

theorem isDirectory_of_mem_visits {path : Path} {visit : Visit}
    (isDir : fs.isDirectory root = true)
    (member : visit ∈ (assetType.walkDirectory fs root []).visits)
    (about : visit.directory? = some path) : fs.isDirectory path = true := by
  refine visits_induction (R := fun _ => True)
    (K := fun visit => visit.directory? = some path → fs.isDirectory path = true)
    (fun _ _ _ _ _ _ _ _ => trivial) ?warning ?known ?listed nofun isDir trivial [] visit
    member about
  case warning =>
    intro other issue _ inside file _ about
    cases about
    rwa [file]
  case known =>
    intro other location _ finds about
    cases about
    exact finds.isDirectory
  case listed =>
    intro other location entries _ finds _ about
    cases about
    exact finds.isDirectory

/-- A directory that a listing gives, and that its path finds, leaves its trace. -/
theorem traced_of_mem_listings {path inner : Path} {location goal : Location}
    {entries : List (Except IoError String)} (isDir : fs.isDirectory root = true)
    (listed : (location, path) ∈ listings (assetType.walkDirectory fs root []).visits)
    (listing : fs.listAt location = .ok entries) (among : inner ∈ sortedEntries path entries)
    (located : fs.locate inner = .ok goal) (directory : fs.isDirectoryAt goal = true) :
    Traced fs (assetType.walkDirectory fs root []).visits goal inner := by
  have traces : Traces fs (· = root) [] (assetType.walkDirectory fs root []).visits
      (assetType.walkDirectory fs root []).seenAfter := traces_walkDirectory isDir
  have inside := FileSystem.isDirectory_iff.2 ⟨goal, located, directory⟩
  obtain ⟨visit, member, marks⟩ := traces.closed _ listed entries listing inner among inside
  have here : ∀ other, fs.Finds inner other → other = goal := fun other finds =>
    Except.ok.inj (finds.located.symm.trans located)
  cases marks with
  | listed finds =>
    cases here _ finds
    exact .listed member
  | known finds =>
    cases here _ finds
    exact .known ((traces.known _ _ member).resolve_left List.not_mem_nil)
  | warned error => exact .warned error member

theorem validateFile_of_locate_error {path : Path} {error : IoError}
    (failed : fs.locate path = .error error) : assetType.validateFile fs path =
      ⟨path, [⟨path, .fileError, "Error reading file: " ++ error.message⟩]⟩ := by
  unfold validateFile FileSystem.readText
  rw [failed]
  rfl

/-- No visit is about a directory at the path of the entry. It is recorded as a file that cannot be
read if its name matches, and not at all if not. -/
structure TakenForFile (assetType : AssetType) (visits : List Visit) (location : Location)
    (path : Path) (name : String) (error : IoError) : Prop where
  untraced : ∀ visit ∈ visits, visit.directory? ≠ some (path.join ⟨name⟩)
  recorded : ∀ outcome, .file location name outcome ∈ visits ↔
    assetType.matchesName name = true ∧ outcome = ⟨path.join ⟨name⟩,
      [⟨path.join ⟨name⟩, .fileError, "Error reading file: " ++ error.message⟩]⟩

/-- A directory that a listing gives is traced if its path can be looked up, and taken for a file if
not. It can be looked up unless a limit is exceeded or a directory may not be searched. -/
theorem directory_traced_or_taken_for_file (formed : fs.WellFormed) {location goal : Location}
    {path : Path} {entries : List (Except IoError String)} {name : String}
    (listed : (location, path) ∈ listings (assetType.visits fs root))
    (listing : fs.listAt location = .ok entries) (given : .ok name ∈ entries)
    (leads : fs.HasDirectory location name goal) :
    (fs.locate (path.join ⟨name⟩) = .ok goal →
        Traced fs (assetType.visits fs root) goal (path.join ⟨name⟩)) ∧
      (∀ error, fs.locate (path.join ⟨name⟩) = .error error →
        assetType.TakenForFile (assetType.visits fs root) location path name error) ∧
      (fs.locate (path.join ⟨name⟩) = .ok goal ∨
        FileSystem.ExceedsLimit (fs.locate (path.join ⟨name⟩)) ∨
        fs.Obstructed (fs.locate (path.join ⟨name⟩))) := by
  obtain ⟨isDir, walked⟩ := visits_of_mem_listings listed
  rw [walked] at listed ⊢
  refine ⟨fun located => ?traced, fun error failed => ?taken, ?cases⟩
  case traced =>
    have among : path.join ⟨name⟩ ∈ sortedEntries path entries :=
      mem_sortedEntries.2 ⟨name, given, rfl⟩
    exact traced_of_mem_listings isDir listed listing among located leads.2.2
  case taken =>
    have plain : fs.isDirectory (path.join ⟨name⟩) = false := by
      unfold FileSystem.isDirectory
      rw [failed]
    refine ⟨fun visit member about => ?_, fun outcome => ?_⟩
    · rw [isDirectory_of_mem_visits isDir member about] at plain
      cases plain
    · rw [file_mem_visits_iff formed isDir listed listing given, and_iff_right plain,
        validateFile_of_locate_error failed]
  case cases =>
    have finds := finds_of_mem_listings isDir listed
    exact FileSystem.locate_join_cases (formed.isFileName leads.1) finds.located leads.2.1

end AssetType

/-- A directory that can be listed and not searched, with two directories in it. -/
def FileSystem.sealed : FileSystem where
  nodes := [(["d"], .directory 0o444), (["n", "d"], .directory 0o755),
    (["sub", "d"], .directory 0o755)]
  guarded := true

section

open AssetType FileSystem

theorem visits_sealed : notes.visits sealed ⟨"d"⟩ =
    [.listed ["d"] ⟨"d"⟩, .file ["d"] "n" ⟨⟨"d/n"⟩, [⟨⟨"d/n"⟩, .fileError,
      "Error reading file: " ++ IoError.permissionDenied.message⟩]⟩] := by
  have present : sealed.exists? ⟨"d"⟩ = true := rfl
  have outerDir : sealed.isDirectory ⟨"d"⟩ = true := rfl
  have outerAt : sealed.canonical ⟨"d"⟩ = .ok ["d"] := rfl
  have outerNode : sealed.isDirectoryAt ["d"] = true := rfl
  have outerList : sealed.list ⟨"d"⟩ = .ok [.ok "n", .ok "sub"] := rfl
  have outerEntries : sortedEntries ⟨"d"⟩ [.ok "n", .ok "sub"] = [⟨"d/n"⟩, ⟨"d/sub"⟩] :=
    List.mergeSort_of_pairwise (by decide)
  have noneUnreadable : unreadableEntries ⟨"d"⟩ [.ok "n", .ok "sub"] = [] := rfl
  have matchedDir : sealed.isDirectory ⟨"d/n"⟩ = false := rfl
  have matchedName : (Path.fileName? ⟨"d/n"⟩).filter notes.matchesName = some "n" := rfl
  have matched : notes.validateFile sealed ⟨"d/n"⟩ = ⟨⟨"d/n"⟩, [⟨⟨"d/n"⟩, .fileError,
      "Error reading file: " ++ IoError.permissionDenied.message⟩]⟩ :=
    validateFile_of_locate_error rfl
  have otherDir : sealed.isDirectory ⟨"d/sub"⟩ = false := rfl
  have otherName : (Path.fileName? ⟨"d/sub"⟩).filter notes.matchesName = none := rfl
  simp [visits, walkDirectory, walkEntries, *]

theorem hasDirectory_sealed :
    sealed.HasDirectory ["d"] "n" ["n", "d"] ∧ sealed.HasDirectory ["d"] "sub" ["sub", "d"] :=
  ⟨⟨by decide, ⟨0, .next rfl (.enter rfl rfl) .done⟩, rfl⟩,
    by decide, ⟨0, .next rfl (.enter rfl rfl) .done⟩, rfl⟩

/-- What can be listed and not searched hides the directories in it: one of them is taken for a file
that cannot be read, and one is passed over in silence. -/
theorem untraced_sealed :
    sealed.listAt ["d"] = .ok [.ok "n", .ok "sub"] ∧
      sealed.HasDirectory ["d"] "n" ["n", "d"] ∧ sealed.HasDirectory ["d"] "sub" ["sub", "d"] ∧
      notes.visits sealed ⟨"d"⟩ = [.listed ["d"] ⟨"d"⟩, .file ["d"] "n" ⟨⟨"d/n"⟩,
        [⟨⟨"d/n"⟩, .fileError, "Error reading file: " ++ IoError.permissionDenied.message⟩]⟩] ∧
      ¬ Traced sealed (notes.visits sealed ⟨"d"⟩) ["n", "d"] ⟨"d/n"⟩ ∧
      ¬ Traced sealed (notes.visits sealed ⟨"d"⟩) ["sub", "d"] ⟨"d/sub"⟩ := by
  have only : ∀ visit ∈ notes.visits sealed ⟨"d"⟩, visit.directory? = none ∨
      visit.directory? = some ⟨"d"⟩ := by
    rw [visits_sealed]
    simp [Visit.directory?]
  refine ⟨rfl, hasDirectory_sealed.1, hasDirectory_sealed.2, visits_sealed, ?_, ?_⟩
  · intro traced
    obtain ⟨visit, member, about⟩ := traced.exists_mem
    have hidden := only visit member
    simp [about] at hidden
  · intro traced
    obtain ⟨visit, member, about⟩ := traced.exists_mem
    have hidden := only visit member
    simp [about] at hidden

theorem AssetType.directory_taken_for_file_sealed :
    sealed.WellFormed ∧ (["d"], ⟨"d"⟩) ∈ listings (notes.visits sealed ⟨"d"⟩) ∧
      notes.TakenForFile (notes.visits sealed ⟨"d"⟩) ["d"] ⟨"d"⟩ "sub" .permissionDenied ∧
      sealed.Obstructed (sealed.locate (Path.join ⟨"d"⟩ ⟨"sub"⟩)) := by
  have formed : sealed.WellFormed := by decide
  have listed : (["d"], ⟨"d"⟩) ∈ listings (notes.visits sealed ⟨"d"⟩) := by
    rw [visits_sealed]
    simp
  obtain ⟨_, taken, cases⟩ := directory_traced_or_taken_for_file formed listed rfl
    (List.mem_cons_of_mem _ (List.mem_singleton_self _)) hasDirectory_sealed.2
  refine ⟨formed, listed, taken .permissionDenied rfl, ?_⟩
  exact (cases.resolve_left (by decide)).resolve_left (by decide)

end
end AssetLint
