import AssetLint.Proofs.Path.Join

/-!
Look-up of paths as a relation. `Next` says what one step does, and `Follows may links place
steps goal` that the steps lead from the place to the goal over at most so many links, each step
from a place where it may be taken. A bounded look-up finds exactly what is followed
(`within_eq_ok_iff`), and what is followed depends neither on the bound nor on what may be done
(`Follows.agree`). Two file systems in which a look-up can tell nothing apart give it the same
answer (`LooksAlike.lookup_eq`).
-/
namespace AssetLint.FileSystem

def isLink : Node → Bool
  | .link _ => true
  | _ => false

/-- Where a step leads, the steps of a link that come before the rest, and how many links the
step follows. -/
inductive Next (fs : FileSystem) : Location → Step → Location → List Step → Nat → Prop
  | here {place} : Next fs place .here place [] 0
  | up {place} : Next fs place .up place.tail [] 0
  | mustBeDirectory {place} (directory : fs.isDirectoryAt place = true) :
      Next fs place .mustBeDirectory place [] 0
  | enter {place text node} (entry : fs.node? (text :: place) = some node)
      (plain : isLink node = false) : Next fs place (.name text) (text :: place) [] 0
  | link {place text target} (entry : fs.node? (text :: place) = some (.link target)) :
      Next fs place (.name text) (if target.isAbsolute then [] else place) (steps target) 1

inductive Follows (fs : FileSystem) (may : Location → Step → Prop) :
    Nat → Location → List Step → Location → Prop
  | done {links place} : Follows fs may links place [] place
  | next {links place step middle extra cost rest goal} (allowed : may place step)
      (taken : fs.Next place step middle extra cost)
      (further : Follows fs may links middle (extra ++ rest) goal) :
      Follows fs may (links + cost) place (step :: rest) goal

theorem Next.agree {fs : FileSystem} {place middle other : Location} {step : Step}
    {extra more : List Step} {cost price : Nat} (left : fs.Next place step middle extra cost)
    (right : fs.Next place step other more price) : middle = other ∧ extra = more := by
  cases left with
  | here => cases right; exact ⟨rfl, rfl⟩
  | up => cases right; exact ⟨rfl, rfl⟩
  | mustBeDirectory _ => cases right; exact ⟨rfl, rfl⟩
  | enter entry plain =>
    cases right with
    | enter _ _ => exact ⟨rfl, rfl⟩
    | link target =>
      rw [entry] at target
      cases target
      cases plain
  | link entry =>
    cases right with
    | enter target plain =>
      rw [entry] at target
      cases target
      cases plain
    | link target =>
      rw [entry] at target
      cases target
      exact ⟨rfl, rfl⟩

namespace Follows

variable {fs : FileSystem} {may other : Location → Step → Prop} {links more : Nat}
variable {place goal : Location} {all before after : List Step}

theorem weaken (further : ∀ place step, may place step → other place step)
    (path : fs.Follows may links place all goal) : fs.Follows other links place all goal := by
  induction path with
  | done => exact .done
  | next allowed taken _ ih => exact .next (further _ _ allowed) taken ih

theorem mono (path : fs.Follows may links place all goal) (enough : links ≤ more) :
    fs.Follows may more place all goal := by
  induction path generalizing more with
  | done => exact .done
  | next allowed taken _ ih =>
    obtain ⟨spare, rfl⟩ := Nat.exists_eq_add_of_le enough
    rw [Nat.add_right_comm]
    exact .next allowed taken (ih (Nat.le_add_right _ _))

/-- The same steps from the same place lead to one goal only. -/
theorem agree {end_ : Location} (left : fs.Follows may links place all goal)
    (right : fs.Follows other more place all end_) : goal = end_ := by
  induction left generalizing more with
  | done => cases right; rfl
  | next _ taken _ ih =>
    cases right with
    | next _ same further =>
      obtain ⟨rfl, rfl⟩ := taken.agree same
      exact ih further

/-- A trailing separator leads nowhere else. -/
theorem eq_of_mustBeDirectory (path : fs.Follows may links place [.mustBeDirectory] goal) :
    goal = place := by
  cases path with
  | next _ taken further =>
    cases taken
    cases further
    rfl

theorem append {middle : Location} (first : fs.Follows may links place before middle)
    (second : fs.Follows may more middle after goal) :
    fs.Follows may (links + more) place (before ++ after) goal := by
  induction first with
  | done => exact second.mono (Nat.le_add_left _ _)
  | next allowed taken _ ih =>
    have further := ih second
    rw [List.append_assoc] at further
    rw [Nat.add_right_comm]
    exact .next allowed taken further

/-- What is followed along steps passes through the end of every first part of them. -/
theorem split (path : fs.Follows may links place (before ++ after) goal) :
    ∃ middle, fs.Follows may links place before middle ∧
      fs.Follows may links middle after goal := by
  generalize shape : before ++ after = all at path
  induction path generalizing before with
  | done =>
    obtain ⟨rfl, rfl⟩ := List.append_eq_nil_iff.1 shape
    exact ⟨_, .done, .done⟩
  | next allowed taken further ih =>
    cases before with
    | nil =>
      cases shape
      exact ⟨_, .done, .next allowed taken further⟩
    | cons step rest =>
      cases shape
      obtain ⟨middle, first, second⟩ := ih (List.append_assoc _ _ _)
      exact ⟨middle, .next allowed taken first, second.mono (Nat.le_add_right _ _)⟩

end Follows

section Bounded

variable {fs : FileSystem} {enter : Location → Step → Except IoError Unit} {links : Nat}
variable {place goal : Location} {rest all : List Step}

/-- What a look-up does at a link. -/
def atLink (fs : FileSystem) (enter : Location → Step → Except IoError Unit) :
    Nat → Location → List Step → Lookup
  | 0 => fun _ _ => .error .tooManyLinks
  | fewer + 1 => fs.within enter fewer

/-- What a look-up does with a step that it may take. -/
def atStep (fs : FileSystem) (enter : Location → Step → Except IoError Unit) (links : Nat)
    (place : Location) (rest : List Step) : Step → Lookup
  | .here => fs.within enter links place rest
  | .up => fs.within enter links place.tail rest
  | .mustBeDirectory =>
    if fs.isDirectoryAt place then fs.within enter links place rest else .error .notADirectory
  | .name text =>
    if maxNameBytes < text.utf8ByteSize then .error .nameTooLong
    else
      match fs.node? (text :: place) with
      | none => .error .notFound
      | some (.link target) =>
        fs.atLink enter links (if target.isAbsolute then [] else place) (steps target ++ rest)
      | some _ => fs.within enter links (text :: place) rest

theorem within_nil : fs.within enter links place [] = .ok place := by
  cases links <;> rfl

theorem within_cons (step : Step) :
    fs.within enter links place (step :: rest) =
      (enter place step).bind fun _ => fs.atStep enter links place rest step := by
  cases links <;> cases step <;> rfl

/-- A step that a look-up gets past: it may leave the place, and a name is not too long. -/
def CanTake (enter : Location → Step → Except IoError Unit) (place : Location) (step : Step) :
    Prop :=
  enter place step = .ok () ∧ ∀ text, step = .name text → text.utf8ByteSize ≤ maxNameBytes

theorem atStep_of_next {middle : Location} {step : Step} {extra : List Step} {cost : Nat}
    (taken : fs.Next place step middle extra cost)
    (short : ∀ text, step = .name text → text.utf8ByteSize ≤ maxNameBytes) :
    fs.atStep enter (links + cost) place rest step =
      fs.within enter links middle (extra ++ rest) := by
  cases taken with
  | here => rfl
  | up => rfl
  | mustBeDirectory directory => simp only [atStep, if_pos directory]; rfl
  | @enter _ node entry plain =>
    simp only [atStep, if_neg (Nat.not_lt.2 (short _ rfl)), entry]
    cases node with
    | link target => cases plain
    | file content mode => rfl
    | directory mode => rfl
  | link entry =>
    simp only [atStep, if_neg (Nat.not_lt.2 (short _ rfl)), entry]
    rfl

theorem within_of_follows (path : fs.Follows (CanTake enter) links place all goal) :
    fs.within enter links place all = .ok goal := by
  induction path with
  | done => exact within_nil
  | next allowed taken _ ih =>
    rw [within_cons, allowed.1]
    exact (atStep_of_next taken allowed.2).trans ih

theorem follows_of_within (found : fs.within enter links place all = .ok goal) :
    fs.Follows (CanTake enter) links place all goal := by
  induction links using Nat.strongRecOn generalizing place all with
  | _ links fewer =>
  induction all generalizing place with
  | nil =>
    rw [within_nil] at found
    cases found
    exact .done
  | cons step rest ih =>
    rw [within_cons] at found
    cases entered : enter place step with
    | error reason =>
      rw [entered] at found
      cases found
    | ok _ =>
      rw [entered] at found
      cases step with
      | here => exact .next ⟨entered, nofun⟩ .here (ih found)
      | up => exact .next ⟨entered, nofun⟩ .up (ih found)
      | mustBeDirectory =>
        simp only [Except.bind, atStep] at found
        split at found
        · next directory => exact .next ⟨entered, nofun⟩ (.mustBeDirectory directory) (ih found)
        · cases found
      | name text =>
        simp only [Except.bind, atStep] at found
        split at found
        · cases found
        · next short =>
          have allowed : CanTake enter place (.name text) :=
            ⟨entered, fun other same => by cases same; exact Nat.not_lt.1 short⟩
          cases entry : fs.node? (text :: place) with
          | none =>
            rw [entry] at found
            cases found
          | some node =>
            rw [entry] at found
            cases node with
            | file content mode => exact .next allowed (.enter entry rfl) (ih found)
            | directory mode => exact .next allowed (.enter entry rfl) (ih found)
            | link target =>
              cases links with
              | zero => cases found
              | succ links =>
                exact .next allowed (.link entry) (fewer links (Nat.lt_succ_self _) found)

theorem within_eq_ok_iff :
    fs.within enter links place all = .ok goal ↔
      fs.Follows (CanTake enter) links place all goal :=
  ⟨follows_of_within, within_of_follows⟩

theorem lookup_eq_ok_iff {path : Path} :
    fs.lookup enter path = .ok goal ↔
      '\x00' ∉ path.text.toList ∧ path.text.toList ≠ [] ∧
        path.text.utf8ByteSize ≤ maxPathBytes ∧
        fs.Follows (CanTake enter) maxLinks (fs.start path) (steps path) goal := by
  unfold lookup
  rw [← within_eq_ok_iff]
  by_cases null : '\x00' ∈ path.text.toList
  · simp [null]
  · by_cases empty : path.text = ""
    · simp [empty]
    · by_cases long : maxPathBytes < path.text.utf8ByteSize
      · simp [null, String.isEmpty_iff, empty, long, Nat.not_le.2 long]
      · simp [null, String.isEmpty_iff, empty, long, Nat.not_lt.1 long]

end Bounded

/-- The target of a link. -/
def target? : Node → Option Path
  | .link target => some target
  | _ => none

/-- What a look-up tells apart is the same in both file systems. Only where failing for that is
excused, there may be something in the second where nothing is in the first. -/
structure LooksAlike (left right : FileSystem) (excused : IoError → Prop) : Prop where
  workingDirectory : left.workingDirectory = right.workingDirectory
  directory : ∀ location, right.isDirectoryAt location = left.isDirectoryAt location
  node : ∀ location, left.node? location = none ∧ excused .notFound ∨
    (right.node? location).map target? = (left.node? location).map target?

section Alike

variable {left right : FileSystem} {excused : IoError → Prop}
variable {enter other : Location → Step → Except IoError Unit}

theorem LooksAlike.node_cases (alike : left.LooksAlike right excused) {location : Location}
    {node : Node} (entry : left.node? location = some node) :
    ∃ twin, right.node? location = some twin ∧ target? twin = target? node := by
  rcases alike.node location with ⟨missing, _⟩ | same
  · cases entry.symm.trans missing
  · rw [entry] at same
    exact Option.map_eq_some_iff.1 same

/-- A look-up that does not fail for an excused reason goes the same way in both file systems. More
links to follow are the same where it is excused to have too few. -/
theorem LooksAlike.within_eq (alike : left.LooksAlike right excused)
    (entered : ∀ place step, (∀ error, enter place step = .error error → ¬ excused error) →
      other place step = enter place step)
    {links more : Nat} (enough : links ≤ more) (spare : links = more ∨ excused .tooManyLinks)
    {place : Location} {all : List Step}
    (ends : ∀ error, left.within enter links place all = .error error → ¬ excused error) :
    right.within other more place all = left.within enter links place all := by
  -- A link leads to a look-up with fewer links to follow, every other step to one of fewer steps.
  induction links using Nat.strongRecOn generalizing more place all with
  | _ links fewer =>
  induction all generalizing place with
  | nil => rw [within_nil, within_nil]
  | cons step rest ih =>
    rw [within_cons] at ends
    rw [within_cons, within_cons]
    cases began : enter place step with
    | error error =>
      rw [began] at ends
      rw [entered place step fun reason same => ends reason (by rw [← began, same]; rfl), began]
      rfl
    | ok _ =>
      rw [began] at ends
      rw [entered place step (by simp [began]), began]
      simp only [Except.bind] at ends ⊢
      cases step with
      | here => exact ih ends
      | up => exact ih ends
      | mustBeDirectory =>
        simp only [atStep, alike.directory] at ends ⊢
        split
        · next inside =>
          rw [if_pos inside] at ends
          exact ih ends
        · rfl
      | name text =>
        simp only [atStep] at ends ⊢
        split
        · rfl
        · next short =>
          rw [if_neg short] at ends
          cases entry : left.node? (text :: place) with
          | none =>
            rw [entry] at ends
            rcases alike.node (text :: place) with ⟨_, missing⟩ | same
            · exact absurd missing (ends _ rfl)
            · rw [entry] at same
              rw [Option.map_eq_none_iff.1 same]
          | some node =>
            obtain ⟨twin, also, target⟩ := alike.node_cases entry
            rw [entry] at ends
            rw [also]
            cases node with
            | file content mode =>
              cases twin with
              | file others bits => exact ih ends
              | directory bits => exact ih ends
              | link other => cases target
            | directory mode =>
              cases twin with
              | file others bits => exact ih ends
              | directory bits => exact ih ends
              | link other => cases target
            | link goal =>
              cases twin with
              | file others bits => cases target
              | directory bits => cases target
              | link other =>
                cases target
                cases links with
                | zero =>
                  rcases spare with rfl | few
                  · rfl
                  · exact absurd few (ends _ rfl)
                | succ links =>
                  obtain ⟨further, rfl⟩ := Nat.exists_eq_add_of_le' enough
                  refine fewer links (Nat.lt_succ_self links) (Nat.le_add_left _ _) ?_ ends
                  exact spare.imp_left fun same => by omega

theorem LooksAlike.lookup_eq (alike : left.LooksAlike right excused)
    (entered : ∀ place step, (∀ error, enter place step = .error error → ¬ excused error) →
      other place step = enter place step) {path : Path}
    (ends : ∀ error, left.lookup enter path = .error error → ¬ excused error) :
    right.lookup other path = left.lookup enter path := by
  unfold lookup start at ends ⊢
  rw [← alike.workingDirectory]
  split
  · rfl
  · split
    · rfl
    · split
      · rfl
      · next clean filled short =>
        rw [if_neg clean, if_neg filled, if_neg short] at ends
        exact alike.within_eq entered (Nat.le_refl _) (.inl rfl) ends

end Alike

/-- More links to follow change nothing unless there were too few. -/
theorem within_mono {fs : FileSystem} {enter : Location → Step → Except IoError Unit}
    {links more : Nat} {place : Location} {all : List Step} (enough : links ≤ more)
    (ends : fs.within enter links place all ≠ .error .tooManyLinks) :
    fs.within enter more place all = fs.within enter links place all := by
  have alike : fs.LooksAlike fs (· = .tooManyLinks) := ⟨rfl, fun _ => rfl, fun _ => .inr rfl⟩
  refine alike.within_eq (fun _ _ _ => rfl) enough (.inr rfl) fun error failed same => ends ?_
  rw [failed, same]

/-- Two look-ups of a path that both find something find the same. -/
theorem canonical_agree {fs : FileSystem} {path : Path} {located found : Location}
    (location : fs.locate path = .ok located) (canonical : fs.canonical path = .ok found) :
    found = located :=
  (lookup_eq_ok_iff.1 canonical).2.2.2.agree (lookup_eq_ok_iff.1 location).2.2.2

end AssetLint.FileSystem