import AssetLint.Proofs.Path.Order
import AssetLint.Proofs.Summary.Accounting

/-!
Issues in the order of their files, those of one file in the order of the checks. A list in that
order is what a stable sort by file makes of the same issues (`mergeSort_eq_of_issuesOf_eq`),
however the files were taken, as long as each file keeps the order of its own issues.
-/
namespace AssetLint

/-- Where a check comes among those of a file. A file that could not be read and a directory are
not checked any further. -/
def IssueKind.place : IssueKind → Nat
  | naming => 0
  | missingFrontMatter => 1
  | requiredField => 2
  | fieldType => 3
  | unknownField => 4
  | contentStructure => 5
  | fileError | directory => 6

namespace Issue

/-- The issue is about a later file, or about the same file and found by no earlier check. -/
def Precedes (left right : Issue) : Prop :=
  left.file.key < right.file.key ∨
    left.file = right.file ∧ left.kind.place ≤ right.kind.place

theorem Precedes.key_le {left right : Issue} (precedes : left.Precedes right) :
    left.file.key ≤ right.file.key := by
  rcases precedes with less | ⟨same, _⟩
  · exact less.le
  · exact same ▸ le_rfl

/-- The order by file alone. -/
def fileLe (left right : Issue) : Bool :=
  left.file.le right.file

theorem fileLe_iff_key {left right : Issue} :
    left.fileLe right = true ↔ left.file.key ≤ right.file.key :=
  Path.le_iff_key _ _

theorem fileLe_trans (first second third : Issue) :
    first.fileLe second = true → second.fileLe third = true → first.fileLe third = true :=
  Path.le_trans _ _ _

theorem fileLe_total (left right : Issue) : (left.fileLe right || right.fileLe left) = true :=
  Path.le_total _ _

end Issue

/-- The issues are sorted by file, those of one file stand together, and they are in the order of
the checks. -/
structure InPathOrder (issues : List Issue) : Prop where
  sorted : issues.Pairwise fun left right => left.file.key ≤ right.file.key
  contiguous : ∀ before between after left right,
    issues = before ++ left :: (between ++ right :: after) → left.file = right.file →
      ∀ issue ∈ between, issue.file = left.file
  checked : issues.Pairwise fun left right =>
    left.file = right.file → left.kind.place ≤ right.kind.place

variable {issues others : List Issue}

theorem inPathOrder_of_precedes (ordered : issues.Pairwise Issue.Precedes) :
    InPathOrder issues where
  sorted := ordered.imp Issue.Precedes.key_le
  contiguous := by
    intro before between after left right shape same issue member
    rw [shape] at ordered
    obtain ⟨from_, later⟩ := List.pairwise_cons.1 (List.pairwise_append.1 ordered).2.1
    have onward := (List.pairwise_append.1 later).2.2 issue member right List.mem_cons_self
    rcases from_ issue (List.mem_append_left _ member) with less | ⟨equal, _⟩
    · exact absurd (less.trans_le onward.key_le) (by rw [same]; exact lt_irrefl _)
    · exact equal.symm
  checked := by
    refine ordered.imp fun {left right} precedes same => ?_
    rcases precedes with less | ⟨_, place⟩
    · exact absurd less (by rw [same]; exact lt_irrefl _)
    · exact place

/-- The issues of a file, in order. -/
def issuesOf (issues : List Issue) (file : Path) : List Issue :=
  issues.filter fun issue => issue.file = file

theorem mem_issuesOf {file : Path} {issue : Issue} :
    issue ∈ issuesOf issues file ↔ issue ∈ issues ∧ issue.file = file := by
  simp [issuesOf]

theorem mem_iff_of_issuesOf_eq (same : issuesOf issues = issuesOf others) (issue : Issue) :
    issue ∈ issues ↔ issue ∈ others := by
  have here : issue ∈ issuesOf issues issue.file ↔ issue ∈ issuesOf others issue.file := by
    rw [same]
  simpa [mem_issuesOf] using here

/-- Sorting by file keeps the order of the issues of every file. -/
theorem issuesOf_mergeSort (issues : List Issue) :
    issuesOf (issues.mergeSort Issue.fileLe) = issuesOf issues := by
  funext file
  have level : (issuesOf issues file).Pairwise fun left right => left.fileLe right = true := by
    refine List.pairwise_of_forall_mem_list fun left here right there => ?_
    rw [Issue.fileLe_iff_key, (mem_issuesOf.1 here).2, (mem_issuesOf.1 there).2]
  have kept := (List.sublist_mergeSort Issue.fileLe_trans Issue.fileLe_total level
    List.filter_sublist).filter fun issue => decide (issue.file = file)
  rw [issuesOf, List.filter_filter] at kept
  simp only [Bool.and_self] at kept
  have count := ((List.mergeSort_perm issues Issue.fileLe).filter
    fun issue => decide (issue.file = file)).length_eq
  exact (kept.eq_of_length count.symm).symm

/-- Two sorted lists with the same issues of every file are equal if different files of one have
different keys. -/
theorem eq_of_issuesOf_eq
    (sorted : issues.Pairwise fun left right => left.file.key ≤ right.file.key)
    (ordered : others.Pairwise Issue.Precedes) (same : issuesOf issues = issuesOf others) :
    issues = others := by
  induction others generalizing issues with
  | nil =>
    refine List.eq_nil_iff_forall_not_mem.2 fun issue member => ?_
    exact List.not_mem_nil ((mem_iff_of_issuesOf_eq same issue).1 member)
  | cons first rest ih =>
    obtain ⟨onward, later⟩ := List.pairwise_cons.1 ordered
    have present := (mem_iff_of_issuesOf_eq same first).2 List.mem_cons_self
    cases issues with
    | nil => cases present
    | cons head tail =>
      obtain ⟨least, rising⟩ := List.pairwise_cons.1 sorted
      -- Each head is in the other list, so neither file comes before the other.
      have level : head.file = first.file := by
        rcases List.mem_cons.1 ((mem_iff_of_issuesOf_eq same head).1 List.mem_cons_self) with
          equal | among
        · rw [equal]
        · rcases List.mem_cons.1 present with equal | inside
          · rw [equal]
          · rcases onward head among with less | ⟨equal, _⟩
            · exact absurd (least first inside) (not_le.2 less)
            · exact equal.symm
      have heads := congrFun same head.file
      rw [issuesOf, issuesOf, List.filter_cons_of_pos (by simp),
        List.filter_cons_of_pos (by simp [level])] at heads
      obtain ⟨equal, _⟩ := List.cons.inj heads
      subst equal
      have tails : issuesOf tail = issuesOf rest := by
        funext file
        have whole := congrFun same file
        rw [issuesOf, issuesOf, List.filter_cons, List.filter_cons] at whole
        split at whole
        · exact (List.cons.inj whole).2
        · exact whole
      rw [ih rising later tails]

/-- Sorting by file restores the order from any that keeps the issues of every file in theirs. -/
theorem mergeSort_eq_of_issuesOf_eq (ordered : others.Pairwise Issue.Precedes)
    (same : issuesOf issues = issuesOf others) : issues.mergeSort Issue.fileLe = others := by
  have sorted := List.pairwise_mergeSort Issue.fileLe_trans Issue.fileLe_total issues
  refine eq_of_issuesOf_eq (sorted.imp Issue.fileLe_iff_key.1) ordered ?_
  rw [issuesOf_mergeSort, same]

end AssetLint
