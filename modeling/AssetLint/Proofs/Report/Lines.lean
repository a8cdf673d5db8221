import AssetLint.Proofs.Registry.Locality
import AssetLint.Report

/-!
The lines of a report. Names of files and messages are written as they are, so that an issue whose
text has line feeds takes several lines, of which only the first is headed by a mark of the report
itself. All lines that begin with a mark, and those that say that all files passed, are accounted
for.
-/
namespace AssetLint

namespace Text

/-- What comes before the first line feed of a text lengthens its first line. -/
theorem splitOn_append_of_not_mem {sep : Char} {before : List Char} (absent : sep ∉ before)
    (text : List Char) :
    splitOn sep (before ++ text) =
      (before ++ (splitOn sep text).headD []) :: (splitOn sep text).tail := by
  induction before with
  | nil =>
    cases parts : splitOn sep text with
    | nil => exact absurd parts (splitOn_ne_nil sep text)
    | cons first rest => simp [parts]
  | cons c rest ih =>
    simp only [List.mem_cons, not_or] at absent
    rw [List.cons_append, splitOn, if_neg (Ne.symm absent.1), ih absent.2]
    rfl

end Text

namespace Report

/-- The lines of a text. After a line feed at its end there is one more, which is empty. -/
def lines (text : String) : List (List Char) :=
  Text.splitOn '\n' text.toList

theorem lines_of_plain {text : String} (plain : '\n' ∉ text.toList) : lines text = [text.toList] :=
  Text.splitOn_of_not_mem plain

/-- Entries that end in a line feed each have their own lines. -/
theorem lines_join (entries : List String) :
    lines (String.join (entries.map (· ++ "\n"))) = entries.flatMap lines ++ [[]] := by
  induction entries with
  | nil => rfl
  | cons entry rest ih =>
    unfold lines at ih ⊢
    rw [List.map_cons, String.join_cons, String.toList_append, String.toList_append,
      List.append_assoc, List.flatMap_cons, List.append_assoc, ← ih]
    exact Text.splitOn_append '\n' _ _

theorem newline_not_mem_toString (n : Nat) : '\n' ∉ (toString n).toList := by
  intro member
  rw [Nat.toString_eq_repr, Nat.repr_eq_ofList_toDigits, String.toList_ofList] at member
  have digit := Nat.isDigit_of_mem_toDigits (by decide) (by decide) member
  simp at digit

end Report

namespace Issue

/-- The first line of the text of an issue. -/
def firstLine (issue : Issue) : List Char :=
  (Report.lines issue.text).headD []

/-- The lines that follow where the name of the file or the message has a line feed. -/
def furtherLines (issue : Issue) : List (List Char) :=
  (Report.lines issue.text).tail

theorem furtherLines_eq_nil_of_plain {issue : Issue} (plain : '\n' ∉ issue.text.toList) :
    issue.furtherLines = [] := by
  rw [furtherLines, Report.lines_of_plain plain, List.tail_cons]

end Issue

namespace Report

/-- The lines of an issue in a report. -/
def shown (mark : String) (issue : Issue) : List (List Char) :=
  (mark.toList ++ ' ' :: issue.firstLine) :: issue.furtherLines

theorem lines_marked {mark : String} (plain : '\n' ∉ mark.toList) (issue : Issue) :
    lines (mark ++ " " ++ issue.text) = shown mark issue := by
  have before : '\n' ∉ mark.toList ++ [' '] := by simpa using plain
  have parted := Text.splitOn_append_of_not_mem before issue.text.toList
  simpa [lines, shown, Issue.firstLine, Issue.furtherLines] using parted

variable {summary : Summary} {letter : Char} {pick : List Char → Bool}

/-- All lines that are picked begin with the letter. -/
def Picks (letter : Char) (pick : List Char → Bool) : Prop :=
  ∀ line, pick line = true → line.head? = some letter

/-- The letters that lines of the report itself begin with, other than those with a mark. -/
def frameLetters : List Char := ['=', 'T', 'V', 'F']

/-- The line is empty or begins with such a letter, and has no line feed. -/
def IsFrame (entry : String) : Prop :=
  '\n' ∉ entry.toList ∧ entry.toList.head?.all (fun letter => letter ∈ frameLetters) = true

instance (entry : String) : Decidable (IsFrame entry) :=
  inferInstanceAs (Decidable (_ ∧ _))

theorem filter_lines_of_isFrame (picks : Picks letter pick) (apart : letter ∉ frameLetters)
    {entry : String} (frame : IsFrame entry) : (lines entry).filter pick = [] := by
  rw [lines_of_plain frame.1]
  refine List.filter_eq_nil_iff.2 fun line member picked => ?_
  rw [List.mem_singleton.1 member] at picked
  have first := frame.2
  rw [picks _ picked, Option.all_some] at first
  exact apart (of_decide_eq_true first)

theorem isFrame_count {label : String} (frame : IsFrame label) (filled : label.toList ≠ [])
    (n : Nat) : IsFrame (label ++ toString n) := by
  constructor
  · rw [String.toList_append, List.mem_append]
    exact not_or.2 ⟨frame.1, newline_not_mem_toString n⟩
  · rw [String.toList_append, List.head?_append_of_ne_nil _ filled]
    exact frame.2

theorem filter_totals (picks : Picks letter pick) (apart : letter ∉ frameLetters) :
    ((totals summary).flatMap lines).filter pick = [] := by
  rw [List.filter_flatMap, List.flatMap_eq_nil_iff]
  intro entry member
  refine filter_lines_of_isFrame picks apart ?_
  simp only [totals, List.mem_cons, List.not_mem_nil, or_false] at member
  rcases member with rfl | rfl | rfl | rfl | rfl | rfl | rfl
  · decide
  · decide
  · decide
  · exact isFrame_count (by decide) (by decide) _
  · exact isFrame_count (by decide) (by decide) _
  · exact isFrame_count (by decide) (by decide) _
  · exact isFrame_count (by decide) (by decide) _

theorem filter_listing (picks : Picks letter pick) (apart : letter ∉ frameLetters)
    {title mark : String} (titled : IsFrame ("=== " ++ title ++ " ==="))
    (plain : '\n' ∉ mark.toList) (issues : List Issue) :
    ((listing title mark issues).flatMap lines).filter pick =
      issues.flatMap fun issue => (shown mark issue).filter pick := by
  unfold listing
  cases issues with
  | nil => rfl
  | cons first rest =>
    have blank := filter_lines_of_isFrame picks apart (by decide : IsFrame "")
    have heading := filter_lines_of_isFrame picks apart titled
    rw [List.isEmpty_cons, if_neg Bool.false_ne_true, List.flatMap_append, List.filter_append,
      List.flatMap_cons, List.flatMap_cons, List.flatMap_nil, List.append_nil, List.filter_append,
      blank, heading, List.nil_append, List.nil_append, List.flatMap_map, List.filter_flatMap]
    simp only [lines_marked plain]

/-- The line that counts the errors, where there are any. -/
def errorCount (summary : Summary) : List (List Char) :=
  if summary.errors = [] then []
  else [("❌ " ++ toString summary.errors.length ++ " error(s) need to be fixed.").toList]

/-- The line that counts the warnings, where there are any. -/
def warningCount (summary : Summary) : List (List Char) :=
  if summary.warnings = [] then []
  else [("⚠️  " ++ toString summary.warnings.length ++ " warning(s).").toList]

theorem newline_not_mem_count {before after : String} (n : Nat) (start : '\n' ∉ before.toList)
    (stop : '\n' ∉ after.toList) : '\n' ∉ (before ++ toString n ++ after).toList := by
  simp only [String.toList_append, List.mem_append, not_or]
  exact ⟨⟨start, newline_not_mem_toString n⟩, stop⟩

theorem lines_verdict (summary : Summary) :
    (verdict summary).flatMap lines =
      [[], "=== Summary ===".toList] ++
        (if summary.errors = [] then [passed.toList] else errorCount summary) ++
        warningCount summary := by
  have faulty : ∀ n : Nat, lines (errorMark ++ " " ++ toString n ++ " error(s) need to be fixed.") =
      [("❌ " ++ toString n ++ " error(s) need to be fixed.").toList] := fun n =>
    lines_of_plain (newline_not_mem_count n (by decide : '\n' ∉ "❌ ".toList) (by decide))
  have warned : ∀ n : Nat, lines (warningMark ++ " " ++ toString n ++ " warning(s).") =
      [("⚠️  " ++ toString n ++ " warning(s).").toList] := fun n =>
    lines_of_plain (newline_not_mem_count n (by decide : '\n' ∉ "⚠️  ".toList) (by decide))
  have blank : lines "" = [[]] := rfl
  have heading : lines "=== Summary ===" = ["=== Summary ===".toList] := rfl
  have clean : lines passed = [passed.toList] := rfl
  unfold verdict Summary.hasErrors errorCount warningCount
  cases summary.errors <;> cases summary.warnings <;>
    simp only [List.isEmpty_nil, List.isEmpty_cons, Bool.not_true, Bool.not_false, reduceCtorEq,
      Bool.false_eq_true, if_true, if_false, List.append_nil, List.cons_append, List.nil_append,
      List.flatMap_cons, List.flatMap_nil, faulty, warned, blank, heading, clean]

theorem lines_render (summary : Summary) :
    lines (render summary) =
      (totals summary).flatMap lines ++ (listing "Errors" errorMark summary.errors).flatMap lines ++
        (listing "Warnings" warningMark summary.warnings).flatMap lines ++
        (verdict summary).flatMap lines ++ [[]] := by
  rw [render, lines_join, entries, List.flatMap_append, List.flatMap_append, List.flatMap_append]

/-- What is picked from a report comes from its issues and its verdict. -/
theorem filter_lines_render (picks : Picks letter pick) (apart : letter ∉ frameLetters)
    (summary : Summary) :
    (lines (render summary)).filter pick =
      (summary.errors.flatMap fun issue => (shown errorMark issue).filter pick) ++
        (summary.warnings.flatMap fun issue => (shown warningMark issue).filter pick) ++
        (if summary.errors = [] then [passed.toList] else errorCount summary).filter pick ++
        (warningCount summary).filter pick := by
  have none : pick [] = false := Bool.eq_false_iff.2 fun picked => by cases picks [] picked
  have titled : pick "=== Summary ===".toList = false := Bool.eq_false_iff.2 fun picked =>
    apart (Option.some.inj (picks _ picked) ▸ by decide)
  have heading : ([[], "=== Summary ===".toList] : List (List Char)).filter pick = [] := by
    rw [List.filter_cons, none, List.filter_cons, titled]
    rfl
  have last : ([[]] : List (List Char)).filter pick = [] := by
    rw [List.filter_cons, none]
    rfl
  have errors := filter_listing picks apart
    (by decide : IsFrame ("=== " ++ "Errors" ++ " ===")) (by decide : '\n' ∉ errorMark.toList)
    summary.errors
  have warnings := filter_listing picks apart
    (by decide : IsFrame ("=== " ++ "Warnings" ++ " ===")) (by decide : '\n' ∉ warningMark.toList)
    summary.warnings
  simp only [lines_render, lines_verdict, List.filter_append, filter_totals picks apart, errors,
    warnings, heading, last, List.nil_append, List.append_nil, List.append_assoc]

/-- The line begins with the sign. -/
def opensWith (sign : String) (line : List Char) : Bool :=
  sign.toList.isPrefixOf line

theorem picks_opensWith {sign : String} (opens : sign.toList.head? = some letter) :
    Picks letter (opensWith sign) := by
  intro line picked
  obtain ⟨rest, rfl⟩ := List.isPrefixOf_iff_prefix.1 picked
  rw [List.head?_append, opens, Option.some_or]

/-- The lines of a text that begin with the sign. -/
def marked (sign : String) (text : String) : List (List Char) :=
  (lines text).filter (opensWith sign)

end Report

/-- Lines of an issue that begin with the sign without being its first. -/
def Issue.forged (sign : String) (issue : Issue) : List (List Char) :=
  issue.furtherLines.filter (Report.opensWith sign)

namespace Report

theorem opensWith_append {sign before : String} (opens : sign.toList <+: before.toList)
    (rest : String) : opensWith sign (before ++ rest).toList = true := by
  rw [String.toList_append]
  exact List.isPrefixOf_iff_prefix.2 (opens.trans (List.prefix_append _ _))

theorem opensWith_of_mem_errorCount :
    ∀ line ∈ errorCount summary, opensWith "❌" line = true := by
  intro line member
  unfold errorCount at member
  split at member
  · cases member
  · rw [List.mem_singleton.1 member, String.append_assoc]
    exact opensWith_append (by decide) _

theorem opensWith_of_mem_warningCount :
    ∀ line ∈ warningCount summary, opensWith "⚠️" line = true := by
  intro line member
  unfold warningCount at member
  split at member
  · cases member
  · rw [List.mem_singleton.1 member, String.append_assoc]
    exact opensWith_append (by decide) _

/-- Nothing is picked from lines that all begin with another letter. -/
theorem Picks.filter_eq_nil {other : Char} {others : List Char → Bool} (picks : Picks letter pick)
    (elsewhere : Picks other others) (apart : other ≠ letter) {found : List (List Char)}
    (all : ∀ line ∈ found, others line = true) : found.filter pick = [] := by
  refine List.filter_eq_nil_iff.2 fun line member picked => apart ?_
  exact Option.some.inj ((elsewhere line (all line member)).symm.trans (picks line picked))

/-- Of the lines of a report those that begin with the mark of errors are headed by an error each,
stand in the text of an issue after a line feed, or count the errors. -/
theorem marked_error (summary : Summary) :
    marked "❌" (render summary) =
      (summary.errors.flatMap fun issue =>
        ("❌ ".toList ++ issue.firstLine) :: issue.forged "❌") ++
        summary.warnings.flatMap (Issue.forged "❌") ++ errorCount summary := by
  have picks : Picks '❌' (opensWith "❌") := picks_opensWith rfl
  have own : ∀ issue, (shown errorMark issue).filter (opensWith "❌") =
      ("❌ ".toList ++ issue.firstLine) :: issue.forged "❌" := fun _ => rfl
  have other : ∀ issue, (shown warningMark issue).filter (opensWith "❌") = issue.forged "❌" :=
    fun _ => rfl
  have verdict : (if summary.errors = [] then [passed.toList] else errorCount summary).filter
      (opensWith "❌") = errorCount summary := by
    split
    · next none => rw [errorCount, if_pos none]; rfl
    · exact List.filter_eq_self.2 opensWith_of_mem_errorCount
  have warned : (warningCount summary).filter (opensWith "❌") = [] :=
    picks.filter_eq_nil (picks_opensWith rfl : Picks '⚠' (opensWith "⚠️")) (by decide)
      opensWith_of_mem_warningCount
  rw [marked, filter_lines_render picks (by decide), verdict, warned, List.append_nil]
  simp only [own, other]

theorem marked_warning (summary : Summary) :
    marked "⚠️" (render summary) =
      summary.errors.flatMap (Issue.forged "⚠️") ++
        (summary.warnings.flatMap fun issue =>
          ("⚠️  ".toList ++ issue.firstLine) :: issue.forged "⚠️") ++ warningCount summary := by
  have picks : Picks '⚠' (opensWith "⚠️") := picks_opensWith rfl
  have own : ∀ issue, (shown warningMark issue).filter (opensWith "⚠️") =
      ("⚠️  ".toList ++ issue.firstLine) :: issue.forged "⚠️" := fun _ => rfl
  have other : ∀ issue, (shown errorMark issue).filter (opensWith "⚠️") = issue.forged "⚠️" :=
    fun _ => rfl
  have verdict : (if summary.errors = [] then [passed.toList] else errorCount summary).filter
      (opensWith "⚠️") = [] := by
    split
    · rfl
    · exact picks.filter_eq_nil (picks_opensWith rfl : Picks '❌' (opensWith "❌")) (by decide)
        opensWith_of_mem_errorCount
  have counted : (warningCount summary).filter (opensWith "⚠️") = warningCount summary :=
    List.filter_eq_self.2 opensWith_of_mem_warningCount
  rw [marked, filter_lines_render picks (by decide), verdict, counted, List.append_nil]
  simp only [own, other]

/-- A report has the line that says that all files passed just when the exit code is 0 or that line
stands in the text of an issue after a line feed. -/
theorem passed_mem_lines_iff (summary : Summary) :
    passed.toList ∈ lines (render summary) ↔
      summary.exitCode = 0 ∨
        ∃ issue ∈ summary.errors ++ summary.warnings, passed.toList ∈ issue.furtherLines := by
  have picks : Picks '✅' fun line => line = passed.toList := by
    intro line picked
    rw [of_decide_eq_true picked]
    rfl
  have further : ∀ (mark : String) {letter : Char}, mark.toList.head? = some letter →
      letter ≠ '✅' → ∀ issue, (shown mark issue).filter (fun line => line = passed.toList) =
        issue.furtherLines.filter fun line => line = passed.toList := by
    intro mark letter opens apart issue
    refine List.filter_cons_of_neg fun picked => apart ?_
    have first := picks _ picked
    rw [List.head?_append, opens, Option.some_or] at first
    exact Option.some.inj first
  have faulty : passed.toList ∉ errorCount summary := fun member =>
    absurd (opensWith_of_mem_errorCount _ member) (by decide)
  have absent : passed.toList ∉ warningCount summary := fun member =>
    absurd (opensWith_of_mem_warningCount _ member) (by decide)
  have verdict : passed.toList ∈
      (if summary.errors = [] then [passed.toList] else errorCount summary) ↔
        summary.exitCode = 0 := by
    unfold Summary.exitCode Summary.hasErrors
    split
    · next none => simp [none]
    · next some_ => simp [some_, faulty]
  have picked : passed.toList ∈ lines (render summary) ↔
      passed.toList ∈ (lines (render summary)).filter fun line => line = passed.toList := by
    simp
  rw [picked, filter_lines_render picks (by decide)]
  simp only [further errorMark rfl (by decide), further warningMark rfl (by decide),
    List.mem_append, List.mem_flatMap, List.mem_filter, decide_true, and_true, verdict, absent,
    or_false, or_and_right, exists_or]
  exact or_comm

end Report
end AssetLint
