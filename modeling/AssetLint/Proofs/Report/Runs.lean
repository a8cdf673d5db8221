import AssetLint.Proofs.Report.Lines

/-!
Reports of runs. A line of a report that begins with a mark without being that of an issue or a
count stands in the text of an issue after a line feed, and so does a line that says that all files
passed where the exit code is not 0 (`report_accounted`). In a run such a line feed is in the name
of a file, in a text of the registry, in a key of a mapping, or in what the decoder says of a
header; no other message has one.
-/
namespace AssetLint

/-- The texts of a type that messages quote. -/
def AssetType.quotedTexts (assetType : AssetType) : List String :=
  assetType.pattern.source :: (assetType.required ++ assetType.probes.map Probe.message)

/-- Where no issue has more than its own line, these lines are all. -/
theorem Report.flatMap_headed {issues : List Issue} {first : Issue → List Char}
    {rest : Issue → List (List Char)} (plain : ∀ issue ∈ issues, rest issue = []) :
    (issues.flatMap fun issue => first issue :: rest issue) = issues.map first := by
  rw [List.map_eq_flatMap]
  exact List.flatMap_congr fun issue member => by rw [plain issue member]

namespace Issue

/-- After a line feed in its text there is a line that begins with a mark, or says that all files
passed. -/
def Forges (issue : Issue) : Prop :=
  ∃ line ∈ issue.furtherLines, Report.opensWith "❌" line = true ∨
    Report.opensWith "⚠️" line = true ∨ line = Report.passed.toList

theorem forged_eq_nil {issue : Issue} (honest : ¬issue.Forges) :
    issue.forged "❌" = [] ∧ issue.forged "⚠️" = [] ∧
      Report.passed.toList ∉ issue.furtherLines := by
  refine ⟨?_, ?_, fun member => honest ⟨_, member, .inr (.inr rfl)⟩⟩
  · exact List.filter_eq_nil_iff.2 fun line member opens => honest ⟨line, member, .inl opens⟩
  · exact List.filter_eq_nil_iff.2 fun line member opens =>
      honest ⟨line, member, .inr (.inl opens)⟩

/-- A line feed in the message has come from the name of the file, from a text of one of the types,
from a key of the mapping, or from what was found wrong with the header. -/
def Explained (types : List AssetType) (issue : Issue) : Prop :=
  '\n' ∈ issue.message.toList →
    '\n' ∈ issue.file.text.toList ∨ issue.kind = .unknownField ∨ issue.kind = .missingFrontMatter ∨
      ∃ assetType ∈ types, ∃ text ∈ assetType.quotedTexts, '\n' ∈ text.toList

variable {types : List AssetType} {assetType : AssetType} {issue : Issue}

theorem explained_of_plain (plain : '\n' ∉ issue.message.toList) : issue.Explained types :=
  fun member => absurd member plain

theorem explained_of_quotes (declared : assetType ∈ types) {text : String}
    (quoted : text ∈ assetType.quotedTexts)
    (shape : '\n' ∈ issue.message.toList → '\n' ∈ text.toList) : issue.Explained types :=
  fun member => .inr (.inr (.inr ⟨assetType, declared, text, quoted, shape member⟩))

end Issue

theorem IoError.newline_not_mem_message (error : IoError) : '\n' ∉ error.message.toList := by
  cases error <;> decide

namespace AssetType

variable {types : List AssetType} {assetType : AssetType} {issue : Issue}

theorem explained_validateFile (declared : assetType ∈ types) (fs : FileSystem) (path : Path) :
    ∀ issue ∈ (assetType.validateFile fs path).issues, issue.Explained types := by
  intro issue member
  unfold validateFile at member
  split at member
  · next text _ =>
    simp only [validateText, List.mem_append] at member
    -- Only what the header is blamed for, and the name of an unknown key, is not known beforehand.
    rcases member with (named | headed) | probed
    · refine Issue.explained_of_quotes declared (List.mem_cons_self ..) fun broken => ?_
      rw [(mem_nameIssues.1 named).2] at broken
      simpa using broken
    · rcases assetType.headerIssues_cases path text with ⟨metadata, _, shape⟩ | ⟨_, message, shape⟩
      · rw [shape] at headed
        simp only [fieldIssues, List.mem_append] at headed
        rcases headed with (required | mistyped) | unknown
        · obtain ⟨field, inside, _, rfl⟩ := mem_requiredIssues.1 required
          refine Issue.explained_of_quotes declared
            (List.mem_cons_of_mem _ (List.mem_append_left _ inside)) fun broken => ?_
          simpa using broken
        · obtain ⟨field, listed, _, rfl⟩ := mem_typeIssues.1 mistyped
          refine Issue.explained_of_plain ?_
          simp only [listFields, List.mem_cons, List.not_mem_nil, or_false] at listed
          rcases listed with rfl | rfl | rfl <;> simp
        · obtain ⟨_, _, _, rfl⟩ := mem_unknownIssues.1 unknown
          exact fun _ => .inr (.inl rfl)
      · rw [shape] at headed
        rw [List.mem_singleton.1 headed]
        exact fun _ => .inr (.inr (.inl rfl))
    · obtain ⟨probe, inside, _, rfl⟩ := mem_probeIssues.1 probed
      exact Issue.explained_of_quotes declared (List.mem_cons_of_mem _
        (List.mem_append_right _ (List.mem_map_of_mem inside))) id
  · next error _ =>
    rw [List.mem_singleton.1 member]
    refine Issue.explained_of_plain ?_
    simpa using error.newline_not_mem_message

theorem explained_warning {path : Path} {before after : String}
    (start : '\n' ∉ before.toList) (stop : '\n' ∉ after.toList) :
    Issue.Explained types ⟨path, .directory, before ++ path.text ++ after⟩ := by
  intro broken
  simp only [String.toList_append, List.mem_append, start, stop, false_or, or_false] at broken
  exact .inl broken

theorem explained_unreadable (path : Path) (error : IoError) :
    ∀ issue, .warning issue ∈ [unreadable path error] → issue.Explained types := by
  intro issue member
  cases List.mem_singleton.1 member
  rw [String.append_assoc]
  refine explained_warning (by decide) ?_
  simpa using error.newline_not_mem_message

theorem explained_unreadableEntries (path : Path) (entries : List (Except IoError String)) :
    ∀ issue, .warning issue ∈ unreadableEntries path entries → issue.Explained types := by
  intro issue member
  obtain ⟨entry, _, shape⟩ := List.mem_filterMap.1 member
  cases entry with
  | ok name => cases shape
  | error error =>
    cases shape
    rw [String.append_assoc]
    refine explained_warning (by decide) ?_
    simpa using error.newline_not_mem_message

/-- The warnings of a walk name a directory and what the system says of it. -/
theorem explained_walk (fs : FileSystem) (path : Path) (seen : List Location)
    (isDir : fs.isDirectory path = true) :
    ∀ issue, .warning issue ∈ (assetType.walkDirectory fs path seen).visits →
      issue.Explained types := by
  refine (walk_induction assetType fs
    (P := fun _ _ visits _ => ∀ issue, .warning issue ∈ visits → issue.Explained types)
    (Q := fun _ _ _ visits _ => ∀ issue, .warning issue ∈ visits → issue.Explained types)
    ?uncanonical ?known ?unlisted ?listed ?nil ?inner ?file ?skipped).1 path seen isDir
  case uncanonical =>
    intro path _ error _ _
    exact explained_unreadable path error
  case known =>
    intro _ _ _ _ _ issue member
    cases List.mem_singleton.1 member
  case unlisted =>
    intro path _ _ error _ _ _
    exact explained_unreadable path error
  case listed =>
    intro path _ _ entries visits _ _ _ _ inside issue member
    rw [List.mem_cons, List.mem_append] at member
    rcases member with same | failed | member
    · cases same
    · exact explained_unreadableEntries path entries issue failed
    · exact inside issue member
  case nil =>
    intro _ _ issue member
    cases member
  case inner =>
    intro _ _ _ _ _ _ _ _ _ inside after issue member
    rcases List.mem_append.1 member with member | member
    · exact inside issue member
    · exact after issue member
  case file =>
    intro _ _ _ _ _ _ _ _ _ after issue member
    rcases List.mem_cons.1 member with same | member
    · cases same
    · exact after issue member
  case skipped =>
    intro _ _ _ _ _ _ _ _ after
    exact after

theorem explained_issues (declared : assetType ∈ types) (fs : FileSystem) (root : Path) :
    ∀ issue ∈ assetType.issues fs root, issue.Explained types := by
  intro issue member
  obtain ⟨visit, visited, inside⟩ := List.mem_flatMap.1 member
  have reports := reports_visits visit visited
  cases visit with
  | file directory name outcome =>
    obtain ⟨path, rfl⟩ := reports
    exact explained_validateFile declared fs path issue inside
  | warning given =>
    cases List.mem_singleton.1 inside
    unfold visits at visited
    split at visited
    · cases List.mem_singleton.1 visited
      exact fun broken => .inl (by simpa using broken)
    · split at visited
      · cases List.mem_singleton.1 visited
        exact fun broken => .inl (by simpa using broken)
      · next present => exact explained_walk fs root [] (by simpa using present) _ visited
  | listed location path => cases inside
  | known location path => cases inside

end AssetType

namespace Registry

variable {registry : Registry} {fs : FileSystem} {root : Path} {summary : Summary}

/-- The summary is that of a run over the tree or over named files. -/
def Yields (registry : Registry) (fs : FileSystem) (root : Path) (summary : Summary) : Prop :=
  summary = registry.validateTree fs root ∨
    ∃ paths, summary = registry.validatePaths fs root paths

theorem lists_validatePaths (registry : Registry) (fs : FileSystem) (root : Path)
    (paths : List Path) :
    (registry.validatePaths fs root paths).errors =
        (paths.flatMap fun path => (registry.validatePath fs root path).issues).filter
          Issue.isError ∧
      (registry.validatePaths fs root paths).warnings =
        (paths.flatMap fun path => (registry.validatePath fs root path).issues).filter
          fun issue => !issue.isError := by
  have lists := Summary.lists_recordVisits Summary.empty
    (paths.map fun path => .file [] "" (registry.validatePath fs root path))
  rw [List.foldl_map, List.flatMap_map] at lists
  exact lists

theorem mem_of_resolve {path : Path} {assetType : AssetType}
    (resolved : registry.resolve root path = some assetType) :
    assetType ∈ registry.assetTypes := by
  unfold resolve at resolved
  split at resolved
  · next found =>
    cases resolved
    exact List.mem_of_find?_eq_some found
  · split at resolved
    · exact List.mem_of_find?_eq_some resolved
    · cases resolved

theorem explained_validatePath (registry : Registry) (fs : FileSystem) (root path : Path) :
    ∀ issue ∈ (registry.validatePath fs root path).issues,
      issue.Explained registry.assetTypes := by
  unfold validatePath
  split
  · next resolved => exact AssetType.explained_validateFile (mem_of_resolve resolved) fs path
  · intro issue member
    rw [List.mem_singleton.1 member]
    exact Issue.explained_of_plain (by simp)

theorem mem_of_mem_filters {issues : List Issue} {issue : Issue} {kept left : Issue → Bool}
    (member : issue ∈ issues.filter kept ++ issues.filter left) : issue ∈ issues :=
  (List.mem_append.1 member).elim List.mem_of_mem_filter List.mem_of_mem_filter

theorem Yields.explained (run : registry.Yields fs root summary) :
    ∀ issue ∈ summary.errors ++ summary.warnings, issue.Explained registry.assetTypes := by
  intro issue member
  rcases run with rfl | ⟨paths, rfl⟩
  · obtain ⟨errors, warnings⟩ := lists_validateTree registry fs root
    rw [errors, warnings] at member
    obtain ⟨assetType, declared, inside⟩ := List.mem_flatMap.1 (mem_of_mem_filters member)
    exact AssetType.explained_issues declared fs _ issue inside
  · obtain ⟨errors, warnings⟩ := lists_validatePaths registry fs root paths
    rw [errors, warnings] at member
    obtain ⟨path, _, inside⟩ := List.mem_flatMap.1 (mem_of_mem_filters member)
    exact explained_validatePath registry fs root path issue inside

open Report in
/-- Each error heads one line of the report that begins with the mark of errors, in their order, and
each warning one that begins with the mark of warnings. The other lines that begin with a mark
count the errors or the warnings, or stand in the text of an issue after a line feed. Without such a
line there is none but these, and the report says that all files passed just when the exit code
is 0. An issue with such a line has a line feed in the name of its file, in a text of the registry,
in a key of the mapping, or in what was found wrong with the header. -/
theorem report_accounted (run : registry.Yields fs root summary) :
    marked "❌" (render summary) =
        (summary.errors.flatMap fun issue =>
          ("❌ ".toList ++ issue.firstLine) :: issue.forged "❌") ++
          summary.warnings.flatMap (Issue.forged "❌") ++ errorCount summary ∧
      marked "⚠️" (render summary) =
        summary.errors.flatMap (Issue.forged "⚠️") ++
          (summary.warnings.flatMap fun issue =>
            ("⚠️  ".toList ++ issue.firstLine) :: issue.forged "⚠️") ++ warningCount summary ∧
      (passed.toList ∈ lines (render summary) ↔
        summary.exitCode = 0 ∨
          ∃ issue ∈ summary.errors ++ summary.warnings, passed.toList ∈ issue.furtherLines) ∧
      ((∀ issue ∈ summary.errors ++ summary.warnings, ¬issue.Forges) →
        marked "❌" (render summary) =
            summary.errors.map (fun issue => "❌ ".toList ++ issue.firstLine) ++
              errorCount summary ∧
          marked "⚠️" (render summary) =
            summary.warnings.map (fun issue => "⚠️  ".toList ++ issue.firstLine) ++
              warningCount summary ∧
          (passed.toList ∈ lines (render summary) ↔ summary.exitCode = 0)) ∧
      ∀ issue ∈ summary.errors ++ summary.warnings, issue.Forges →
        '\n' ∈ issue.file.text.toList ∨ issue.kind = .unknownField ∨
          issue.kind = .missingFrontMatter ∨ ∃ assetType ∈ registry.assetTypes,
            ∃ text ∈ assetType.quotedTexts, '\n' ∈ text.toList := by
  have failed := marked_error summary
  have warned := marked_warning summary
  have clean := passed_mem_lines_iff summary
  refine ⟨failed, warned, clean, fun honest => ?_, fun issue member forges => ?_⟩
  · have plain : ∀ issue ∈ summary.errors ++ summary.warnings,
        issue.forged "❌" = [] ∧ issue.forged "⚠️" = [] ∧ passed.toList ∉ issue.furtherLines :=
      fun issue member => Issue.forged_eq_nil (honest issue member)
    have errors := fun issue member => plain issue (List.mem_append_left _ member)
    have warnings := fun issue member => plain issue (List.mem_append_right _ member)
    refine ⟨?_, ?_, ?_⟩
    · rw [failed, flatMap_headed fun issue member => (errors issue member).1,
        List.flatMap_eq_nil_iff.2 fun issue member => (warnings issue member).1, List.append_nil]
    · rw [warned, flatMap_headed fun issue member => (warnings issue member).2.1,
        List.flatMap_eq_nil_iff.2 fun issue member => (errors issue member).2.1, List.nil_append]
    · rw [clean, or_iff_left]
      rintro ⟨issue, member, inside⟩
      exact (plain issue member).2.2 inside
  · have broken : '\n' ∈ issue.text.toList := Classical.not_not.1 fun plain => by
      obtain ⟨line, inside, _⟩ := forges
      rw [Issue.furtherLines_eq_nil_of_plain plain] at inside
      cases inside
    simp only [Issue.text, String.toList_append, List.mem_append] at broken
    rcases broken with (named | colon) | said
    · exact .inl named
    · exact absurd colon (by decide)
    · exact run.explained issue member said

end Registry

/-- A key of a header that says, after a line feed, that all files passed. -/
def FileSystem.misleading : FileSystem where
  nodes := [(["d"], .directory 0o755),
    (["n", "d"],
      .file "---\n\"x\\n✅ All files passed validation!\": 1\n---\n".toUTF8 0o644)]

namespace Registry

open FileSystem Report

def keyed : Registry := ⟨[⟨"notes", ⟨"d"⟩, ⟨"n", .literal ['n']⟩, ["k"], [], []⟩]⟩

theorem validateTree_misleading :
    keyed.validateTree misleading ⟨"."⟩ =
      { totalFiles := 1, validFiles := 0, errorFiles := 1, warningFiles := 1
        errors := [⟨⟨"./d/n"⟩, .requiredField, "Missing required field: k"⟩]
        warnings := [⟨⟨"./d/n"⟩, .unknownField,
          "Unknown field: x\n✅ All files passed validation!"⟩] } := by
  have joined : Path.join ⟨"."⟩ ⟨"d"⟩ = ⟨"./d"⟩ := rfl
  simp only [validateTree, keyed, List.foldl_cons, List.foldl_nil, Summary.recordWalk, joined]
  rw [AssetType.visits_of_single ⟨rfl, rfl, rfl⟩ rfl rfl rfl]
  decide +kernel

/-- The key has its own line among those marked as warnings. The other part of its text stands
there like a verdict, and the error is still listed and counted. -/
theorem report_accounted_misleading :
    marked "❌" (render (keyed.validateTree misleading ⟨"."⟩)) =
        ["❌ ./d/n: Missing required field: k".toList, "❌ 1 error(s) need to be fixed.".toList] ∧
      marked "⚠️" (render (keyed.validateTree misleading ⟨"."⟩)) =
        ["⚠️  ./d/n: Unknown field: x".toList, "⚠️  1 warning(s).".toList] := by
  obtain ⟨failed, warned, _⟩ := report_accounted (.inl rfl : keyed.Yields misleading ⟨"."⟩ _)
  rw [failed, warned, validateTree_misleading]
  decide +kernel

/-- The report says that all files passed, and the exit code is 1. -/
theorem passed_mem_lines_misleading :
    passed.toList ∈ lines (render (keyed.validateTree misleading ⟨"."⟩)) ∧
      (keyed.validateTree misleading ⟨"."⟩).exitCode = 1 := by
  rw [validateTree_misleading]
  refine ⟨(passed_mem_lines_iff _).2 (.inr ⟨_, List.mem_cons_of_mem _ (List.mem_cons_self ..), ?_⟩),
    rfl⟩
  decide +kernel

end Registry
end AssetLint
