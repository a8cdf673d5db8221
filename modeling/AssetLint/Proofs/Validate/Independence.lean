import AssetLint.Proofs.FrontMatter.Lines
import AssetLint.Proofs.Validate.Issues

/-!
What the issues of a document do not depend on. The header of a text ends at the first closing
marker, so whatever follows the marker line is body, be it more markers or further mappings
(`IsPreamble.split?_append`). The checks of the header see nothing else of the text, and only the
probes look at the body; the path is seen by the check of the name alone, and all other issues
just carry it (`validateText_independent`).
-/
namespace AssetLint

namespace FrontMatter

/-- The text has a header, and ends with the newline of its closing marker line: nothing comes
after that line, and a newline is the last character. -/
structure IsPreamble (text header : List Char) : Prop where
  splits : split? text = some ⟨header, []⟩
  ended : text.getLast? = some '\n'

theorem withoutByteOrderMark_append {text : List Char} (filled : text ≠ []) (more : List Char) :
    withoutByteOrderMark (text ++ more) = withoutByteOrderMark text ++ more := by
  obtain ⟨c, rest, rfl⟩ := List.exists_cons_of_ne_nil filled
  by_cases mark : c = '\ufeff'
  · simp [mark, withoutByteOrderMark]
  · simp [withoutByteOrderMark, mark]

theorem IsPreamble.exists_lines {text header : List Char} (preamble : IsPreamble text header) :
    ∃ ended : List (List Char), ∀ body,
      lines (text ++ body) = ended ++ Text.splitOn '\n' body := by
  obtain ⟨front, shape⟩ := List.getLast?_eq_some_iff.1 preamble.ended
  have filled : text ≠ [] := by simp [shape]
  -- The newline at the end is no byte order mark.
  have kept : ∃ front, withoutByteOrderMark text = front ++ ['\n'] := by
    cases front with
    | nil => exact ⟨[], by simp [shape, withoutByteOrderMark]⟩
    | cons c rest =>
      have inner := withoutByteOrderMark_append (List.cons_ne_nil c rest) ['\n']
      rw [← shape] at inner
      exact ⟨_, inner⟩
  obtain ⟨kept, whole⟩ := kept
  refine ⟨Text.splitOn '\n' kept, fun body => ?_⟩
  unfold lines
  rw [withoutByteOrderMark_append filled, whole, List.append_assoc, List.singleton_append]
  exact Text.splitOn_append '\n' kept body

/-- Where the body is empty and the text ends in a newline, the closing marker line is the last
one that the newline ends. -/
theorem Framed.ended_eq {ended header body : List (List Char)} {opening closing : List Char}
    (framed : Framed (ended ++ [[]]) opening header closing body)
    (empty : Text.joinWith '\n' body = []) : ended = opening :: (header ++ [closing]) := by
  have shape := framed.shape
  rcases List.eq_nil_or_concat body with rfl | ⟨others, last, rfl⟩
  · -- The closing marker would be the empty line at the end.
    have ends := congrArg List.getLast? shape
    rw [← List.cons_append, List.getLast?_concat, List.getLast?_concat] at ends
    have closed := framed.closed
    rw [← Option.some.inj ends] at closed
    cases closed
  · rw [List.concat_eq_append] at empty shape
    have single : others = [] := by
      by_contra more
      rw [Text.joinWith_append '\n' more (List.cons_ne_nil _ _)] at empty
      simp at empty
    rw [single] at shape
    have cut : ended ++ [[]] = opening :: (header ++ [closing]) ++ [last] := by
      simpa using shape
    exact List.append_inj_left' cut rfl

/-- The closing marker of a preamble closes the header whatever comes after it. -/
theorem IsPreamble.split?_append {text header : List Char} (preamble : IsPreamble text header)
    (body : List Char) : split? (text ++ body) = some ⟨header, body⟩ := by
  obtain ⟨ended, lines_append⟩ := preamble.exists_lines
  obtain ⟨opening, between, closing, after, framed, parts⟩ :=
    exists_framed_of_split? preamble.splits
  have alone : lines text = ended ++ [[]] := by
    have whole := lines_append []
    rwa [List.append_nil] at whole
  rw [alone] at framed
  have empty : Text.joinWith '\n' after = [] := (congrArg Split.body parts).symm
  have shape : lines (text ++ body) =
      opening :: (between ++ closing :: Text.splitOn '\n' body) := by
    rw [lines_append, framed.ended_eq empty]
    simp
  have header_eq : Text.joinWith '\n' between = header := (congrArg Split.header parts).symm
  rw [split?_eq_of_lines shape framed.opened framed.plain framed.closed, header_eq,
    Text.joinWith_splitOn]

end FrontMatter

/-- The same finding about another file. -/
def Issue.movedTo (path : Path) (issue : Issue) : Issue :=
  { issue with file := path }

namespace Outcome

/-- The outcome without the issues of one kind. -/
def apartFrom (kind : IssueKind) (outcome : Outcome) : Outcome :=
  { outcome with issues := outcome.issues.filter fun issue => issue.kind ≠ kind }

def movedTo (path : Path) (outcome : Outcome) : Outcome :=
  ⟨path, outcome.issues.map (Issue.movedTo path)⟩

end Outcome

namespace AssetType

variable {assetType : AssetType} {path : Path} {text : List Char}

/-- Documents with one header have the same issues about it. -/
theorem headerIssues_congr {header body more : List Char} {other : List Char}
    (left : FrontMatter.split? text = some ⟨header, body⟩)
    (right : FrontMatter.split? other = some ⟨header, more⟩) :
    assetType.headerIssues path text = assetType.headerIssues path other := by
  unfold headerIssues FrontMatter.parse
  rw [left, right]
  simp only [bind, Except.bind]
  cases FrontMatter.decode header <;> rfl

theorem fieldIssues_movedTo (assetType : AssetType) (path other : Path) (metadata : Yaml.Mapping) :
    assetType.fieldIssues other metadata =
      (assetType.fieldIssues path metadata).map (Issue.movedTo other) := by
  simp only [fieldIssues, requiredIssues, typeIssues, unknownIssues, List.map_append, List.map_map]
  rfl

theorem headerIssues_movedTo (assetType : AssetType) (path other : Path) (text : List Char) :
    assetType.headerIssues other text =
      (assetType.headerIssues path text).map (Issue.movedTo other) := by
  unfold headerIssues
  cases FrontMatter.parse text with
  | error error => rfl
  | ok document =>
    cases found : document.metadata with
    | none => simp [found, Issue.movedTo]
    | some metadata =>
      simp only [found]
      exact fieldIssues_movedTo assetType path other metadata

theorem probeIssues_movedTo (assetType : AssetType) (path other : Path) (text : List Char) :
    assetType.probeIssues other text =
      (assetType.probeIssues path text).map (Issue.movedTo other) := by
  simp only [probeIssues, List.map_map]
  rfl

/-- All issues that are not from the probes come from the name and the header. -/
theorem apartFrom_contentStructure (assetType : AssetType) (path : Path) (text : List Char) :
    (assetType.validateText path text).apartFrom .contentStructure =
      ⟨path, assetType.nameIssues path ++ assetType.headerIssues path text⟩ := by
  have named := (graded_nameIssues assetType path).filter_kind_ne
    .contentStructure (.inr (by decide))
  have headed := (graded_headerIssues assetType path text).filter_kind_ne
    .contentStructure (.inr (by decide))
  have probed : (assetType.probeIssues path text).filter
      (fun issue => issue.kind ≠ .contentStructure) = [] := by
    apply List.filter_eq_nil_iff.2
    intro issue member
    obtain ⟨_, _, _, rfl⟩ := mem_probeIssues.1 member
    simp
  simp only [Outcome.apartFrom, validateText, List.filter_append]
  rw [named, headed, probed, List.append_nil]

/-- All issues that are not about the name come from the header and the probes. -/
theorem apartFrom_naming (assetType : AssetType) (path : Path) (text : List Char) :
    (assetType.validateText path text).apartFrom .naming =
      ⟨path, assetType.headerIssues path text ++ assetType.probeIssues path text⟩ := by
  have named : (assetType.nameIssues path).filter (fun issue => issue.kind ≠ .naming) = [] := by
    apply List.filter_eq_nil_iff.2
    intro issue member
    rw [(mem_nameIssues.1 member).2]
    simp
  have headed := (graded_headerIssues assetType path text).filter_kind_ne .naming
    (.inl (by decide))
  have probed := (graded_probeIssues assetType path text).filter_kind_ne .naming
    (.inl (by decide))
  simp only [Outcome.apartFrom, validateText, List.filter_append]
  rw [named, headed, probed, List.nil_append]

/-- What follows the preamble of a document is its body, whatever it holds, and the issues of two
documents with one preamble differ only in those of the probes. The outcomes of one text under two
paths differ only in the issue about the name and in the path that they carry. -/
theorem validateText_independent (assetType : AssetType) :
    (∀ start header, FrontMatter.IsPreamble start header → ∀ body other,
      FrontMatter.split (start ++ body) = .ok (some ⟨header, body⟩) ∧
        FrontMatter.split (start ++ other) = .ok (some ⟨header, other⟩) ∧
        ∀ path, (assetType.validateText path (start ++ body)).apartFrom .contentStructure =
          (assetType.validateText path (start ++ other)).apartFrom .contentStructure) ∧
      ∀ path other text,
        (assetType.validateText other text).apartFrom .naming =
          ((assetType.validateText path text).apartFrom .naming).movedTo other := by
  constructor
  · intro start header preamble body other
    have left := preamble.split?_append body
    have right := preamble.split?_append other
    refine ⟨?_, ?_, fun path => ?_⟩
    · rw [FrontMatter.uncut_split, left]
    · rw [FrontMatter.uncut_split, right]
    · rw [apartFrom_contentStructure, apartFrom_contentStructure, headerIssues_congr left right]
  · intro path other text
    rw [apartFrom_naming, apartFrom_naming, Outcome.movedTo, List.map_append,
      ← headerIssues_movedTo, ← probeIssues_movedTo]

/-- A type with a probe that a body may satisfy. -/
def probing : AssetType :=
  { name := "notes", directory := ⟨"d"⟩, pattern := ⟨"n", .literal ['n']⟩, required := ["a"]
    optional := [], probes := [⟨["b:"], "Missing b"⟩] }

/-- A body that looks like a document of its own satisfies the probe, and changes nothing else. -/
theorem validateText_independent_nested :
    FrontMatter.IsPreamble ('\ufeff' :: "---\na: 1\n--- \n".toList) "a: 1".toList ∧
      FrontMatter.split ('\ufeff' :: "---\na: 1\n--- \n---\nb: 2\n---\n".toList) =
        .ok (some ⟨"a: 1".toList, "---\nb: 2\n---\n".toList⟩) ∧
      (probing.validateText ⟨"d/m"⟩
          ('\ufeff' :: "---\na: 1\n--- \n---\nb: 2\n---\n".toList)).apartFrom .contentStructure =
        (probing.validateText ⟨"d/m"⟩
          ('\ufeff' :: "---\na: 1\n--- \n".toList)).apartFrom .contentStructure := by
  have preamble : FrontMatter.IsPreamble ('\ufeff' :: "---\na: 1\n--- \n".toList)
      "a: 1".toList := ⟨by decide +kernel, by decide⟩
  obtain ⟨split, _, same⟩ := (validateText_independent probing).1 _ _ preamble
    "---\nb: 2\n---\n".toList []
  exact ⟨preamble, split, same ⟨"d/m"⟩⟩

end AssetType
end AssetLint
