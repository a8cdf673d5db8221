/-!
Lines, bytes and blanks of a text. `joinWith sep (splitOn sep text)` is the text again, and no
part of a split holds the separator. A text can be cut at an offset in bytes only between two
of its characters. Blank characters are those of the `White_Space` property.
-/
namespace AssetLint.Text

/-- Cuts a text at every separator; the empty text has one empty part. -/
def splitOn (sep : Char) : List Char → List (List Char)
  | [] => [[]]
  | c :: rest =>
    if c = sep then [] :: splitOn sep rest
    else
      match splitOn sep rest with
      | [] => [[c]]
      | part :: parts => (c :: part) :: parts

/-- Puts the separator between the parts. -/
def joinWith (sep : Char) : List (List Char) → List Char
  | [] => []
  | [part] => part
  | part :: parts => part ++ sep :: joinWith sep parts

/-- What is before the first separator, and what is after it. -/
def splitOnce? (sep : Char) : List Char → Option (List Char × List Char)
  | [] => none
  | c :: rest =>
    if c = sep then some ([], rest)
    else (splitOnce? sep rest).map fun (before, after) => (c :: before, after)

theorem splitOn_ne_nil (sep : Char) (text : List Char) : splitOn sep text ≠ [] := by
  cases text with
  | nil => simp [splitOn]
  | cons c rest =>
    simp only [splitOn]
    split
    · simp
    · split <;> simp

theorem joinWith_splitOn (sep : Char) (text : List Char) :
    joinWith sep (splitOn sep text) = text := by
  induction text with
  | nil => rfl
  | cons c rest ih =>
    have parted := splitOn_ne_nil sep rest
    simp only [splitOn]
    split
    · next same =>
      cases tail : splitOn sep rest with
      | nil => exact absurd tail parted
      | cons part parts => rw [joinWith, ← tail, ih, same] <;> simp
    · cases tail : splitOn sep rest with
      | nil => exact absurd tail parted
      | cons part parts =>
        rw [tail] at ih
        cases parts with
        | nil => simpa [joinWith] using ih
        | cons next others => simpa [joinWith] using ih

theorem joinWith_append (sep : Char) {before after : List (List Char)} (some_ : before ≠ [])
    (more : after ≠ []) :
    joinWith sep (before ++ after) = joinWith sep before ++ sep :: joinWith sep after := by
  induction before with
  | nil => exact absurd rfl some_
  | cons part parts ih =>
    cases parts with
    | nil =>
      cases after with
      | nil => exact absurd rfl more
      | cons next others => simp [joinWith]
    | cons next others =>
      have inner := ih (List.cons_ne_nil next others)
      simp only [List.cons_append, joinWith] at inner ⊢
      rw [inner]
      simp

theorem joinWith_cons (sep : Char) (part : List Char) {parts : List (List Char)}
    (more : parts ≠ []) : joinWith sep (part :: parts) = part ++ sep :: joinWith sep parts :=
  joinWith_append sep (List.cons_ne_nil part []) more

theorem mem_joinWith {sep c : Char} {parts : List (List Char)} (other : c ≠ sep)
    (member : c ∈ joinWith sep parts) : ∃ part ∈ parts, c ∈ part := by
  induction parts with
  | nil => cases member
  | cons part rest ih =>
    cases rest with
    | nil => exact ⟨part, List.mem_cons_self, member⟩
    | cons next others =>
      rw [joinWith_cons sep part (List.cons_ne_nil next others)] at member
      rcases List.mem_append.1 member with inside | after
      · exact ⟨part, List.mem_cons_self, inside⟩
      · rcases List.mem_cons.1 after with same | later
        · exact absurd same other
        · obtain ⟨found, among, inside⟩ := ih later
          exact ⟨found, List.mem_cons_of_mem part among, inside⟩

/-- The last part is empty only where the text is, or ends with a separator. -/
theorem getLast?_splitOn_ne_nil {sep : Char} {text : List Char} (filled : text ≠ [])
    (unended : text.getLast? ≠ some sep) : (splitOn sep text).getLast? ≠ some [] := by
  intro ended
  obtain ⟨parts, shape⟩ := List.getLast?_eq_some_iff.1 ended
  have whole := joinWith_splitOn sep text
  rw [shape] at whole
  by_cases first : parts = []
  · rw [first] at whole
    exact filled whole.symm
  · rw [joinWith_append sep first (List.cons_ne_nil _ _)] at whole
    rw [← whole] at unended
    simp [joinWith] at unended

theorem splitOn_append (sep : Char) (before after : List Char) :
    splitOn sep (before ++ sep :: after) = splitOn sep before ++ splitOn sep after := by
  induction before with
  | nil => simp [splitOn]
  | cons c rest ih =>
    simp only [List.cons_append, splitOn, ih]
    split
    · rfl
    · cases tail : splitOn sep rest with
      | nil => exact absurd tail (splitOn_ne_nil sep rest)
      | cons part parts => rfl

theorem splitOn_of_not_mem {sep : Char} {text : List Char} (absent : sep ∉ text) :
    splitOn sep text = [text] := by
  induction text with
  | nil => rfl
  | cons c rest ih =>
    simp only [List.mem_cons, not_or] at absent
    rw [splitOn, if_neg (Ne.symm absent.1), ih absent.2]

theorem eq_of_splitOnce? {sep : Char} {text before after : List Char}
    (found : splitOnce? sep text = some (before, after)) : text = before ++ sep :: after := by
  induction text generalizing before with
  | nil => cases found
  | cons c rest ih =>
    simp only [splitOnce?] at found
    split at found
    · next same =>
      cases found
      rw [same, List.nil_append]
    · obtain ⟨⟨start, stop⟩, inner, shape⟩ := Option.map_eq_some_iff.1 found
      cases shape
      rw [ih inner, List.cons_append]

theorem splitOn_of_splitOnce? {sep : Char} {text before after : List Char}
    (found : splitOnce? sep text = some (before, after)) :
    splitOn sep text = before :: splitOn sep after := by
  induction text generalizing before with
  | nil => cases found
  | cons c rest ih =>
    simp only [splitOnce?] at found
    simp only [splitOn]
    split at found
    · next same =>
      cases found
      rw [if_pos same]
    · next differs =>
      obtain ⟨⟨start, stop⟩, inner, shape⟩ := Option.map_eq_some_iff.1 found
      cases shape
      rw [if_neg differs, ih inner]

theorem splitOn_of_splitOnce?_eq_none {sep : Char} {text : List Char}
    (absent : splitOnce? sep text = none) : splitOn sep text = [text] := by
  induction text with
  | nil => rfl
  | cons c rest ih =>
    simp only [splitOnce?] at absent
    split at absent
    · cases absent
    · next differs => rw [splitOn, if_neg differs, ih (Option.map_eq_none_iff.1 absent)]

theorem not_mem_of_mem_splitOn (sep : Char) (text : List Char) :
    ∀ part ∈ splitOn sep text, sep ∉ part := by
  induction text with
  | nil => simp [splitOn]
  | cons c rest ih =>
    simp only [splitOn]
    split
    · simpa using ih
    · next differs =>
      cases tail : splitOn sep rest with
      | nil => simp [Ne.symm differs]
      | cons part parts =>
        rw [tail] at ih
        simp only [List.mem_cons, forall_eq_or_imp] at ih ⊢
        exact ⟨fun member => by
          rcases member with same | member
          · exact differs same.symm
          · exact ih.1 member, ih.2⟩

theorem mem_of_mem_splitOn {sep c : Char} {text part : List Char}
    (parted : part ∈ splitOn sep text) (member : c ∈ part) : c ∈ text := by
  induction text generalizing part with
  | nil =>
    rw [List.mem_singleton.1 parted] at member
    exact member
  | cons d rest ih =>
    rw [splitOn] at parted
    split at parted
    · rcases List.mem_cons.1 parted with rfl | later
      · exact absurd member List.not_mem_nil
      · exact List.mem_cons_of_mem d (ih later member)
    · split at parted
      · rw [List.mem_singleton.1 parted] at member
        exact List.mem_cons.2 (.inl (List.mem_singleton.1 member))
      · next first others shape =>
        rcases List.mem_cons.1 parted with rfl | later
        · rcases List.mem_cons.1 member with same | inner
          · exact List.mem_cons.2 (.inl same)
          · exact List.mem_cons_of_mem d (ih (by rw [shape]; exact List.mem_cons_self ..) inner)
        · exact List.mem_cons_of_mem d
            (ih (by rw [shape]; exact List.mem_cons_of_mem first later) member)

/-- Members of the `White_Space` property. -/
def isBlank (c : Char) : Bool :=
  let n := c.toNat
  (9 ≤ n && n ≤ 13) || n = 0x20 || n = 0x85 || n = 0xA0 || n = 0x1680 ||
    (0x2000 ≤ n && n ≤ 0x200A) || n = 0x2028 || n = 0x2029 || n = 0x202F ||
    n = 0x205F || n = 0x3000

def trimStart (text : List Char) : List Char :=
  text.dropWhile isBlank

def trimEnd (text : List Char) : List Char :=
  (text.reverse.dropWhile isBlank).reverse

theorem exists_trimEnd_append (text : List Char) :
    ∃ blanks, text = trimEnd text ++ blanks ∧ ∀ c ∈ blanks, isBlank c = true := by
  refine ⟨(text.reverse.takeWhile isBlank).reverse, ?_, ?_⟩
  · rw [trimEnd, ← List.reverse_append, List.takeWhile_append_dropWhile, List.reverse_reverse]
  · intro c member
    exact List.all_eq_true.1 List.all_takeWhile c (List.mem_reverse.1 member)

theorem trimEnd_append (text : List Char) {blanks : List Char}
    (blank : ∀ c ∈ blanks, isBlank c = true) : trimEnd (text ++ blanks) = trimEnd text := by
  have gone : (blanks.reverse ++ text.reverse).dropWhile isBlank =
      text.reverse.dropWhile isBlank :=
    List.dropWhile_append_of_pos fun c member => blank c (List.mem_reverse.1 member)
  rw [trimEnd, List.reverse_append, gone, trimEnd]

def trim (text : List Char) : List Char :=
  trimEnd (trimStart text)

/-- Bytes that a text takes in UTF-8. -/
def byteLength (text : List Char) : Nat :=
  text.foldl (fun bytes c => bytes + c.utf8Size) 0

/-- The text up to an offset in bytes. There is none where the offset is past the end or falls
within a character. -/
def takeBytes? : Nat → List Char → Option (List Char)
  | 0, _ => some []
  | _ + 1, [] => none
  | bytes + 1, c :: rest =>
    if c.utf8Size ≤ bytes + 1 then
      (takeBytes? (bytes + 1 - c.utf8Size) rest).map fun taken => c :: taken
    else none

theorem byteLength_cons (c : Char) (text : List Char) :
    byteLength (c :: text) = c.utf8Size + byteLength text := by
  suffices moved : ∀ (text : List Char) (bytes : Nat),
      text.foldl (fun bytes c => bytes + c.utf8Size) bytes = bytes + byteLength text by
    simp only [byteLength, List.foldl_cons, Nat.zero_add]
    exact moved text c.utf8Size
  intro text
  induction text with
  | nil => intro bytes; rfl
  | cons d rest ih =>
    intro bytes
    simp only [byteLength, List.foldl_cons, Nat.zero_add]
    rw [ih, ih d.utf8Size, Nat.add_assoc]

theorem byteLength_append (before after : List Char) :
    byteLength (before ++ after) = byteLength before + byteLength after := by
  induction before with
  | nil => exact (Nat.zero_add _).symm
  | cons c rest ih => rw [List.cons_append, byteLength_cons, ih, byteLength_cons, Nat.add_assoc]

/-- A text can be cut after every part that it begins with. -/
theorem takeBytes?_append (before after : List Char) :
    takeBytes? (byteLength before) (before ++ after) = some before := by
  induction before with
  | nil => simp [byteLength, takeBytes?]
  | cons c rest ih =>
    obtain ⟨size, width⟩ := Nat.exists_eq_succ_of_ne_zero (Nat.pos_iff_ne_zero.1 c.utf8Size_pos)
    rw [byteLength_cons, List.cons_append, width, Nat.succ_add]
    have fits : c.utf8Size ≤ size + byteLength rest + 1 := by omega
    have left : size + byteLength rest + 1 - c.utf8Size = byteLength rest := by omega
    rw [takeBytes?, if_pos fits, left, ih]
    rfl

/-- The needle stands somewhere in the text. -/
def contains (needle : List Char) : List Char → Bool
  | [] => needle.isEmpty
  | c :: rest => needle.isPrefixOf (c :: rest) || contains needle rest

theorem contains_iff_isInfix {needle text : List Char} :
    contains needle text = true ↔ needle <:+: text := by
  induction text with
  | nil => simp [contains]
  | cons c rest ih =>
    rw [contains, Bool.or_eq_true, List.isPrefixOf_iff_prefix, ih, List.infix_cons_iff]

end AssetLint.Text
