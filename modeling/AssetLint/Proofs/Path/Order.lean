import Mathlib.Data.List.Lex
import Mathlib.Order.Lattice
import Mathlib.Order.Monotone.Basic
import AssetLint.Proofs.Path.Join
import AssetLint.Unicode.Encoding

/-!
The order of paths. The key of a path lists its components, each by its rank and a name also by
its bytes, and paths are ordered as their keys are, lexicographically (`le_iff_key`). So a
directory comes before everything in it, its entries follow each other by the bytes of their
names, and everything under one entry comes before everything under the next.
-/
namespace AssetLint

/-- Bytes of code points are ordered as the code points are, whatever comes after them. -/
theorem Unicode.encode_append_lt {m n : Nat} (less : m < n) (after other : List Nat) :
    encode m ++ after < encode n ++ other := by
  simp only [encode]
  split <;> [skip; split <;> [skip; split]]
  all_goals split <;> [skip; split <;> [skip; split]]
  all_goals
    simp only [List.cons_append, List.nil_append, List.cons_lt_cons_iff, Nat.div_one]
    omega

section

variable {α : Type} [LinearOrder α] {left right : List α}

theorem cons_le_cons_iff {a b : α} :
    a :: left ≤ b :: right ↔ a < b ∨ a = b ∧ left ≤ right := by
  rw [le_iff_lt_or_eq, le_iff_lt_or_eq, List.cons.injEq]
  exact (or_congr List.cons_lt_cons_iff Iff.rfl).trans (by tauto)

theorem append_le_append_left_iff (before : List α) :
    before ++ left ≤ before ++ right ↔ left ≤ right := by
  have mono : StrictMono fun after : List α => before ++ after :=
    fun _ _ less => List.append_left_lt less
  exact mono.le_iff_le

end

namespace Path

/-- The bytes of a name. -/
def nameBytes (name : String) : List Nat :=
  name.toUTF8.data.toList.map UInt8.toNat

namespace Component

/-- Bytes of characters, as they are stored. -/
def bytes (text : List Char) : List Nat :=
  text.flatMap fun c => Unicode.encode c.toNat

theorem toNat_utf8EncodeChar (c : Char) :
    (String.utf8EncodeChar c).map UInt8.toNat = Unicode.encode c.toNat := by
  have bound : c.val.toNat < 0x110000 := by
    have valid := c.valid
    simp only [UInt32.isValidChar, Nat.isValidChar] at valid
    omega
  simp only [String.utf8EncodeChar, Unicode.encode, Char.toNat]
  generalize c.val.toNat = n at bound
  split <;> [skip; split <;> [skip; split]]
  all_goals split <;> [skip; split <;> [skip; split]]
  all_goals
    simp only [List.map_cons, List.map_nil, UInt8.toNat_ofNat', List.cons.injEq, Nat.div_one,
      and_true]
    omega

theorem nameBytes_eq (name : String) : nameBytes name = bytes name.toList := by
  have stored : name.toUTF8.data.toList = name.toList.flatMap String.utf8EncodeChar := by
    rw [String.toUTF8_eq_toByteArray, ← String.utf8Encode_toList, List.utf8Encode,
      List.data_toByteArray, List.toList_toArray]
  rw [nameBytes, stored, List.map_flatMap, bytes]
  simp only [toNat_utf8EncodeChar]

theorem bytes_cons (c : Char) (text : List Char) :
    bytes (c :: text) = Unicode.encode c.toNat ++ bytes text :=
  List.flatMap_cons

/-- Names are ordered by characters as by bytes. -/
theorem nameLe_iff_bytes (left right : List Char) :
    nameLe left right = true ↔ bytes left ≤ bytes right := by
  induction left generalizing right with
  | nil =>
    have least : bytes [] ≤ bytes right := not_lt.1 (List.not_lt_nil _)
    simp [nameLe, least]
  | cons a as ih =>
    cases right with
    | nil =>
      have filled : Unicode.encode a.toNat ≠ [] := by
        unfold Unicode.encode
        split <;> [simp; split <;> [simp; split <;> simp]]
      have more : bytes [] < bytes (a :: as) := by
        obtain ⟨first, rest, shape⟩ := List.exists_cons_of_ne_nil filled
        rw [bytes_cons, shape]
        exact List.nil_lt_cons _ _
      simp [nameLe, more]
    | cons b bs =>
      simp only [nameLe]
      by_cases same : a = b
      · subst same
        rw [if_pos rfl, ih, bytes_cons, bytes_cons]
        exact (append_le_append_left_iff _).symm
      · rw [if_neg same, decide_eq_true_iff]
        have differ : a.toNat ≠ b.toNat := fun equal => same (Char.toNat_inj.1 equal)
        rcases Nat.lt_or_gt_of_ne differ with less | greater
        · have before : bytes (a :: as) < bytes (b :: bs) := by
            rw [bytes_cons, bytes_cons]
            exact Unicode.encode_append_lt less _ _
          simp [less, before.le]
        · have after : bytes (b :: bs) < bytes (a :: as) := by
            rw [bytes_cons, bytes_cons]
            exact Unicode.encode_append_lt greater _ _
          simp [Nat.not_lt.2 greater.le, after]

/-- The rank of a component, and the bytes of a name. -/
def key : Component → List Nat
  | name text => 3 :: nameBytes text
  | component => [component.rank]

theorem nameBytes_injective : Function.Injective nameBytes := by
  intro left right same
  have stored := List.map_injective_iff.2 (fun _ _ => UInt8.toNat_inj.1) same
  exact String.toByteArray_inj.1 (ByteArray.ext (Array.toList_inj.1 stored))

theorem key_injective : Function.Injective key := by
  intro left right same
  cases left <;> cases right <;> simp [key, rank] at same ⊢
  exact nameBytes_injective same

theorem le_iff_key (left right : Component) : left.le right = true ↔ left.key ≤ right.key := by
  cases left <;> cases right <;>
    simp [le, key, rank, cons_le_cons_iff, nameLe_iff_bytes, nameBytes_eq]

end Component

theorem componentsLe_iff (left right : List Component) :
    componentsLe left right = true ↔ left.map Component.key ≤ right.map Component.key := by
  induction left generalizing right with
  | nil =>
    have least : [] ≤ right.map Component.key := not_lt.1 (List.not_lt_nil _)
    simp [componentsLe, least]
  | cons a as ih =>
    cases right with
    | nil => simp [componentsLe]
    | cons b bs =>
      rw [componentsLe, List.map_cons, List.map_cons, cons_le_cons_iff]
      by_cases same : a = b
      · subst same
        simp [ih]
      · have differ : a.key ≠ b.key := fun equal => same (Component.key_injective equal)
        rw [if_neg same, Component.le_iff_key, le_iff_lt_or_eq]
        simp [differ]

/-- What a path is ordered by. -/
def key (path : Path) : List (List Nat) :=
  path.components.map Component.key

theorem le_iff_key (left right : Path) : left.le right = true ↔ left.key ≤ right.key :=
  componentsLe_iff _ _

theorem le_trans (first second third : Path) (before : first.le second = true)
    (after : second.le third = true) : first.le third = true := by
  rw [le_iff_key] at *
  exact before.trans after

theorem le_total (left right : Path) : (left.le right || right.le left) = true := by
  rw [Bool.or_eq_true, le_iff_key, le_iff_key]
  exact (lt_or_ge left.key right.key).imp_left le_of_lt

/-- Everything under the left path comes before everything under the right one. -/
def Precedes (left right : Path) : Prop :=
  ∀ inner other : Path, inner.startsWith left = true → other.startsWith right = true →
    inner.key < other.key

variable {name : String}

theorem key_join (path : Path) (proper : IsFileName name) :
    (path.join ⟨name⟩).key = path.key ++ [3 :: nameBytes name] := by
  rw [key, components_join path proper, List.map_append]
  rfl

theorem exists_key_of_startsWith {inner path : Path} (below : inner.startsWith path = true) :
    ∃ rest, inner.key = path.key ++ rest := by
  obtain ⟨rest, shape⟩ := List.isPrefixOf_iff_prefix.1 below
  exact ⟨rest.map Component.key, by rw [key, ← shape, List.map_append, key]⟩

/-- A directory comes before everything under an entry of it. -/
theorem key_lt_of_startsWith_join {inner path : Path} (proper : IsFileName name)
    (below : inner.startsWith (path.join ⟨name⟩) = true) : path.key < inner.key := by
  obtain ⟨rest, shape⟩ := exists_key_of_startsWith below
  rw [shape, key_join path proper, List.append_assoc]
  have longer : path.key ++ [] < path.key ++ ([3 :: nameBytes name] ++ rest) :=
    List.append_left_lt (List.nil_lt_cons _ _)
  rwa [List.append_nil] at longer

/-- Entries of a directory follow each other by the bytes of their names. -/
theorem precedes_join {other : String} (path : Path) (proper : IsFileName name)
    (decent : IsFileName other) (less : nameBytes name < nameBytes other) :
    (path.join ⟨name⟩).Precedes (path.join ⟨other⟩) := by
  intro inner outer below under
  obtain ⟨rest, shape⟩ := exists_key_of_startsWith below
  obtain ⟨more, form⟩ := exists_key_of_startsWith under
  rw [shape, form, key_join path proper, key_join path decent, List.append_assoc,
    List.append_assoc]
  refine List.append_left_lt (List.cons_lt_cons_iff.2 (.inl ?_))
  exact List.cons_lt_cons_iff.2 (.inr ⟨rfl, less⟩)

theorem le_join_iff {other : String} (path : Path) (proper : IsFileName name)
    (decent : IsFileName other) :
    (path.join ⟨name⟩).le (path.join ⟨other⟩) = true ↔ nameBytes name ≤ nameBytes other := by
  rw [le_iff_key, key_join path proper, key_join path decent, append_le_append_left_iff,
    cons_le_cons_iff, le_iff_lt_or_eq (b := nameBytes other)]
  simp

end Path
end AssetLint
