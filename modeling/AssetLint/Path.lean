import AssetLint.Text.Lines

/-!
Paths as they are written, and their components. Repeated and trailing separators do not count,
nor does a dot that is not the first component; paths are compared by components.
-/
namespace AssetLint

structure Path where
  text : String
  deriving DecidableEq, Repr

namespace Path

inductive Component where
  | root
  | here
  | up
  | name (text : String)
  deriving DecidableEq, Repr

/-- A component after the first. -/
def innerComponent? (part : List Char) : Option Component :=
  if part = [] ∨ part = ['.'] then none
  else if part = ['.', '.'] then some .up
  else some (.name (String.ofList part))

/-- The components that the parts between separators make up. -/
def componentsOf (parts : List (List Char)) : List Component :=
  match parts with
  | [] => []
  | first :: parts =>
    let inner := parts.filterMap innerComponent?
    if first = [] then (if parts.isEmpty then [] else .root :: inner)
    else if first = ['.'] then .here :: inner
    else (innerComponent? first).toList ++ inner

def components (path : Path) : List Component :=
  componentsOf (Text.splitOn '/' path.text.toList)

def isAbsolute (path : Path) : Bool :=
  path.text.toList.head? = some '/'

/-- An absolute path stands for itself. -/
def join (base path : Path) : Path :=
  if path.isAbsolute then path
  else if base.text.isEmpty || base.text.toList.getLast? = some '/' then
    ⟨base.text ++ path.text⟩
  else ⟨base.text ++ "/" ++ path.text⟩

def startsWith (path base : Path) : Bool :=
  base.components.isPrefixOf path.components

/-- The last component if it is a name. -/
def fileName? (path : Path) : Option String :=
  match path.components.getLast? with
  | some (.name text) => some text
  | _ => none

def same (left right : Path) : Bool :=
  left.components = right.components

namespace Component

def rank : Component → Nat
  | root => 0
  | here => 1
  | up => 2
  | name _ => 3

/-- The order of names by their characters. -/
def nameLe : List Char → List Char → Bool
  | [], _ => true
  | _ :: _, [] => false
  | a :: as, b :: bs => if a = b then nameLe as bs else a.toNat < b.toNat

/-- Names come last. -/
def le : Component → Component → Bool
  | name a, name b => nameLe a.toList b.toList
  | a, b => a.rank ≤ b.rank

end Component

def componentsLe : List Component → List Component → Bool
  | [], _ => true
  | _ :: _, [] => false
  | a :: as, b :: bs => if a = b then componentsLe as bs else a.le b

/-- A directory comes before everything in it. -/
def le (left right : Path) : Bool :=
  componentsLe left.components right.components

end Path
end AssetLint
