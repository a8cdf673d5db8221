import AssetLint.Pattern.Fault

/-!
Patterns as they are written.
-/
namespace AssetLint.Pattern

inductive Flag where
  | caseInsensitive
  | multiLine
  | dotMatchesNewline
  | swapGreed
  | unicode
  | crlf
  | verbose
  deriving DecidableEq, Repr

/-- The flags of a group with the values they get. -/
abbrev FlagChanges := List (Flag × Bool)

def FlagChanges.value? (changes : FlagChanges) (flag : Flag) : Option Bool :=
  (changes.find? fun change => change.1 = flag).map Prod.snd

inductive Assertion where
  | lineStart
  | lineEnd
  | textStart
  | textEnd
  | boundary
  | notBoundary
  | wordStart
  | wordEnd
  | wordStartHalf
  | wordEndHalf
  deriving DecidableEq, Repr

inductive ShortClass where
  | digit
  | blank
  | word
  deriving DecidableEq, Repr

inductive PropertyName where
  | alone (name : List Char)
  | valued (name value : List Char)
  deriving DecidableEq, Repr

inductive ClassOperator where
  | intersection
  | difference
  | symmetricDifference
  deriving DecidableEq, Repr

/-- A character, and whether two hexadecimal digits give it as a byte. -/
structure Literal where
  span : Span
  char : Char
  byte : Bool := false
  deriving DecidableEq, Repr

mutual

inductive ClassItem where
  | empty (span : Span)
  | literal (written : Literal)
  | range (span : Span) (first last : Literal)
  | named (span : Span) (negated : Bool) (members : List (Nat × Nat))
  | property (span : Span) (negated : Bool) (name : PropertyName)
  | short (span : Span) (negated : Bool) (kind : ShortClass)
  | bracketed (span : Span) (negated : Bool) (set : ClassSet)
  | union (span : Span) (items : List ClassItem)

inductive ClassSet where
  | item (single : ClassItem)
  | binary (span : Span) (operator : ClassOperator) (left right : ClassSet)

end

def ClassItem.span : ClassItem → Span
  | empty span | range span .. | named span .. | property span .. | short span ..
  | bracketed span .. | union span _ => span
  | literal written => written.span

def ClassSet.span : ClassSet → Span
  | item single => single.span
  | binary span .. => span

inductive Tree where
  | empty (span : Span)
  | flags (span : Span) (changes : FlagChanges)
  | literal (written : Literal)
  | dot (span : Span)
  | assertion (span : Span) (kind : Assertion)
  | property (span : Span) (negated : Bool) (name : PropertyName)
  | short (span : Span) (negated : Bool) (kind : ShortClass)
  | bracketed (span : Span) (negated : Bool) (set : ClassSet)
  | repetition (span : Span) (inner : Tree) (least : Nat) (most : Option Nat) (greedy : Bool)
  | group (span : Span) (captures : Bool) (changes : FlagChanges) (inner : Tree)
  | alternation (span : Span) (branches : List Tree)
  | sequence (span : Span) (items : List Tree)

def Tree.span : Tree → Span
  | empty span | flags span _ | dot span | assertion span _ | property span .. | short span ..
  | bracketed span .. | repetition span .. | group span .. | alternation span _
  | sequence span _ => span
  | literal written => written.span

/-- What may be written inside and outside of brackets alike. -/
inductive Primitive where
  | literal (written : Literal)
  | assertion (span : Span) (kind : Assertion)
  | dot (span : Span)
  | property (span : Span) (negated : Bool) (name : PropertyName)
  | short (span : Span) (negated : Bool) (kind : ShortClass)

def Primitive.span : Primitive → Span
  | literal written => written.span
  | assertion span _ | dot span | property span .. | short span .. => span

def Primitive.tree : Primitive → Tree
  | literal written => .literal written
  | assertion span kind => .assertion span kind
  | dot span => .dot span
  | property span negated name => .property span negated name
  | short span negated kind => .short span negated kind

end AssetLint.Pattern
