import AssetLint.Proofs.Yaml.BlankTokens
import AssetLint.Yaml.Decode

/-!
The value of a text without content. Its events open no collection and follow no alias, so that
its document is at most plain scalars, and its value is no mapping.
-/
namespace AssetLint.Yaml

theorem Lexeme.IsPlain.cases {lexeme : Lexeme} (plain : lexeme.IsPlain) :
    lexeme = .streamEnd ∨ ∃ text, lexeme = .scalar text .plain := by
  cases lexeme with
  | streamEnd => exact .inl rfl
  | scalar text style => exact .inr ⟨text, by rw [show style = .plain from plain]⟩
  | _ => exact plain.elim

/-- Events of a text without content: the ends of documents, and plain scalars that carry
neither an anchor nor a tag. -/
def Event.IsPlain : Event → Prop
  | .streamEnd | .documentStart | .documentEnd => True
  | .scalar properties _ style => properties = {} ∧ style = .plain
  | _ => False

/-- What the grammar expects of such a text. -/
def Part.IsPlain : Part → Prop
  | .documentStart _ | .documentEnd | .blockNode => True
  | _ => False

structure EventReader.Idle (reader : EventReader) : Prop where
  queue : reader.queue.Idle
  pending : ∀ part ∈ reader.pending, part.IsPlain

namespace EventReader

variable {reader next : EventReader} {token : Token} {event : Event} {mark : Mark}

theorem idle_ofText {text : List Char} (blank : HasBlankLines text) : (ofText text).Idle where
  queue := TokenQueue.idle_ofText blank
  pending := by simp [ofText, Part.IsPlain]

/-- A node that is not there carries no properties, and neither does a plain one. -/
theorem nodeProperties_eq (plain : token.lexeme.IsPlain) :
    reader.nodeProperties token = .ok ({}, token, reader) := by
  unfold EventReader.nodeProperties
  rcases plain.cases with ends | ⟨text, scalar⟩
  · rw [ends]
    rfl
  · rw [scalar]
    rfl

namespace Idle

theorem skip (idle : reader.Idle) : reader.skip.Idle :=
  { idle with queue := idle.queue.drop }

theorem expect {parts : List Part} (idle : reader.Idle) (plain : ∀ part ∈ parts, part.IsPlain) :
    (reader.expect parts).Idle :=
  { idle with
    pending := fun part member =>
      (List.mem_append.1 member).elim (plain part) (idle.pending part) }

theorem peek (idle : reader.Idle) (peeked : reader.peek = .ok (token, next)) :
    token.lexeme.IsPlain ∧ next.Idle := by
  unfold EventReader.peek at peeked
  obtain ⟨⟨first, queue⟩, found, peeked⟩ := exists_of_bind_eq_ok peeked
  cases peeked
  have ⟨plain, left⟩ := idle.queue.peek found
  exact ⟨plain, { idle with queue := left }⟩

theorem emit (idle : reader.Idle) {given : Event} {place : Mark}
    (emitted : reader.emit given place = .ok ((event, mark), next)) (plain : given.IsPlain) :
    event.IsPlain ∧ next.Idle := by
  cases emitted
  exact ⟨plain, idle⟩

theorem skipDocumentEnds (idle : reader.Idle) {fuel : Nat}
    (skipped : EventReader.skipDocumentEnds fuel reader = .ok (token, next)) :
    token.lexeme.IsPlain ∧ next.Idle := by
  cases fuel with
  | zero => exact idle.peek skipped
  | succ fuel =>
    unfold EventReader.skipDocumentEnds at skipped
    obtain ⟨⟨first, left⟩, peeked, skipped⟩ := exists_of_bind_eq_ok skipped
    have ⟨plain, onward⟩ := idle.peek peeked
    dsimp only at skipped
    split at skipped
    · next ends =>
      rw [ends] at plain
      exact plain.elim
    · cases skipped
      exact ⟨plain, onward⟩

theorem readDirectives (idle : reader.Idle) {fuel : Nat} {versioned : Bool}
    {handles found : List (String × TagText)}
    (read : EventReader.readDirectives fuel versioned handles reader = .ok (found, token, next)) :
    token.lexeme.IsPlain ∧ next.Idle := by
  cases fuel with
  | zero =>
    unfold EventReader.readDirectives at read
    obtain ⟨⟨first, left⟩, peeked, read⟩ := exists_of_bind_eq_ok read
    cases read
    exact idle.peek peeked
  | succ fuel =>
    unfold EventReader.readDirectives at read
    obtain ⟨⟨first, left⟩, peeked, read⟩ := exists_of_bind_eq_ok read
    have ⟨plain, onward⟩ := idle.peek peeked
    dsimp only at read
    split at read
    · next version =>
      rw [version] at plain
      exact plain.elim
    · next handle =>
      rw [handle] at plain
      exact plain.elim
    · cases read
      exact ⟨plain, onward⟩

theorem documentStart (idle : reader.Idle) {implicit : Bool}
    (step : reader.documentStart implicit = .ok ((event, mark), next)) :
    event.IsPlain ∧ next.Idle := by
  unfold EventReader.documentStart at step
  extract_lets start at step
  obtain ⟨first, left, plain, onward, step⟩ : ∃ first left, first.lexeme.IsPlain ∧
      left.Idle ∧ start (first, left) = .ok ((event, mark), next) := by
    split at step
    · obtain ⟨⟨first, left⟩, peeked, step⟩ := exists_of_bind_eq_ok step
      have ⟨plain, onward⟩ := idle.peek peeked
      exact ⟨first, left, plain, onward, step⟩
    · obtain ⟨⟨first, left⟩, skipped, step⟩ := exists_of_bind_eq_ok step
      have ⟨plain, onward⟩ := idle.skipDocumentEnds skipped
      exact ⟨first, left, plain, onward, step⟩
  unfold start at step
  dsimp only at step
  rcases plain.cases with ends | ⟨text, scalar⟩
  · rw [ends] at step
    exact onward.skip.emit step trivial
  · rw [scalar] at step
    dsimp only at step
    split at step
    · have fresh : EventReader.Idle { left with handles := defaultHandles } := { onward with }
      exact (fresh.expect (by simp [Part.IsPlain])).emit step trivial
    · obtain ⟨⟨handles, second, after⟩, read, step⟩ := exists_of_bind_eq_ok step
      have ⟨plain, _⟩ := onward.readDirectives read
      dsimp only at step
      split at step
      · next marker =>
        rw [marker] at plain
        exact plain.elim
      · cases step

theorem documentEnd (idle : reader.Idle)
    (step : reader.documentEnd = .ok ((event, mark), next)) : event.IsPlain ∧ next.Idle := by
  unfold EventReader.documentEnd at step
  obtain ⟨⟨first, left⟩, peeked, step⟩ := exists_of_bind_eq_ok step
  have onward : (left.expect [.documentStart false]).Idle :=
    (idle.peek peeked).2.expect (by simp [Part.IsPlain])
  dsimp only at step
  split at step
  · exact onward.skip.emit step trivial
  · exact onward.emit step trivial

theorem node (idle : reader.Idle) {place : NodePlace}
    (step : reader.node place = .ok ((event, mark), next)) : event.IsPlain ∧ next.Idle := by
  unfold EventReader.node at step
  obtain ⟨⟨first, left⟩, peeked, step⟩ := exists_of_bind_eq_ok step
  have ⟨plain, onward⟩ := idle.peek peeked
  dsimp only at step
  rw [nodeProperties_eq plain] at step
  rcases plain.cases with ends | ⟨text, scalar⟩
  · rw [ends] at step
    dsimp only [bind, Except.bind] at step
    rw [ends] at step
    cases step
  · rw [scalar] at step
    dsimp only [bind, Except.bind] at step
    rw [scalar] at step
    exact onward.skip.emit step ⟨rfl, rfl⟩

/-- Every event is plain, and what the grammar expects afterwards is too. -/
theorem step (idle : reader.Idle) (step : reader.step = .ok ((event, mark), next)) :
    event.IsPlain ∧ next.Idle := by
  unfold EventReader.step at step
  split at step
  · exact idle.emit step trivial
  · next part pending shape =>
    have plain : part.IsPlain := idle.pending part (by rw [shape]; exact List.mem_cons_self ..)
    have left : EventReader.Idle { reader with pending } :=
      { idle with
        pending := fun part member =>
          idle.pending part (by rw [shape]; exact List.mem_cons_of_mem _ member) }
    cases part with
    | documentStart implicit => exact left.documentStart step
    | documentEnd => exact left.documentEnd step
    | blockNode => exact left.node step
    | _ => exact plain.elim

end Idle
end EventReader

/-- Nodes of a document without content. -/
def NodeEvent.IsPlain : NodeEvent → Prop
  | .nothing => True
  | .scalar tag _ style => tag = none ∧ style = .plain
  | _ => False

namespace Document

variable {document : Document}

/-- All nodes of the document are plain scalars, or the one that stands for no document. -/
def IsPlain (document : Document) : Prop :=
  ∀ event ∈ document.events, event.1.IsPlain

end Document

namespace DocumentReader

variable {state last : DocumentReader} {first : Bool} {fuel : Nat}

theorem isPlain_add {event : NodeEvent} {mark : Mark} (plain : state.document.IsPlain)
    (added : event.IsPlain) : (state.add event mark).document.IsPlain := by
  intro entry member
  rcases Array.mem_push.1 member with before | new
  · exact plain entry before
  · rw [new]
    exact added

theorem isPlain_of_read (read : DocumentReader.read first fuel state = some last)
    (idle : state.reader.Idle) (plain : state.document.IsPlain) : last.document.IsPlain := by
  induction fuel generalizing state with
  | zero => cases read; exact plain
  | succ fuel ih =>
    unfold DocumentReader.read at read
    split at read
    · cases read
      exact plain
    · next event mark reader step =>
      have ⟨calm, onward⟩ := idle.step step
      cases event with
      | streamEnd =>
        dsimp only at read
        split at read
        · cases read
        · split at read
          · cases read
            exact isPlain_add plain trivial
          · cases read
            exact plain
      | documentStart =>
        dsimp only at read
        exact ih read onward plain
      | documentEnd => cases read; exact plain
      | scalar properties text style =>
        obtain ⟨rfl, rfl⟩ := calm
        dsimp only at read
        exact ih read onward (isPlain_add plain ⟨rfl, rfl⟩)
      | _ => exact calm.elim

end DocumentReader

theorem isPlain_readDocument {text : List Char} (blank : HasBlankLines text) :
    (readDocument text).1.IsPlain := by
  have unread : Document.IsPlain {} := fun event member => absurd member (Array.not_mem_empty event)
  unfold readDocument
  extract_lets fuel
  split
  · exact unread
  · next state read =>
    exact DocumentReader.isPlain_of_read read (EventReader.idle_ofText blank) unread

theorem eq_ok_of_mapError {ε δ α : Type} {change : ε → δ} {result : Except ε α} {value : α}
    (mapped : result.mapError change = .ok value) : result = .ok value := by
  cases result with
  | error fault => cases mapped
  | ok found => cases mapped; rfl

/-- Values that hold no other value. -/
def Value.IsScalar : Value → Prop
  | .null | .bool _ | .number _ | .string _ => True
  | _ => False

theorem isScalar_of_plainValue {text : String} {value : Value}
    (read : plainValue text = .ok value) : value.IsScalar := by
  unfold plainValue at read
  split at read
  · cases read
    trivial
  · split at read
    · cases read
      trivial
    · next integer _ _ =>
      cases integer <;> cases read
      trivial
    · split at read
      · cases read
        trivial
      · split at read <;> cases read <;> trivial

namespace Document

variable {document : Document} {position after : Position}

theorem isPlain_of_eventAt {event : NodeEvent} {mark : Mark} (plain : document.IsPlain)
    (found : document.eventAt position = .ok (event, mark)) : event.IsPlain := by
  unfold eventAt at found
  split at found
  · next entry there =>
    cases found
    exact plain _ (Array.mem_of_getElem? there)
  · split at found <;> cases found

theorem isScalar_of_contentWith {inner : Option (PartDecoder Value)} {trail : Trail}
    {value : Value} (plain : document.IsPlain)
    (read : document.contentWith inner trail position = .ok (value, after)) :
    value.IsScalar := by
  unfold contentWith at read
  obtain ⟨⟨event, mark⟩, found, read⟩ := exists_of_bind_eq_ok read
  have calm := isPlain_of_eventAt plain found
  have read := eq_ok_of_mapError read
  cases event with
  | nothing =>
    cases read
    trivial
  | scalar tag text style =>
    obtain ⟨rfl, rfl⟩ := calm
    dsimp only at read
    split at read
    · next result decoded =>
      cases read
      exact isScalar_of_plainValue (eq_ok_of_mapError decoded)
    · cases read
  | _ => exact calm.elim

theorem isScalar_of_content {depth : Nat} {trail : Trail} {value : Value}
    (plain : document.IsPlain)
    (read : document.content depth trail position = .ok (value, after)) : value.IsScalar := by
  cases depth with
  | zero => exact isScalar_of_contentWith plain read
  | succ depth => exact isScalar_of_contentWith plain read

theorem isScalar_of_throughAlias {depth : Nat} {trail : Trail} {value : Value}
    (plain : document.IsPlain)
    (read : document.throughAlias (document.content depth) trail position = .ok (value, after)) :
    value.IsScalar := by
  unfold throughAlias at read
  obtain ⟨⟨event, mark⟩, found, read⟩ := exists_of_bind_eq_ok read
  have calm := isPlain_of_eventAt plain found
  cases event with
  | nothing => exact isScalar_of_content plain read
  | scalar tag text style => exact isScalar_of_content plain read
  | _ => exact calm.elim

end Document

/-- A text without content has no value, or a value that holds no other. -/
theorem isScalar_of_decodeValue {text : List Char} {value : Value} (blank : HasBlankLines text)
    (read : decodeValue text = .ok value) : value.IsScalar := by
  have plain := isPlain_readDocument blank
  unfold decodeValue decodeWith at read
  generalize readDocument text = parsed at plain read
  obtain ⟨document, followed⟩ := parsed
  obtain ⟨⟨found, after⟩, content, read⟩ := exists_of_bind_eq_ok read
  dsimp only at read
  split at read
  · cases read
  · split at read
    · cases read
    · cases read
      exact Document.isScalar_of_throughAlias plain content

end AssetLint.Yaml
