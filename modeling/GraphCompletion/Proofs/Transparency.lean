import GraphCompletion.Session
import Mathlib.Data.List.Forall2

/-!
# Sessions answer as if they kept nothing

The slot and the shared parse save work and never show in an answer. Whatever commands a session has
served, it answers a request for completions as a fresh session of the same indentation does: its slot
holds what rebuilding the slot's own text gives, also when it came from an honest shared parse, and the
first slot, which no text was read for, is that of the empty text.
-/
namespace GraphCompletion

namespace Yaml

/-- Two cells hold the same, where `same` relates the cells that they refer to. -/
inductive Cell.Alike (same : Nat → Nat → Prop) : Cell → Cell → Prop
  | scalar (value : Scalar) : Alike same (.scalar value) (.scalar value)
  | sequence {items others : List Nat} (paired : List.Forall₂ same items others) :
      Alike same (.sequence items) (.sequence others)
  | mapping {entries others : List (Nat × Nat)}
      (paired : List.Forall₂ (fun entry other => same entry.1 other.1 ∧ same entry.2 other.2)
        entries others) :
      Alike same (.mapping entries) (.mapping others)
  | members {keys others : List Nat} (paired : List.Forall₂ same keys others) :
      Alike same (.members keys) (.members others)
  | pairs {entries others : List (Nat × Nat)}
      (paired : List.Forall₂ (fun entry other => same entry.1 other.1 ∧ same entry.2 other.2)
        entries others) :
      Alike same (.pairs entries) (.pairs others)

namespace Document

/-- Two documents have one value, however their cells are numbered. -/
def Alike (d e : Document) : Prop :=
  ∃ same : Nat → Nat → Prop, same d.root e.root ∧
    ∀ id other, same id other → (d.cell id).Alike same (e.cell other)

theorem Alike.refl (d : Document) : d.Alike d := by
  refine ⟨Eq, rfl, ?_⟩
  rintro id _ rfl
  cases d.cell id with
  | scalar value => exact .scalar value
  | sequence items => exact .sequence (List.forall₂_refl items)
  | mapping entries => exact .mapping (List.forall₂_same.2 fun _ _ => ⟨rfl, rfl⟩)
  | members keys => exact .members (List.forall₂_refl keys)
  | pairs entries => exact .pairs (List.forall₂_same.2 fun _ _ => ⟨rfl, rfl⟩)

theorem text?_eq_of_alike {d e : Document} {same : Nat → Nat → Prop} {id other : Nat}
    (cells : (d.cell id).Alike same (e.cell other)) : d.text? id = e.text? other := by
  unfold text?
  generalize d.cell id = cell, e.cell other = cell' at cells
  cases cells <;> rfl

theorem isWritable_eq_of_alike {d e : Document} {same : Nat → Nat → Prop} {id other : Nat}
    (cells : (d.cell id).Alike same (e.cell other)) : d.isWritable id = e.isWritable other := by
  unfold isWritable
  generalize d.cell id = cell, e.cell other = cell' at cells
  cases cells <;> rfl

end Document
end Yaml

open Yaml

/-- A result that is known as an option is known; errors cannot be compared. -/
theorem eq_ok_of_toOption {ε α : Type} {outcome : Except ε α} {value : α}
    (given : outcome.toOption = some value) : outcome = .ok value := by
  cases outcome with
  | error failure => simp [Except.toOption] at given
  | ok found => simpa [Except.toOption] using given

/-- A document without a mapping has no names and no ports. -/
theorem Entities.ofDocument_null : ofDocument .null = {} := by
  have outermost : graphs .null = [] := by
    unfold graphs
    rw [reach, dif_pos (by decide), reach]
  unfold ofDocument
  rw [outermost]
  rfl

namespace Metadata

/-- What is read off the keys of two mappings agrees if it agrees on the cells that are the same. -/
theorem map_keys_eq_of_paired {α : Type} {same : Nat → Nat → Prop} {read read' : Nat → α}
    (agrees : ∀ id other, same id other → read id = read' other) {entries others : List (Nat × Nat)}
    (paired : List.Forall₂ (fun entry other => same entry.1 other.1 ∧ same entry.2 other.2)
      entries others) :
    entries.map (fun entry => read entry.1) = others.map fun entry => read' entry.1 := by
  have equal : List.Forall₂ Eq (entries.map fun entry => read entry.1)
      (others.map fun entry => read' entry.1) :=
    List.forall₂_map_left_iff.2 (List.forall₂_map_right_iff.2
      (paired.imp fun _ _ pair => agrees _ _ pair.1))
  rwa [List.forall₂_eq_eq_eq] at equal

/-- The sections at the root are read from the value of a document alone. -/
theorem keySections_eq_of_alike {d e : Document} (alike : d.Alike e) :
    keySections d = keySections e := by
  obtain ⟨same, roots, cells⟩ := alike
  have texts (id other : Nat) (pair : same id other) : d.text? id = e.text? other :=
    Document.text?_eq_of_alike (cells id other pair)
  have rootCells := cells _ _ roots
  unfold keySections
  generalize d.cell d.root = cell, e.cell e.root = cell' at rootCells
  cases rootCells with
  | @mapping entries others paired =>
    have names := congrArg (List.filterMap id) (map_keys_eq_of_paired texts paired)
    rw [List.filterMap_map, List.filterMap_map] at names
    exact congrArg sectionsAmong names
  | scalar | sequence | members | pairs => rfl

theorem keyFault?_eq_of_alike {d e : Document} (alike : d.Alike e) : keyFault? d = keyFault? e := by
  obtain ⟨same, roots, cells⟩ := alike
  have written (id other : Nat) (pair : same id other) : d.isWritable id = e.isWritable other :=
    Document.isWritable_eq_of_alike (cells id other pair)
  have rootCells := cells _ _ roots
  unfold keyFault?
  generalize d.cell d.root = cell, e.cell e.root = cell' at rootCells
  cases rootCells with
  | @mapping entries others paired =>
    have all := congrArg (List.all · id) (map_keys_eq_of_paired written paired)
    rw [List.all_map, List.all_map] at all
    exact congrArg (fun writable : Bool => if writable then none else some Fault.keyTooLong) all
  | scalar | sequence | members | pairs => rfl

theorem build_eq_of_alike (text : Text) (entities : Entities) {d e : Document} (alike : d.Alike e) :
    build text entities d = build text entities e := by
  simp only [build, ofDocument, rootSections, keyFault?_eq_of_alike alike,
    keySections_eq_of_alike alike]

/-- The metadata that building from a text gives, whether or not the document could be loaded. -/
def rebuilt (text : Text) : Except Fault Metadata := (ofText text).map (·.1)

theorem rebuilt_eq (text : Text) :
    rebuilt text = match loadGraph text with
      | .ok document => build text (.ofDocument document) document
      | .error (.invalid _) => build text {} .null
      | .error (.other fault) => .error fault := by
  unfold rebuilt ofText
  cases loadGraph text with
  | ok document =>
    simp only
    cases build text (.ofDocument document) document <;> rfl
  | error failure =>
    cases failure with
    | invalid fault => rfl
    | other fault => rfl

theorem eq_ofDocument_of_build {text : Text} {entities : Entities} {document : Document}
    {metadata : Metadata} (built : build text entities document = .ok metadata) :
    metadata = ofDocument text entities document := by
  unfold build at built
  split at built
  · cases built
  · exact (Except.ok.inj built).symm

/-- What is built is the metadata of a document; an invalid text counts as an empty one. -/
theorem eq_ofDocument_of_rebuilt {text : Text} {metadata : Metadata}
    (built : rebuilt text = .ok metadata) :
    ∃ document, metadata = ofDocument text (.ofDocument document) document := by
  rw [rebuilt_eq] at built
  split at built
  next document _ => exact ⟨document, eq_ofDocument_of_build built⟩
  next =>
    refine ⟨.null, ?_⟩
    rw [Entities.ofDocument_null]
    exact eq_ofDocument_of_build built
  next => cases built

/-- The empty text loads as null, and its metadata is that of the first slot. -/
theorem rebuilt_nil : rebuilt [] = .ok {} := by
  have loaded : loadGraph [] = .ok .null := eq_ok_of_toOption (by decide)
  have metadata : ofDocument [] {} .null = {} := by decide
  have built : rebuilt [] = .ok (ofDocument [] (.ofDocument .null) .null) := by
    rw [rebuilt_eq, loaded]
    rfl
  rw [built, Entities.ofDocument_null, metadata]

end Metadata

/-- A shared parse is what loading its own text gives: the document with its entities, or null and
no entities when the text is no valid document. -/
inductive SharedParse.Honest : SharedParse → Prop
  | valid {text : Text} {document shared : Document} (loaded : loadGraph text = .ok document)
      (alike : shared.Alike document) : Honest ⟨text, .ofDocument document, shared⟩
  | invalid {text : Text} {fault : Fault} {shared : Document}
      (loaded : loadGraph text = .error (.invalid fault)) (alike : shared.Alike .null) :
      Honest ⟨text, {}, shared⟩

theorem SharedParse.honest_of_load {text : Text} {document : Document}
    (loaded : (loadGraph text).toOption = some document) :
    Honest ⟨text, .ofDocument document, document⟩ :=
  .valid (eq_ok_of_toOption loaded) (Document.Alike.refl document)

/-- An honest parse gives what building from its text gives, the fault of a key included. -/
theorem SharedParse.Honest.rebuilt_eq {parse : SharedParse} (honest : parse.Honest) :
    Metadata.rebuilt parse.text = Metadata.build parse.text parse.entities parse.document := by
  cases honest with
  | valid loaded alike => rw [Metadata.rebuilt_eq, loaded, Metadata.build_eq_of_alike _ _ alike]
  | invalid loaded alike => rw [Metadata.rebuilt_eq, loaded, Metadata.build_eq_of_alike _ _ alike]

namespace Slot

/-- The slot holds what building the metadata of its own text gives. -/
def Faithful (slot : Slot) : Prop := Metadata.rebuilt slot.text = .ok slot.metadata

theorem faithful_empty : Faithful {} := Metadata.rebuilt_nil

variable {slot found : Slot} {shared : Option SharedParse} {text : Text} {revision : Revision}
  {provenance : Provenance}

/-- A slot is kept as it is, filled from the shared parse, or built anew. -/
theorem of_resolve_ok (success : slot.resolve text revision shared = .ok (found, provenance)) :
    (slot.text = text ∧ found = slot) ∨
      ∃ metadata, found = ⟨revision, text, metadata⟩ ∧
        (Metadata.rebuilt text = .ok metadata ∨
          ∃ parse, shared = some parse ∧ parse.text = text ∧
            Metadata.build text parse.entities parse.document = .ok metadata) := by
  unfold resolve at success
  split at success
  next kept =>
    cases success
    exact .inl ⟨kept.2, rfl⟩
  next =>
    refine .inr ?_
    split at success
    next parse matched =>
      obtain ⟨given, sameText⟩ := Option.filter_eq_some_iff.1 matched
      cases built : Metadata.build text parse.entities parse.document with
      | error fault =>
        rw [built] at success
        cases success
      | ok metadata =>
        rw [built] at success
        cases success
        exact ⟨metadata, rfl, .inr ⟨parse, given, by simpa using sameText, built⟩⟩
    next =>
      cases built : Metadata.ofText text with
      | error fault =>
        rw [built] at success
        cases success
      | ok pair =>
        rw [built] at success
        cases success
        exact ⟨pair.1, rfl, .inl (congrArg (Except.map Prod.fst) built)⟩

theorem text_of_resolve (success : slot.resolve text revision shared = .ok (found, provenance)) :
    found.text = text := by
  rcases of_resolve_ok success with ⟨same, rfl⟩ | ⟨_, rfl, _⟩
  · exact same
  · rfl

/-- A slot that is kept, one filled from an honest parse and one built anew hold the same metadata,
and where building fails there is none. -/
theorem metadata_of_resolve (faithful : slot.Faithful)
    (honest : ∀ parse, shared = some parse → parse.Honest) (text : Text) (revision : Revision) :
    (slot.resolve text revision shared).map (·.1.metadata) = Metadata.rebuilt text := by
  unfold resolve
  split
  next kept =>
    rw [← kept.2]
    exact faithful.symm
  next =>
    split
    next parse given =>
      obtain ⟨given, sameText⟩ := Option.filter_eq_some_iff.1 given
      have sameText : parse.text = text := by simpa using sameText
      rw [← sameText, (honest parse given).rebuilt_eq]
      cases Metadata.build parse.text parse.entities parse.document <;> rfl
    next =>
      unfold Metadata.rebuilt
      cases Metadata.ofText text <;> rfl

theorem faithful_of_resolve (faithful : slot.Faithful)
    (honest : ∀ parse, shared = some parse → parse.Honest)
    (success : slot.resolve text revision shared = .ok (found, provenance)) : found.Faithful := by
  have rebuilt := metadata_of_resolve faithful honest text revision
  rw [success] at rebuilt
  unfold Faithful
  rw [text_of_resolve success]
  exact rebuilt.symm

end Slot

namespace Session

/-- The metadata that a session finds for a request. -/
def metadataFor (session : Session) (request : CompletionRequest) : Except Fault Metadata :=
  (session.slot.resolve request.caret.text request.revision session.shared).map (·.1.metadata)

/-- The answer to a request from the metadata found for it. -/
def answerFrom (settings : Settings) (indentSize : Int) (request : CompletionRequest) :
    Except Fault Metadata → Except SessionError Answer
  | .error fault => .error (.document fault)
  | .ok metadata =>
    match request.answer metadata settings indentSize with
    | .error error => .error (.catalog error)
    | .ok response => .ok (.completions response)

theorem complete_answer (session : Session) (request : CompletionRequest) (settings : Settings) :
    (session.complete request settings).answer =
      answerFrom settings session.indentSize request (session.metadataFor request) := by
  unfold complete metadataFor
  cases session.slot.resolve request.caret.text request.revision session.shared with
  | error fault => rfl
  | ok pair =>
    simp only [Except.map, answerFrom]
    cases request.answer pair.1.metadata settings session.indentSize <;> rfl

/-- What a session keeps is what it could build again. -/
structure Faithful (session : Session) : Prop where
  slot : session.slot.Faithful
  shared : ∀ parse, session.shared = some parse → parse.Honest

theorem faithful_start (indentSize : Option Int) (settings : Settings) :
    (start indentSize settings).Faithful := by
  refine ⟨Slot.faithful_empty, ?_⟩
  intro parse given
  simp [start] at given

/-- A request is answered from metadata built for it alone. -/
theorem Faithful.answer_eq_rebuilt {session : Session} (faithful : session.Faithful)
    (request : CompletionRequest) (settings : Settings) :
    (session.complete request settings).answer =
      answerFrom settings session.indentSize request (Metadata.rebuilt request.caret.text) := by
  rw [complete_answer, metadataFor, Slot.metadata_of_resolve faithful.slot faithful.shared]

/-- A request for completions changes nothing but the slot, and nothing at all if its document
cannot be built from. -/
theorem session_complete (session : Session) (request : CompletionRequest) (settings : Settings) :
    (session.complete request settings).session =
      match session.slot.resolve request.caret.text request.revision session.shared with
      | .error _ => session
      | .ok (slot, _) => { session with slot } := by
  unfold complete
  cases session.slot.resolve request.caret.text request.revision session.shared with
  | error fault => rfl
  | ok pair =>
    simp only
    cases request.answer pair.1.metadata settings session.indentSize <;> rfl

theorem session_press (session : Session) (request : KeyPressRequest) :
    (session.press request).session = session := by
  unfold press
  cases request.answer session.indentSize <;> rfl

/-- One command keeps the indentation, and the session can still build again what it keeps. -/
theorem Faithful.run {session : Session} (faithful : session.Faithful) (settings : Settings)
    (command : Command) (honest : ∀ parse, command = .share (some parse) → parse.Honest) :
    (session.run settings command).session.Faithful ∧
      (session.run settings command).session.indentSize = session.indentSize := by
  cases command with
  | complete request =>
    simp only [Session.run, session_complete]
    cases resolved : session.slot.resolve request.caret.text request.revision session.shared with
    | error fault => exact ⟨faithful, rfl⟩
    | ok pair =>
      have held := Slot.faithful_of_resolve faithful.slot faithful.shared resolved
      exact ⟨⟨held, faithful.shared⟩, rfl⟩
  | press request =>
    simpa only [Session.run, session_press, and_true] using faithful
  | invalidate => exact ⟨⟨Slot.faithful_empty, by simp [Session.run]⟩, rfl⟩
  | share parse =>
    refine ⟨⟨faithful.slot, ?_⟩, rfl⟩
    rintro given rfl
    exact honest given rfl

/-- The replies to commands that are given one after the other. -/
def replies (settings : Settings) : Session → List Command → List Reply
  | _, [] => []
  | session, command :: rest =>
    let reply := session.run settings command
    reply :: replies settings reply.session rest

/-- Every request for completions in a run is answered from metadata built for it alone. -/
theorem Faithful.replies_answer {settings : Settings} {commands : List Command} {position : Nat}
    {request : CompletionRequest} {session : Session} (faithful : session.Faithful)
    (honest : ∀ parse, .share (some parse) ∈ commands → parse.Honest)
    (asked : commands[position]? = some (.complete request)) :
    ((session.replies settings commands)[position]?).map (·.answer) =
      some (answerFrom settings session.indentSize request (Metadata.rebuilt request.caret.text)) := by
  induction commands generalizing session position with
  | nil => simp at asked
  | cons command rest ih =>
    cases position with
    | zero =>
      simp only [List.getElem?_cons_zero, Option.some.injEq] at asked
      subst asked
      simp only [replies, List.getElem?_cons_zero, Option.map_some, Session.run,
        faithful.answer_eq_rebuilt]
    | succ position =>
      have step := faithful.run settings command
        fun parse same => honest parse (by simp [same])
      have later := ih step.1 (fun parse member => honest parse (List.mem_cons_of_mem _ member))
        (by simpa using asked)
      rw [step.2] at later
      simpa only [replies, List.getElem?_cons_succ] using later

/-- In every run of a session, under one setting and with honest parses only, each request for
completions is answered, or fails, as on a fresh session that is asked nothing else. -/
theorem answer_eq_fresh (settings : Settings) (indentSize : Option Int) (commands : List Command)
    (honest : ∀ parse, .share (some parse) ∈ commands → parse.Honest) (position : Nat)
    (request : CompletionRequest) (asked : commands[position]? = some (.complete request)) :
    (((start indentSize settings).replies settings commands)[position]?).map (·.answer) =
      some ((start indentSize settings).complete request settings).answer := by
  have fresh := faithful_start indentSize settings
  rw [fresh.replies_answer honest asked, fresh.answer_eq_rebuilt]

/-- A shared document, a request that is served from it, and one of the same revision for a text
that nothing is kept of. -/
theorem answer_eq_fresh_after_shared_parse :
    let document : Document := ⟨#[.mapping [(1, 2)], .scalar (.text "nodes".toList), .sequence []], 0⟩
    let parse : SharedParse := ⟨"nodes: []".toList, .ofDocument document, document⟩
    let first : CompletionRequest := { caret := ⟨parse.text, 1, 1⟩, revision := .number 1 }
    let second : CompletionRequest :=
      { caret := ⟨"links:\n  - from: ".toList, 2, 11⟩, revision := .number 1 }
    let commands : List Command := [.share (some parse), .complete first, .complete second]
    parse.Honest ∧ (((start none {}).replies {} commands)[2]?).map (·.answer) =
      some ((start none {}).complete second {}).answer := by
  intro document parse first second commands
  have honest : parse.Honest := SharedParse.honest_of_load <| by
    subst document
    decide +kernel
  refine ⟨honest, answer_eq_fresh {} none commands ?_ 2 second rfl⟩
  intro given member
  have same : given = parse := by simpa [commands] using member
  rw [same]
  exact honest

end Session

end GraphCompletion
