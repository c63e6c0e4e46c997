import GraphCompletion.Proofs.Transparency

/-!
# Shared parses stay with their text

A parse that is shared with a session may be wrong. Even then the metadata of a request has the lines
of its own text, and entities that were either built from that text or shared for it since the session
was last invalidated. A slot outlives the parse that filled it, so the invariant ties both to the
history of what was shared.
-/
namespace GraphCompletion

open Yaml

namespace Metadata

/-- Where the metadata of a text comes from: its lines are the text's own, its entities are built from
the text or known from a parse of it, and its sections are sections that a root can have. -/
structure TracedTo (known : SharedParse → Prop) (text : Text) (metadata : Metadata) : Prop where
  lines : metadata.lines = Lines.ofText text
  entities : (∃ built, rebuilt text = .ok built ∧ metadata.entities = built.entities) ∨
    ∃ parse, known parse ∧ parse.text = text ∧ metadata.entities = parse.entities
  sections : ∀ name ∈ metadata.presentSections, name ∈ rootCollections

variable {known later : SharedParse → Prop} {text : Text} {metadata : Metadata}

theorem TracedTo.mono (traced : metadata.TracedTo known text) (kept : ∀ parse, known parse → later parse) :
    metadata.TracedTo later text where
  lines := traced.lines
  entities := traced.entities.imp_right fun ⟨parse, given, same⟩ => ⟨parse, kept parse given, same⟩
  sections := traced.sections

theorem mem_sectionsAmong {names : List Text} {name : Text} (member : name ∈ sectionsAmong names) :
    name ∈ rootCollections := by
  unfold sectionsAmong at member
  rw [Text.mem_sortedSet, List.mem_filter] at member
  simpa using member.2

/-- Whatever the document is, only names of sections are taken from it. -/
theorem mem_rootSections {lines : List Text} {document : Document} {name : Text}
    (member : name ∈ rootSections lines document) : name ∈ rootCollections := by
  unfold rootSections at member
  split at member
  · exact mem_sectionsAmong member
  · unfold keySections at member
    split at member
    · exact mem_sectionsAmong member
    · simp at member

theorem tracedTo_of_rebuilt (built : rebuilt text = .ok metadata) : metadata.TracedTo known text := by
  obtain ⟨document, same⟩ := eq_ofDocument_of_rebuilt built
  refine ⟨?_, .inl ⟨metadata, built, rfl⟩, ?_⟩
  · rw [same, ofDocument]
  · rw [same]
    exact fun name member => mem_rootSections member

theorem tracedTo_of_known {parse : SharedParse} (given : known parse)
    (built : build parse.text parse.entities parse.document = .ok metadata) :
    metadata.TracedTo known parse.text := by
  rw [eq_ofDocument_of_build built]
  exact ⟨rfl, .inr ⟨parse, given, rfl, rfl⟩, fun _ member => mem_rootSections member⟩

end Metadata

namespace Slot

variable {known : SharedParse → Prop} {slot found : Slot} {shared : Option SharedParse} {text : Text}
  {revision : Revision} {provenance : Provenance} {fault : Fault}

/-- Where no metadata is found, the text cannot be built from, or a shared parse of it has a key that
cannot be written out. -/
theorem of_resolve_error (failed : slot.resolve text revision shared = .error fault) :
    Metadata.rebuilt text = .error fault ∨
      ∃ parse, shared = some parse ∧ parse.text = text ∧
        Metadata.keyFault? parse.document = some fault := by
  unfold resolve at failed
  split at failed
  · cases failed
  split at failed
  next parse matched =>
    obtain ⟨given, sameText⟩ := Option.filter_eq_some_iff.1 matched
    refine .inr ⟨parse, given, by simpa using sameText, ?_⟩
    unfold Metadata.build at failed
    cases keys : Metadata.keyFault? parse.document with
    | none =>
      rw [keys] at failed
      cases failed
    | some other =>
      rw [keys] at failed
      cases failed
      rfl
  next =>
    refine .inl ?_
    unfold Metadata.rebuilt
    cases outcome : Metadata.ofText text with
    | error other =>
      rw [outcome] at failed
      cases failed
      rfl
    | ok pair =>
      rw [outcome] at failed
      cases failed

/-- A slot that is kept brings its metadata along, a new one takes it from the shared parse or builds
it. -/
theorem tracedTo_of_resolve (held : slot.metadata.TracedTo known slot.text)
    (given : ∀ parse, shared = some parse → known parse)
    (success : slot.resolve text revision shared = .ok (found, provenance)) :
    found.metadata.TracedTo known found.text := by
  rcases of_resolve_ok success with ⟨_, rfl⟩ | ⟨metadata, rfl, rebuilt | ⟨parse, present, rfl, built⟩⟩
  · exact held
  · exact Metadata.tracedTo_of_rebuilt rebuilt
  · exact Metadata.tracedTo_of_known (given parse present) built

end Slot

namespace Session

/-- The session once it has done what the commands ask for. -/
def afterAll (settings : Settings) (session : Session) (commands : List Command) : Session :=
  commands.foldl (fun session command => (session.run settings command).session) session

theorem getElem?_replies (settings : Settings) (session : Session) (commands : List Command)
    (position : Nat) :
    (session.replies settings commands)[position]? =
      commands[position]?.map
        ((session.afterAll settings (commands.take position)).run settings) := by
  induction commands generalizing session position with
  | nil => simp [replies]
  | cons command rest ih =>
    cases position with
    | zero => rfl
    | succ position =>
      rw [replies, List.getElem?_cons_succ, List.getElem?_cons_succ, ih]
      rfl

/-- The parses that may have left something in a session which is given one more command: an
invalidation forgets all of them, a shared parse is one more. -/
def knownAfter (known : SharedParse → Prop) : Command → SharedParse → Prop
  | .invalidate, _ => False
  | .share (some given), parse => known parse ∨ parse = given
  | _, parse => known parse

/-- What a session keeps goes back to texts and to known parses. -/
structure TracedTo (known : SharedParse → Prop) (session : Session) : Prop where
  slot : session.slot.metadata.TracedTo known session.slot.text
  shared : ∀ parse, session.shared = some parse → known parse

theorem slot_empty_traced (known : SharedParse → Prop) : Metadata.TracedTo known [] {} :=
  Metadata.tracedTo_of_rebuilt Metadata.rebuilt_nil

theorem tracedTo_start (indentSize : Option Int) (settings : Settings) (known : SharedParse → Prop) :
    (start indentSize settings).TracedTo known := by
  refine ⟨slot_empty_traced known, ?_⟩
  intro parse given
  simp [start] at given

variable {known : SharedParse → Prop} {session : Session}

/-- What is found for a request goes back to its text and to known parses. -/
theorem TracedTo.metadataFor (traced : session.TracedTo known) {request : CompletionRequest}
    {metadata : Metadata} (found : session.metadataFor request = .ok metadata) :
    metadata.TracedTo known request.caret.text := by
  unfold Session.metadataFor at found
  cases outcome : session.slot.resolve request.caret.text request.revision session.shared with
  | error fault =>
    rw [outcome] at found
    cases found
  | ok pair =>
    have held := Slot.tracedTo_of_resolve traced.slot traced.shared outcome
    rw [Slot.text_of_resolve outcome] at held
    rw [outcome] at found
    cases found
    exact held

/-- Metadata is refused only where none can be built, or where a known parse has a key that cannot be
written out. -/
theorem TracedTo.metadataFor_error (traced : session.TracedTo known) {request : CompletionRequest}
    {fault : Fault} (failed : session.metadataFor request = .error fault) :
    Metadata.rebuilt request.caret.text = .error fault ∨
      ∃ parse, known parse ∧ parse.text = request.caret.text ∧
        Metadata.keyFault? parse.document = some fault := by
  unfold Session.metadataFor at failed
  cases outcome : session.slot.resolve request.caret.text request.revision session.shared with
  | error other =>
    rw [outcome] at failed
    cases failed
    exact (Slot.of_resolve_error outcome).imp_right fun ⟨parse, present, sameText, tooLong⟩ =>
      ⟨parse, traced.shared parse present, sameText, tooLong⟩
  | ok pair =>
    rw [outcome] at failed
    cases failed

/-- One command leaves nothing behind but what was known before and is not forgotten. -/
theorem TracedTo.run (traced : session.TracedTo known) (settings : Settings) (command : Command) :
    (session.run settings command).session.TracedTo (knownAfter known command) := by
  cases command with
  | complete request =>
    simp only [Session.run, session_complete]
    cases outcome : session.slot.resolve request.caret.text request.revision session.shared with
    | error fault => exact traced
    | ok pair => exact ⟨Slot.tracedTo_of_resolve traced.slot traced.shared outcome, traced.shared⟩
  | press request =>
    simp only [Session.run, session_press]
    exact traced
  | invalidate => exact ⟨slot_empty_traced _, fun _ given => by cases given⟩
  | share parse =>
    cases parse with
    | none => exact ⟨traced.slot, fun _ given => by cases given⟩
    | some given =>
      refine ⟨traced.slot.mono fun _ => .inl, ?_⟩
      intro parse present
      exact .inr (Option.some.inj present).symm

/-- The parse was shared before a position of a run, and the session was not invalidated in between. -/
def SharedSince (commands : List Command) (position : Nat) (parse : SharedParse) : Prop :=
  ∃ i < position, commands[i]? = some (.share (some parse)) ∧
    ∀ j, i < j → j < position → commands[j]? ≠ some .invalidate

theorem sharedSince_of_knownAfter {commands : List Command} {position : Nat} {command : Command}
    {parse : SharedParse} (given : commands[position]? = some command)
    (known : knownAfter (SharedSince commands position) command parse) :
    SharedSince commands (position + 1) parse := by
  have earlier (other : command ≠ .invalidate) (since : SharedSince commands position parse) :
      SharedSince commands (position + 1) parse := by
    obtain ⟨i, before, shared, kept⟩ := since
    refine ⟨i, by omega, shared, fun j later bound => ?_⟩
    rcases Nat.lt_succ_iff_lt_or_eq.1 bound with inside | rfl
    · exact kept j later inside
    · simpa [given] using other
  cases command with
  | invalidate => exact known.elim
  | complete request => exact earlier (by simp) known
  | press request => exact earlier (by simp) known
  | share shared =>
    cases shared with
    | none => exact earlier (by simp) known
    | some shared =>
      rcases known with since | rfl
      · exact earlier (by simp) since
      · exact ⟨position, by omega, given, fun j later bound => by omega⟩

/-- At every position of a run the session keeps nothing but what was shared since it was last
invalidated and what it built itself. -/
theorem tracedTo_afterAll (settings : Settings) (indentSize : Option Int) {commands : List Command}
    {position : Nat} (bound : position ≤ commands.length) :
    ((start indentSize settings).afterAll settings (commands.take position)).TracedTo
      (SharedSince commands position) := by
  induction position with
  | zero => exact tracedTo_start indentSize settings _
  | succ position ih =>
    have given : commands[position]? = some commands[position] := List.getElem?_eq_getElem bound
    have step := (ih (by omega)).run settings commands[position]
    rw [List.take_add_one, given, afterAll, List.foldl_append]
    exact ⟨step.slot.mono fun _ => sharedSince_of_knownAfter given,
      fun parse present => sharedSince_of_knownAfter given (step.shared parse present)⟩

/-- In every run of a session, whatever parses are shared with it, each request for completions is
answered from metadata that has the lines of the request's text and only sections of a root, with
entities built from that text or shared for it since the last invalidation. It is refused metadata
only where none can be built, or where a parse that was shared for it so has a key too long to be
written out. -/
theorem metadata_stays_with_text (settings : Settings) (indentSize : Option Int)
    (commands : List Command) (position : Nat) (request : CompletionRequest)
    (asked : commands[position]? = some (.complete request)) :
    let before := (start indentSize settings).afterAll settings (commands.take position)
    (((start indentSize settings).replies settings commands)[position]?).map (·.answer) =
        some (answerFrom settings before.indentSize request (before.metadataFor request)) ∧
      (∀ fault, before.metadataFor request = .error fault →
        Metadata.rebuilt request.caret.text = .error fault ∨
          ∃ parse, SharedSince commands position parse ∧ parse.text = request.caret.text ∧
            Metadata.keyFault? parse.document = some fault) ∧
      ∀ metadata, before.metadataFor request = .ok metadata →
        metadata.TracedTo (SharedSince commands position) request.caret.text := by
  intro before
  have bound : position < commands.length := (List.getElem?_eq_some_iff.1 asked).1
  have traced := tracedTo_afterAll settings indentSize (Nat.le_of_lt bound)
  refine ⟨?_, fun _ => traced.metadataFor_error, fun _ => traced.metadataFor⟩
  rw [getElem?_replies, asked, Option.map_some, Option.map_some, ← complete_answer]
  rfl

/-- After an invalidation the same request of the same revision no longer sees the wrong names that
were shared and kept before. -/
theorem metadata_rebuilt_after_invalidation :
    let wrong : SharedParse := ⟨"nodes: []".toList, ⟨["ghost".toList], []⟩, .null⟩
    let request : CompletionRequest := { caret := ⟨wrong.text, 1, 1⟩, revision := .number 1 }
    let commands : List Command := [.share (some wrong), .complete request, .invalidate, .complete request]
    let before := (start none {}).afterAll {} (commands.take 3)
    commands[3]? = some (.complete request) ∧
      ∃ metadata built, before.metadataFor request = .ok metadata ∧
        Metadata.rebuilt request.caret.text = .ok built ∧ metadata.entities = built.entities := by
  intro wrong request commands before
  have found := (metadata_stays_with_text {} none commands 3 request rfl).2.2
  refine ⟨rfl, ?_⟩
  have loaded : (before.metadataFor request).toOption.isSome = true := by decide +kernel
  obtain ⟨metadata, given⟩ := Option.isSome_iff_exists.1 loaded
  have given := eq_ok_of_toOption given
  rcases (found metadata given).entities with ⟨built, rebuilt, same⟩ | ⟨parse, since, _⟩
  · exact ⟨metadata, built, given, rebuilt, same⟩
  · obtain ⟨i, inside, shared, kept⟩ := since
    -- The one parse was shared first, and the invalidation stands between it and the request.
    have first : i = 0 := by
      by_contra later
      have place : i = 1 ∨ i = 2 := by omega
      rcases place with rfl | rfl <;> simp [commands] at shared
    exact absurd rfl (kept 2 (by omega) (by omega))

end Session
end GraphCompletion
