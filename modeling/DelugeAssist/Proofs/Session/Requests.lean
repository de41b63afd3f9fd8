-- The requests. Each that is let through is answered, never refused, and leaves the session as it
-- was. What the answer is and what is told goes by the settings, by the stored document and by what
-- stands at the place asked for.

import DelugeAssist.Proofs.Session.Gate

namespace DelugeAssist

/-! ## The parameters of a request -/

/-- The parameters of a request at a place, as an editor sends them. -/
def Params.Spot.toJson (spot : Params.Spot) : Json :=
  .obj [("position", spot.position.toJson), ("textDocument", .obj [("uri", .str spot.uri)])]

theorem Width.holdsUnsigned_of_lt {bits n : Nat} (h : n < values bits) :
    holdsUnsigned bits n = true := by
  simp only [holdsUnsigned, Bool.and_eq_true, decide_eq_true_iff]
  exact ⟨Int.natCast_nonneg n, Int.ofNat_lt.mpr h⟩

theorem Json.readU32_int {n : Nat} (h : n < Width.values 32) : (Json.int n).readU32 = .ok n := by
  rw [readU32, readInt, if_pos (Width.holdsUnsigned_of_lt h)]
  rfl

theorem Position.ofJson_toJson {position : Position} (setAside : Bool)
    (hline : position.line < Width.values 32) (hcharacter : position.character < Width.values 32) :
    ofJson setAside position.toJson = .ok position := by
  apply Json.readRecord_of_build
  rw [Record.field_of_read rfl (Json.readU32_int hline),
    Record.field_of_read rfl (Json.readU32_int hcharacter)]
  rfl

namespace Params

variable {spot : Spot}

theorem readDocument_uri {uri : String} (h : Uri.read uri = .ok uri) :
    readDocument (.obj [("uri", .str uri)]) = .ok uri := by
  apply Json.readRecord_of_build
  exact Record.field_of_read rfl h

theorem readSpot_toJson (huri : Uri.read spot.uri = .ok spot.uri)
    (hline : spot.position.line < Width.values 32)
    (hcharacter : spot.position.character < Width.values 32) :
    readSpot [("position", spot.position.toJson),
      ("textDocument", .obj [("uri", .str spot.uri)])] = .ok spot := by
  simp only [readSpot, Json.readPart, Record.read]
  rw [Record.field_of_read rfl (readDocument_uri huri),
    Record.field_of_read rfl (Position.ofJson_toJson true hline hcharacter)]
  rfl

/-- A place in any document can be asked for. -/
theorem read_toJson (huri : Uri.read spot.uri = .ok spot.uri)
    (hline : spot.position.line < Width.values 32)
    (hcharacter : spot.position.character < Width.values 32) :
    readCompletion spot.toJson = .ok spot ∧ readHover spot.toJson = .ok spot := by
  have hread := readSpot_toJson huri hline hcharacter
  constructor
  · simp only [readCompletion, inParts, Spot.toJson, hread]
    rfl
  · simp only [readHover, inParts, Spot.toJson, hread]
    rfl

end Params

/-- A word has documentation just if it is one of the documented words. -/
theorem Documentation.of?_eq_none_iff {word : String} : of? word = none ↔ word ∉ words := by
  simp only [of?, words, Option.map_eq_none_iff, List.find?_eq_none, List.mem_map, not_exists,
    not_and, beq_iff_eq]

/-! ## The server's part -/

namespace Server

variable {server : Server} {spot : Params.Spot}

/-- What the editor is told where the document of a request is not to be had: that its identifier is
no address, or that no document is open there. -/
def missing? (server : Server) (uri : String) : Option String :=
  match Url.parse uri with
  | .error _ => some ("Invalid URI: " ++ uri)
  | .ok url =>
    match server.documents.get? url.key with
    | none => some ("Document not found: " ++ uri)
    | some _ => none

theorem document_cases (server : Server) (uri : String) :
    (∃ error, server.document uri = .error error ∧ server.missing? uri = some error.message) ∨
      ∃ document, server.document uri = .ok document ∧ server.missing? uri = none := by
  unfold document keyOf missing?
  rcases Url.parse uri with failure | url
  · exact .inl ⟨.invalidUri uri, rfl, rfl⟩
  · simp only [bind, Except.bind]
    rcases server.documents.get? url.key with _ | document
    · exact .inl ⟨.documentNotFound uri, rfl, rfl⟩
    · exact .inr ⟨document, rfl, rfl⟩

/-- A completion without a document is an empty answer and one line of the log. -/
theorem completion_of_missing {told : String} (h : server.missing? spot.uri = some told) :
    server.completion spot = (none, [⟨.trace, told⟩]) := by
  rcases document_cases server spot.uri with ⟨error, herror, hmissing⟩ | ⟨document, -, hmissing⟩
  · obtain rfl := Option.some.inj (h.symm.trans hmissing)
    simp only [completion, herror]
  · rw [hmissing] at h
    cases h

/-- There is no list just where the words of the language are asked for and switched off. -/
theorem completion_of_document {document : Document}
    (h : server.document spot.uri = .ok document) :
    (server.completion spot).2 = [] ∧
      ((server.completion spot).1 = none ↔
        Trigger.ofText ((document.text.lineBefore? spot.position).getD []) = .generic ∧
          server.settings.genericCompletions = false) := by
  simp only [completion, h, true_and, Completion.items]
  cases Trigger.ofText ((document.text.lineBefore? spot.position).getD []) with
  | generic => cases hgeneric : server.settings.genericCompletions <;>
      simp [Completion.ofTrigger, completionOptions, hgeneric]
  | _ => simp [Completion.ofTrigger]

theorem log_hover (server : Server) (spot : Params.Spot) :
    (server.hover spot).2 =
      if server.settings.hover then ((server.missing? spot.uri).map (⟨.trace, ·⟩)).toList
      else [] := by
  unfold hover
  split
  · rcases document_cases server spot.uri with ⟨error, herror, hmissing⟩ |
      ⟨document, hdocument, hmissing⟩
    · simp [herror, hmissing]
    · simp only [hdocument, hmissing]
      split
      · rfl
      · rfl
  · rfl

/-- Something is shown just for a documented word of an open document, unless that is switched
off. -/
theorem hover_ne_none_iff :
    (server.hover spot).1 ≠ none ↔ server.settings.hover = true ∧
      ∃ document word, server.document spot.uri = .ok document ∧
        document.text.wordAt? spot.position = some word ∧
        String.ofList word.text ∈ Documentation.words := by
  unfold hover
  split
  · rename_i hon
    rcases hdocument : server.document spot.uri with error | document
    · simp
    · rcases hword : document.text.wordAt? spot.position with _ | word
      · simp [hon, hword]
      · simp [hon, hword, Hover.ofWord?, Documentation.of?_eq_none_iff]
  · rename_i hoff
    simp [hoff]

end Server

/-! ## The session's part -/

theorem Completion.toJson_eq_null {items : Option (List Item)} :
    toJson items = .null ↔ items = none := by
  cases items <;> simp [toJson]

namespace Session

variable {session : Session} {message : Message} {call : Server.Call} {spot : Params.Spot}

theorem answerJson_hover_eq_null {hover : Option Hover} :
    answerJson (.hover hover) = .null ↔ hover = none := by
  cases hover <;> simp [answerJson, Hover.toJson]

/-- A request carries an identifier, and is answered under it. The session stays as it was. -/
theorem receive_of_request (surroundings : Surroundings) (h : session.call? message = some call)
    (hspot : call.spot? = some spot) :
    ∃ id, message.id = some id ∧
      session.receive surroundings message =
        let effect := session.server.handle surroundings call
        { session, response := some ⟨id, .ok (answerJson effect.answer)⟩, log := effect.log } := by
  have hreceive := receive_of_call surroundings h
  obtain ⟨hasked, hphase⟩ := call?_eq_some.mp h
  obtain ⟨params, -, hasked⟩ := Message.call?_eq_some.mp hasked
  have hid : message.id.isSome = true := by
    rcases hasked with ⟨-, hid, -⟩ | ⟨-, -, hid, -⟩ | ⟨method, -, -, hmade⟩
    · exact hid
    · exact hid
    · simp [(NoticeMethod.call?_spec hmade).2] at hspot
  obtain ⟨id, hid⟩ := Option.isSome_iff_exists.mp hid
  refine ⟨id, hid, ?_⟩
  rw [hreceive, perform, respond, hid]
  have hserver : (session.server.handle surroundings call).server = session.server := by
    cases call with
    | completion | hover => rfl
    | _ => cases hspot
  have hrunning : session.phase = .running := by
    cases call with
    | completion | hover => exact hphase
    | _ => cases hspot
  congr 1
  exact Session.ext hrunning.symm hserver

/-- Any place in any document can be asked about while a session runs. -/
theorem call?_request (hphase : session.phase = .running) (id : Json)
    (huri : Uri.read spot.uri = .ok spot.uri) (hline : spot.position.line < Width.values 32)
    (hcharacter : spot.position.character < Width.values 32) :
    session.call? ⟨"textDocument/completion", some spot.toJson, some id⟩ =
        some (.completion spot) ∧
      session.call? ⟨"textDocument/hover", some spot.toJson, some id⟩ = some (.hover spot) := by
  obtain ⟨hcompletion, hhover⟩ := Params.read_toJson huri hline hcharacter
  constructor
  · refine call?_eq_some.mpr ⟨Message.call?_eq_some.mpr ⟨_, rfl, .inr (.inl ?_)⟩, hphase⟩
    exact ⟨.completion, rfl, rfl,
      RequestMethod.call_eq_ok.mpr (.inl ⟨rfl, spot, hcompletion, rfl⟩)⟩
  · refine call?_eq_some.mpr ⟨Message.call?_eq_some.mpr ⟨_, rfl, .inr (.inl ?_)⟩, hphase⟩
    exact ⟨.hover, rfl, rfl, RequestMethod.call_eq_ok.mpr (.inr ⟨rfl, spot, hhover, rfl⟩)⟩

/-- A request that gets through is answered, never refused, and leaves the session as it was. A
completion without a document is answered null with one line of the log. With one it tells nothing,
and is answered null just where the text left of the place asks for words of the language and these
are switched off. A hover is answered with something just if hovers are on and a documented word of
an open document stands at the place; a document that is missing is told then, and nothing else ever
is. In a session that runs, a request about any place in any document gets through. -/
theorem requests_are_answered_and_change_nothing (surroundings : Surroundings) (session : Session)
    (spot : Params.Spot) :
    let server := session.server
    let missing := (server.missing? spot.uri).map (LogLine.mk .trace)
    (∀ message, session.call? message = some (.completion spot) →
      ∃ id result, message.id = some id ∧
        session.receive surroundings message =
          { session, response := some ⟨id, .ok result⟩, log := missing.toList } ∧
        (result = .null ↔ missing.isSome = true ∨
          ∃ document, server.document spot.uri = .ok document ∧
            Trigger.ofText ((document.text.lineBefore? spot.position).getD []) = .generic ∧
            server.settings.genericCompletions = false)) ∧
    (∀ message, session.call? message = some (.hover spot) →
      ∃ id result, message.id = some id ∧
        session.receive surroundings message =
          { session
            response := some ⟨id, .ok result⟩
            log := if server.settings.hover then missing.toList else [] } ∧
        (result ≠ .null ↔ server.settings.hover = true ∧
          ∃ document word, server.document spot.uri = .ok document ∧
            document.text.wordAt? spot.position = some word ∧
            String.ofList word.text ∈ Documentation.words)) ∧
    (session.phase = .running → Uri.read spot.uri = .ok spot.uri →
      spot.position.line < Width.values 32 → spot.position.character < Width.values 32 → ∀ id,
        session.call? ⟨"textDocument/completion", some spot.toJson, some id⟩ =
            some (.completion spot) ∧
          session.call? ⟨"textDocument/hover", some spot.toJson, some id⟩ =
            some (.hover spot)) := by
  intro server missing
  refine ⟨?_, ?_, ?_⟩
  · intro message hcall
    obtain ⟨id, hid, hreceive⟩ := receive_of_request surroundings hcall rfl
    refine ⟨id, Completion.toJson (server.completion spot).1, hid, ?_⟩
    rw [Completion.toJson_eq_null]
    rcases Server.document_cases server spot.uri with ⟨error, herror, hmissing⟩ |
      ⟨document, hdocument, hmissing⟩
    · have hanswer := Server.completion_of_missing hmissing
      have htold : missing = some ⟨.trace, error.message⟩ := by simp [missing, server, hmissing]
      refine ⟨hreceive.trans ?_, by simp [hanswer, htold]⟩
      simp [Server.handle, server, hanswer, htold, answerJson]
    · have ⟨hlog, hanswer⟩ := Server.completion_of_document hdocument
      have htold : missing = none := by simp [missing, server, hmissing]
      refine ⟨hreceive.trans ?_, by simp [hanswer, htold, hdocument]⟩
      simp only [Server.handle, htold, answerJson, server, Reaction.mk.injEq, true_and]
      exact hlog
  · intro message hcall
    obtain ⟨id, hid, hreceive⟩ := receive_of_request surroundings hcall rfl
    refine ⟨id, answerJson (.hover (server.hover spot).1), hid, ?_, ?_⟩
    · exact hreceive.trans (by rw [← Server.log_hover]; rfl)
    · rw [Ne, answerJson_hover_eq_null]
      exact Server.hover_ne_none_iff
  · intro hphase huri hline hcharacter id
    exact call?_request hphase id huri hline hcharacter

/-- A completion at an identifier that is no address, far to the right, and a hover on a word of an
open document. -/
theorem a_request_without_an_address_is_answered :
    let documents : DocumentStore := ⟨[("file:///a.dg", ⟨"x info".toList, some 1, none⟩)]⟩
    let session : Session := { phase := .running, server := { documents, root := some "/w" } }
    let around : Surroundings := ⟨fun _ => .absent, none⟩
    let asked (name : String) (spot : Params.Spot) : Message :=
      ⟨name, some spot.toJson, some (.int 7)⟩
    session.receive around (asked "textDocument/completion" ⟨"http://", ⟨0, 4294967295⟩⟩) =
        { session
          response := some ⟨.int 7, .ok .null⟩
          log := [⟨.trace, "Invalid URI: http://"⟩] } ∧
      ∃ result, result ≠ .null ∧
        session.receive around (asked "textDocument/hover" ⟨"file:///a.dg", ⟨0, 3⟩⟩) =
          { session, response := some ⟨.int 7, .ok result⟩ } := by
  intro documents session around asked
  constructor
  · have hmissing : session.server.missing? "http://" = some "Invalid URI: http://" := rfl
    obtain ⟨hcompletion, -, hthrough⟩ :=
      requests_are_answered_and_change_nothing around session ⟨"http://", ⟨0, 4294967295⟩⟩
    have huri : Uri.read "http://" = .ok "http://" := rfl
    have hcall := (hthrough rfl huri (by decide) (by decide) (.int 7)).1
    obtain ⟨id, result, hid, hreceive, hnull⟩ := hcompletion _ hcall
    obtain rfl := Option.some.inj hid
    obtain rfl := hnull.mpr (.inl (by rw [hmissing]; rfl))
    exact hreceive.trans (by rw [hmissing]; rfl)
  · have hmissing : session.server.missing? "file:///a.dg" = none := rfl
    obtain ⟨-, hhover, hthrough⟩ :=
      requests_are_answered_and_change_nothing around session ⟨"file:///a.dg", ⟨0, 3⟩⟩
    have huri : Uri.read "file:///a.dg" = .ok "file:///a.dg" := rfl
    have hcall := (hthrough rfl huri (by decide) (by decide) (.int 7)).2
    obtain ⟨id, result, hid, hreceive, hshown⟩ := hhover _ hcall
    obtain rfl := Option.some.inj hid
    have hdocument : session.server.document "file:///a.dg" =
        .ok ⟨"x info".toList, some 1, none⟩ := rfl
    have hword : Text.wordAt? "x info".toList ⟨0, 3⟩ = some ⟨"info".toList, ⟨⟨0, 2⟩, ⟨0, 6⟩⟩⟩ := rfl
    exact ⟨result, hshown.mpr ⟨rfl, _, _, hdocument, hword, by decide⟩,
      hreceive.trans (by rw [hmissing]; rfl)⟩

end Session

end DelugeAssist
