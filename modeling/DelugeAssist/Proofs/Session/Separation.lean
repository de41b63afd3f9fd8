-- Documents do not interfere. What is answered about a document goes by the settings, by what the
-- editor can do and by that document alone. So two runs answer alike about it whenever they agree
-- on the messages that bear on it, whatever else each of them is told about other documents.

import DelugeAssist.Proofs.Session.Documents
import DelugeAssist.Proofs.Session.Requests
import DelugeAssist.Proofs.Session.Settings
import DelugeAssist.Proofs.Settings.Resolution

namespace DelugeAssist

/-! ## What bears on a document -/

/-- The identifier that a call carries. -/
def Server.Call.uri? : Server.Call → Option String
  | .didOpen opened => some opened.uri
  | .didChange changed => some changed.uri
  | .didClose uri => some uri
  | .completion spot => some spot.uri
  | .hover spot => some spot.uri
  | _ => none

/-- The key of the document that a call names, to do something to it or to ask about it. -/
def Server.Call.subject? (call : Server.Call) : Option String :=
  call.uri?.bind fun uri => (keyOf uri).toOption

namespace Message

/-- The message sends a configuration. -/
def isConfiguration (message : Message) : Bool :=
  match message.call? with
  | some (.didConfigure _) => true
  | _ => false

/-- What an open session is told may bear on the document of a key if it names that document, loads
settings or ends the session. -/
def bearsOn (key : String) (message : Message) : Bool :=
  message.isConfiguration || message.call?.bind (·.subject?) == some key ||
    MethodKind.ofName? message.method == some .shutdown ||
    MethodKind.ofName? message.method == some .exit

/-- The message asks for a completion or a hover in the document of a key. -/
def asksAbout (key : String) (message : Message) : Bool :=
  message.call?.any fun call => call.spot?.isSome && call.subject? == some key

end Message

/-- The settings files of the user and of the project, where there are paths for them. -/
def Surroundings.settingsFiles (surroundings : Surroundings) (root : Option String) :
    Option FileState × Option FileState :=
  (surroundings.userPath.map surroundings.files,
    root.map fun root => surroundings.files (Layer.projectPath root))

namespace Session

/-- A message to a session with a workspace, and the settings files as they are then if it sends a
configuration. -/
def stepIn (root : Option String) (step : Surroundings × Message) :
    Message × Option (Option FileState × Option FileState) :=
  (step.2, if step.2.isConfiguration then some (step.1.settingsFiles root) else none)

/-- What of a run may bear on the document of a key. -/
def bearing (root : Option String) (key : String) (run : List (Surroundings × Message)) :
    List (Message × Option (Option FileState × Option FileState)) :=
  (run.filter (·.2.bearsOn key)).map (stepIn root)

/-- What is answered, one after another, where a completion or a hover is asked for in the document
of a key. -/
def answersOn (key : String) (session : Session) :
    List (Surroundings × Message) → List (Option Response)
  | [] => []
  | (surroundings, message) :: rest =>
    let reaction := session.receive surroundings message
    (if message.asksAbout key then [reaction.response] else []) ++
      reaction.session.answersOn key rest

end Session

theorem Message.asksAbout_iff {message : Message} {key : String} :
    message.asksAbout key = true ↔ ∃ call, message.call? = some call ∧
      call.spot?.isSome = true ∧ call.subject? = some key := by
  simp [asksAbout, Option.any_eq_true]

/-- A request about a document bears on it. -/
theorem Message.bearsOn_of_asksAbout {message : Message} {key : String}
    (h : message.asksAbout key = true) : message.bearsOn key = true := by
  obtain ⟨call, hasked, -, hsubject⟩ := asksAbout_iff.mp h
  simp [bearsOn, hasked, hsubject]

/-! ## Settings files -/

namespace Settings.Finding

theorem ofUser_eq (files : Files) (path : Option String) :
    ofUser files path = ((path.map files).map ofFile).getD .missing := by
  cases path <;> rfl

theorem ofProject_eq (files : Files) (root : Option String) :
    ofProject files root =
      ((root.map fun root => files (Layer.projectPath root)).map ofFile).getD .missing := by
  cases root <;> rfl

end Settings.Finding

/-- The settings that a load brings go by what is in the settings files. -/
theorem Server.settings_outcomeOf_congr {around around' : Surroundings} {root : Option String}
    (h : around.settingsFiles root = around'.settingsFiles root)
    (sent : Option (Layer.Channel × Json)) :
    (outcomeOf root (around, sent)).settings = (outcomeOf root (around', sent)).settings := by
  obtain ⟨huser, hproject⟩ := Prod.mk.inj h
  apply Settings.settings_load_congr _ _ rfl
  · rw [Settings.Finding.ofUser_eq, Settings.Finding.ofUser_eq, huser]
  · rw [Settings.Finding.ofProject_eq, Settings.Finding.ofProject_eq, hproject]

/-! ## Servers that are alike -/

namespace Server

/-- Two servers are alike on the document of a key if they differ in other documents at most. -/
structure AlikeOn (key : String) (first second : Server) : Prop where
  root : first.root = second.root
  snippetSupport : first.snippetSupport = second.snippetSupport
  settings : first.settings = second.settings
  document : first.documents.get? key = second.documents.get? key

theorem Call.subject?_of_key? {call : Call} {key : String} (h : call.key? = some key) :
    call.subject? = some key := by
  cases call with
  | didOpen | didChange | didClose => exact h
  | _ => cases h

namespace AlikeOn

variable {key : String} {first second third : Server} {around around' : Surroundings} {call : Call}

theorem trans (h : AlikeOn key first second) (h' : AlikeOn key second third) :
    AlikeOn key first third :=
  ⟨h.root.trans h'.root, h.snippetSupport.trans h'.snippetSupport, h.settings.trans h'.settings,
    h.document.trans h'.document⟩

/-- A call about another document keeps a server alike to what it was. -/
theorem handle_self (around : Surroundings) (server : Server) (hphase : call.phase = .running)
    (hsent : call.sent? = none) (hsubject : call.subject? ≠ some key) :
    AlikeOn key (server.handle around call).server server := by
  obtain ⟨hroot, hsupport, hsettings⟩ := handle_of_running around server hphase
  refine ⟨hroot, hsupport, ?_, ?_⟩
  · rw [hsettings, hsent]
  · exact get?_handle_of_ne around server fun hkey => hsubject (Call.subject?_of_key? hkey)

/-- The same call keeps two servers alike, if it finds the same settings files. -/
theorem handle (h : AlikeOn key first second) (hphase : call.phase = .running)
    (hfiles : call.sent?.isSome = true →
      around.settingsFiles first.root = around'.settingsFiles first.root) :
    AlikeOn key (first.handle around call).server (second.handle around' call).server := by
  obtain ⟨hroot, hsupport, hsettings⟩ := handle_of_running around first hphase
  obtain ⟨hroot', hsupport', hsettings'⟩ := handle_of_running around' second hphase
  refine ⟨?_, ?_, ?_, ?_⟩
  · rw [hroot, hroot', h.root]
  · rw [hsupport, hsupport', h.snippetSupport]
  · rw [hsettings, hsettings', h.settings, ← h.root]
    cases hsent : call.sent? with
    | none => rfl
    | some sent => exact settings_outcomeOf_congr (hfiles (by rw [hsent]; rfl)) sent
  · by_cases hkey : call.key? = some key
    · rw [get?_handle_of_key around first hkey, get?_handle_of_key around' second hkey, h.document]
    · rw [get?_handle_of_ne around first hkey, get?_handle_of_ne around' second hkey, h.document]

/-- Of servers that are alike on a document, each answers a request about it as the other. -/
theorem answer (h : AlikeOn key first second) (hspot : call.spot?.isSome = true)
    (hsubject : call.subject? = some key) :
    (first.handle around call).answer = (second.handle around' call).answer := by
  have hdocument : ∀ uri, (keyOf uri).toOption = some key →
      first.document uri = second.document uri := by
    intro uri huri
    simp only [Server.document, toOption_keyOf.mp huri, bind, Except.bind, h.document]
  cases call with
  | completion spot =>
    simp only [Server.handle, completion, completionOptions, hdocument spot.uri hsubject,
      h.settings, h.snippetSupport]
  | hover spot => simp only [Server.handle, hover, hdocument spot.uri hsubject, h.settings]
  | _ => cases hspot

end AlikeOn

end Server

/-! ## Sessions that are alike -/

namespace Session

/-- Two open sessions are alike on the document of a key if they have come equally far and their
servers are alike. -/
structure AlikeOn (key : String) (first second : Session) : Prop where
  opened : first.phase ≠ .fresh
  phase : first.phase = second.phase
  server : first.server.AlikeOn key second.server

variable {session : Session} {message : Message} {call : Server.Call}

/-- A request to a session that does not run is refused, and gets no answer once that is left. -/
theorem response_of_request (surroundings : Surroundings) (hasked : message.call? = some call)
    (hspot : call.spot?.isSome = true) (hphase : session.phase ≠ .running) :
    (session.receive surroundings message).response =
      if session.phase = .exited then none
      else respond message (.error session.closedBecause) := by
  obtain ⟨params, -, hasked⟩ := Message.call?_eq_some.mp hasked
  rcases hasked with ⟨-, -, opening, -, rfl⟩ | ⟨method, hkind, -, -⟩ | ⟨method, -, -, hmade⟩
  · cases hspot
  · have hname : message.method ≠ cancelName := by
      intro hname
      simp [hname, ofName?_cancelName] at hkind
    unfold receive
    split
    · rfl
    · simp only [hkind, request, if_pos hphase]
      rfl
  · simp [(NoticeMethod.call?_spec hmade).2] at hspot

namespace AlikeOn

variable {key : String} {first second : Session} {around around' : Surroundings}

theorem call? (h : AlikeOn key first second) (message : Message) :
    second.call? message = first.call? message := by
  simp only [Session.call?, h.phase]

theorem phase_of_call? (h : AlikeOn key first second) (hcall : first.call? message = some call) :
    call.phase = .running := by
  obtain ⟨-, hphase⟩ := call?_eq_some.mp hcall
  cases call with
  | opening parameters => exact absurd hphase h.opened
  | _ => rfl

/-- A message that does not bear on a document keeps a session alike. -/
theorem receive_left (h : AlikeOn key first second) (around : Surroundings)
    (hbears : message.bearsOn key = false) :
    AlikeOn key (first.receive around message).session second := by
  simp only [Message.bearsOn, Bool.or_eq_false_iff, beq_eq_false_iff_ne] at hbears
  obtain ⟨⟨⟨hconfiguration, hsubject⟩, hshutdown⟩, hexit⟩ := hbears
  have hphase := phase_receive around first message
  have hserver := server_receive around first message
  refine ⟨?_, ?_, ?_⟩
  · rw [hphase]
    exact after_ne_fresh h.opened message
  · rw [hphase]
    rcases hcall : first.call? message with _ | call
    · rw [after_of_no_call hcall hshutdown hexit, h.phase]
    · rw [after_of_call hcall, ← h.phase, (call?_eq_some.mp hcall).2, h.phase_of_call? hcall]
  · rw [hserver]
    rcases hcall : first.call? message with _ | call
    · exact h.server
    · have hrunning := h.phase_of_call? hcall
      obtain ⟨hasked, -⟩ := call?_eq_some.mp hcall
      rw [hasked] at hsubject
      have hsent : call.sent? = none := by
        cases call with
        | opening parameters => cases hrunning
        | didConfigure settings => simp [Message.isConfiguration, hasked] at hconfiguration
        | _ => rfl
      exact (Server.AlikeOn.handle_self around first.server hrunning hsent hsubject).trans h.server

/-- The same message keeps two sessions alike, if it finds the same settings files. -/
theorem receive (h : AlikeOn key first second)
    (hfiles : message.isConfiguration = true →
      around.settingsFiles first.server.root = around'.settingsFiles first.server.root) :
    AlikeOn key (first.receive around message).session
      (second.receive around' message).session := by
  refine ⟨?_, ?_, ?_⟩
  · rw [phase_receive]
    exact after_ne_fresh h.opened message
  · rw [phase_receive, phase_receive, h.phase]
  · rw [server_receive, server_receive, h.call? message]
    rcases hcall : first.call? message with _ | call
    · exact h.server
    · have hrunning := h.phase_of_call? hcall
      obtain ⟨hasked, -⟩ := call?_eq_some.mp hcall
      refine h.server.handle hrunning fun hsent => hfiles ?_
      cases call with
      | opening parameters => cases hrunning
      | didConfigure settings => simp [Message.isConfiguration, hasked]
      | _ => cases hsent

/-- A request about a document is answered alike. -/
theorem response (h : AlikeOn key first second) (hasks : message.asksAbout key = true) :
    (first.receive around message).response = (second.receive around' message).response := by
  obtain ⟨call, hasked, hspot, hsubject⟩ := Message.asksAbout_iff.mp hasks
  by_cases hrunning : first.phase = .running
  · have hcall : first.call? message = some call :=
      call?_eq_some.mpr ⟨hasked, hrunning.trans (by cases call <;> first | rfl | cases hspot)⟩
    rw [receive_of_call around hcall, receive_of_call around' ((h.call? message).trans hcall)]
    exact congrArg (fun answer => respond message (.ok (answerJson answer)))
      (h.server.answer hspot hsubject)
  · rw [response_of_request around hasked hspot hrunning,
      response_of_request around' hasked hspot (h.phase ▸ hrunning), closedBecause, closedBecause,
      h.phase]

end AlikeOn

/-! ## Runs that are alike -/

variable {key : String} {first second : Session} {around around' : Surroundings}

/-- The same message is answered alike, or is not asked about. -/
theorem answersOn_cons (h : AlikeOn key first second) {rest rest' : List (Surroundings × Message)}
    (hrest : (first.receive around message).session.answersOn key rest =
      (second.receive around' message).session.answersOn key rest') :
    first.answersOn key ((around, message) :: rest) =
      second.answersOn key ((around', message) :: rest') := by
  simp only [answersOn, hrest]
  split
  · rename_i hasks
    rw [h.response hasks]
  · rfl

/-- What does not bear on a document can be left out. -/
theorem answersOn_filter (h : AlikeOn key first second) (run : List (Surroundings × Message)) :
    first.answersOn key run = second.answersOn key (run.filter (·.2.bearsOn key)) := by
  induction run generalizing first second with
  | nil => rfl
  | cons step rest ih =>
    obtain ⟨around, message⟩ := step
    by_cases hbears : message.bearsOn key = true
    · have hkept : ((around, message) :: rest).filter (·.2.bearsOn key) =
          (around, message) :: rest.filter (·.2.bearsOn key) := List.filter_cons_of_pos hbears
      rw [hkept]
      exact answersOn_cons h (ih (h.receive fun _ => rfl))
    · have hdropped : ((around, message) :: rest).filter (·.2.bearsOn key) =
          rest.filter (·.2.bearsOn key) := List.filter_cons_of_neg hbears
      have hasks : ¬ message.asksAbout key = true := fun hasks =>
        hbears (Message.bearsOn_of_asksAbout hasks)
      -- Only the first session takes this step, and stays alike to the second.
      rw [hdropped, answersOn, if_neg hasks]
      exact ih (h.receive_left around (by simpa using hbears))

/-- Two runs of the same messages are answered alike, if they find the same settings files where a
configuration is sent. -/
theorem answersOn_congr (h : AlikeOn key first second) {root : Option String}
    (hroot : first.server.root = root) {run run' : List (Surroundings × Message)}
    (hrun : run.map (stepIn root) = run'.map (stepIn root)) :
    first.answersOn key run = second.answersOn key run' := by
  induction run generalizing first second run' with
  | nil =>
    obtain rfl := List.map_eq_nil_iff.mp hrun.symm
    rfl
  | cons step rest ih =>
    obtain ⟨step', rest', rfl, hstep, hrest⟩ := List.map_eq_cons_iff.mp hrun.symm
    obtain ⟨around, message⟩ := step
    obtain ⟨around', message'⟩ := step'
    obtain ⟨hmessage, hfiles⟩ := Prod.mk.inj hstep
    obtain rfl : message' = message := hmessage
    have hsame : message'.isConfiguration = true →
        around.settingsFiles first.server.root = around'.settingsFiles first.server.root := by
      intro hconfiguration
      rw [if_pos hconfiguration, if_pos hconfiguration] at hfiles
      rw [hroot]
      exact (Option.some.inj hfiles).symm
    -- The files are those of one workspace all along: no message moves it.
    have hkept := (kept_after h.opened [(around, message')]).1
    exact answersOn_cons h (ih (h.receive hsame) (hkept.trans hroot) hrest.symm)

/-- The same opening makes alike sessions, if it finds the same settings files. -/
theorem alikeOn_opened {opener : Message} {opening : Params.Opening}
    (hopening : opener.call? = some (.opening opening))
    (hfiles : around.settingsFiles ((Server.rootOf? opening).map Prod.fst) =
      around'.settingsFiles ((Server.rootOf? opening).map Prod.fst)) :
    AlikeOn key (({} : Session).receive around opener).session
      (({} : Session).receive around' opener).session := by
  have hcall : ({} : Session).call? opener = some (.opening opening) :=
    call?_eq_some.mpr ⟨hopening, rfl⟩
  have hopened : ∀ around, ({} : Session).receive around opener = _ :=
    fun around => receive_of_call around hcall
  rw [hopened, hopened]
  exact ⟨Phase.noConfusion, rfl, rfl, rfl, Server.settings_outcomeOf_congr hfiles _, rfl⟩

/-- Documents do not interfere. Two sessions that are opened by the same message, and then told the
same about a document and about the configuration in the same order, with the same settings files
where settings are loaded, give the same answers to what is asked about that document. What else
each of them is told, and when, makes no difference. -/
theorem other_documents_change_no_answer (around around' : Surroundings) {opener : Message}
    {opening : Params.Opening} (hopening : opener.call? = some (.opening opening)) (key : String)
    (first second : List (Surroundings × Message)) :
    let root := (Server.rootOf? opening).map Prod.fst
    around.settingsFiles root = around'.settingsFiles root →
    bearing root key first = bearing root key second →
    (({} : Session).receive around opener).session.answersOn key first =
      (({} : Session).receive around' opener).session.answersOn key second := by
  intro root hfiles hbearing
  have hcall : ({} : Session).call? opener = some (.opening opening) :=
    call?_eq_some.mpr ⟨hopening, rfl⟩
  have hroot : (({} : Session).receive around opener).session.server.root = root :=
    (set_of_opening around hcall).2.1
  have hself : AlikeOn key (({} : Session).receive around opener).session
      (({} : Session).receive around opener).session := alikeOn_opened hopening rfl
  have hother : AlikeOn key (({} : Session).receive around' opener).session
      (({} : Session).receive around' opener).session := alikeOn_opened hopening rfl
  calc (({} : Session).receive around opener).session.answersOn key first
    _ = (({} : Session).receive around opener).session.answersOn key
          (first.filter (·.2.bearsOn key)) := answersOn_filter hself first
    _ = (({} : Session).receive around' opener).session.answersOn key
          (second.filter (·.2.bearsOn key)) :=
        answersOn_congr (alikeOn_opened hopening hfiles) hroot hbearing
    _ = (({} : Session).receive around' opener).session.answersOn key second :=
        (answersOn_filter hother second).symm

/-- A hover in a document that is opened between a configuration and the traffic on another one, or
without any of that traffic, and with a file beside the settings files or without it. -/
theorem a_document_beside_it_changes_no_answer :
    let around : Surroundings := ⟨fun _ => .absent, none⟩
    let around' : Surroundings :=
      ⟨fun path => if path = "/w/b.dg" then .content [] else .absent, none⟩
    let opener : Message :=
      ⟨"initialize", some (.obj [("capabilities", .obj []), ("rootUri", .str "file:///w")]),
        some (.int 1)⟩
    let configured : Message :=
      ⟨"workspace/didChangeConfiguration",
        some (.obj [("settings", .obj [("snippets", .bool false)])]), none⟩
    let opened (uri text : String) : Message :=
      ⟨"textDocument/didOpen",
        some (.obj [("textDocument", .obj [("languageId", .str "deluge"), ("text", .str text),
          ("uri", .str uri), ("version", .int 1)])]), none⟩
    let hovered (uri : String) : Message :=
      ⟨"textDocument/hover", some (Params.Spot.toJson ⟨uri, ⟨0, 1⟩⟩), some (.int 2)⟩
    let first := [configured, opened "file:///a.dg" "info", hovered "file:///a.dg"].map (around, ·)
    let second := [opened "file:///b.dg" "x", configured, opened "file:///a.dg" "info",
      hovered "file:///b.dg", hovered "file:///a.dg"].map (around', ·)
    let answers := (({} : Session).receive around opener).session.answersOn "file:///a.dg" first
    answers = (({} : Session).receive around' opener).session.answersOn "file:///a.dg" second ∧
      answers.length = 1 := by
  intro around around' opener configured opened hovered first second answers
  have hopening : opener.call? = some (.opening { rootUri := some "file:///w" }) := rfl
  have hbearsA : (opened "file:///a.dg" "info").bearsOn "file:///a.dg" = true := rfl
  have hasksA : (hovered "file:///a.dg").bearsOn "file:///a.dg" = true := rfl
  have hbearsB : (opened "file:///b.dg" "x").bearsOn "file:///a.dg" = false := rfl
  have hasksB : (hovered "file:///b.dg").bearsOn "file:///a.dg" = false := rfl
  have hconfigured : configured.bearsOn "file:///a.dg" = true := rfl
  refine ⟨other_documents_change_no_answer around around' hopening "file:///a.dg" first second
    ?_ ?_, ?_⟩
  · rfl
  · simp only [bearing, first, second, List.map_cons, List.map_nil, List.filter_cons, hbearsA,
      hasksA, hbearsB, hasksB, hconfigured, if_true]
    rfl
  · rfl

end Session

end DelugeAssist
