-- The settings over a whole run. Only the opening and what is sent as configuration after it load
-- settings, each over the files as they are then. So the settings are those that were loaded last,
-- whatever came before and whatever was done to documents.

import DelugeAssist.Proofs.Session.Gate

namespace DelugeAssist

namespace Server

/-! ## What loads settings -/

/-- What a call sends over the settings files, if it loads settings. An opening need not send
anything. -/
def Call.sent? : Call → Option (Option (Layer.Channel × Json))
  | .opening parameters => some (parameters.options.map (.initializationOptions, ·))
  | .didConfigure settings => some (some (.clientConfiguration, settings))
  | _ => none

/-- The loads of settings among calls, each with the files as they are then and what is sent. -/
def loads (calls : List (Surroundings × Call)) :
    List (Surroundings × Option (Layer.Channel × Json)) :=
  calls.filterMap fun step => step.2.sent?.map (step.1, ·)

/-- What a load brings in a workspace. -/
def outcomeOf (root : Option String) (load : Surroundings × Option (Layer.Channel × Json)) :
    Settings.Outcome :=
  Settings.load load.1.files load.1.userPath root load.2

/-! ## One call -/

/-- A call that loads no settings touches the documents alone. -/
theorem exists_documents_handle (surroundings : Surroundings) (server : Server) {call : Call}
    (h : call.sent? = none) :
    ∃ documents, (server.handle surroundings call).server = { server with documents } := by
  cases call with
  | opening parameters => cases h
  | didConfigure settings => cases h
  | didOpen opened =>
    simp only [handle, didOpen]
    split
    · exact ⟨_, rfl⟩
    · exact ⟨_, rfl⟩
  | didChange changed =>
    simp only [handle, didChange]
    split
    · exact ⟨_, rfl⟩
    · split
      · exact ⟨_, rfl⟩
      · exact ⟨_, rfl⟩
  | didClose uri =>
    simp only [handle, didClose]
    split
    · exact ⟨_, rfl⟩
    · exact ⟨_, rfl⟩
  | _ => exact ⟨server.documents, rfl⟩

/-- To a running session, a call loads settings or leaves them, and leaves the workspace and what
the editor can do. -/
theorem handle_of_running (surroundings : Surroundings) (server : Server) {call : Call}
    (h : call.phase = .running) :
    let after := (server.handle surroundings call).server
    after.root = server.root ∧ after.snippetSupport = server.snippetSupport ∧
      after.settings =
        match call.sent? with
        | some sent => (outcomeOf server.root (surroundings, sent)).settings
        | none => server.settings := by
  intro after
  cases hsent : call.sent? with
  | none =>
    obtain ⟨documents, hafter⟩ := exists_documents_handle surroundings server hsent
    simp only [after, hafter, and_self]
  | some sent =>
    cases call with
    | didConfigure settings =>
      obtain rfl := Option.some.inj hsent
      exact ⟨rfl, rfl, rfl⟩
    | opening parameters => cases h
    | _ => cases hsent

/-! ## A whole run -/

theorem kept_run (server : Server) {calls : List (Surroundings × Call)}
    (h : ∀ step ∈ calls, step.2.phase = .running) :
    (server.run calls).1.root = server.root ∧
      (server.run calls).1.snippetSupport = server.snippetSupport := by
  induction calls generalizing server with
  | nil => exact ⟨rfl, rfl⟩
  | cons step rest ih =>
    obtain ⟨surroundings, call⟩ := step
    obtain ⟨hroot, hsupport, -⟩ :=
      handle_of_running surroundings server (h (surroundings, call) (by simp))
    obtain ⟨hroot', hsupport'⟩ := ih (server.handle surroundings call).server
      fun later hlater => h later (by simp [hlater])
    exact ⟨hroot'.trans hroot, hsupport'.trans hsupport⟩

/-- The settings after calls of a running session are those that were loaded last, and those from
before where none were. -/
theorem settings_run (server : Server) {calls : List (Surroundings × Call)}
    (h : ∀ step ∈ calls, step.2.phase = .running) :
    (server.run calls).1.settings =
      match (loads calls).getLast? with
      | some load => (outcomeOf server.root load).settings
      | none => server.settings := by
  induction calls generalizing server with
  | nil => rfl
  | cons step rest ih =>
    obtain ⟨surroundings, call⟩ := step
    have hcall : call.phase = .running := h (surroundings, call) (by simp)
    obtain ⟨hroot, -, hsettings⟩ := handle_of_running surroundings server hcall
    have hrest := ih (server.handle surroundings call).server
      fun later hlater => h later (by simp [hlater])
    rw [hroot, hsettings] at hrest
    change (run (server.handle surroundings call).server rest).1.settings = _
    rw [hrest]
    cases hsent : call.sent? with
    | none => simp [loads, hsent]
    | some sent =>
      have hloads : loads ((surroundings, call) :: rest) = (surroundings, sent) :: loads rest := by
        simp [loads, hsent]
      rw [hloads, List.getLast?_cons]
      cases (loads rest).getLast? with
      | none => rfl
      | some load => rfl

end Server

/-- What the editor is told of an event: a warning is of type 2, and an information of type 3. -/
def Event.shown (event : Event) : Json :=
  .obj [("method", .str "window/logMessage"),
    ("params", .obj [("message", .str event.message),
      ("type", .int (match event.level with
        | .warning => 2
        | .info => 3))])]

theorem Event.toJson_logLine (event : Event) : event.logLine.toJson = event.shown := by
  have hmethod : ¬ "params" < "method" := by decide
  have hmessage : ¬ "type" < "message" := by decide
  obtain ⟨level, message⟩ := event
  cases level <;>
    simp [LogLine.toJson, logLine, shown, LogLevel.number, Json.object, Json.put, hmethod, hmessage]

namespace Session

/-- The workspace and what the editor can do are those of the opening: a fresh session has neither.
-/
theorem set_of_opening (surroundings : Surroundings) {session : Session} {message : Message}
    {opening : Params.Opening} (hopening : session.call? message = some (.opening opening)) :
    let opened := (session.receive surroundings message).session
    opened.phase = .running ∧ opened.server.root = (Server.rootOf? opening).map Prod.fst ∧
      opened.server.snippetSupport = some opening.snippetSupport := by
  intro opened
  obtain ⟨-, hfresh⟩ := call?_eq_some.mp hopening
  obtain ⟨hroot, hsupport⟩ := session.unset hfresh
  have hserver : opened.server = (session.server.opened surroundings opening).1 :=
    congrArg (·.session.server) (receive_of_call surroundings hopening)
  refine ⟨?_, ?_, ?_⟩
  · exact congrArg (·.session.phase) (receive_of_call surroundings hopening)
  · rw [hserver, Server.root_opened, hroot, Option.none_or]
  · rw [hserver, Server.snippetSupport_opened, hsupport, Option.none_or]

/-- Once a session is open, no message moves the workspace or what the editor can do. -/
theorem kept_after {session : Session} (h : session.phase ≠ .fresh)
    (messages : List (Surroundings × Message)) :
    (session.after messages).server.root = session.server.root ∧
      (session.after messages).server.snippetSupport = session.server.snippetSupport := by
  rw [server_after]
  exact Server.kept_run session.server fun step hstep => phase_of_mem_calls h hstep

/-- After a session is opened, its settings are those that the latest of the opening and the
configurations sent since has loaded: for the workspace of the opening, from what that message
itself sent and from the files as they were then. What was sent before, what the files were at any
other time and what was done to documents has no part in it. A configuration is told in just the
events of its own load, in order, a warning as of type 2 and an information as of type 3. -/
theorem the_latest_load_decides_the_settings (surroundings : Surroundings) {session : Session}
    {message : Message} {opening : Params.Opening}
    (hopening : session.call? message = some (.opening opening))
    (later : List (Surroundings × Message)) :
    let opened := (session.receive surroundings message).session
    let final := opened.after later
    let root := (Server.rootOf? opening).map Prod.fst
    let loads := Server.loads ((surroundings, .opening opening) :: opened.calls later)
    (∃ files userPath sent, loads.getLast? = some (⟨files, userPath⟩, sent) ∧
      final.server.settings = (Settings.load files userPath root sent).settings) ∧
    (∀ files userPath message settings, final.call? message = some (.didConfigure settings) →
      let reaction := final.receive ⟨files, userPath⟩ message
      let outcome := Settings.load files userPath root (some (.clientConfiguration, settings))
      reaction.session.server.settings = outcome.settings ∧
        reaction.log.map LogLine.toJson = outcome.events.map Event.shown) := by
  intro opened final root loads
  obtain ⟨hrunning, hroot, -⟩ : opened.phase = .running ∧ opened.server.root = root ∧ _ :=
    set_of_opening surroundings hopening
  have hopen : opened.phase ≠ .fresh := by
    rw [hrunning]
    exact Phase.noConfusion
  constructor
  · have hloads : loads =
        (surroundings, opening.options.map (.initializationOptions, ·)) ::
          Server.loads (opened.calls later) := rfl
    have hfinal : final.server.settings = _ :=
      (congrArg Server.settings (server_after opened later)).trans
        (Server.settings_run opened.server fun step hstep => phase_of_mem_calls hopen hstep)
    rw [hfinal, hloads, List.getLast?_cons, hroot]
    cases (Server.loads (opened.calls later)).getLast? with
    | none =>
      refine ⟨_, _, _, rfl, ?_⟩
      have hopened : opened =
          (perform surroundings session.server message (.opening opening)).session :=
        congrArg Reaction.session (receive_of_call surroundings hopening)
      rw [← hroot, hopened]
      rfl
    | some load => exact ⟨_, _, _, rfl, rfl⟩
  · intro files userPath message settings hcall reaction outcome
    have hreaction : reaction = _ := receive_of_call ⟨files, userPath⟩ hcall
    have hfinal : final.server.root = root := (kept_after hopen later).1.trans hroot
    have houtcome : outcome = Settings.load files userPath final.server.root
        (some (.clientConfiguration, settings)) := by rw [hfinal]
    rw [hreaction, houtcome]
    refine ⟨rfl, ?_⟩
    change (List.map Event.logLine _).map LogLine.toJson = _
    rw [List.map_map]
    congr 1
    funext event
    exact event.toJson_logLine

/-- The project sets one field when the session is opened and another when the editor last sends a
configuration, which is neither the first that it sends nor the last message. -/
theorem a_reload_reads_the_files_of_its_time :
    let filesOf (project : String) : Files := fun path =>
      if path = "/w/deluge-ls.toml" then .content (Utf8.encode project.toList) else .absent
    let before : Surroundings := ⟨filesOf "snippets = false", none⟩
    let since : Surroundings := ⟨filesOf "hover = false", none⟩
    let opener : Message :=
      ⟨"initialize", some (.obj [("capabilities", .obj []),
        ("initializationOptions", .obj [("hover", .bool false)]), ("rootUri", .str "file:///w")]),
        some (.int 1)⟩
    let configured (settings : Json) : Message :=
      ⟨"workspace/didChangeConfiguration", some (.obj [("settings", settings)]), none⟩
    let later : List (Surroundings × Message) :=
      [(before, configured (.obj [("snippets", .bool false)])),
        (since, configured (.obj [("deluge", .obj [("genericCompletions", .bool false)])])),
        (before, ⟨"initialized", some (.obj []), none⟩)]
    let final := (({} : Session).receive before opener).session.after later
    final.server.settings = ⟨true, false, false⟩ ∧
      (final.receive before (configured (.arr [.int 0]))).log.map LogLine.toJson =
        [⟨.info, "Loaded /w/deluge-ls.toml"⟩,
          ⟨.warning, "Failed to parse client configuration: " ++
            "invalid type: integer `0`, expected a boolean"⟩].map Event.shown := by
  intro filesOf before since opener configured later final
  let opening : Params.Opening :=
    { rootUri := some "file:///w", options := some (.obj [("hover", .bool false)]) }
  have hopening : ({} : Session).call? opener = some (.opening opening) := rfl
  have hroot : (Server.rootOf? opening).map Prod.fst = some "/w" := rfl
  obtain ⟨⟨files, userPath, sent, hlast, hsettings⟩, hreload⟩ :=
    the_latest_load_decides_the_settings before hopening later
  have hlatest : some ((⟨since.files, none⟩ : Surroundings),
      some (Layer.Channel.clientConfiguration,
        Json.obj [("deluge", .obj [("genericCompletions", .bool false)])])) =
      some (⟨files, userPath⟩, sent) := hlast
  simp only [Option.some.injEq, Prod.mk.injEq, Surroundings.mk.injEq] at hlatest
  obtain ⟨⟨rfl, rfl⟩, rfl⟩ := hlatest
  have hcall : final.call? (configured (.arr [.int 0])) = some (.didConfigure (.arr [.int 0])) :=
    rfl
  obtain ⟨-, hlog⟩ := hreload before.files none (configured (.arr [.int 0])) (.arr [.int 0]) hcall
  rw [hroot] at hsettings hlog
  refine ⟨hsettings.trans ?_, hlog.trans (congrArg (List.map Event.shown) ?_)⟩
  · decide +kernel
  · decide +kernel

end Session

end DelugeAssist
