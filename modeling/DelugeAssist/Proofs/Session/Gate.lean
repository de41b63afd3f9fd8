-- What a session lets through to its server. A message asks for a call or for none, and the phase
-- decides whether the call is made. So a run of a session is a run of its server on the calls that
-- are made, and of these the opening is the first and there is no other.

import DelugeAssist.Proofs.Record.Reading
import DelugeAssist.Session.Dispatch

namespace DelugeAssist

/-! ## What a message asks for -/

/-- The call that a message asks for, if its parameters fit. A request carries an identifier and a
notification carries none. -/
def Message.call? (message : Message) : Option Server.Call :=
  match MethodKind.ofName? message.method with
  | some .opening =>
    if message.id.isSome then
      message.params.bind fun params => (Params.readOpening params).toOption.map .opening
    else none
  | some (.request method) =>
    if message.id.isSome then
      message.params.bind fun params => (method.call params).toOption
    else none
  | some (.notice method) =>
    if message.id.isSome then none else message.params.bind method.call?
  | _ => none

/-- The phase in which a call is made. -/
def Server.Call.phase : Server.Call → Phase
  | .opening _ => .fresh
  | _ => .running

/-- The place that a request asks about. -/
def Server.Call.spot? : Server.Call → Option Params.Spot
  | .completion spot => some spot
  | .hover spot => some spot
  | _ => none

/-- The phase that a message leads to. -/
def Phase.after (phase : Phase) (message : Message) : Phase :=
  match phase, MethodKind.ofName? message.method with
  | .exited, _ => .exited
  | _, some .exit => .exited
  | .running, some .shutdown => .shutDown
  | .fresh, some .opening => if message.call?.isSome then .running else .fresh
  | phase, _ => phase

/-- A request that is served asks for a completion or a hover. -/
theorem RequestMethod.call_eq_ok {method : RequestMethod} {params : Json} {call : Server.Call} :
    method.call params = .ok call ↔
      (method = .completion ∧ ∃ spot, Params.readCompletion params = .ok spot ∧
        .completion spot = call) ∨
      (method = .hover ∧ ∃ spot, Params.readHover params = .ok spot ∧ .hover spot = call) := by
  cases method with
  | completion => simp [RequestMethod.call, mapError_eq_ok, map_eq_ok]
  | hover => simp [RequestMethod.call, mapError_eq_ok, map_eq_ok]
  | other name =>
    simp only [RequestMethod.call]
    split <;> simp

theorem RequestMethod.phase_of_call {method : RequestMethod} {params : Json} {call : Server.Call}
    (h : method.call params = .ok call) : call.phase = .running := by
  rcases call_eq_ok.mp h with ⟨-, spot, -, rfl⟩ | ⟨-, spot, -, rfl⟩
  · rfl
  · rfl

/-- A notification makes a call of a running session, which asks about no place. -/
theorem NoticeMethod.call?_spec {method : NoticeMethod} {params : Json} {call : Server.Call}
    (h : method.call? params = some call) : call.phase = .running ∧ call.spot? = none := by
  cases method <;> simp only [NoticeMethod.call?] at h
  case other => cases h
  all_goals
    split at h
    · rw [← Option.some.inj h]
      exact ⟨rfl, rfl⟩
    · cases h

/-- A call is asked for by the opening, by a request or by a notification. -/
theorem Message.call?_eq_some {message : Message} {call : Server.Call} :
    message.call? = some call ↔ ∃ params, message.params = some params ∧
      ((MethodKind.ofName? message.method = some .opening ∧ message.id.isSome = true ∧
          ∃ opening, Params.readOpening params = .ok opening ∧ .opening opening = call) ∨
        (∃ method, MethodKind.ofName? message.method = some (.request method) ∧
          message.id.isSome = true ∧ method.call params = .ok call) ∨
        (∃ method, MethodKind.ofName? message.method = some (.notice method) ∧
          message.id.isSome = false ∧ method.call? params = some call)) := by
  unfold Message.call?
  rcases hkind : MethodKind.ofName? message.method with _ | kind
  · simp
  · cases message.params <;> cases message.id <;> cases kind <;> simp [toOption_eq_some]

namespace Session

/-- The call that a session makes of a message. -/
def call? (session : Session) (message : Message) : Option Server.Call :=
  message.call?.filter fun call => session.phase = call.phase

theorem call?_eq_some {session : Session} {message : Message} {call : Server.Call} :
    session.call? message = some call ↔ message.call? = some call ∧ session.phase = call.phase := by
  simp [call?]

theorem ofName?_cancelName : MethodKind.ofName? cancelName = none := rfl

/-! ## The reaction to a message -/

section Reaction

variable {session : Session} {message : Message} {call : Server.Call}
variable (surroundings : Surroundings)

theorem given_eq_ok {params : Json} :
    given message = .ok params ↔ message.params = some params := by
  unfold given
  cases message.params <;> simp

/-- A call that is made is handled by the server and answered from there. -/
theorem receive_of_call (h : session.call? message = some call) :
    session.receive surroundings message =
      perform surroundings session.server message call := by
  obtain ⟨hcall, hphase⟩ := call?_eq_some.mp h
  have hnotExited : session.phase ≠ .exited := by
    rw [hphase]
    cases call <;> simp [Server.Call.phase]
  obtain ⟨params, hparams, hcall⟩ := Message.call?_eq_some.mp hcall
  have hname : message.method ≠ cancelName := by
    intro hname
    simp [hname, ofName?_cancelName] at hcall
  unfold receive
  rw [if_neg hnotExited, if_neg hname]
  rcases hcall with ⟨hkind, hid, opening, hread, rfl⟩ | ⟨method, hkind, hid, hread⟩ |
    ⟨method, hkind, hid, hread⟩
  · have hfresh : session.phase = .fresh := hphase
    simp [hkind, begin, hfresh, Option.isSome_iff_ne_none.mp hid, given, hparams, hread,
      Except.bind, mapError_ok]
  · have hrunning := hphase.trans (RequestMethod.phase_of_call hread)
    simp [hkind, request, hrunning, Option.isSome_iff_ne_none.mp hid, given, hparams, hread,
      Except.bind]
  · have hrunning := hphase.trans (NoticeMethod.call?_spec hread).1
    simp [hkind, notice, hrunning, hid, hparams, hread]

theorem after_of_call (h : session.call? message = some call) :
    session.phase.after message = .running := by
  obtain ⟨hcall, hphase⟩ := call?_eq_some.mp h
  have hasked : message.call?.isSome = true := by simp [hcall]
  obtain ⟨params, -, hcall⟩ := Message.call?_eq_some.mp hcall
  rcases hcall with ⟨hkind, -, opening, -, rfl⟩ | ⟨method, hkind, -, hread⟩ |
    ⟨method, hkind, -, hread⟩
  · have hfresh : session.phase = .fresh := hphase
    simp [Phase.after, hkind, hfresh, hasked]
  · simp [Phase.after, hkind, hphase.trans (RequestMethod.phase_of_call hread)]
  · simp [Phase.after, hkind, hphase.trans (NoticeMethod.call?_spec hread).1]

theorem ne_of_no_call (h : session.call? message = none) (hasked : message.call? = some call) :
    session.phase ≠ call.phase := by
  intro hphase
  rw [call?_eq_some.mpr ⟨hasked, hphase⟩] at h
  cases h

/-- An opening that fits is let through to a fresh session. -/
theorem begin_of_no_call (hkind : MethodKind.ofName? message.method = some .opening)
    (h : session.call? message = none) :
    (session.begin surroundings message).session = session ∧
      (session.begin surroundings message).log = [] := by
  unfold begin
  split
  · exact ⟨rfl, rfl⟩
  · rename_i hfresh
    split
    · exact ⟨rfl, rfl⟩
    · rename_i hid
      split
      · exact ⟨rfl, rfl⟩
      · rename_i opening hread
        obtain ⟨params, hparams, hread⟩ := bind_eq_ok.mp hread
        rw [given_eq_ok] at hparams
        rw [mapError_eq_ok] at hread
        have hasked : message.call? = some (.opening opening) :=
          Message.call?_eq_some.mpr
            ⟨params, hparams, .inl ⟨hkind, by simpa [Option.isSome_iff_ne_none] using hid, opening,
              hread, rfl⟩⟩
        exact absurd (Decidable.of_not_not hfresh) (ne_of_no_call h hasked)

/-- A refusal is no answer. -/
theorem response_refuse_ne {refusal : Refusal} {id result : Json} :
    (session.refuse message refusal).response ≠ some ⟨id, .ok result⟩ := by
  simp [refuse, respond]

/-- A request that fits is let through to a running session, and no other is answered. -/
theorem request_of_no_call {method : RequestMethod}
    (hkind : MethodKind.ofName? message.method = some (.request method))
    (h : session.call? message = none) :
    let reaction := session.request surroundings message method
    reaction.session = session ∧ reaction.log = [] ∧
      ∀ id result, reaction.response ≠ some ⟨id, .ok result⟩ := by
  unfold request
  split
  · exact ⟨rfl, rfl, fun _ _ => response_refuse_ne⟩
  · rename_i hrunning
    split
    · exact ⟨rfl, rfl, nofun⟩
    · rename_i hid
      split
      · exact ⟨rfl, rfl, fun _ _ => response_refuse_ne⟩
      · rename_i call hread
        obtain ⟨params, hparams, hread⟩ := bind_eq_ok.mp hread
        rw [given_eq_ok] at hparams
        have hasked : message.call? = some call :=
          Message.call?_eq_some.mpr
            ⟨params, hparams, .inr (.inl ⟨method, hkind,
              by simpa [Option.isSome_iff_ne_none] using hid, hread⟩)⟩
        have hphase := RequestMethod.phase_of_call hread
        exact absurd (by simpa [hphase] using hrunning) (ne_of_no_call h hasked)

/-- A notification that fits is let through to a running session. -/
theorem notice_of_no_call {method : NoticeMethod}
    (hkind : MethodKind.ofName? message.method = some (.notice method))
    (h : session.call? message = none) :
    (session.notice surroundings message method).session = session ∧
      (session.notice surroundings message method).log = [] := by
  unfold notice
  split
  · exact ⟨rfl, rfl⟩
  · rename_i hrunning
    split
    · exact ⟨rfl, rfl⟩
    · rename_i hid
      split
      · exact ⟨rfl, rfl⟩
      · rename_i call hread
        obtain ⟨params, hparams, hread⟩ := Option.bind_eq_some_iff.mp hread
        have hasked : message.call? = some call :=
          Message.call?_eq_some.mpr
            ⟨params, hparams, .inr (.inr ⟨method, hkind, by simpa using hid, hread⟩)⟩
        have hphase := (NoticeMethod.call?_spec hread).1
        exact absurd (by simpa [hphase] using hrunning) (ne_of_no_call h hasked)

theorem after_of_no_call (h : session.call? message = none)
    (hshutdown : MethodKind.ofName? message.method ≠ some .shutdown)
    (hexit : MethodKind.ofName? message.method ≠ some .exit) :
    session.phase.after message = session.phase := by
  unfold Phase.after
  split
  · rename_i hphase
    rw [hphase]
  · rename_i hkind _
    exact absurd hkind hexit
  · rename_i hkind
    exact absurd hkind hshutdown
  · rename_i hfresh hkind
    have hnone : message.call? = none := by
      rw [Option.eq_none_iff_forall_not_mem]
      intro call hasked
      have hne := ne_of_no_call h hasked
      obtain ⟨params, -, hasked⟩ := Message.call?_eq_some.mp hasked
      simp only [hkind, Option.some.injEq, reduceCtorEq, false_and, exists_false,
        or_false] at hasked
      obtain ⟨-, -, opening, -, rfl⟩ := hasked
      exact hne hfresh
    simp [hnone, hfresh]
  · rfl

/-- A message that is turned down leaves the phase, unless it ends the work or the session. -/
theorem left_of_no_call (h : session.call? message = none)
    (hshutdown : MethodKind.ofName? message.method ≠ some .shutdown)
    (hexit : MethodKind.ofName? message.method ≠ some .exit) {reaction : Reaction}
    (hsession : reaction.session = session) (hlog : reaction.log = []) :
    reaction.session.phase = session.phase.after message ∧
      reaction.session.server = session.server ∧ reaction.log = [] := by
  rw [hsession, after_of_no_call h hshutdown hexit]
  exact ⟨rfl, rfl, hlog⟩

/-- A message of which no call is made leaves the server as it was and tells nothing. -/
theorem receive_of_no_call (h : session.call? message = none) :
    (session.receive surroundings message).session.phase = session.phase.after message ∧
      (session.receive surroundings message).session.server = session.server ∧
      (session.receive surroundings message).log = [] := by
  -- Only the end of the work and the end of the session move the phase; all else is turned down.
  unfold receive
  split
  · rename_i hexited
    have hafter : session.phase.after message = session.phase := by simp [Phase.after, hexited]
    exact ⟨hafter.symm, rfl, rfl⟩
  · split
    · rename_i hname
      have hkind : MethodKind.ofName? message.method = none := by rw [hname, ofName?_cancelName]
      exact left_of_no_call h (by simp [hkind]) (by simp [hkind]) rfl rfl
    · rcases hkind : MethodKind.ofName? message.method with _ | kind
      · dsimp only
        split
        · exact left_of_no_call h (by simp [hkind]) (by simp [hkind]) rfl rfl
        · exact left_of_no_call h (by simp [hkind]) (by simp [hkind]) rfl rfl
      · cases kind with
        | opening =>
          obtain ⟨hsession, hlog⟩ := begin_of_no_call surroundings hkind h
          exact left_of_no_call h (by simp [hkind]) (by simp [hkind]) hsession hlog
        | shutdown =>
          dsimp only [finish]
          split
          · rename_i hrunning
            have hafter : session.phase.after message = session.phase := by
              unfold Phase.after
              split <;> simp_all
            exact ⟨hafter.symm, rfl, rfl⟩
          · rename_i hrunning
            have hafter : session.phase.after message = .shutDown := by
              simp [Phase.after, hkind, Decidable.of_not_not hrunning]
            exact ⟨hafter.symm, rfl, rfl⟩
        | exit =>
          have hafter : session.phase.after message = .exited := by
            unfold Phase.after
            split <;> simp_all
          exact ⟨hafter.symm, rfl, rfl⟩
        | request method =>
          obtain ⟨hsession, hlog, -⟩ := request_of_no_call surroundings hkind h
          exact left_of_no_call h (by simp [hkind]) (by simp [hkind]) hsession hlog
        | notice method =>
          obtain ⟨hsession, hlog⟩ := notice_of_no_call surroundings hkind h
          exact left_of_no_call h (by simp [hkind]) (by simp [hkind]) hsession hlog

end Reaction

/-- The phase goes by the message alone, not by what the server keeps. -/
theorem phase_receive (surroundings : Surroundings) (session : Session) (message : Message) :
    (session.receive surroundings message).session.phase = session.phase.after message := by
  rcases hcall : session.call? message with _ | call
  · exact (receive_of_no_call surroundings hcall).1
  · rw [receive_of_call surroundings hcall, after_of_call hcall]
    rfl

/-- The server goes by the call that is made. -/
theorem server_receive (surroundings : Surroundings) (session : Session) (message : Message) :
    (session.receive surroundings message).session.server =
      match session.call? message with
      | some call => (session.server.handle surroundings call).server
      | none => session.server := by
  rcases hcall : session.call? message with _ | call
  · exact (receive_of_no_call surroundings hcall).2.1
  · rw [receive_of_call surroundings hcall]
    rfl

/-! ## A run -/

/-- The session that messages lead to, one after another, each with the files as they are then. -/
def after (session : Session) : List (Surroundings × Message) → Session
  | [] => session
  | (surroundings, message) :: rest => (session.receive surroundings message).session.after rest

/-- The calls that are made of messages, one after another. -/
def calls (session : Session) : List (Surroundings × Message) → List (Surroundings × Server.Call)
  | [] => []
  | (surroundings, message) :: rest =>
    ((session.call? message).map (surroundings, ·)).toList ++
      (session.receive surroundings message).session.calls rest

theorem after_append (session : Session) (earlier later : List (Surroundings × Message)) :
    session.after (earlier ++ later) = (session.after earlier).after later := by
  induction earlier generalizing session with
  | nil => rfl
  | cons step rest ih => exact ih (session.receive step.1 step.2).session

/-- A run of a session is a run of its server on the calls that are made. -/
theorem server_after (session : Session) (messages : List (Surroundings × Message)) :
    (session.after messages).server = (session.server.run (session.calls messages)).1 := by
  induction messages generalizing session with
  | nil => rfl
  | cons step rest ih =>
    obtain ⟨surroundings, message⟩ := step
    simp only [after, calls, ih, server_receive]
    rcases session.call? message with _ | call
    · rfl
    · rfl

theorem after_ne_fresh {phase : Phase} (h : phase ≠ .fresh) (message : Message) :
    phase.after message ≠ .fresh := by
  unfold Phase.after
  split
  · simp
  · simp
  · simp
  · exact absurd rfl h
  · exact h

/-- A session is opened once: later calls are none that open one. -/
theorem phase_of_mem_calls {session : Session} (h : session.phase ≠ .fresh)
    {messages : List (Surroundings × Message)} {step : Surroundings × Server.Call}
    (hstep : step ∈ session.calls messages) : step.2.phase = .running := by
  induction messages generalizing session with
  | nil => cases hstep
  | cons first rest ih =>
    obtain ⟨surroundings, message⟩ := first
    rcases List.mem_append.mp hstep with hfirst | hrest
    · obtain ⟨call, hcall, rfl⟩ := Option.map_eq_some_iff.mp (Option.mem_toList.mp hfirst)
      obtain ⟨-, hphase⟩ := call?_eq_some.mp hcall
      cases call with
      | opening opening => exact absurd hphase h
      | _ => rfl
    · apply ih _ hrest
      rw [phase_receive]
      exact after_ne_fresh h message

theorem phase_after_of_exited {session : Session} (h : session.phase = .exited)
    (messages : List (Surroundings × Message)) : (session.after messages).phase = .exited := by
  induction messages generalizing session with
  | nil => exact h
  | cons step rest ih =>
    apply ih
    rw [phase_receive, h]
    rfl

/-- Without an opening a fresh session stays so, unless it is left. -/
theorem after_of_fresh {session : Session} {message : Message} (hfresh : session.phase = .fresh)
    (h : session.call? message = none) :
    session.phase.after message = .fresh ∨ session.phase.after message = .exited := by
  by_cases hexit : MethodKind.ofName? message.method = some .exit
  · simp [Phase.after, hfresh, hexit]
  · by_cases hshutdown : MethodKind.ofName? message.method = some .shutdown
    · simp [Phase.after, hfresh, hshutdown]
    · rw [after_of_no_call h hshutdown hexit]
      exact .inl hfresh

/-- A running session was opened by one of its messages. -/
theorem exists_opening {session : Session} (hfresh : session.phase = .fresh)
    {messages : List (Surroundings × Message)} (h : (session.after messages).phase = .running) :
    ∃ before step later opening, messages = before ++ step :: later ∧
      (session.after before).call? step.2 = some (.opening opening) := by
  induction messages generalizing session with
  | nil =>
    rw [after, hfresh] at h
    cases h
  | cons step rest ih =>
    obtain ⟨surroundings, message⟩ := step
    rcases hcall : session.call? message with _ | call
    · have hphase := phase_receive surroundings session message
      rcases after_of_fresh hfresh hcall with hstill | hexited
      · obtain ⟨before, opener, later, opening, rfl, hopening⟩ := ih (hphase.trans hstill) h
        exact ⟨(surroundings, message) :: before, opener, later, opening, rfl, hopening⟩
      · have := phase_after_of_exited (hphase.trans hexited) rest
        rw [after, this] at h
        cases h
    · obtain ⟨-, hphase⟩ := call?_eq_some.mp hcall
      rw [hfresh] at hphase
      cases call with
      | opening opening => exact ⟨[], (surroundings, message), rest, opening, rfl, hcall⟩
      | _ => cases hphase

end Session

end DelugeAssist
