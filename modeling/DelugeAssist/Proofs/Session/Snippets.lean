-- Snippets. An item is sent as one with places to fill in just if it is a method, the opening of
-- the session has said that the editor takes them, and the settings of the moment want them.

import DelugeAssist.Proofs.Completion.Switch
import DelugeAssist.Proofs.Json.Object
import DelugeAssist.Proofs.Protocol.Abilities
import DelugeAssist.Proofs.Session.Requests
import DelugeAssist.Proofs.Session.Settings

namespace DelugeAssist

/-! ## Items -/

namespace Completion

variable {item : Item}

theorem member?_insertion (item : Item) :
    item.toJson.member? "insertText" = item.insertion.map (fun insertion => .str insertion.text) ∧
      item.toJson.member? "insertTextFormat" =
        item.insertion.map (fun insertion => .int insertion.form.number) := by
  obtain ⟨label, kind, detail, documentation, insertion, sortText⟩ := item
  rw [Item.toJson, Json.member?_object, Json.member?_object]
  cases insertion <;> cases detail <;> cases documentation <;>
    simp [member?, Json.lookup_member]

/-- An item is sent as a snippet just if it is a method and snippets are wanted. -/
theorem member?_of_mem {left : List Char} {options : Options} {list : List Item}
    (hlist : items left options = some list) (hitem : item ∈ list) :
    (item.toJson.member? "insertTextFormat" = some (.int 2) ↔
      item.kind = .method ∧ options.snippets = true) ∧
    (item.kind = .method → options.snippets = false →
      item.toJson.member? "insertText" = some (.str (item.label ++ "()")) ∧
        item.toJson.member? "insertTextFormat" = some (.int 1)) ∧
    (item.kind ≠ .method → item.toJson.member? "insertText" = none) := by
  obtain ⟨htext, hform⟩ := member?_insertion item
  rw [htext, hform, insertion_of_mem hlist hitem]
  by_cases hkind : item.kind = .method
  · cases hsnippets : options.snippets with
    | true => simp [hkind, InsertForm.number]
    | false => simp [hkind, InsertForm.number]
  · simp [hkind]

end Completion

/-- What a completion offers is what the text left of the place asks for. -/
theorem Server.items_of_completion {server : Server} {spot : Params.Spot}
    {list : List Completion.Item} (h : (server.completion spot).1 = some list) :
    ∃ left, Completion.items left server.completionOptions = some list := by
  unfold completion at h
  split at h
  · cases h
  · exact ⟨_, h⟩

/-! ## Openings -/

theorem MethodKind.eq_of_opening {name : String} (h : ofName? name = some .opening) :
    name = "initialize" := by
  unfold ofName? at h
  split at h <;> first | rfl | cases h | skip
  split at h
  · cases h
  · split at h <;> cases h

namespace Session

variable {session : Session} {message : Message}

/-- A completion that is answered has got through. -/
theorem call?_of_answered {surroundings : Surroundings} {id result : Json}
    (hmethod : message.method = "textDocument/completion")
    (h : (session.receive surroundings message).response = some ⟨id, .ok result⟩) :
    ∃ spot, session.call? message = some (.completion spot) := by
  have hkind : MethodKind.ofName? message.method = some (.request .completion) := by
    rw [hmethod]
    rfl
  rcases hcall : session.call? message with _ | call
  · have hname : message.method ≠ cancelName := by
      rw [hmethod]
      decide
    unfold receive at h
    split at h
    · cases h
    · obtain ⟨-, -, hrefused⟩ := request_of_no_call surroundings hkind hcall
      simp only [hkind] at h
      exact absurd h (hrefused id result)
  · obtain ⟨hasked, -⟩ := call?_eq_some.mp hcall
    obtain ⟨params, -, hasked⟩ := Message.call?_eq_some.mp hasked
    simp only [hkind, Option.some.injEq, MethodKind.request.injEq, reduceCtorEq, false_and,
      exists_false, false_or, or_false] at hasked
    obtain ⟨method, rfl, -, hread⟩ := hasked
    obtain ⟨-, spot, -, rfl⟩ | ⟨hother, -⟩ := RequestMethod.call_eq_ok.mp hread
    · exact ⟨spot, rfl⟩
    · cases hother

/-- A completion is answered with what the server offers. -/
theorem response_of_completion (surroundings : Surroundings) {spot : Params.Spot}
    (h : session.call? message = some (.completion spot)) :
    ∃ id, message.id = some id ∧ (session.receive surroundings message).response =
      some ⟨id, .ok (Completion.toJson (session.server.completion spot).1)⟩ := by
  obtain ⟨id, hid, hreceive⟩ := receive_of_request surroundings h rfl
  exact ⟨id, hid, congrArg Reaction.response hreceive⟩

/-- The ability to fill in places is that of the opening, whatever came after it. -/
theorem snippetSupport_after {past : List (Surroundings × Message)}
    (h : (({} : Session).after past).phase = .running) :
    ∃ before opener later params, past = before ++ opener :: later ∧
      opener.2.method = "initialize" ∧ opener.2.params = some params ∧
      (({} : Session).after before).phase = .fresh ∧
      (({} : Session).after (before ++ [opener])).phase = .running ∧
      ((({} : Session).after past).server.snippetSupport.getD false = true ↔
        Params.snippetFlag? params = some (.bool true)) := by
  obtain ⟨before, opener, later, opening, rfl, hopening⟩ := exists_opening rfl h
  obtain ⟨hasked, hfresh⟩ := call?_eq_some.mp hopening
  obtain ⟨params, hparams, ⟨hkind, -, opening', hread, hsame⟩ | ⟨method, -, -, hmade⟩ |
    ⟨method, -, -, hmade⟩⟩ := Message.call?_eq_some.mp hasked
  · obtain rfl := Server.Call.opening.inj hsame
    -- The opening sets the ability, and what comes later runs in a session that is open.
    have hopened : ({} : Session).after (before ++ [opener]) =
        (((({} : Session).after before).receive opener.1 opener.2)).session := after_append _ _ _
    obtain ⟨hrunning, -, hsupport⟩ := set_of_opening opener.1 hopening
    rw [← hopened] at hrunning hsupport
    have hopen : (({} : Session).after (before ++ [opener])).phase ≠ .fresh := by
      rw [hrunning]
      exact Phase.noConfusion
    have hkept := (kept_after hopen later).2
    rw [← after_append, List.append_assoc, List.singleton_append, hsupport] at hkept
    refine ⟨before, opener, later, params, rfl, MethodKind.eq_of_opening hkind, hparams, hfresh,
      hrunning, ?_⟩
    rw [hkept]
    exact Params.snippetSupport_iff hread
  · cases RequestMethod.phase_of_call hmade
  · cases (NoticeMethod.call?_spec hmade).1

/-- Whatever a run has brought, a completion that is answered sends an item as a snippet just if it
is a method, the opening that set up the session declared that places can be filled in, and the
settings of the moment want snippets. A method that is not sent so carries its name with empty
brackets as plain text, and no other item carries any text to insert. After the opening, no message
changes whether places can be filled in. -/
theorem snippets_go_only_to_an_editor_that_takes_them :
    (∀ (past : List (Surroundings × Message)) surroundings (message : Message) id result,
      let session := ({} : Session).after past
      message.method = "textDocument/completion" →
      (session.receive surroundings message).response = some ⟨id, .ok result⟩ →
      ∃ before opener later params, past = before ++ opener :: later ∧
        opener.2.method = "initialize" ∧ opener.2.params = some params ∧
        (({} : Session).after before).phase = .fresh ∧
        (({} : Session).after (before ++ [opener])).phase = .running ∧
        let places := Params.snippetFlag? params = some (.bool true) ∧
          session.server.settings.snippets = true
        (result = .null ∨ ∃ items : List Completion.Item, result = .arr (items.map (·.toJson)) ∧
          ∀ item ∈ items,
            (item.toJson.member? "insertTextFormat" = some (.int 2) ↔
              item.kind = .method ∧ places) ∧
            (item.kind = .method → ¬ places →
              item.toJson.member? "insertText" = some (.str (item.label ++ "()")) ∧
                item.toJson.member? "insertTextFormat" = some (.int 1)) ∧
            (item.kind ≠ .method → item.toJson.member? "insertText" = none))) ∧
    (∀ session : Session, session.phase ≠ .fresh → ∀ messages,
      (session.after messages).server.snippetSupport = session.server.snippetSupport) := by
  constructor
  · intro past surroundings message id result session hmethod hresponse
    obtain ⟨spot, hcall⟩ := call?_of_answered hmethod hresponse
    obtain ⟨-, hrunning⟩ := call?_eq_some.mp hcall
    obtain ⟨before, opener, later, params, hpast, hopener, hparams, hfresh, hopened, hsupport⟩ :=
      snippetSupport_after hrunning
    refine ⟨before, opener, later, params, hpast, hopener, hparams, hfresh, hopened, ?_⟩
    obtain ⟨id', -, hanswered⟩ := response_of_completion surroundings hcall
    have hresult := hanswered.symm.trans hresponse
    simp only [Option.some.injEq, Response.mk.injEq, Except.ok.injEq] at hresult
    obtain ⟨-, rfl⟩ := hresult
    intro places
    rcases hitems : (session.server.completion spot).1 with _ | items
    · exact .inl rfl
    · refine .inr ⟨items, rfl, fun item hitem => ?_⟩
      obtain ⟨left, hleft⟩ := Server.items_of_completion hitems
      have hplaces : session.server.completionOptions.snippets = true ↔ places := by
        simp only [Server.completionOptions, Bool.and_eq_true, places, ← hsupport, session]
        exact and_comm
      obtain ⟨hsnippet, hplain, hnone⟩ := Completion.member?_of_mem hleft hitem
      rw [hplaces] at hsnippet
      refine ⟨hsnippet, fun hmethod hnot => hplain hmethod ?_, hnone⟩
      rw [← hplaces] at hnot
      simpa using hnot
  · intro session hopen messages
    exact (kept_after hopen messages).2

/-- The methods of a service, asked for by an editor that takes places to fill in, after the
settings have been loaded again. -/
theorem snippets_reach_an_editor_after_a_reload :
    let around : Surroundings := ⟨fun _ => .absent, none⟩
    let completion : Json := .obj [("completionItem", .obj [("snippetSupport", .bool true)])]
    let able : Json :=
      .obj [("capabilities", .obj [("textDocument", .obj [("completion", completion)])])]
    let opener : Message := ⟨"initialize", some able, some (.int 1)⟩
    let opened : Message :=
      ⟨"textDocument/didOpen",
        some (.obj [("textDocument", .obj [("languageId", .str "deluge"),
          ("text", .str "zoho.crm."), ("uri", .str "file:///a.dg"), ("version", .int 1)])]), none⟩
    let configured : Message :=
      ⟨"workspace/didChangeConfiguration",
        some (.obj [("settings", .obj [("hover", .bool false)])]), none⟩
    let past := [opener, opened, configured].map (around, ·)
    let session := ({} : Session).after past
    let asked : Message :=
      ⟨"textDocument/completion", some (Params.Spot.toJson ⟨"file:///a.dg", ⟨0, 9⟩⟩),
        some (.int 2)⟩
    ∃ items : List Completion.Item,
      (session.receive around asked).response =
          some ⟨.int 2, .ok (.arr (items.map (·.toJson)))⟩ ∧
        ∀ item ∈ items, item.kind = .method →
          item.toJson.member? "insertTextFormat" = some (.int 2) := by
  intro around completion able opener opened configured past session asked
  have hrunning : session.phase = .running := by decide +kernel
  have huri : Uri.read "file:///a.dg" = .ok "file:///a.dg" := rfl
  have hcall : session.call? asked = some (.completion ⟨"file:///a.dg", ⟨0, 9⟩⟩) :=
    (call?_request hrunning (.int 2) huri (by decide) (by decide)).1
  have hflag : Params.snippetFlag? able = some (.bool true) := rfl
  have hsettings : (({} : Session).after past).server.settings.snippets = true := by
    decide +kernel
  have hlist : (session.server.completion ⟨"file:///a.dg", ⟨0, 9⟩⟩).1.isSome = true := by
    decide +kernel
  obtain ⟨id, hid, hresponse⟩ := response_of_completion around hcall
  obtain rfl := Option.some.inj hid
  obtain ⟨list, hlist⟩ := Option.isSome_iff_exists.mp hlist
  rw [hlist] at hresponse
  obtain ⟨hrun, -⟩ := snippets_go_only_to_an_editor_that_takes_them
  obtain ⟨before, step, later, params, hpast, hopener, hparams, -, -, hitems⟩ :=
    hrun past around asked _ _ rfl hresponse
  have hstep : step ∈ past := by
    rw [hpast]
    exact List.mem_append_right before List.mem_cons_self
  simp only [past, List.map_cons, List.map_nil, List.mem_cons, List.not_mem_nil,
    or_false] at hstep
  obtain rfl | rfl | rfl := hstep
  · obtain rfl := Option.some.inj hparams
    rcases hitems with hnull | ⟨items, hitems, hall⟩
    · cases hnull
    · rw [hitems] at hresponse
      exact ⟨items, hresponse, fun item hitem hmethod =>
        (hall item hitem).1.mpr ⟨hmethod, hflag, hsettings⟩⟩
  · exact absurd hopener (by decide)
  · exact absurd hopener (by decide)

end Session

end DelugeAssist
