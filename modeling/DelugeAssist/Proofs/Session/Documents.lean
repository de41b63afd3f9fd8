-- The documents over a whole run. What the store holds under a key is what the calls about that
-- key alone lead to: the latest opening, with the changes after it, unless a closing came later.

import DelugeAssist.Session.Server
import Mathlib.Data.List.DropRight
import Mathlib.Data.List.Induction

namespace DelugeAssist

namespace Server

/-! ## What a run says about one document -/

/-- The key of the document that a call opens, changes or closes. -/
def Call.key? : Call → Option String
  | .didOpen opened => (keyOf opened.uri).toOption
  | .didChange changed => (keyOf changed.uri).toOption
  | .didClose uri => (keyOf uri).toOption
  | _ => none

/-- The call opens or closes a document. -/
def Call.isTurn : Call → Bool
  | .didOpen _ => true
  | .didClose _ => true
  | _ => false

/-- The changes that a call brings. -/
def Call.changes : Call → List Change
  | .didChange changed => changed.changes
  | _ => []

/-- The version that a call gives its document. -/
def Call.version? : Call → Option Int
  | .didOpen opened => some opened.version
  | .didChange changed => some changed.version
  | _ => none

/-- The calls that open, change or close the document of a key. -/
def history (key : String) (calls : List Call) : List Call :=
  calls.filter fun call => call.key? = some key

/-- The latest opening or closing. -/
def latestTurn (calls : List Call) : Option Call := (calls.filter Call.isTurn).getLast?

/-- The changes after the latest opening or closing, in order. -/
def changesSince (calls : List Call) : List Change :=
  (calls.rtakeWhile fun call => !call.isTurn).flatMap Call.changes

/-- The latest version that a call gave. -/
def latestVersion (calls : List Call) : Option Int := (calls.filterMap Call.version?).getLast?

/-- What a call about a document makes of it, or of its absence. -/
def follow : Option Document → Call → Option Document
  | _, .didOpen opened => some ⟨opened.text, some opened.version, some opened.language⟩
  | stored, .didChange changed => stored.map fun document =>
    document.replaceText (document.text.applyChanges changed.changes) (some changed.version)
  | _, .didClose _ => none
  | stored, _ => stored

/-! ## One call -/

theorem toOption_keyOf {uri key : String} :
    (keyOf uri).toOption = some key ↔ keyOf uri = .ok key := by
  cases keyOf uri <;> simp [Except.toOption]

/-- A change to a document that is not open changes nothing, and is told in one warning. -/
theorem handle_didChange_of_closed (surroundings : Surroundings) (server : Server)
    {changed : Params.Changed} {key : String} (hkey : keyOf changed.uri = .ok key)
    (hclosed : server.documents.get? key = none) :
    server.handle surroundings (.didChange changed) =
      { server, log := [⟨.warning, "Document not found for change event: " ++ key⟩] } := by
  simp only [handle, didChange, hkey, hclosed]

/-- A call about a document makes of it what `follow` says. -/
theorem get?_handle_of_key (surroundings : Surroundings) (server : Server) {call : Call}
    {key : String} (h : call.key? = some key) :
    (server.handle surroundings call).server.documents.get? key =
      follow (server.documents.get? key) call := by
  cases call with
  | didOpen opened =>
    have hkey := toOption_keyOf.mp h
    simp [handle, didOpen, hkey, follow, DocumentStore.get?_insert]
  | didClose uri =>
    have hkey := toOption_keyOf.mp h
    simp [handle, didClose, hkey, follow, DocumentStore.get?_erase]
  | didChange changed =>
    have hkey := toOption_keyOf.mp h
    rcases hstored : server.documents.get? key with _ | document
    · rw [handle_didChange_of_closed surroundings server hkey hstored, hstored]
      rfl
    · simp [handle, didChange, hkey, hstored, follow, DocumentStore.update,
        DocumentStore.get?_insert]
  | _ => exact absurd h (by simp [Call.key?])

/-- A call leaves every document as it was that it is not about. -/
theorem get?_handle_of_ne (surroundings : Surroundings) (server : Server) {call : Call}
    {key : String} (h : call.key? ≠ some key) :
    (server.handle surroundings call).server.documents.get? key = server.documents.get? key := by
  cases call with
  | didOpen opened =>
    simp only [Call.key?, ne_eq, toOption_keyOf] at h
    simp only [handle, didOpen]
    split
    · rfl
    · rename_i own hown
      rw [DocumentStore.get?_insert, if_neg]
      rintro rfl
      exact h hown
  | didClose uri =>
    simp only [Call.key?, ne_eq, toOption_keyOf] at h
    simp only [handle, didClose]
    split
    · rfl
    · rename_i own hown
      rw [DocumentStore.get?_erase, if_neg]
      rintro rfl
      exact h hown
  | didChange changed =>
    simp only [Call.key?, ne_eq, toOption_keyOf] at h
    simp only [handle, didChange]
    split
    · rfl
    · rename_i own hown
      split
      · rfl
      · have hne : key ≠ own := by
          rintro rfl
          exact h hown
        simp [DocumentStore.update, DocumentStore.get?_insert, *]
  | _ => rfl

/-! ## A whole run -/

/-- What a run leaves under a key comes of the calls about that key alone. -/
theorem get?_run (server : Server) (calls : List (Surroundings × Call)) (key : String) :
    (server.run calls).1.documents.get? key =
      (history key (calls.map Prod.snd)).foldl follow (server.documents.get? key) := by
  induction calls generalizing server with
  | nil => rfl
  | cons step later ih =>
    obtain ⟨surroundings, call⟩ := step
    simp only [run, ih, history, List.map_cons]
    by_cases h : call.key? = some key
    · rw [get?_handle_of_key surroundings server h, List.filter_cons_of_pos (by simpa using h),
        List.foldl_cons]
    · rw [get?_handle_of_ne surroundings server h, List.filter_cons_of_neg (by simpa using h)]

theorem latestTurn_append (calls : List Call) (call : Call) :
    latestTurn (calls ++ [call]) = if call.isTurn then some call else latestTurn calls := by
  unfold latestTurn
  cases h : call.isTurn <;> simp [h, List.filter_append]

theorem changesSince_append (calls : List Call) (call : Call) :
    changesSince (calls ++ [call]) =
      if call.isTurn then [] else changesSince calls ++ call.changes := by
  unfold changesSince
  cases h : call.isTurn <;> simp [h]

theorem latestVersion_append (calls : List Call) (call : Call) :
    latestVersion (calls ++ [call]) = call.version?.or (latestVersion calls) := by
  unfold latestVersion
  cases h : call.version? <;> simp [h, List.filterMap_append]

/-- The latest opening, with the changes after it, is what the calls lead to. -/
theorem foldl_follow (calls : List Call) :
    calls.foldl follow none =
      match latestTurn calls with
      | some (.didOpen opened) =>
        some ⟨opened.text.applyChanges (changesSince calls), latestVersion calls,
          some opened.language⟩
      | _ => none := by
  induction calls using List.reverseRecOn with
  | nil => rfl
  | append_singleton calls call ih =>
    rw [List.foldl_append, List.foldl_cons, List.foldl_nil, ih, latestTurn_append,
      changesSince_append, latestVersion_append]
    cases call with
    | didOpen opened => simp [follow, Call.isTurn, Call.version?, Text.applyChanges]
    | didClose uri => simp [follow, Call.isTurn]
    | didChange changed =>
      simp only [follow, Call.isTurn, Call.version?, Call.changes, Bool.false_eq_true, if_false]
      rcases latestTurn calls with _ | turn
      · rfl
      · cases turn <;> simp [Document.replaceText, Text.applyChanges]
    | _ => simp [follow, Call.isTurn, Call.version?, Call.changes]

/-- A run that starts without documents leaves a document under a key just if the latest opening or
closing of that key was an opening. The document has the text of that opening with all the changes
since, the latest version, and the language of the opening. A change to a key that is not open makes
no document and gives one warning with the key, and a call that is not about a key, or whose
identifier has no key, leaves what stands under it. -/
theorem a_document_follows_its_latest_opening (server : Server)
    (calls : List (Surroundings × Call)) (key : String) :
    let past := history key (calls.map Prod.snd)
    let stored := (run { server with documents := {} } calls).1.documents.get? key
    (stored.isSome ↔ ∃ opened, latestTurn past = some (.didOpen opened)) ∧
    (∀ opened, latestTurn past = some (.didOpen opened) →
      stored = some ⟨opened.text.applyChanges (changesSince past), latestVersion past,
        some opened.language⟩) ∧
    (∀ surroundings (before : Server) changed, keyOf changed.uri = .ok key →
      before.documents.get? key = none →
      before.handle surroundings (.didChange changed) =
        { server := before
          log := [⟨.warning, "Document not found for change event: " ++ key⟩] }) ∧
    (∀ surroundings (before : Server) call, call.key? ≠ some key →
      (before.handle surroundings call).server.documents.get? key =
        before.documents.get? key) := by
  intro past stored
  have hstored : stored = past.foldl follow none :=
    get?_run { server with documents := {} } calls key
  rw [foldl_follow] at hstored
  refine ⟨?_, ?_, ?_, ?_⟩
  · rw [hstored]
    split
    · rename_i opened hturn
      simp [hturn]
    · rename_i hnone
      simp only [Option.isSome_none, Bool.false_eq_true, false_iff, not_exists]
      exact hnone
  · intro opened hturn
    rw [hstored, hturn]
  · intro surroundings before changed hkey hclosed
    exact handle_didChange_of_closed surroundings before hkey hclosed
  · intro surroundings before call hne
    exact get?_handle_of_ne surroundings before hne

/-- A document that is closed, changed in vain and opened again under another spelling of its
identifier, with a document beside it. -/
theorem a_document_follows_a_second_spelling :
    let calls : List Call :=
      [.didOpen ⟨"file:///a.dg", "deluge", 1, ['x']⟩,
        .didOpen ⟨"file:///b.dg", "deluge", 1, ['b']⟩,
        .didChange ⟨"file:///a.dg", 2, [⟨none, ['y']⟩]⟩, .didClose "file:///a.dg",
        .didChange ⟨"file:///a.dg", 3, [⟨none, ['w']⟩]⟩,
        .didOpen ⟨"FILE:///c/../a.dg", "text", 7, ['z']⟩,
        .didChange ⟨"file:///b.dg", 8, [⟨none, []⟩]⟩,
        .didChange ⟨"file:///a.dg", 9,
          [⟨some ⟨⟨0, 0⟩, ⟨0, 1⟩⟩, ['é']⟩, ⟨some ⟨⟨0, 1⟩, ⟨0, 1⟩⟩, ['!']⟩]⟩]
    let surroundings : Surroundings := ⟨fun _ => .absent, none⟩
    (run {} (calls.map fun call => (surroundings, call))).1.documents.get? "file:///a.dg" =
      some ⟨['é', '!'], some 9, some "text"⟩ := by
  have ha : (keyOf "file:///a.dg").toOption = some "file:///a.dg" := by decide +kernel
  have hb : (keyOf "file:///b.dg").toOption = some "file:///b.dg" := by decide +kernel
  have hc : (keyOf "FILE:///c/../a.dg").toOption = some "file:///a.dg" := by decide +kernel
  refine (a_document_follows_its_latest_opening {} _ "file:///a.dg").2.1
    ⟨"FILE:///c/../a.dg", "text", 7, ['z']⟩ ?_ |>.trans ?_
  · simp [history, latestTurn, Call.key?, Call.isTurn, ha, hb, hc]
  · decide +kernel

end Server

end DelugeAssist
