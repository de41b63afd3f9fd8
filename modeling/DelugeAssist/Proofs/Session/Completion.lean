-- Completion in a session and on the command line. The line of the cursor up to the cursor asks for
-- the same as the whole text up to the cursor, so the server and the command line offer the same
-- labels for it.

import DelugeAssist.CommandLine.Outcome
import DelugeAssist.Proofs.Completion.Trigger
import DelugeAssist.Session.Server

namespace DelugeAssist

/-! ## The text up to the cursor -/

namespace Text

/-- On a line that is there, the text up to a position is made of whole lines and of the part of the
line before the position. -/
theorem exists_above_lineBefore {text : Text} {position : Position}
    (h : position.line < text.lineCount) :
    ∃ above left offset, above.EndsLine ∧ text.lineBefore? position = some left ∧
      text.positionToOctet? position = some offset ∧ text.isBoundary offset = true ∧
      text.takeOctets offset = above ++ left := by
  obtain ⟨above, piece, below, hsplit⟩ := exists_lineSplit h
  have hup := upTo_isPrefix text position.line position.character
  refine ⟨above, columnPrefix (stripReturn piece) position.character,
    octets (upTo text position.line position.character), hsplit.endsLine, ?_, ?_, ?_, ?_⟩
  · rw [lineBefore?_eq, hsplit.line?_eq, Option.map_some]
  · rw [positionToOctet?_eq, hsplit.line?_eq, Option.map_some]
  · exact isBoundary_iff_isPrefix.mpr ⟨_, hup, rfl⟩
  · rw [takeOctets_of_isPrefix hup, hsplit.upTo_eq]

end Text

/-! ## What the command line prints -/

namespace CommandLine

theorem toList_unlines_cons (line : String) (rest : List String) :
    (unlines (line :: rest)).toList = line.toList ++ '\n' :: (unlines rest).toList := by
  simp [unlines]

/-- Lines that are printed one by one are read back as they are. -/
theorem pieces_unlines {lines : List String} (h : ∀ line ∈ lines, '\n' ∉ line.toList) :
    Text.pieces (unlines lines).toList = lines.map String.toList ++ [[]] := by
  induction lines with
  | nil => rfl
  | cons line rest ih =>
    rw [toList_unlines_cons, Text.pieces_append_feed (h line (by simp)),
      ih fun other hother => h other (by simp [hother])]
    rfl

theorem labels_eq (left : Text) : labels left = (Trigger.ofText left).labels := by
  obtain ⟨items, hitems⟩ := Completion.exists_ofTrigger {} rfl (Trigger.ofText left)
  have hleft : Completion.items left {} = some items := hitems
  rw [labels, hleft, Option.getD_some, Completion.labels_ofTrigger hitems]

/-- Asked to complete a text, the program prints the labels of its trigger, a line each. -/
theorem ofRequest_complete (left : Text) :
    Outcome.ofRequest (.complete (String.ofList left)) =
      Outcome.ofLines (Trigger.ofText left).labels := by
  simp only [Outcome.ofRequest, String.toList_ofList, labels_eq]

/-- Any text can be completed from the command line, given behind two dashes. -/
theorem ofArguments_complete (left : String) :
    Request.ofArguments ["complete", "--", left] = .ok (.complete left) := by
  have hname : Command.ofName? "complete" = some .complete := by decide
  have hdashes : Shape.ofArgument "--" = .dashes := by decide
  simp only [Request.ofArguments, hname, Request.ofOperands, hdashes]
  rfl

end CommandLine

namespace Server

/-- With the words of the language switched on, the items at a place in an open document carry the
labels of the trigger to the left, whatever the editor can do. -/
theorem exists_completion {server : Server} {spot : Params.Spot} {document : Document} {left : Text}
    (hdocument : server.document spot.uri = .ok document)
    (hgeneric : server.settings.genericCompletions = true)
    (hleft : document.text.lineBefore? spot.position = some left) :
    ∃ items, (server.completion spot).1 = some items ∧
      items.map (·.label) = (Trigger.ofText left).labels := by
  obtain ⟨items, hitems⟩ :=
    Completion.exists_ofTrigger server.completionOptions hgeneric (Trigger.ofText left)
  refine ⟨items, ?_, Completion.labels_ofTrigger hitems⟩
  simp only [completion, hdocument, hleft, Option.getD_some]
  exact hitems

/-- On a line that is there, the part of the line before a position asks for the same as the whole
text up to the position, and gives the same items under any options. So with the words of the
language switched on, the answer to a completion in an open document has just the labels that the
program prints, line by line, when its arguments ask to complete the text up to the position. Such
arguments there are for any text. -/
theorem the_line_completes_as_the_text_up_to_the_cursor :
    (∀ (text : Text) (position : Position), position.line < text.lineCount →
      ∃ offset left, text.positionToOctet? position = some offset ∧
        text.isBoundary offset = true ∧ text.lineBefore? position = some left ∧
        Trigger.ofText left = Trigger.ofText (text.takeOctets offset) ∧
        ∀ options, Completion.items left options =
          Completion.items (text.takeOctets offset) options) ∧
    (∀ (surroundings : Surroundings) (server : Server) (spot : Params.Spot) (document : Document),
      server.document spot.uri = .ok document → server.settings.genericCompletions = true →
      spot.position.line < document.text.lineCount →
      ∃ offset items, document.text.positionToOctet? spot.position = some offset ∧
        (server.handle surroundings (.completion spot)).answer = .items (some items) ∧
        ∀ arguments, CommandLine.Request.ofArguments arguments =
            .ok (.complete (String.ofList (document.text.takeOctets offset))) →
          let outcome := CommandLine.Outcome.ofArguments arguments
          outcome.code = 0 ∧ outcome.stderr = "" ∧
            Text.pieces outcome.stdout.toList = items.map (·.label.toList) ++ [[]]) ∧
    (∀ left : String, ∃ arguments,
      CommandLine.Request.ofArguments arguments = .ok (.complete left)) := by
  refine ⟨?_, ?_, ?_⟩
  · intro text position hline
    obtain ⟨above, left, offset, hends, hleft, hoffset, hboundary, htake⟩ :=
      Text.exists_above_lineBefore hline
    have htrigger : Trigger.ofText left = Trigger.ofText (text.takeOctets offset) := by
      rw [htake, Trigger.ofText_above hends]
    refine ⟨offset, left, hoffset, hboundary, hleft, htrigger, ?_⟩
    intro options
    rw [Completion.items, Completion.items, htrigger]
  · intro surroundings server spot document hdocument hgeneric hline
    obtain ⟨above, left, offset, hends, hleft, hoffset, -, htake⟩ :=
      Text.exists_above_lineBefore hline
    obtain ⟨items, hitems, hlabels⟩ := exists_completion hdocument hgeneric hleft
    refine ⟨offset, items, hoffset, congrArg Answer.items hitems, ?_⟩
    intro arguments hrequest outcome
    have houtcome : outcome = CommandLine.Outcome.ofLines (Trigger.ofText left).labels := by
      simp only [outcome, CommandLine.Outcome.ofArguments, hrequest,
        CommandLine.ofRequest_complete, htake, Trigger.ofText_above hends]
    rw [houtcome]
    refine ⟨rfl, rfl, ?_⟩
    have hprinted := CommandLine.pieces_unlines (Trigger.feed_notMem_labels (Trigger.ofText left))
    rw [← hlabels, List.map_map] at hprinted
    rw [← hlabels]
    exact hprinted
  · intro left
    exact ⟨_, CommandLine.ofArguments_complete left⟩

/-- A cursor behind a pair of units and a service, on a line below one that ends in two characters,
for an editor that can fill in places. -/
theorem a_line_behind_a_pair_completes_as_the_text :
    let before := "// ü\r\n😀 zoho.crm."
    let text : Text := (before ++ "get\n").toList
    let spot : Params.Spot := ⟨"file:///a.dg", ⟨1, 12⟩⟩
    let server : Server :=
      { documents := { entries := [("file:///a.dg", ⟨text, none, none⟩)] }
        snippetSupport := some true }
    let outcome := CommandLine.Outcome.ofArguments ["complete", "--", before]
    spot.position.line < text.lineCount ∧ server.document spot.uri = .ok ⟨text, none, none⟩ ∧
    Trigger.ofText "😀 zoho.crm.".toList = Trigger.ofText before.toList ∧
    ∃ items, (server.handle ⟨fun _ => .absent, none⟩ (.completion spot)).answer =
        .items (some items) ∧
      items.head?.map (·.label) = some "getRecords" ∧ outcome.code = 0 ∧ outcome.stderr = "" ∧
      Text.pieces outcome.stdout.toList = items.map (·.label.toList) ++ [[]] := by
  intro before text spot server outcome
  have hline : spot.position.line < text.lineCount := by decide +kernel
  have hdocument : server.document spot.uri = .ok ⟨text, none, none⟩ := by decide +kernel
  have hplace : text.positionToOctet? spot.position = some 21 := by decide +kernel
  have htake : text.takeOctets 21 = before.toList := by decide +kernel
  obtain ⟨hsame, hserved, -⟩ := the_line_completes_as_the_text_up_to_the_cursor
  obtain ⟨offset, left, hoffset, -, hleft, htrigger, -⟩ := hsame text spot.position hline
  obtain ⟨offset', items, hoffset', hanswer, hprinted⟩ :=
    hserved ⟨fun _ => .absent, none⟩ server spot _ hdocument rfl hline
  obtain rfl : offset = 21 := Option.some.inj (hoffset.symm.trans hplace)
  obtain rfl : offset' = 21 := Option.some.inj (hoffset'.symm.trans hplace)
  have hbefore : text.lineBefore? spot.position = some "😀 zoho.crm.".toList := by decide +kernel
  obtain rfl : left = "😀 zoho.crm.".toList := Option.some.inj (hleft.symm.trans hbefore)
  rw [htake] at htrigger
  have hfirst : (server.completion spot).1.map (fun items => items.head?.map (·.label)) =
      some (some "getRecords") := by decide +kernel
  have hitems : (server.completion spot).1 = some items := Answer.items.inj hanswer
  rw [hitems] at hfirst
  refine ⟨hline, hdocument, htrigger, items, hanswer, Option.some.inj hfirst, ?_⟩
  apply hprinted
  change CommandLine.Request.ofArguments _ = .ok (.complete (String.ofList (text.takeOctets 21)))
  rw [htake, String.ofList_toList]
  exact CommandLine.ofArguments_complete before

end Server

end DelugeAssist
