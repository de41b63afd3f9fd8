-- What the answer to a hover shows: the documentation of a word of the stored document, over the
-- range of just that word.

import DelugeAssist.Proofs.Text.Word
import DelugeAssist.Session.Server

namespace DelugeAssist

namespace Server

/-- A shown hover is that of the word at the position in the stored document. -/
theorem ofWord?_of_hover {server : Server} {spot : Params.Spot} {hover : Hover}
    (h : (server.hover spot).1 = some hover) :
    ∃ document word, server.document spot.uri = .ok document ∧
      document.text.wordAt? spot.position = some word ∧
      Hover.ofWord? (String.ofList word.text) word.range = some hover := by
  unfold Server.hover at h
  split at h
  · rcases hdocument : server.document spot.uri with error | document
    · simp [hdocument] at h
    · rcases hword : document.text.wordAt? spot.position with _ | word
      · simp [hdocument, hword] at h
      · simp only [hdocument, hword] at h
        exact ⟨document, word, rfl, hword, h⟩
  · cases h

/-- A word that is found stands at the position it was asked for. What a hover shows, whatever the
server keeps, is the documentation of the word that its range delimits in the stored document. -/
theorem a_hover_shows_the_word_that_its_range_delimits :
    (∀ (text : Text) (position : Position) (word : Word),
      text.wordAt? position = some word → word.StandsAt text position) ∧
    (∀ (surroundings : Surroundings) (server : Server) (spot : Params.Spot) (hover : Hover),
      (server.handle surroundings (.hover spot)).answer = .hover (some hover) →
      ∃ (document : Document) (word : Word), server.document spot.uri = .ok document ∧
        word.StandsAt document.text spot.position ∧
        hover.range = word.range ∧
        Documentation.of? (String.ofList word.text) = some hover.contents) := by
  constructor
  · intro text position word hword
    exact Text.standsAt_of_wordAt? hword
  · intro surroundings server spot hover hanswer
    have hshown : (server.hover spot).1 = some hover := Answer.hover.inj hanswer
    obtain ⟨document, word, hdocument, hword, hcontents⟩ := ofWord?_of_hover hshown
    have hstands := Text.standsAt_of_wordAt? hword
    obtain ⟨contents, hentry, rfl⟩ := Option.map_eq_some_iff.mp hcontents
    exact ⟨document, word, hdocument, hstands, rfl, hentry⟩

/-- A word on the second line, after a character of two units and a line that ends in two
characters. -/
theorem a_hover_shows_the_word_after_a_pair :
    let text := "// ü\r\n😀 info;".toList
    let server : Server := { documents := { entries := [("file:///a.dg", ⟨text, none, none⟩)] } }
    let range : Range := ⟨⟨1, 3⟩, ⟨1, 7⟩⟩
    (⟨"info".toList, range⟩ : Word).StandsAt text ⟨1, 5⟩ ∧
    ∃ (document : Document) (word : Word), server.document "file:///a.dg" = .ok document ∧
      word.StandsAt document.text ⟨1, 5⟩ ∧ range = word.range ∧
      Documentation.of? (String.ofList word.text) =
        some ("**info** - Logs information to the execution log.\n\n" ++
          "**Syntax:** `info message;`") := by
  intro text server range
  obtain ⟨hword, hhover⟩ := a_hover_shows_the_word_that_its_range_delimits
  constructor
  · exact hword text ⟨1, 5⟩ _ (by decide +kernel)
  · exact hhover ⟨fun _ => .absent, none⟩ server ⟨"file:///a.dg", ⟨1, 5⟩⟩ ⟨_, range⟩
      (by decide +kernel)

end Server

end DelugeAssist
