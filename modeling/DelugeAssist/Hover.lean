-- What is shown for the word under the cursor: its documentation, over the range of the word.

import DelugeAssist.Catalog.Documentation
import DelugeAssist.Text.Word

namespace DelugeAssist

/-- Markdown shown over a range. -/
structure Hover where
  contents : String
  range : Range
deriving DecidableEq, Repr

namespace Hover

/-- What is shown for a word, if it is documented (`hover_for_word`). -/
def ofWord? (word : String) (range : Range) : Option Hover :=
  (Documentation.of? word).map (⟨·, range⟩)

end Hover

end DelugeAssist
