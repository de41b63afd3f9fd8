-- Completion items and documentation as the protocol spells them. A field that is not set is left
-- out.

import DelugeAssist.Completion
import DelugeAssist.Hover
import DelugeAssist.Protocol.Place

namespace DelugeAssist

/-- Markdown. -/
def markdown (text : String) : Json := .obj [("kind", .str "markdown"), ("value", .str text)]

namespace Completion

/-- The number of a kind of item. -/
def ItemKind.number : ItemKind → Nat
  | .method => 2
  | .function => 3
  | .service => 9
  | .keyword => 14

/-- The number of a way to read inserted text. -/
def InsertForm.number : InsertForm → Nat
  | .plain => 1
  | .snippet => 2

/-- A member for a field that is set. -/
def member? (key : String) (value : Option Json) : List (String × Json) :=
  (value.map fun value => (key, value)).toList

def Item.toJson (item : Item) : Json :=
  .object <|
    [("label", .str item.label), ("kind", .int item.kind.number),
      ("sortText", .str item.sortText)] ++
    member? "detail" (item.detail.map .str) ++
    member? "documentation" (item.documentation.map markdown) ++
    member? "insertText" (item.insertion.map fun insertion => .str insertion.text) ++
    member? "insertTextFormat" (item.insertion.map fun insertion => .int insertion.form.number)

/-- A list of items, or null where there is none. -/
def toJson : Option (List Item) → Json
  | none => .null
  | some items => .arr (items.map Item.toJson)

end Completion

namespace Hover

def toJson (hover : Hover) : Json :=
  .obj [("contents", markdown hover.contents), ("range", hover.range.toJson)]

end Hover

end DelugeAssist
