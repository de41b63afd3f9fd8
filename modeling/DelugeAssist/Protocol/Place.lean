-- Positions, ranges and changes as the protocol spells them.

import DelugeAssist.Json.Typed
import DelugeAssist.Text.Edit

namespace DelugeAssist

namespace Position

def ofJson (setAside : Bool) : Json → Except Mismatch Position :=
  Json.readRecord "Position" ["line", "character"] setAside fun r =>
    Position.mk <$> r.field "line" Json.readU32 <*> r.field "character" Json.readU32

def toJson (position : Position) : Json :=
  .obj [("character", .int position.character), ("line", .int position.line)]

end Position

namespace Range

def ofJson : Json → Except Mismatch Range :=
  Json.readRecord "Range" ["start", "end"] false fun r =>
    Range.mk <$> r.field "start" (Position.ofJson false) <*> r.field "end" (Position.ofJson false)

def toJson (range : Range) : Json :=
  .obj [("end", range.stop.toJson), ("start", range.start.toJson)]

end Range

namespace Change

/-- A change. The length of the replaced text is read and not used. -/
def ofJson : Json → Except Mismatch Change :=
  Json.readRecord "TextDocumentContentChangeEvent" ["range", "rangeLength", "text"] false fun r =>
    (fun range _ text => ⟨range, String.toList text⟩) <$> r.optional "range" Range.ofJson <*>
      r.optional "rangeLength" Json.readU32 <*> r.field "text" Json.readString

end Change

end DelugeAssist
