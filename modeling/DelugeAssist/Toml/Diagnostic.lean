-- A problem with a document, shown with the line that it lies on and a mark under what is to blame.

import DelugeAssist.Record.Mismatch
import DelugeAssist.Toml.Value

namespace DelugeAssist

namespace Toml

/-- What is wrong with a document. -/
inductive DocumentError where
  /-- The text is no document. -/
  | malformed
  /-- The document does not fit what is asked of it. -/
  | unfit (span : Span) (mismatch : Mismatch)
deriving DecidableEq, Repr

/-- Numbers of a document are always written in place. -/
def numberStyle : DecimalStyle := {}

/-- A line of a text, with its number from zero and the column, from zero, of a character. -/
structure Spot where
  line : Nat
  column : Nat
  content : Text
deriving DecidableEq, Repr

/-- The spot of a character, given the text up to it, last character first, and from it on. A line
shown keeps a carriage return at its end. -/
def Spot.of (leftReversed right : Text) : Spot :=
  let start := leftReversed.takeWhile (· ≠ '\n')
  { line := leftReversed.count '\n'
    column := start.length
    content := start.reverse ++ right.takeWhile (· ≠ '\n') }

/-- How far the mark under a line goes: over the octets of the span, as far as the line goes, and
over one character at least. -/
def markLength (spot : Spot) (marked : Text) : Nat :=
  max 1 (min (Text.octets marked) (Text.octets spot.content - spot.column))

/-- A diagnostic over a span of a text. -/
def diagnostic (text : Text) (span : Span) (reason : String) : String :=
  let start := text.length - span.before
  let spot := Spot.of (text.take start).reverse (text.drop start)
  let marked := (text.drop start).take (span.before - span.after)
  let number := toString (spot.line + 1)
  let margin := String.ofList (List.replicate (number.length + 1) ' ')
  "TOML parse error at line " ++ number ++ ", column " ++ toString (spot.column + 1) ++ "\n" ++
    margin ++ "|\n" ++
    number ++ " | " ++ String.ofList spot.content ++ "\n" ++
    margin ++ "|" ++ String.ofList (List.replicate (spot.column + 1) ' ') ++
    String.ofList (List.replicate (markLength spot marked) '^') ++ "\n" ++
    reason ++ "\n"

/-- The words of a problem with a text. What is wrong with a text that is no document is not told
here: a mark stands for the diagnosis, whichever it is. -/
def DocumentError.message (text : Text) : DocumentError → String
  | .malformed => "<toml syntax error>"
  | .unfit span mismatch => diagnostic text span (mismatch.message numberStyle)

end Toml

end DelugeAssist
