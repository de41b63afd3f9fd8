-- A TOML document as a tree of tables, with the place of every key and of every value in the text.

import DelugeAssist.Number.Binary64
import DelugeAssist.Text.Measure

namespace DelugeAssist

namespace Toml

/-- A stretch of a text, by the numbers of characters that are left of the text at its ends. -/
structure Span where
  before : Nat
  after : Nat
deriving DecidableEq, Repr

/-- The stretch that reading took from a text. -/
def Span.between (text rest : Text) : Span := ⟨text.length, rest.length⟩

/-- A key as it is meant, and where it is written. -/
structure Key where
  name : String
  span : Span
deriving DecidableEq, Repr

/-- A value without parts. -/
inductive Scalar where
  | bool (value : Bool)
  | int (value : Int)
  | float (value : Binary64)
  | str (value : String)
  | datetime
deriving DecidableEq, Repr

/-- How a table came about, which decides what may still be added to it. -/
inductive Origin where
  /-- It stands above a table that has a header. -/
  | implied
  /-- It stands above a dotted key. -/
  | dotted
  /-- It has a header of its own, or is the whole document. -/
  | header
  /-- It is written between braces. -/
  | inline
deriving DecidableEq, Repr

/-- A value of a document. An array of tables keeps its last table apart, which is the one that
later lines add to. -/
inductive Node where
  | scalar (value : Scalar)
  | array (items : List Node)
  | table (origin : Origin) (entries : List (Key × Span × Node))
  | tables (earlier : List (List (Key × Span × Node))) (last : List (Key × Span × Node))

/-- The entries of a table, in the order they came about: the key, the place of the value, and the
value. -/
abbrev Entries := List (Key × Span × Node)

end Toml

end DelugeAssist
