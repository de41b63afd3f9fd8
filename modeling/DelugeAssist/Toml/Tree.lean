-- How keys and headers build the tree of a document. A table may be reached by several lines, but a
-- value is set once, a header stands once, and what is written between brackets or braces is
-- closed.

import DelugeAssist.Toml.Value

namespace DelugeAssist

namespace Toml

namespace Entries

/-- The value of a key. -/
def get? (name : String) (entries : Entries) : Option (Span × Node) :=
  (entries.find? fun entry => entry.1.name == name).map (·.2)

/-- The entries with the value of a key replaced; key and place stay. -/
def replace (name : String) (node : Node) (entries : Entries) : Entries :=
  entries.map fun entry => if entry.1.name == name then (entry.1, entry.2.1, node) else entry

def erase (name : String) (entries : Entries) : Entries :=
  entries.filter fun entry => entry.1.name != name

/-- A change made to the table that a path leads to. Tables on the way come about where there are
none, as `fresh` says. A path through an array of tables leads into its last table. A dotted path
does not lead into a table that has a header. -/
def descend? (fresh : Origin) (change : Origin → Entries → Option Entries) :
    List Key → Origin → Entries → Option Entries
  | [], origin, entries => change origin entries
  | key :: path, _, entries =>
    match get? key.name entries with
    | none => do
      let inner ← descend? fresh change path fresh []
      some (entries ++ [(key, key.span, .table fresh inner)])
    | some (_, .table origin inner) =>
      if origin = .inline ∨ (fresh = .dotted ∧ origin = .header) then none
      else do
        let inner ← descend? fresh change path origin inner
        some (replace key.name (.table origin inner) entries)
    | some (_, .tables earlier last) => do
      let last ← descend? fresh change path .header last
      some (replace key.name (.tables earlier last) entries)
    | some _ => none

/-- A value set under a key that is not set yet. A dotted key sets it in a table made of dotted keys
alone. -/
def set? (dotted : Bool) (key : Key) (span : Span) (node : Node) (origin : Origin)
    (entries : Entries) : Option Entries :=
  if dotted ≠ decide (origin = .dotted) then none
  else if (get? key.name entries).isSome then none
  else some (entries ++ [(key, span, node)])

/-- The last of the keys of a path, with those before it. -/
def cutLast? (path : List Key) : Option (List Key × Key) :=
  path.getLast?.map fun key => (path.dropLast, key)

/-- A value set at the end of a path of keys. -/
def setAt? (path : List Key) (span : Span) (node : Node) (origin : Origin) (entries : Entries) :
    Option Entries := do
  let (above, key) ← cutLast? path
  descend? .dotted (set? (!above.isEmpty) key span node) above origin entries

/-- A table opened by a header. Only a table that stands above another may be there already. -/
def openTable? (key : Key) (span : Span) (_ : Origin) (entries : Entries) : Option Entries :=
  match get? key.name entries with
  | none => some (entries ++ [(key, span, .table .header [])])
  | some (_, .table .implied inner) =>
    some (erase key.name entries ++ [(key, span, .table .header inner)])
  | some _ => none

/-- A table opened at the end of an array of tables. -/
def openNext? (key : Key) (span : Span) (_ : Origin) (entries : Entries) : Option Entries :=
  match get? key.name entries with
  | none => some (entries ++ [(key, span, .tables [] [])])
  | some (_, .tables earlier last) =>
    some (replace key.name (.tables (earlier ++ [last]) []) entries)
  | some _ => none

end Entries

/-- A line of a document. -/
inductive Statement where
  | header (path : List Key) (span : Span)
  | nextHeader (path : List Key) (span : Span)
  | setting (path : List Key) (span : Span) (node : Node)

/-- A document so far: the path of the header that is open, and all entries. -/
structure Draft where
  path : List Key
  entries : Entries

namespace Draft

/-- A document with one more line. -/
def add? (draft : Draft) : Statement → Option Draft
  | .header path span => do
    let (above, key) ← Entries.cutLast? path
    let entries ← Entries.descend? .implied (Entries.openTable? key span) above .header
      draft.entries
    some ⟨path, entries⟩
  | .nextHeader path span => do
    let (above, key) ← Entries.cutLast? path
    let entries ← Entries.descend? .implied (Entries.openNext? key span) above .header
      draft.entries
    some ⟨path, entries⟩
  | .setting path span node => do
    let entries ← Entries.descend? .implied (Entries.setAt? path span node) draft.path .header
      draft.entries
    some { draft with entries }

end Draft

/-- The entries that the lines of a document build. -/
def build? (statements : List Statement) : Option Entries :=
  (statements.foldlM Draft.add? ⟨[], []⟩).map (·.entries)

/-- The entries of a table between braces. -/
def buildInline? (settings : List (List Key × Span × Node)) : Option Entries :=
  settings.foldlM
    (fun entries (path, span, node) => Entries.setAt? path span node .inline entries) []

end Toml

end DelugeAssist
