-- JSON values. A number is a whole number when it is written as one and fits 64 bits, with a sign
-- or without; any other number is a double-precision one.

import DelugeAssist.Number.Shortest
import DelugeAssist.Text.Quoted

namespace DelugeAssist

/-- A JSON value. -/
inductive Json where
  | null
  | bool (value : Bool)
  | int (value : Int)
  | float (value : Binary64)
  | str (value : String)
  | arr (items : List Json)
  | obj (members : List (String × Json))
deriving Repr

namespace Json

/-- The member of a key, in its place by the order of the keys; a later value replaces an earlier
one. -/
def put (key : String) (value : Json) : List (String × Json) → List (String × Json)
  | [] => [(key, value)]
  | (k, v) :: rest =>
    if key < k then (key, value) :: (k, v) :: rest
    else if key = k then (key, value) :: rest
    else (k, v) :: put key value rest

/-- An object of the members, in the order of their keys. -/
def object (members : List (String × Json)) : Json :=
  .obj (members.foldl (fun kept member => put member.1 member.2 kept) [])

/-- The member of an object with a given key. -/
def member? (key : String) : Json → Option Json
  | .obj members => members.lookup key
  | _ => none

/-- JSON numbers are written in place from a hundred-thousandth up to sixteen digits. -/
def numberStyle : DecimalStyle := ⟨some (-5), some 15⟩

/-! ## Writing -/

/-- A character within a string. -/
def escapedChar (c : Char) : Text :=
  if c = '"' then ['\\', '"']
  else if c = '\\' then ['\\', '\\']
  else if c = '\n' then ['\\', 'n']
  else if c = '\r' then ['\\', 'r']
  else if c = '\t' then ['\\', 't']
  else if c.toNat = 8 then ['\\', 'b']
  else if c.toNat = 12 then ['\\', 'f']
  else if c.toNat < 0x20 then
    ['\\', 'u'] ++ List.leftpad 4 '0' (Text.hexDigits c.toNat)
  else [c]

def renderString (s : String) : Text := ['"'] ++ s.toList.flatMap escapedChar ++ ['"']

def renderInt (n : Int) : Text :=
  (if n < 0 then ['-'] else []) ++ Nat.toDigits 10 n.natAbs

mutual

/-- A value without blanks. -/
def render : Json → Text
  | .null => "null".toList
  | .bool value => (if value then "true" else "false").toList
  | .int value => renderInt value
  | .float value => numberStyle.render value
  | .str value => renderString value
  | .arr items => ['['] ++ renderItems items ++ [']']
  | .obj members => ['\x7b'] ++ renderMembers members ++ ['\x7d']

/-- The items of an array, with commas between them. -/
def renderItems : List Json → Text
  | [] => []
  | [item] => render item
  | item :: more => render item ++ ',' :: renderItems more

/-- The members of an object, with commas between them. -/
def renderMembers : List (String × Json) → Text
  | [] => []
  | [(key, value)] => renderString key ++ ':' :: render value
  | (key, value) :: more => renderString key ++ ':' :: render value ++ ',' :: renderMembers more

end

end Json

end DelugeAssist
