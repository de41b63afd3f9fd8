-- Addresses: a scheme, perhaps an authority, a path, perhaps a query and a fragment. Two spellings
-- of one address are read as the same parts, and are written alike.

import DelugeAssist.Url.Host

namespace DelugeAssist

/-- Who serves an address: a user, a host and a port. A port that goes without saying is left out.
-/
structure Authority where
  user : Text := []
  password : Option Text := none
  host : Host
  port : Option Nat := none
deriving DecidableEq, Repr

/-- The path of an address: a text as it stands, or segments each after a slash. -/
inductive UrlPath where
  | plain (text : Text)
  | segments (list : List Text)
deriving DecidableEq, Repr

/-- An address. -/
structure Url where
  scheme : Text
  authority : Option Authority := none
  path : UrlPath
  query : Option Text := none
  fragment : Option Text := none
deriving DecidableEq, Repr

namespace Authority

/-- An authority as it is written, after its two slashes. -/
def render (a : Authority) : Text :=
  let password := match a.password with
    | some password => ':' :: password
    | none => []
  let login := a.user ++ password
  login ++ (if login = [] then [] else ['@']) ++ a.host.render ++
    match a.port with
    | some port => ':' :: Nat.toDigits 10 port
    | none => []

/-- An authority that names no host at all. -/
def isLocal (a : Authority) : Bool := a.host == .name [] || a.host == .name "localhost".toList

end Authority

namespace UrlPath

def render : UrlPath → Text
  | .plain text => text
  | .segments list => list.flatMap ('/' :: ·)

end UrlPath

namespace Url

/-- A path that begins with two slashes is kept apart from an authority. -/
def guard (url : Url) : Text :=
  match url.authority, url.path with
  | none, .segments ([] :: _ :: _) => ['/', '.']
  | _, _ => []

/-- An address as it is written. -/
def render (url : Url) : Text :=
  let authority := match url.authority with
    | some a => '/' :: '/' :: a.render
    | none => []
  let query := match url.query with
    | some q => '?' :: q
    | none => []
  let fragment := match url.fragment with
    | some f => '#' :: f
    | none => []
  url.scheme ++ ':' :: authority ++ url.guard ++ url.path.render ++ query ++ fragment

/-- An address as the key of a document. -/
def key (url : Url) : String := String.ofList url.render

/-- A path that ends in the letter of a drive and a mark has a slash after it. -/
def closeDrive (octets : List UInt8) : List UInt8 :=
  match octets.reverse with
  | mark :: letter :: _ :: _ =>
    if (mark = 0x3A ∨ mark = 0x7C) ∧ (Char.ofNat letter.toNat).isAlpha then octets ++ [0x2F]
    else octets
  | _ => octets

/-- Whether an address names a place on this machine. -/
def isLocal (url : Url) : Bool := (url.authority.map Authority.isLocal).getD true

/-- The path in the file system that an address of this machine names. Octets that are no text are
shown by a mark. -/
def filePath? (url : Url) : Option String :=
  match url.path with
  | .segments (first :: more) =>
    if url.isLocal then
      let octets := (first :: more).flatMap fun segment => 0x2F :: Percent.decode segment
      some (String.ofList (Utf8.decodeLossy (closeDrive octets)))
    else none
  | _ => none

end Url

end DelugeAssist
