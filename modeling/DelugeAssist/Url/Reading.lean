-- Text read as an address. Blanks around the text and line breaks within it do not count; web and
-- file addresses may be written with backslashes, and their paths are cleared of dots.

import DelugeAssist.Url.Basic

namespace DelugeAssist

namespace Url

/-- How the rest of an address is read, by its scheme. -/
inductive Family where
  | file
  | web
  | other
deriving DecidableEq, Repr

namespace Family

/-- Whether backslashes count as slashes. -/
def isSpecial : Family → Bool
  | .other => false
  | _ => true

def isSlash (family : Family) (c : Char) : Bool := c = '/' || (family.isSpecial && c = '\\')

end Family

/-- The port of a scheme that goes without saying. -/
def defaultPort? (scheme : Text) : Option Nat :=
  match String.ofList scheme with
  | "http" => some 80
  | "https" => some 443
  | "ws" => some 80
  | "wss" => some 443
  | "ftp" => some 21
  | _ => none

def familyOf (scheme : Text) : Family :=
  if scheme = "file".toList then .file
  else if (defaultPort? scheme).isSome then .web
  else .other

/-! ## Clearing -/

def isEdge (c : Char) : Bool := c.toNat ≤ 0x20

def isIgnored (c : Char) : Bool := c = '\t' || c = '\n' || c = '\r'

/-- A text without the blanks around it. -/
def trimmed (text : Text) : Text := ((text.dropWhile isEdge).reverse.dropWhile isEdge).reverse

/-- A text without the line breaks within. -/
def joined (text : Text) : Text := text.filter (!isIgnored ·)

/-! ## Scheme -/

def isSchemeChar (c : Char) : Bool := c.isAlphanum || c = '+' || c = '-' || c = '.'

/-- The scheme, in lower case, and what follows its colon. -/
def readScheme? (text : Text) : Option (Text × Text) :=
  let scheme := joined (text.takeWhile (· ≠ ':'))
  match text.dropWhile (· ≠ ':') with
  | _ :: rest =>
    if scheme.all isSchemeChar ∧ (scheme.head?.map Char.isAlpha).getD false then
      some (scheme.map Char.toLower, rest)
    else none
  | [] => none

/-! ## Path -/

/-- The letter of a drive with a mark after it. -/
def isDrive : Text → Bool
  | [letter, mark] => letter.isAlpha && (mark = ':' || mark = '|')
  | _ => false

/-- A drive as it is written. -/
def isPlainDrive (segment : Text) : Bool := isDrive segment && segment.getLast? = some ':'

/-- A segment that is a drive, or looks like one with a path behind it. -/
def beginsWithDrive : Text → Bool
  | letter :: mark :: rest => isDrive [letter, mark] && (rest = [] || rest.head? = some '\\')
  | _ => false

/-- A segment that stands for the place itself. -/
def isDot (segment : Text) : Bool := [".", "%2e", "%2E"].any (·.toList == segment)

/-- A segment that stands for the place above. -/
def isDoubleDot (segment : Text) : Bool :=
  ["..", ".%2e", ".%2E", "%2e.", "%2E.", "%2e%2e", "%2e%2E", "%2E%2e", "%2E%2E"].any
    (·.toList == segment)

/-- The segments without the last one, unless that is a drive. -/
def goUp (done : List Text) : List Text :=
  match done.getLast? with
  | some segment => if beginsWithDrive segment then done else done.dropLast
  | none => []

/-- A piece of a path that begins with a plain drive and has a line break behind that: the drive,
and what follows. -/
def brokenDrive? (piece : Text) : Option (Text × Text) :=
  match piece.dropWhile isIgnored with
  | letter :: rest =>
    match rest.dropWhile isIgnored with
    | ':' :: mark :: rest =>
      let rest := joined rest
      if letter.isAlpha ∧ isIgnored mark ∧ rest ≠ [] then some ([letter, ':'], rest) else none
    | _ => none
  | [] => none

/-- The segments after one more, which is the last one if nothing follows it. `tidies` tells that a
drive which comes first is put into its plain form. -/
def addSegment (family : Family) (tidies : Bool) (done : List Text) (isLast : Bool) (piece : Text) :
    List Text :=
  let segment := Percent.encode Percent.inPathSet (joined piece)
  let isFirst : Bool := family = .file ∧ done = []
  match if isFirst then brokenDrive? piece else none with
  | some (drive, rest) => [drive, Percent.encode Percent.inPathSet rest]
  | none =>
    if isDoubleDot segment then
      let above := goUp done
      if isLast then above ++ [[]] else above
    else if isDot segment then
      if isLast then done ++ [[]] else done
    else if isFirst ∧ tidies ∧ isDrive segment then [segment.take 1 ++ [':']]
    else done ++ [segment]

/-- The segments of a path, from the pieces between its slashes. -/
def addSegments (family : Family) (tidies : Bool) (done : List Text) : List Text → List Text
  | [] => done
  | [piece] => addSegment family tidies done true piece
  | piece :: more => addSegments family tidies (addSegment family tidies done false piece) more

/-- The pieces between slashes. -/
def cutAtSlashes (family : Family) : Text → List Text
  | [] => [[]]
  | c :: rest =>
    if family.isSlash c then [] :: cutAtSlashes family rest
    else
      match cutAtSlashes family rest with
      | [] => [[c]]
      | piece :: more => (c :: piece) :: more

/-- The segments of a file path, without empty ones before the first that is not. -/
def dropEmptyAhead : List Text → List Text
  | [] => [[]]
  | [segment] => [segment]
  | segment :: more => if segment = [] then dropEmptyAhead more else segment :: more

/-- The segments of a path that follows its first slash. -/
def readSegments (family : Family) (tidies : Bool) (text : Text) : List Text :=
  addSegments family tidies [] (cutAtSlashes family text)

/-- A path without its first slash, if it begins with one. -/
def afterSlash (family : Family) (text : Text) : Text :=
  match text with
  | c :: rest => if family.isSlash c then rest else text
  | [] => []

/-- The path after an authority. Only an address of another scheme may have none. -/
def readPath (family : Family) (text : Text) : UrlPath :=
  if family = .other ∧ text = [] then .segments []
  else .segments (readSegments family true (afterSlash family text))

/-! ## Query and fragment -/

/-- An address up to its query and fragment, with those. -/
def cutTail (family : Family) (text : Text) : Text × Option Text × Option Text :=
  let isMark (c : Char) : Bool := c = '?' || c = '#'
  let querySet := if family.isSpecial then Percent.inSpecialQuerySet else Percent.inQuerySet
  let fragment (text : Text) : Text := Percent.encode Percent.inFragmentSet (joined text)
  let front := text.takeWhile (!isMark ·)
  match text.dropWhile (!isMark ·) with
  | '?' :: rest =>
    let query := Percent.encode querySet (joined (rest.takeWhile (· ≠ '#')))
    match rest.dropWhile (· ≠ '#') with
    | _ :: rest => (front, some query, some (fragment rest))
    | [] => (front, some query, none)
  | _ :: rest => (front, none, some (fragment rest))
  | [] => (front, none, none)

/-! ## Authority -/

/-- A user and a password, up to the last `@`. Neither is kept where it is empty. -/
def readLogin (text : Text) : Text × Option Text :=
  let encode := Percent.encode Percent.inUserSet
  match text.dropWhile (· ≠ ':') with
  | _ :: c :: rest => (encode (text.takeWhile (· ≠ ':')), some (encode (c :: rest)))
  | _ => (encode (text.takeWhile (· ≠ ':')), none)

/-- What stands before and after the last `@`, if there is one. -/
def cutLogin (text : Text) : Option Text × Text :=
  let host := (text.reverse.takeWhile (· ≠ '@')).reverse
  if host.length = text.length then (none, text)
  else (some (text.take (text.length - host.length - 1)), host)

/-- The host of an authority and what follows it; a colon between brackets is part of the host. -/
def cutHost (inBrackets : Bool) : Text → Text × Text
  | [] => ([], [])
  | c :: rest =>
    if c = ':' ∧ !inBrackets then ([], c :: rest)
    else
      let (host, rest) := cutHost (c = '[' || (inBrackets && c ≠ ']')) rest
      (c :: host, rest)

/-- The port after a host, and what follows it. No digits name no port, and only a backslash may
stand behind them. -/
def readPort (scheme : Text) : Text → Except UrlError (Option Nat × Text)
  | [] => .ok (none, [])
  | _ :: text =>
    let digits := text.takeWhile Char.isDigit
    let rest := text.dropWhile Char.isDigit
    let port := digits.foldl (fun n c => n * 10 + (c.toNat - '0'.toNat)) 0
    if 65535 < port ∨ (rest ≠ [] ∧ rest.head? ≠ some '\\') then .error .invalidPort
    else .ok (if digits = [] ∨ defaultPort? scheme = some port then none else some port, rest)

/-- The authority of an address that is no file, and what follows its port. `more` tells that
something follows the text. -/
def readAuthority (family : Family) (scheme text : Text) (more : Bool) :
    Except UrlError (Authority × Text) := do
  let (login, rest) := cutLogin text
  if login = some [] ∧ rest = [] ∧ more then throw .emptyHost
  let (user, password) := readLogin (login.getD [])
  let (hostText, portText) := cutHost false rest
  if family = .web ∧ hostText = [] then throw .emptyHost
  let host ← if family.isSpecial then Host.read hostText else Host.readPlain hostText
  if host = .name [] ∧ portText ≠ [] then throw .emptyHost
  let (port, rest) ← readPort scheme portText
  if host = .name [] ∧ (user ≠ [] ∨ password.isSome) then throw .emptyHost
  return ({ user, password, host, port }, rest)

/-- The text up to the first slash, and from there on. -/
def cutAuthority (family : Family) (text : Text) : Text × Text :=
  (text.takeWhile (!family.isSlash ·), text.dropWhile (!family.isSlash ·))

/-! ## Addresses -/

/-- The host of a file, unless it is this machine. -/
def readFileHost (text : Text) : Except UrlError Host :=
  if text = [] then .ok (.name [])
  else do
    let host ← Host.read text
    return if host = .name "localhost".toList then .name [] else host

/-- What follows a slash, if the text of a file begins with one. -/
def afterFileSlash? (text : Text) : Option Text :=
  match text.dropWhile isIgnored with
  | c :: rest => if Family.file.isSlash c then some rest else none
  | [] => none

/-- A file of this machine, by what follows the first slash of its path. -/
def localFile (tidies : Bool) (text : Text) : Authority × UrlPath :=
  (⟨[], none, .name [], none⟩, .segments (dropEmptyAhead (readSegments .file tidies text)))

/-- A file of a host. A drive that comes first makes the host not count. -/
def hostedFile (host : Host) (text : Text) : Authority × UrlPath :=
  let segments := readSegments .file true (afterSlash .file text)
  let host := if (segments.head?.map isPlainDrive).getD false then .name [] else host
  (⟨[], none, host, none⟩, .segments (dropEmptyAhead segments))

/-- The authority and path of a file. A drive in the place of the host begins the path. A drive
behind a slash, with no host before, stays as it is. -/
def readFile (text : Text) : Except UrlError (Authority × UrlPath) :=
  match afterFileSlash? text with
  | none => return localFile true text
  | some path =>
    match afterFileSlash? path with
    | none => return localFile false path
    | some rest => do
      let (hostText, pathText) := cutAuthority .file rest
      if isDrive (joined hostText) then return localFile true rest
      else
        let host ← readFileHost (joined hostText)
        if host = .name [] then return localFile false (afterSlash .file pathText)
        else return hostedFile host pathText

/-- The authority and path of an address that is no file. `tailed` tells that a query or a fragment
follows. -/
def readRest (family : Family) (scheme text : Text) (tailed : Bool) :
    Except UrlError (Option Authority × UrlPath) :=
  let withAuthority (text : Text) : Except UrlError (Option Authority × UrlPath) := do
    let (authority, path) := cutAuthority family text
    let (authority, rest) ← readAuthority family scheme authority (tailed || !path.isEmpty)
    return (some authority, readPath family (rest ++ path))
  match family, text with
  | .other, '/' :: '/' :: rest => withAuthority rest
  | .other, '/' :: rest => .ok (none, .segments (readSegments .other true rest))
  | .other, text => .ok (none, .plain (Percent.encode Percent.isControl text))
  | _, text => withAuthority (text.dropWhile family.isSlash)

/-- The address that a text spells. -/
def parse (text : String) : Except UrlError Url :=
  match readScheme? (trimmed text.toList) with
  | none => .error .relative
  | some (scheme, rest) => do
    let family := familyOf scheme
    let (front, query, fragment) := cutTail family rest
    match family with
    | .file =>
      let (authority, path) ← readFile front
      return { scheme, authority := some authority, path, query, fragment }
    | _ =>
      let tailed := query.isSome || fragment.isSome
      let (authority, path) ← readRest family scheme (joined front) tailed
      return { scheme, authority, path, query, fragment }

end Url

end DelugeAssist
