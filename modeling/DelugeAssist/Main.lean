-- The program: what the arguments ask for, and the messages of an editor over standard input and
-- output. Every message is preceded by its length in octets and an empty line.

import DelugeAssist.CommandLine.Outcome
import DelugeAssist.Json.Reader
import DelugeAssist.Session.Dispatch

namespace DelugeAssist.Program

/-- What is found at a path. -/
def stateOf (path : String) : IO FileState := do
  try
    return .content (← IO.FS.readBinFile path).toList
  catch
    | .noFileOrDirectory .. => return .absent
    | .inappropriateType _ 21 _ => return .directory
    | .inappropriateType .. => return .absent
    | error => return .unreadable (toString error)

/-- The states of the files that a message may be answered from. -/
def surroundings (userPath : Option String) (session : Session) (message : Message) :
    IO Surroundings := do
  let after := (session.receive ⟨fun _ => .absent, userPath⟩ message).session
  let paths := userPath.toList ++ after.server.root.toList.map Layer.projectPath
  let states ← paths.mapM fun path => return (path, ← stateOf path)
  return ⟨fun path => (states.lookup path).getD .absent, userPath⟩

/-- The length that a header line gives. -/
def lengthOf? (line : String) : Option Nat :=
  match line.splitOn ":" with
  | [name, value] =>
    if name.toLower = "content-length" then value.trimAscii.toString.toNat? else none
  | _ => none

/-- The length of the message that comes next, from the lines before it. -/
partial def readLength (input : IO.FS.Stream) (length : Nat) : IO (Option Nat) := do
  let line ← input.getLine
  if line.isEmpty then return none
  if line.trimAscii.isEmpty then return some length
  readLength input ((lengthOf? line).getD length)

/-- As many octets as there are, up to a number of them. -/
partial def readOctets (input : IO.FS.Stream) (count : Nat) (octets : ByteArray) :
    IO ByteArray := do
  if count ≤ octets.size then return octets
  let more ← input.read (count - octets.size).toUSize
  if more.isEmpty then return octets
  readOctets input count (octets ++ more)

/-- A message to the editor. -/
def send (output : IO.FS.Stream) (value : Json) : IO Unit := do
  let members := match value with
    | .obj members => Json.put "jsonrpc" (.str "2.0") members
    | _ => []
  let body := (String.ofList (Json.obj members).render).toUTF8
  output.write (("Content-Length: " ++ toString body.size ++ "\r\n\r\n").toUTF8 ++ body)
  output.flush

/-- Serves messages until the input ends or the session is left. -/
partial def serve (input output : IO.FS.Stream) (userPath : Option String) (session : Session) :
    IO Unit := do
  if session.phase = .exited then return
  let some length ← readLength input 0 | return
  let octets ← readOctets input length .empty
  let message? := do
    let text ← Utf8.decode? octets.toList
    Message.ofJson? (← Json.parse? text)
  let some message := message? | serve input output userPath session
  let around ← surroundings userPath session message
  let reaction := session.receive around message
  for line in reaction.log do
    send output line.toJson
  if let some response := reaction.response then
    send output response.toJson
  serve input output userPath reaction.session

/-- A run of the program, up to the code that it ends with. -/
def run (arguments : List String) : IO UInt32 := do
  match CommandLine.Request.ofArguments arguments with
  | .ok .serve =>
    let environment : Environment :=
      ⟨← IO.getEnv "XDG_CONFIG_HOME", ← IO.getEnv "HOME"⟩
    serve (← IO.getStdin) (← IO.getStdout) (Layer.userPath? environment) {}
    return 0
  | _ =>
    let outcome := CommandLine.Outcome.ofArguments arguments
    IO.print outcome.stdout
    IO.eprint outcome.stderr
    return outcome.code.toUInt32

end DelugeAssist.Program

def main (arguments : List String) : IO UInt32 := DelugeAssist.Program.run arguments
