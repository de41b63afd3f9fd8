-- What the arguments of the program ask for, or why they are refused. The first argument that does
-- not fit is to blame, and a flag that asks for a page is answered at once.

import DelugeAssist.CommandLine.Command
import DelugeAssist.CommandLine.Similarity

namespace DelugeAssist.CommandLine

/-- What the program is asked for. -/
inductive Request where
  | serve
  | services
  | complete (left : String)
  | hover (word : String)
  | page (topic : Topic)
  | version
deriving DecidableEq, Repr

/-- What an argument that is not expected may have been meant for. -/
inductive Tip where
  /-- A value, which has to stand behind two dashes. -/
  | behindDashes
  /-- A command, which must not stand behind two dashes. -/
  | aheadOfDashes
  | flag (flag : Flag)
deriving DecidableEq, Repr

/-- Why arguments are refused. -/
inductive Misuse where
  | unknownCommand (topic : Topic) (given : String) (similar : List Command)
  | unexpected (topic : Topic) (given : String) (tip : Option Tip)
  | surplusValue (topic : Topic) (flag : Flag) (value : String)
  | missing (command : Command)
deriving DecidableEq, Repr

/-- How an argument is written. -/
inductive Shape where
  /-- Two dashes alone, behind which every argument is a value. -/
  | dashes
  | long (name : String) (value : Option String)
  | short (letter : Char)
  | plain
deriving DecidableEq, Repr

/-- The shape of an argument. -/
def Shape.ofArgument (argument : String) : Shape :=
  match argument.toList with
  | ['-', '-'] => .dashes
  | '-' :: '-' :: rest =>
    let name := rest.takeWhile (· != '=')
    let value := match rest.dropWhile (· != '=') with
      | [] => none
      | _ :: value => some (String.ofList value)
    .long (String.ofList name) value
  | '-' :: letter :: _ => .short letter
  | _ => .plain

/-- The commands that a name may have been meant for, the likeliest last. -/
def Command.similar (given : String) : List Command :=
  let score (command : Command) : Rat := Similarity.score given.toList command.name.toList
  let close := all.filter fun command => Similarity.isClose given.toList command.name.toList
  close.mergeSort fun a b => score a ≤ score b

/-- The flag that a name may have been meant for. -/
def Topic.similarFlag? (topic : Topic) (given : String) : Option Flag :=
  let score (flag : Flag) : Rat := Similarity.score given.toList flag.name.toList
  let close := topic.flags.filter fun flag => Similarity.isClose given.toList flag.name.toList
  (close.mergeSort fun a b => score b ≤ score a).head?

namespace Request

/-- What a flag asks for. -/
def ofFlag (topic : Topic) : Flag → Request
  | .help => .page topic
  | .version => .version

/-- The tip for what looks like a flag, where a value could stand. -/
def valueTip? (topic : Topic) : Option Tip := topic.operand?.map fun _ => .behindDashes

/-- A flag that is written out. -/
def ofLong (topic : Topic) (name : String) (value : Option String) : Except Misuse Request :=
  match topic.flags.find? (·.name == name), value with
  | some flag, none => .ok (ofFlag topic flag)
  | some flag, some value => .error (.surplusValue topic flag value)
  | none, _ =>
    .error (.unexpected topic ("--" ++ name)
      (((topic.similarFlag? name).map Tip.flag).or (valueTip? topic)))

/-- A flag that is a letter. -/
def ofShort (topic : Topic) (letter : Char) : Except Misuse Request :=
  match topic.flags.find? (·.letter == letter) with
  | some flag => .ok (ofFlag topic flag)
  | none => .error (.unexpected topic ("-" ++ letter.toString) (valueTip? topic))

/-- What a command asks for with the value it is given, if there is one. -/
def ofCommand (command : Command) (value : Option String) : Except Misuse Request :=
  match command, value with
  | .services, _ => .ok .services
  | .complete, some left => .ok (.complete left)
  | .hover, some word => .ok (.hover word)
  | .help, _ => .ok (.page .program)
  | command, none => .error (.missing command)

/-- What a command asks for with its arguments. It takes one value, if it takes any. -/
def ofOperands (command : Command) (behindDashes : Bool) (value : Option String) :
    List String → Except Misuse Request
  | [] => ofCommand command value
  | argument :: rest =>
    match if behindDashes then .plain else Shape.ofArgument argument with
    | .dashes => ofOperands command true value rest
    | .long name attached => ofLong (.command command) name attached
    | .short letter => ofShort (.command command) letter
    | .plain =>
      if command.operand?.isSome && value.isNone then
        ofOperands command behindDashes (some argument) rest
      else .error (.unexpected (.command command) argument none)

/-- The page that names lead to. -/
def ofTopics : Topic → List String → Except Misuse Request
  | topic, [] => .ok (.page topic)
  | .program, name :: rest =>
    match Command.ofName? name with
    | some command => ofTopics (.command command) rest
    | none => .error (.unknownCommand .program name [])
  | .command command, name :: _ => .error (.unknownCommand (.command command) name [])

/-- A name that is no command. -/
def ofUnknown (name : String) : Except Misuse Request :=
  .error (.unknownCommand .program name (Command.similar name))

/-- What arguments behind two dashes ask for. No command may stand there. -/
def ofValues : List String → Except Misuse Request
  | [] => .ok .serve
  | name :: _ =>
    if (Command.ofName? name).isSome then
      .error (.unexpected .program name (some .aheadOfDashes))
    else ofUnknown name

/-- What the arguments of the program ask for. -/
def ofArguments : List String → Except Misuse Request
  | [] => .ok .serve
  | first :: rest =>
    match Command.ofName? first with
    | some .help => ofTopics .program rest
    | some command => ofOperands command false none rest
    | none =>
      match Shape.ofArgument first with
      | .dashes => ofValues rest
      | .long name value => ofLong .program name value
      | .short letter => ofShort .program letter
      | .plain => ofUnknown first

end Request

end DelugeAssist.CommandLine
