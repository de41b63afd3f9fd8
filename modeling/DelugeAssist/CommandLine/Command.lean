-- The commands of the program, the flags it takes, and the pages that describe them.

namespace DelugeAssist.CommandLine

/-- The name of the program. -/
def programName : String := "deluge-ls"

/-- A command (`Commands`). -/
inductive Command where
  | services
  | complete
  | hover
  | help
deriving DecidableEq, Repr

/-- What a command takes, as it is written in a usage line. -/
structure Operand where
  placeholder : String
  about : String
deriving DecidableEq, Repr

namespace Command

/-- Every command, in the order they are listed in. -/
def all : List Command := [.services, .complete, .hover, .help]

def name : Command → String
  | .services => "services"
  | .complete => "complete"
  | .hover => "hover"
  | .help => "help"

/-- The command of a name, letter case included. -/
def ofName? (name : String) : Option Command := all.find? fun command => command.name == name

/-- What a command does. -/
def about : Command → String
  | .services => "List the services suggested after `zoho.`"
  | .complete => "Print completion labels for the text left of the cursor"
  | .hover => "Print the hover documentation for a word"
  | .help => "Print this message or the help of the given subcommand(s)"

def operand? : Command → Option Operand
  | .services => none
  | .complete =>
    some ⟨"<LINE_PREFIX>", "Line text up to the cursor (e.g., \"resp = zoho.crm.\")"⟩
  | .hover => some ⟨"<WORD>", "The word under the cursor (e.g., getRecords)"⟩
  | .help => some ⟨"[COMMAND]...", "Print help for the subcommand(s)"⟩

end Command

/-- A flag. -/
inductive Flag where
  | help
  | version
deriving DecidableEq, Repr

namespace Flag

def name : Flag → String
  | .help => "help"
  | .version => "version"

def letter : Flag → Char
  | .help => 'h'
  | .version => 'V'

def about : Flag → String
  | .help => "Print help"
  | .version => "Print version"

/-- A flag as it is written out. -/
def long (flag : Flag) : String := "--" ++ flag.name

end Flag

/-- What a page or a usage line is about. -/
inductive Topic where
  | program
  | command (command : Command)
deriving DecidableEq, Repr

namespace Topic

def about : Topic → String
  | .program => "A Language Server Protocol (LSP) server for Zoho Deluge scripts"
  | .command c => c.about

/-- The flags that may be given with a topic. -/
def flags : Topic → List Flag
  | .program => [.help, .version]
  | .command .help => []
  | .command _ => [.help]

def operand? : Topic → Option Operand
  | .program => none
  | .command c => c.operand?

/-- How a command line begins that is about a topic. -/
def call : Topic → String
  | .program => programName
  | .command c => programName ++ " " ++ c.name

/-- How a topic is used. -/
def usage (topic : Topic) : String :=
  match topic, topic.operand? with
  | .program, _ => topic.call ++ " [COMMAND]"
  | _, some operand => topic.call ++ " " ++ operand.placeholder
  | _, none => topic.call

/-- How a topic is used with a flag. -/
def usageWith (topic : Topic) (flag : Flag) : String :=
  topic.call ++ " " ++ flag.long ++
    ((topic.operand?.map fun operand => " " ++ operand.placeholder).getD "")

/-- The flag that tells about a topic, if it has one. -/
def helpFlag? (topic : Topic) : Option Flag := topic.flags.find? (· == .help)

/-! ## Pages -/

/-- Lines of two columns, the second beginning at one place in all of them. -/
def columns (rows : List (String × String)) : List String :=
  let width := (rows.map fun row => row.1.length).foldl max 0
  rows.map fun row => "  " ++ row.1.pushn ' ' (width - row.1.length) ++ "  " ++ row.2

/-- A headed part of a page, unless it is empty. -/
def part (title : String) (rows : List (String × String)) : List String :=
  if rows.isEmpty then [] else ["", title ++ ":"] ++ columns rows

/-- The lines of the page about a topic. -/
def page (topic : Topic) : List String :=
  let commands := match topic with
    | .program => Command.all.map fun command => (command.name, command.about)
    | .command _ => []
  let operands := topic.operand?.toList.map fun operand => (operand.placeholder, operand.about)
  let flags := topic.flags.map fun flag =>
    ("-" ++ flag.letter.toString ++ ", " ++ flag.long, flag.about)
  [topic.about, "", "Usage: " ++ topic.usage] ++ part "Commands" commands ++
    part "Arguments" operands ++ part "Options" flags

end Topic

end DelugeAssist.CommandLine
