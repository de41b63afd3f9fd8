-- What the program prints for its arguments, and the code it ends with.

import DelugeAssist.CommandLine.Request
import DelugeAssist.CommandLine.Terminal
import DelugeAssist.Completion
import DelugeAssist.Catalog.Documentation

namespace DelugeAssist.CommandLine

/-- How a run of the program ends. -/
structure Outcome where
  code : Nat := 0
  stdout : String := ""
  stderr : String := ""
deriving DecidableEq, Repr

/-- Lines, each with its end. -/
def unlines (lines : List String) : String := String.join (lines.map (· ++ "\n"))

/-! ## Refusals in words -/

namespace Misuse

def quoted (text : String) : String := "'" ++ text ++ "'"

/-- An argument as a refusal shows it. -/
def given (argument : String) : String := quoted (shown argument)

/-- The commands that may have been meant. -/
def similarText : List Command → List String
  | [] => []
  | [command] => ["a similar subcommand exists: " ++ quoted command.name]
  | commands =>
    ["some similar subcommands exist: " ++
      ", ".intercalate (commands.map fun command => quoted command.name)]

def tipText (argument : String) : Tip → String
  | .behindDashes =>
    "to pass " ++ given argument ++ " as a value, use " ++ given ("-- " ++ argument)
  | .aheadOfDashes =>
    "subcommand " ++ given argument ++ " exists; to use it, remove the " ++ quoted "--" ++
      " before it"
  | .flag flag => "a similar argument exists: " ++ quoted flag.long

/-- What the arguments were about where they went wrong. -/
def topic : Misuse → Topic
  | .unknownCommand topic _ _ => topic
  | .unexpected topic _ _ => topic
  | .surplusValue topic _ _ => topic
  | .missing command => .command command

/-- What is wrong. -/
def complaint : Misuse → List String
  | .unknownCommand _ name _ => ["error: unrecognized subcommand " ++ given name]
  | .unexpected _ argument _ => ["error: unexpected argument " ++ given argument ++ " found"]
  | .surplusValue _ flag value =>
    ["error: unexpected value " ++ given value ++ " for " ++ quoted flag.long ++
      " found; no more were expected"]
  | .missing command =>
    "error: the following required arguments were not provided:" ::
      command.operand?.toList.map fun operand => "  " ++ operand.placeholder

def tips : Misuse → List String
  | .unknownCommand _ _ similar => similarText similar
  | .unexpected _ argument tip => tip.toList.map (tipText argument)
  | _ => []

/-- How it is done right, with the flag that was given or meant. -/
def usageText : Misuse → String
  | .unexpected topic _ (some (.flag flag)) => "Usage: " ++ topic.usageWith flag
  | .surplusValue topic flag _ => "Usage: " ++ topic.usageWith flag
  | misuse => "Usage: " ++ misuse.topic.usage

/-- Paragraphs with an empty line before each. -/
def paragraph (lines : List String) : List String := if lines.isEmpty then [] else "" :: lines

/-- A refusal in words: what is wrong, what may have been meant, and where to find help. -/
def message (misuse : Misuse) : String :=
  let help := misuse.topic.helpFlag?.toList.map fun flag =>
    "For more information, try " ++ quoted flag.long ++ "."
  unlines (misuse.complaint ++ paragraph (misuse.tips.map ("  tip: " ++ ·)) ++
    paragraph [misuse.usageText] ++ paragraph help)

end Misuse

/-! ## Runs -/

/-- The labels that are offered for the text left of the cursor. -/
def labels (left : List Char) : List String :=
  ((Completion.items left {}).getD []).map (·.label)

namespace Outcome

def ofLines (lines : List String) : Outcome := { stdout := unlines lines }

/-- How a request ends. Serving prints nothing once its input has ended. -/
def ofRequest : Request → Outcome
  | .serve => {}
  | .services =>
    ofLines (Suggestion.all.map fun suggestion =>
      suggestion.service.identifier ++ "\t" ++ suggestion.label)
  | .complete left => ofLines (labels left.toList)
  | .hover word =>
    match Documentation.of? word with
    | some documentation => ofLines [documentation]
    | none =>
      { code := 1, stderr := unlines ["No documentation for " ++ Misuse.quoted word] }
  | .page topic => ofLines topic.page
  | .version => ofLines [programName ++ " 0.1.0"]

/-- How a run with the given arguments ends. -/
def ofArguments (arguments : List String) : Outcome :=
  match Request.ofArguments arguments with
  | .ok request => ofRequest request
  | .error misuse => { code := 2, stderr := misuse.message }

end Outcome

end DelugeAssist.CommandLine
