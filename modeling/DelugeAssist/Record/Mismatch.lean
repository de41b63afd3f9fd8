-- Why a value does not fit what is asked of it, and how each cause is put into words.

import DelugeAssist.Number.Shortest
import DelugeAssist.Text.Quoted

namespace DelugeAssist

/-- What stands in the place of an expected value. -/
inductive Found where
  | null
  | bool (value : Bool)
  | int (value : Int)
  | float (value : Binary64)
  | str (value : String)
  | sequence
  | map
deriving DecidableEq, Repr

/-- Why a value does not fit. -/
inductive Mismatch where
  | wrongType (found : Found) (expected : String)
  | wrongValue (found : Found) (expected : String)
  | wrongLength (length : Nat) (expected : String)
  | missingField (name : String)
  | unknownField (name : String) (known : List String)
  | unknownVariant (name : String) (known : List String)
  /-- A cause that has words of its own. -/
  | refused (reason : String)
deriving DecidableEq, Repr

namespace Found

/-- A found value in words; `style` says how a number with a fraction is written. -/
def describe (style : DecimalStyle) : Found → String
  | .null => "null"
  | .bool value => "boolean `" ++ (if value then "true" else "false") ++ "`"
  | .int value => "integer `" ++ toString value ++ "`"
  | .float value => "floating point `" ++ String.ofList (style.render value) ++ "`"
  | .str value => "string " ++ String.ofList (Text.quoted value.toList)
  | .sequence => "sequence"
  | .map => "map"

end Found

namespace Mismatch

/-- The known names, each between backquotes. -/
def oneOf (known : List String) : String :=
  match known.map fun name => "`" ++ name ++ "`" with
  | [only] => "expected " ++ only
  | [first, second] => "expected " ++ first ++ " or " ++ second
  | names => "expected one of " ++ ", ".intercalate names

/-- A cause in words. -/
def message (style : DecimalStyle) : Mismatch → String
  | .wrongType found expected =>
    "invalid type: " ++ found.describe style ++ ", expected " ++ expected
  | .wrongValue found expected =>
    "invalid value: " ++ found.describe style ++ ", expected " ++ expected
  | .wrongLength length expected =>
    "invalid length " ++ toString length ++ ", expected " ++ expected
  | .missingField name => "missing field `" ++ name ++ "`"
  | .unknownField name known => "unknown field `" ++ name ++ "`, " ++ oneOf known
  | .unknownVariant name known => "unknown variant `" ++ name ++ "`, " ++ oneOf known
  | .refused reason => reason

end Mismatch

end DelugeAssist
