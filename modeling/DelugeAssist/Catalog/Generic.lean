-- The words offered where no service is being written: the keywords of the language, then the
-- built-in functions.

namespace DelugeAssist

/-- What a word of the language is. -/
inductive WordKind where
  | keyword
  | function
deriving DecidableEq, Repr

/-- A word offered outside the `zoho.` namespace (`GenericEntry`). -/
structure GenericWord where
  name : String
  kind : WordKind
deriving DecidableEq, Repr

namespace GenericWord

def keywords : List String :=
  ["if", "else", "for", "while", "return", "break", "continue", "try", "catch", "throw",
   "each", "in", "void", "Map", "List", "Collection", "info", "sendmail", "invokeurl"]

def functions : List String :=
  ["toDate", "toDateTime", "toNumber", "toLong", "toText", "toString", "equals", "isNull",
   "isEmpty", "contains", "trim", "length"]

/-- Keywords first, then functions (`list_generic_keywords_and_functions`). -/
def all : List GenericWord :=
  keywords.map (⟨·, .keyword⟩) ++ functions.map (⟨·, .function⟩)

end GenericWord

end DelugeAssist
