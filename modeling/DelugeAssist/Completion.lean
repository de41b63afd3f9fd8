-- The completion list: which items a trigger yields and what each item shows. Items keep the order
-- of their table, and the sort text of an item is its place written in four digits.

import DelugeAssist.Catalog.Method
import DelugeAssist.Catalog.Generic
import DelugeAssist.Trigger

namespace DelugeAssist

namespace Completion

/-- What a list of items depends on beside the text (`CompletionOptions`). -/
structure Options where
  /-- Insert a method with a place for its arguments. -/
  snippets : Bool := true
  /-- Offer the words of the language. -/
  generic : Bool := true
deriving DecidableEq, Repr

/-- What an item stands for. -/
inductive ItemKind where
  | service
  | method
  | keyword
  | function
deriving DecidableEq, Repr

/-- How inserted text is read: as it stands, or with places to fill in. -/
inductive InsertForm where
  | plain
  | snippet
deriving DecidableEq, Repr

/-- The text that an item inserts instead of its label. -/
structure Insertion where
  text : String
  form : InsertForm
deriving DecidableEq, Repr

/-- An item of the list (`CompletionItem`). The documentation is Markdown. -/
structure Item where
  label : String
  kind : ItemKind
  detail : Option String := none
  documentation : Option String := none
  insertion : Option Insertion := none
  sortText : String
deriving DecidableEq, Repr

/-- A place in a list, in at least four digits. -/
def sortText (place : Nat) : String :=
  String.ofList (List.leftpad 4 '0' (Nat.toDigits 10 place))

end Completion

namespace Method

/-- The call as it is written after the service: the name and the parameters. -/
def call (method : Method) : String := method.name ++ method.parameters

/-- What a method returns, before its call (`method_detail`). -/
def detail (method : Method) : String := method.returns ++ " " ++ method.call

/-- The text beside a method (`method_documentation`): its name, what it does, what it returns, and
the whole call. -/
def documentation (service : Service) (method : Method) : String :=
  "**" ++ method.name ++ "**\n\n" ++ method.description ++
    "\n\n**Returns:** `" ++ method.returns ++
    "`\n\n**Usage:** `zoho." ++ service.identifier ++ "." ++ method.call ++ "`"

/-- What choosing a method inserts. -/
def insertion (snippets : Bool) (method : Method) : Completion.Insertion :=
  if snippets then ⟨method.name ++ "($1)", .snippet⟩ else ⟨method.name ++ "()", .plain⟩

end Method

namespace Completion

/-- The item of a service offered in place `place`. -/
def serviceItem (place : Nat) (suggestion : Suggestion) : Item where
  label := suggestion.service.identifier
  kind := .service
  detail := some suggestion.label
  sortText := sortText place

/-- The item of a method of `service` in place `place`. -/
def methodItem (service : Service) (snippets : Bool) (place : Nat) (method : Method) : Item where
  label := method.name
  kind := .method
  detail := some method.detail
  documentation := some (method.documentation service)
  insertion := some (method.insertion snippets)
  sortText := sortText place

/-- The item of a word of the language in place `place`. -/
def genericItem (place : Nat) (word : GenericWord) : Item where
  label := word.name
  kind := match word.kind with
    | .keyword => .keyword
    | .function => .function
  sortText := sortText place

def serviceItems : List Item := Suggestion.all.mapIdx serviceItem

def methodItems (service : Service) (snippets : Bool) : List Item :=
  service.methods.mapIdx (methodItem service snippets)

def genericItems : List Item := GenericWord.all.mapIdx genericItem

/-- The items that a trigger yields. There is no list, as against an empty one, only where the
words of the language are asked for and switched off. -/
def ofTrigger (options : Options) : Trigger → Option (List Item)
  | .namespaceRoot => some serviceItems
  | .serviceScoped service => some (methodItems service options.snippets)
  | .generic => if options.generic then some genericItems else none

/-- The items for the text left of the cursor (`completion_items`). -/
def items (left : List Char) (options : Options) : Option (List Item) :=
  ofTrigger options (Trigger.ofText left)

end Completion

end DelugeAssist
