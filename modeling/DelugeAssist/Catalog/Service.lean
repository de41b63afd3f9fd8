-- The services of the `zoho.` namespace: how each is written, the order they stand in, and the
-- ones offered right after `zoho.`. A service that is not offered there is still understood once
-- it is written out.

namespace DelugeAssist

/-- A service that a script reaches as `zoho.` and its identifier. -/
inductive Service where
  | crm
  | desk
  | books
  | billing
  | projects
  | recruit
  | people
  | inventory
  | mail
  | cliq
  | sign
  | writer
  | workdrive
  | fsm
  | analytics
  | campaigns
  | commerce
  | expense
  | subscriptions
  | directory
  | connect
  | sheet
  | calendar
  | bookings
  | map
  | salesiq
  | ai
deriving DecidableEq, Repr

namespace Service

/-- Every service, in matching order. -/
def all : List Service :=
  [.crm, .desk, .books, .billing, .projects, .recruit, .people, .inventory, .mail, .cliq,
   .sign, .writer, .workdrive, .fsm, .analytics, .campaigns, .commerce, .expense,
   .subscriptions, .directory, .connect, .sheet, .calendar, .bookings, .map, .salesiq, .ai]

/-- The identifier as a script writes it (`as_str`). -/
def identifier : Service → String
  | .crm => "crm"
  | .desk => "desk"
  | .books => "books"
  | .billing => "billing"
  | .projects => "projects"
  | .recruit => "recruit"
  | .people => "people"
  | .inventory => "inventory"
  | .mail => "mail"
  | .cliq => "cliq"
  | .sign => "sign"
  | .writer => "writer"
  | .workdrive => "workdrive"
  | .fsm => "fsm"
  | .analytics => "analytics"
  | .campaigns => "campaigns"
  | .commerce => "commerce"
  | .expense => "expense"
  | .subscriptions => "subscriptions"
  | .directory => "directory"
  | .connect => "connect"
  | .sheet => "sheet"
  | .calendar => "calendar"
  | .bookings => "bookings"
  | .map => "map"
  | .salesiq => "salesiq"
  | .ai => "ai"

/-- The service of an identifier, letter case included (`from_identifier`). -/
def ofIdentifier? (identifier : String) : Option Service :=
  all.find? fun service => service.identifier == identifier

theorem mem_all (service : Service) : service ∈ all := by
  cases service <;> decide

end Service

/-- A service offered right after `zoho.`, with the line that describes it (`ServiceDescriptor`). -/
structure Suggestion where
  service : Service
  label : String
deriving DecidableEq, Repr

namespace Suggestion

/-- The services offered after `zoho.`, in display order (`list_services`). -/
def all : List Suggestion :=
  [⟨.crm, "Zoho CRM integration tasks"⟩,
   ⟨.desk, "Zoho Desk integration tasks"⟩,
   ⟨.books, "Zoho Books integration tasks"⟩,
   ⟨.billing, "Zoho Billing integration tasks"⟩,
   ⟨.projects, "Zoho Projects integration tasks"⟩,
   ⟨.recruit, "Zoho Recruit integration tasks"⟩,
   ⟨.people, "Zoho People integration tasks"⟩,
   ⟨.inventory, "Zoho Inventory integration tasks"⟩,
   ⟨.mail, "Zoho Mail integration tasks"⟩,
   ⟨.cliq, "Zoho Cliq integration tasks"⟩,
   ⟨.sign, "Zoho Sign integration tasks"⟩,
   ⟨.writer, "Zoho Writer integration tasks"⟩,
   ⟨.workdrive, "Zoho WorkDrive integration tasks"⟩,
   ⟨.fsm, "Zoho FSM integration tasks"⟩,
   ⟨.ai, "Zoho AI tasks"⟩]

/-- The line that describes a service, when it is offered. -/
def labelOf? (service : Service) : Option String :=
  (all.find? fun suggestion => suggestion.service == service).map (·.label)

end Suggestion

end DelugeAssist
