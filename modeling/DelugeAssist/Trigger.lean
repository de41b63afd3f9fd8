-- What the text left of the cursor asks for. Only how that text ends counts: `zoho.` asks for a
-- service, `zoho.` with an identifier and a dot asks for a method of that service, and any other
-- ending asks for a word of the language.

import DelugeAssist.Catalog.Service

namespace DelugeAssist

/-- What may be completed at the cursor (`TriggerContext`). -/
inductive Trigger where
  /-- The cursor stands right after `zoho.`. -/
  | namespaceRoot
  /-- The cursor stands right after `zoho.`, an identifier and a dot. -/
  | serviceScoped (service : Service)
  /-- The cursor stands anywhere else. -/
  | generic
deriving DecidableEq, Repr

namespace Trigger

/-- The ending that asks for a service. -/
def rootEnding : List Char := "zoho.".toList

/-- The ending that asks for a method of `service`. -/
def scopedEnding (service : Service) : List Char :=
  rootEnding ++ service.identifier.toList ++ ['.']

/-- What the text left of the cursor asks for (`resolve_context`). No blank may stand before the
cursor. -/
def ofText (left : List Char) : Trigger :=
  if rootEnding.isSuffixOf left then .namespaceRoot
  else
    match Service.all.find? fun service => (scopedEnding service).isSuffixOf left with
    | some service => .serviceScoped service
    | none => .generic

end Trigger

end DelugeAssist
