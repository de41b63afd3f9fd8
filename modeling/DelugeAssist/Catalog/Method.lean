-- The methods of each service, in the order they are shown. A service without a table has none.

import DelugeAssist.Catalog.Service

namespace DelugeAssist

/-- A task that a script calls on a service. The parameters are text for display only. -/
structure Method where
  name : String
  parameters : String
  description : String
  returns : String
deriving DecidableEq, Repr

namespace Method

/-- The tasks on customer records. -/
def crmTable : List Method :=
  [⟨"getRecords", "(module_name, page, per_page, query_value, connection)",
     "Fetches records from specified CRM module", "Map"⟩,
   ⟨"getRecordById", "(module_name, record_id, connection)",
     "Fetches a specific record by ID", "Map"⟩,
   ⟨"createRecord", "(module_name, data_map, connection)",
     "Creates a new record", "Map"⟩,
   ⟨"updateRecord", "(module_name, record_id, data_map, connection)",
     "Updates an existing record", "Map"⟩,
   ⟨"searchRecords", "(module_name, criteria, connection)",
     "Searches records based on criteria", "List"⟩,
   ⟨"getRelatedRecords", "(related_module, parent_module, record_id, connection)",
     "Fetches related records", "List"⟩,
   ⟨"updateRelatedRecord", "(module, record_id, parent_module, parent_id, data_map, connection)",
     "Updates a related record", "Map"⟩,
   ⟨"convertLead", "(module, record_id, data_map, connection)",
     "Converts a lead to contact/deal", "Map"⟩,
   ⟨"bulkCreate", "(module_name, data_list, connection)",
     "Creates multiple records", "List"⟩,
   ⟨"upsert", "(module_name, data_map, connection)",
     "Insert or update record", "Map"⟩,
   ⟨"attachFile", "(module_name, record_id, file, connection)",
     "Attaches file to record", "Map"⟩]

/-- The tasks on support tickets. -/
def deskTable : List Method :=
  [⟨"getRecords", "(org_id, module_name, from_index, limit, connection)",
     "Fetches records from Desk module", "List"⟩,
   ⟨"getRecordById", "(org_id, module_name, record_id, connection)",
     "Fetches specific Desk record", "Map"⟩,
   ⟨"create", "(org_id, module_name, data_map, connection)",
     "Creates a Desk record", "Map"⟩,
   ⟨"update", "(org_id, module_name, record_id, data_map, connection)",
     "Updates a Desk record", "Map"⟩,
   ⟨"searchRecords", "(org_id, module_name, query, from_index, limit, connection)",
     "Searches Desk records", "List"⟩,
   ⟨"getRelatedRecords", "(org_id, related_module, parent_module, parent_id, from_index, limit, connection)",
     "Fetches related Desk records", "List"⟩,
   ⟨"createRelatedRecord", "(org_id, related_module, parent_module, parent_id, data_map, connection)",
     "Creates related Desk record", "Map"⟩,
   ⟨"updateRelatedRecord", "(org_id, related_module, record_id, parent_module, parent_id, data_map, connection)",
     "Updates related Desk record", "Map"⟩,
   ⟨"move", "(org_id, ticket_id, department_id, connection)",
     "Moves ticket to department", "Map"⟩,
   ⟨"split", "(org_id, ticket_id, thread_id, connection)",
     "Splits reply as new ticket", "Map"⟩,
   ⟨"merge", "(org_id, ticket_ids, connection)",
     "Merges multiple tickets", "Map"⟩]

/-- The tasks on accounts. -/
def booksTable : List Method :=
  [⟨"getOrganizations", "(connection)",
     "Fetches Zoho Books organizations", "List"⟩,
   ⟨"getList", "(module_name, org_id, per_page, page, connection)",
     "Fetches records from module", "List"⟩,
   ⟨"retrieve", "(module_name, org_id, record_id, connection)",
     "Fetches specific record", "Map"⟩,
   ⟨"create", "(module_name, org_id, data_map, connection)",
     "Creates a Books record", "Map"⟩,
   ⟨"update", "(module_name, org_id, record_id, data_map, connection)",
     "Updates a Books record", "Map"⟩,
   ⟨"markStatus", "(module_name, org_id, record_id, status, connection)",
     "Changes record status", "Map"⟩,
   ⟨"getTemplates", "(org_id, connection)",
     "Fetches invoice templates", "List"⟩]

/-- The tasks on subscription billing. -/
def billingTable : List Method :=
  [⟨"getOrganizations", "(connection)",
     "Fetches Billing organizations", "List"⟩,
   ⟨"getList", "(module_name, org_id, per_page, page, connection)",
     "Fetches records", "List"⟩,
   ⟨"retrieve", "(module_name, org_id, record_id, connection)",
     "Fetches specific record", "Map"⟩,
   ⟨"create", "(module_name, org_id, data_map, connection)",
     "Creates a record", "Map"⟩,
   ⟨"update", "(module_name, org_id, record_id, data_map, connection)",
     "Updates a record", "Map"⟩]

/-- The tasks on projects. -/
def projectsTable : List Method :=
  [⟨"getRecords", "(portal, project_id, module, from_index, limit, connection)",
     "Fetches project records", "List"⟩,
   ⟨"getProjectDetails", "(portal, connection)",
     "Fetches project details", "List"⟩,
   ⟨"create", "(portal, project_id, module, data_map, connection)",
     "Creates project record", "Map"⟩,
   ⟨"update", "(portal, project_id, module, record_id, data_map, connection)",
     "Updates project record", "Map"⟩,
   ⟨"associateLogs", "(portal, project_id, module, record_id, log_data, connection)",
     "Creates time log", "Map"⟩,
   ⟨"updateAssociateLogs", "(portal, project_id, log_id, module, record_id, log_data, connection)",
     "Updates time log", "Map"⟩,
   ⟨"getPortals", "(connection)",
     "Fetches project portals", "List"⟩]

/-- The tasks on language and image analysis. -/
def aiTable : List Method :=
  [⟨"translate", "(text, target_lang, source_lang)",
     "Translates text between languages", "String"⟩,
   ⟨"extractKeywords", "(text)",
     "Extracts keywords from text", "List"⟩,
   ⟨"detectObject", "(image_url)",
     "Detects objects in image", "Map"⟩,
   ⟨"detectFace", "(image_url)",
     "Detects faces in image", "Map"⟩,
   ⟨"recognizeText", "(image_url, model_type, language)",
     "Performs OCR on image", "String"⟩,
   ⟨"analyseSentiment", "(text)",
     "Analyzes sentiment of text", "Map"⟩,
   ⟨"predictLanguage", "(text)",
     "Predicts language of text", "String"⟩]

end Method

/-- The methods of a service, in display order. -/
def Service.methods : Service → List Method
  | .crm => Method.crmTable
  | .desk => Method.deskTable
  | .books => Method.booksTable
  | .billing => Method.billingTable
  | .projects => Method.projectsTable
  | .ai => Method.aiTable
  | _ => []

/-- The methods that an identifier names (`list_methods`); none for an identifier that is no
service. -/
def methodsNamed (identifier : String) : List Method :=
  match Service.ofIdentifier? identifier with
  | some service => service.methods
  | none => []

end DelugeAssist
