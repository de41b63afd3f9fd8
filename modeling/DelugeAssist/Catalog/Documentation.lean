-- The documentation shown for a word under the cursor. A word is looked up whole and alone: a
-- method name shared by several services shows one text.

namespace DelugeAssist

namespace Documentation

/-- The documented words with their text, in the order they were written (`HOVER_DOCS`). -/
def table : List (String × String) :=
  [("getRecords",
     "**getRecords** - Fetches records from a specified module.\n\n" ++
      "**Syntax:** `zoho.crm.getRecords(module_name, page, per_page, query_value, connection)`"),
   ("createRecord",
     "**createRecord** - Creates a new record in the specified module.\n\n" ++
      "**Syntax:** `zoho.crm.createRecord(module_name, data_map, connection)`"),
   ("searchRecords",
     "**searchRecords** - Searches for records based on criteria.\n\n" ++
      "**Syntax:** `zoho.crm.searchRecords(module_name, criteria, connection)`"),
   ("info",
     "**info** - Logs information to the execution log.\n\n" ++
      "**Syntax:** `info message;`"),
   ("sendmail",
     "**sendmail** - Sends an email.\n\n" ++
      "**Syntax:** `sendmail [from: ... to: ... subject: ... message: ...]`"),
   ("invokeurl",
     "**invokeurl** - Makes HTTP requests to external services.\n\n" ++
      "**Syntax:** `invokeurl [url: ... type: ... parameters: ... connection: ...]`")]

/-- The documentation of a word, if it has any (`lookup_hover`). -/
def of? (word : String) : Option String :=
  (table.find? fun entry => entry.1 == word).map (·.2)

/-- The words that have documentation (`documented_words`). -/
def words : List String := table.map (·.1)

end Documentation

end DelugeAssist
