-- The open documents, under the addresses they were opened by.

import DelugeAssist.Text.Measure

namespace DelugeAssist

/-- A document as the editor last gave it. -/
structure Document where
  text : Text
  version : Option Int := none
  language : Option String := none
deriving DecidableEq, Repr

namespace Document

/-- A document with its text replaced (`replace_text`). A version that is not given stays as it
was. -/
def replaceText (document : Document) (text : Text) (version : Option Int) : Document :=
  { document with text, version := version.or document.version }

end Document

/-- Documents by address; an address stands at most once. -/
structure DocumentStore where
  entries : List (String × Document) := []
deriving DecidableEq, Repr

namespace DocumentStore

/-- The document of an address (`get`). -/
def get? (store : DocumentStore) (address : String) : Option Document :=
  store.entries.lookup address

/-- The text of the document of an address (`get_document_text`). -/
def text? (store : DocumentStore) (address : String) : Option Text :=
  (store.get? address).map (·.text)

/-- The store without an address. -/
def erase (store : DocumentStore) (address : String) : DocumentStore :=
  ⟨store.entries.filter fun entry => entry.1 != address⟩

/-- The document of an address, and the store without it. -/
def remove (store : DocumentStore) (address : String) : Option Document × DocumentStore :=
  (store.get? address, store.erase address)

/-- The store with a document under an address, in place of any before it. -/
def insert (store : DocumentStore) (address : String) (document : Document) : DocumentStore :=
  ⟨(address, document) :: (store.erase address).entries⟩

/-- The store with the text of a document replaced (`update_document`). A document that is not there
comes about, without a language. -/
def update (store : DocumentStore) (address : String) (text : Text) (version : Option Int) :
    DocumentStore :=
  match store.get? address with
  | some document => store.insert address (document.replaceText text version)
  | none => store.insert address { text, version }

/-- How many documents there are (`len`). -/
def size (store : DocumentStore) : Nat := store.entries.length

def isEmpty (store : DocumentStore) : Bool := store.entries.isEmpty

theorem get?_erase (store : DocumentStore) (address other : String) :
    (store.erase address).get? other = if other = address then none else store.get? other := by
  obtain ⟨entries⟩ := store
  simp only [get?, erase]
  induction entries with
  | nil => simp
  | cons entry rest ih =>
    obtain ⟨key, document⟩ := entry
    by_cases h : key = address
    · subst h
      by_cases h' : other = key
      · subst h'; simpa using ih
      · have : (other == key) = false := by simp [h']
        simp [List.lookup_cons, this, h', ih]
    · by_cases h' : other = key
      · subst h'; simp [h]
      · have : (other == key) = false := by simp [h']
        simp [h, List.lookup_cons, this, ih]

theorem get?_insert (store : DocumentStore) (address other : String) (document : Document) :
    (store.insert address document).get? other =
      if other = address then some document else store.get? other := by
  by_cases h : other = address
  · simp [insert, get?, h]
  · have := get?_erase store address other
    have hb : (other == address) = false := by simp [h]
    simp only [h, if_false] at this ⊢
    simpa [insert, get?, List.lookup_cons, hb] using this

end DocumentStore

end DelugeAssist
