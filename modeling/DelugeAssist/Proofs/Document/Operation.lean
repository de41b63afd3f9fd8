-- What a run of operations leaves in the store. Each document is what the operations on its own
-- address make, one after another, whatever is done to other addresses in between; and no address
-- ever stands twice, so the size of the store is the number of its documents.

import DelugeAssist.Document
import Mathlib.Data.Finset.Card

namespace DelugeAssist

namespace DocumentStore

/-- An operation on the document of an address. -/
inductive Operation where
  | insert (address : String) (document : Document)
  | update (address : String) (text : Text) (version : Option Int)
  | remove (address : String)
deriving DecidableEq, Repr

namespace Operation

/-- The address that an operation is about. -/
def address : Operation → String
  | .insert address _ => address
  | .update address _ _ => address
  | .remove address => address

/-- What an operation makes of the document of its address, or of its absence. -/
def make : Operation → Option Document → Option Document
  | .insert _ document, _ => some document
  | .update _ text version, none => some ⟨text, version, none⟩
  | .update _ text (some version), some document => some ⟨text, some version, document.language⟩
  | .update _ text none, some document => some ⟨text, document.version, document.language⟩
  | .remove _, _ => none

/-- The text that an operation leaves. -/
def text? : Operation → Option Text
  | .insert _ document => some document.text
  | .update _ text _ => some text
  | .remove _ => none

end Operation

/-- The store after an operation. -/
def act (store : DocumentStore) : Operation → DocumentStore
  | .insert address document => store.insert address document
  | .update address text version => store.update address text version
  | .remove address => (store.remove address).2

/-- An empty store after operations, in order. -/
def after (operations : List Operation) : DocumentStore := operations.foldl act {}

/-- The operations on an address, in order. -/
def past (address : String) (operations : List Operation) : List Operation :=
  operations.filter (·.address = address)

/-- What operations on one address make, one after another. -/
def made (past : List Operation) : Option Document :=
  past.foldl (fun stored operation => operation.make stored) none

/-! ## One operation -/

theorem get?_act_self (store : DocumentStore) (operation : Operation) :
    (store.act operation).get? operation.address =
      operation.make (store.get? operation.address) := by
  cases operation with
  | insert address document => simp [act, get?_insert, Operation.address, Operation.make]
  | update address text version =>
    simp only [act, update, Operation.address]
    rcases store.get? address with _ | document
    · simp [get?_insert, Operation.make]
    · cases version <;> simp [get?_insert, Operation.make, Document.replaceText]
  | remove address => simp [act, remove, get?_erase, Operation.address, Operation.make]

theorem get?_act_other (store : DocumentStore) {operation : Operation} {other : String}
    (h : other ≠ operation.address) : (store.act operation).get? other = store.get? other := by
  cases operation with
  | insert address document => exact (get?_insert _ _ _ _).trans (if_neg h)
  | update address text version =>
    simp only [act, update]
    split
    · exact (get?_insert _ _ _ _).trans (if_neg h)
    · exact (get?_insert _ _ _ _).trans (if_neg h)
  | remove address => exact (get?_erase _ _ _).trans (if_neg h)

/-! ## A whole run -/

theorem get?_foldl_act (operations : List Operation) (store : DocumentStore) (address : String) :
    (operations.foldl act store).get? address =
      (past address operations).foldl (fun stored operation => operation.make stored)
        (store.get? address) := by
  induction operations generalizing store with
  | nil => rfl
  | cons operation rest ih =>
    rw [List.foldl_cons, ih, past, past]
    by_cases h : operation.address = address
    · subst h
      rw [List.filter_cons_of_pos (by simp), List.foldl_cons, get?_act_self]
    · rw [List.filter_cons_of_neg (by simpa using h), get?_act_other store (Ne.symm h)]

theorem get?_after (operations : List Operation) (address : String) :
    (after operations).get? address = made (past address operations) :=
  get?_foldl_act operations {} address

/-- The text is that of the last operation, whatever came before. -/
theorem map_text_made (past : List Operation) :
    (made past).map (·.text) = past.getLast?.bind Operation.text? := by
  rcases List.eq_nil_or_concat past with rfl | ⟨earlier, last, rfl⟩
  · rfl
  · rw [List.concat_eq_append, made, List.foldl_append, List.foldl_cons, List.foldl_nil,
      List.getLast?_concat, Option.bind_some]
    generalize earlier.foldl (fun stored operation => operation.make stored) none = stored
    cases last with
    | insert address document => rfl
    | update address text version =>
      rcases stored with _ | document
      · rfl
      · cases version <;> rfl
    | remove address => rfl

/-! ## How many documents there are -/

/-- No address stands twice. -/
def Distinct (store : DocumentStore) : Prop := (store.entries.map Prod.fst).Nodup

theorem isSome_get?_iff {store : DocumentStore} {address : String} :
    (store.get? address).isSome ↔ address ∈ store.entries.map Prod.fst := by
  rw [get?, List.lookup_isSome_iff, List.mem_map]
  constructor
  · rintro ⟨entry, hentry, heq⟩
    exact ⟨entry, hentry, (eq_of_beq heq).symm⟩
  · rintro ⟨entry, hentry, rfl⟩
    exact ⟨entry, hentry, beq_self_eq_true _⟩

theorem Distinct.erase {store : DocumentStore} (h : store.Distinct) (address : String) :
    (store.erase address).Distinct :=
  h.sublist (List.filter_sublist.map Prod.fst)

theorem Distinct.insert {store : DocumentStore} (h : store.Distinct) (address : String)
    (document : Document) : (store.insert address document).Distinct := by
  have habsent : address ∉ (store.erase address).entries.map Prod.fst := by
    rw [← isSome_get?_iff, get?_erase, if_pos rfl]
    simp
  exact List.nodup_cons.mpr ⟨habsent, h.erase address⟩

theorem Distinct.act {store : DocumentStore} (h : store.Distinct) (operation : Operation) :
    (store.act operation).Distinct := by
  cases operation with
  | insert address document => exact h.insert address document
  | update address text version =>
    simp only [DocumentStore.act, update]
    split
    · exact h.insert address _
    · exact h.insert address _
  | remove address => exact h.erase address

theorem Distinct.foldl_act {store : DocumentStore} (h : store.Distinct)
    (operations : List Operation) : (operations.foldl DocumentStore.act store).Distinct := by
  induction operations generalizing store with
  | nil => exact h
  | cons operation rest ih => exact ih (h.act operation)

theorem distinct_after (operations : List Operation) : (after operations).Distinct :=
  Distinct.foldl_act (show Distinct {} from List.nodup_nil) operations

theorem Distinct.exists_addresses {store : DocumentStore} (h : store.Distinct) :
    ∃ addresses : Finset String, (∀ address, address ∈ addresses ↔ (store.get? address).isSome) ∧
      addresses.card = store.size := by
  refine ⟨(store.entries.map Prod.fst).toFinset, ?_, ?_⟩
  · intro address
    rw [List.mem_toFinset, isSome_get?_iff]
  · rw [List.toFinset_card_of_nodup h, List.length_map, size]

/-- After any operations on an empty store, each address has the document that the operations on it
alone make in their order, and the text is the one that the last of them left. Taking a document out
gives just that document and leaves none under its address. One more operation makes of the document
of its own address what it makes of any, and changes nothing under another. The size of the store is
the number of addresses with a document, and it is empty just if that is 0. -/
theorem each_document_is_what_its_own_operations_make (operations : List Operation) :
    let store := after operations
    (∀ address, store.get? address = made (past address operations) ∧
      store.text? address = (made (past address operations)).map (·.text) ∧
      store.text? address = (past address operations).getLast?.bind Operation.text? ∧
      (store.remove address).1 = made (past address operations) ∧
      (store.remove address).2.get? address = none) ∧
    (∀ operation : Operation,
      (store.act operation).get? operation.address =
        operation.make (store.get? operation.address) ∧
      ∀ other, other ≠ operation.address →
        (store.act operation).get? other = store.get? other ∧
        (store.act operation).text? other = store.text? other) ∧
    (∃ addresses : Finset String,
      (∀ address, address ∈ addresses ↔ made (past address operations) ≠ none) ∧
      store.size = addresses.card) ∧
    (store.isEmpty = true ↔ store.size = 0) := by
  intro store
  have hstore (address : String) : store.get? address = made (past address operations) :=
    get?_after operations address
  have htext (address : String) :
      store.text? address = (made (past address operations)).map (·.text) := by
    rw [text?, hstore]
  refine ⟨?_, ?_, ?_, ?_⟩
  · intro address
    refine ⟨hstore address, htext address, ?_, hstore address, ?_⟩
    · rw [htext, map_text_made]
    · rw [remove, get?_erase, if_pos rfl]
  · intro operation
    refine ⟨get?_act_self store operation, ?_⟩
    intro other h
    have hother := get?_act_other store h
    exact ⟨hother, by rw [text?, hother, text?]⟩
  · obtain ⟨addresses, hmember, hcard⟩ := (distinct_after operations).exists_addresses
    refine ⟨addresses, ?_, hcard.symm⟩
    intro address
    rw [hmember, ← hstore, Option.isSome_iff_ne_none]
  · rw [isEmpty, size, List.isEmpty_iff, List.length_eq_zero_iff]

/-- A document whose version is kept, one that comes about by an update and is updated again, and
one that is taken out; an operation on the first leaves the second. -/
theorem operations_on_one_document_leave_the_others :
    let operations : List Operation :=
      [.insert "file:///a.dg" ⟨['x'], some 1, some "deluge"⟩, .update "file:///b.dg" ['b'] (some 5),
        .update "file:///a.dg" ['é'] none, .insert "file:///c.dg" ⟨['c'], none, none⟩,
        .remove "file:///c.dg", .update "file:///b.dg" [] (some 6)]
    let store := after operations
    store.get? "file:///a.dg" = some ⟨['é'], some 1, some "deluge"⟩ ∧
    store.get? "file:///b.dg" = some ⟨[], some 6, none⟩ ∧
    store.text? "file:///c.dg" = none ∧
    (store.remove "file:///a.dg").1 = some ⟨['é'], some 1, some "deluge"⟩ ∧
    "file:///b.dg" ≠ "file:///a.dg" ∧
    (store.act (.remove "file:///a.dg")).text? "file:///b.dg" = some [] ∧ store.size = 2 := by
  intro operations store
  obtain ⟨hmade, hone, -, -⟩ := each_document_is_what_its_own_operations_make operations
  obtain ⟨ha, -, -, hremoved, -⟩ := hmade "file:///a.dg"
  obtain ⟨hb, hbtext, -⟩ := hmade "file:///b.dg"
  obtain ⟨-, -, hclast, -⟩ := hmade "file:///c.dg"
  have hne : "file:///b.dg" ≠ "file:///a.dg" := by decide
  have hother := ((hone (.remove "file:///a.dg")).2 "file:///b.dg" hne).2
  refine ⟨ha.trans (by decide +kernel), hb.trans (by decide +kernel),
    hclast.trans (by decide +kernel), hremoved.trans (by decide +kernel), hne,
    (hother.trans hbtext).trans (by decide +kernel), by decide +kernel⟩

end DocumentStore

end DelugeAssist
