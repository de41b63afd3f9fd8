-- Which values are layers. A layer is read from a JSON value or from a settings file just if all
-- that it names are fields and all that it gives them are flags; the first name that is at fault is
-- told of, whatever the order of the members.

import DelugeAssist.Proofs.Json.Object
import DelugeAssist.Proofs.Record.Blame
import DelugeAssist.Proofs.Settings.Resolution
import DelugeAssist.Proofs.Text.OctetOrder

namespace DelugeAssist

/-! ## Fields by name and by place -/

namespace Settings.Field

/-- The name of a field in a layer. -/
def name : Field → String
  | .snippets => "snippets"
  | .hover => "hover"
  | .genericCompletions => "genericCompletions"

/-- The place of a field in a layer that is given as a list. -/
def place : Field → Nat
  | .snippets => 0
  | .hover => 1
  | .genericCompletions => 2

theorem idxOf_name (field : Field) : Layer.names.idxOf field.name = field.place := by
  cases field <;> decide

theorem exists_place {i : Nat} (h : i < 3) : ∃ field : Field, field.place = i := by
  rcases i with _ | _ | _ | i
  · exact ⟨.snippets, rfl⟩
  · exact ⟨.hover, rfl⟩
  · exact ⟨.genericCompletions, rfl⟩
  · omega

theorem mem_names_iff {key : String} : key ∈ Layer.names ↔ ∃ field : Field, field.name = key := by
  constructor
  · intro hkey
    simp only [Layer.names, List.mem_cons, List.not_mem_nil, or_false] at hkey
    rcases hkey with rfl | rfl | rfl
    · exact ⟨.snippets, rfl⟩
    · exact ⟨.hover, rfl⟩
    · exact ⟨.genericCompletions, rfl⟩
  · rintro ⟨field, rfl⟩
    cases field <;> simp [Layer.names, name]

end Settings.Field

namespace Layer

open Settings (Field)

theorem ext_get {first second : Layer} (h : ∀ field, first.get field = second.get field) :
    first = second := by
  obtain ⟨s, v, g⟩ := first
  obtain ⟨s', v', g'⟩ := second
  rw [mk.injEq]
  exact ⟨h .snippets, h .hover, h .genericCompletions⟩

/-! ## The reading of a layer, whatever its values are -/

section Fields

variable {V : Type} {readFlag : V → Except Mismatch (Option Bool)} {fields : Fields V}

/-- A layer as the record that is read. -/
def record (fields : Fields V) : Record V :=
  { owner, names, fields, closed := true, lenient := true }

theorem ofFields_blames (readFlag : V → Except Mismatch (Option Bool)) (fields : Fields V) :
    (ofFields readFlag fields).Blames fun p =>
      (∃ field : Field, (record fields).Unfit field.name readFlag p) ∨
        (record fields).Surplus p := by
  have hflag (field : Field) : (Option.join <$> (record fields).field? field.name readFlag).Blames
      ((record fields).Unfit field.name readFlag) :=
    (Record.field?_blames rfl field.name readFlag).map Option.join
  have hbuild := (((hflag .snippets).map Layer.mk).seq (hflag .hover)).seq
    (hflag .genericCompletions)
  refine (Record.read_blames rfl hbuild).congr fun p => or_congr_left ?_
  constructor
  · rintro ((h | h) | h)
    · exact ⟨_, h⟩
    · exact ⟨_, h⟩
    · exact ⟨_, h⟩
  · rintro ⟨field, h⟩
    cases field with
    | snippets => exact .inl (.inl h)
    | hover => exact .inl (.inr h)
    | genericCompletions => exact .inr h

/-- Each field of a layer that is read is what the flag there says, and unset where none is held. -/
theorem get_ofFields {layer : Layer} (h : (ofFields readFlag fields).result = .ok layer)
    (field : Field) :
    layer.get field =
      ((record fields).value? field.name).bind fun value => (readFlag value).toOption.join := by
  have hflag {name : String} {flag : Option Bool}
      (h : (Option.join <$> (record fields).field? name readFlag).result = .ok flag) :
      flag = ((record fields).value? name).bind fun value => (readFlag value).toOption.join := by
    obtain ⟨found, hfound, rfl⟩ := Attempt.result_map_eq_ok.mp h
    rcases Record.field?_eq_ok hfound with ⟨hvalue, rfl⟩ | ⟨value, flag, hvalue, hread, rfl⟩
    · rw [hvalue]
      rfl
    · rw [hvalue, Option.bind_some, hread]
      rfl
  obtain ⟨hthree, -⟩ := Attempt.result_seqLeft_eq_ok.mp h
  obtain ⟨_, generic, htwo, hgeneric, rfl⟩ := Attempt.result_seq_eq_ok.mp hthree
  obtain ⟨_, hover, hone, hhover, rfl⟩ := Attempt.result_seq_eq_ok.mp htwo
  obtain ⟨snippets, hsnippets, rfl⟩ := Attempt.result_map_eq_ok.mp hone
  cases field with
  | snippets => exact hflag hsnippets
  | hover => exact hflag hhover
  | genericCompletions => exact hflag hgeneric

end Fields

/-! ## Layers given by names -/

section Members

variable {V : Type} {readFlag : V → Except Mismatch (Option Bool)} {members : List (String × V)}

/-- What is wrong with a member of a layer, if something is. -/
def fault? (readFlag : V → Except Mismatch (Option Bool)) (key : String) (value : V) :
    Option Mismatch :=
  if key ∈ names then
    match readFlag value with
    | .ok _ => none
    | .error mismatch => some mismatch
  else some (.unknownField key names)

/-- A problem with one of the members. -/
def Faulty (readFlag : V → Except Mismatch (Option Bool)) (members : List (String × V))
    (p : Problem) : Prop :=
  ∃ key value, members.lookup key = some value ∧ p.place = .member key ∧
    fault? readFlag key value = some p.mismatch

/-- The problems with a layer given by names are those with its members. -/
theorem ofMembers_blames (readFlag : V → Except Mismatch (Option Bool))
    (members : List (String × V)) :
    (ofFields readFlag (.members members)).Blames (Faulty readFlag members) := by
  refine (ofFields_blames readFlag (.members members)).congr fun p => ?_
  constructor
  · rintro (⟨field, hplace, value, hvalue, hread⟩ | ⟨key, hkey, hunknown, rfl⟩)
    · refine ⟨field.name, value, hvalue, hplace, ?_⟩
      rw [fault?, if_pos (Field.mem_names_iff.mpr ⟨field, rfl⟩), hread]
    · obtain ⟨value, hvalue⟩ := Option.ne_none_iff_exists'.mp hkey
      exact ⟨key, value, hvalue, rfl, if_neg hunknown⟩
  · rintro ⟨key, value, hvalue, hplace, hfault⟩
    obtain ⟨place, mismatch⟩ := p
    obtain rfl : place = .member key := hplace
    unfold fault? at hfault
    split at hfault
    · rename_i hknown
      obtain ⟨field, rfl⟩ := Field.mem_names_iff.mp hknown
      refine .inl ⟨field, rfl, value, hvalue, ?_⟩
      cases hread : readFlag value with
      | ok flag => simp [hread] at hfault
      | error other => simpa [hread] using hfault
    · rename_i hunknown
      obtain rfl := Option.some.inj hfault
      exact .inr ⟨key, by simp [hvalue], hunknown, rfl⟩

theorem Faulty.eq_of_place {p q : Problem} (hp : Faulty readFlag members p)
    (hq : Faulty readFlag members q) (h : p.place = q.place) : p = q := by
  obtain ⟨place, mismatch⟩ := p
  obtain ⟨place', mismatch'⟩ := q
  obtain ⟨key, value, hvalue, hplace, hfault⟩ := hp
  obtain ⟨key', value', hvalue', hplace', hfault'⟩ := hq
  simp only at h hplace hplace' hfault hfault'
  subst h hplace
  obtain rfl := Place.member.inj hplace'
  rw [hvalue] at hvalue'
  obtain rfl := Option.some.inj hvalue'
  rw [hfault] at hfault'
  rw [Option.some.inj hfault']

/-- A layer is read from its members just if none of them is at fault. -/
theorem exists_ofMembers_iff :
    (∃ layer, (ofFields readFlag (.members members)).result = .ok layer) ↔
      ∀ key value, members.lookup key = some value → fault? readFlag key value = none := by
  rw [(ofMembers_blames readFlag members).ok_iff]
  constructor
  · intro h key value hvalue
    by_contra hfault
    obtain ⟨mismatch, hmismatch⟩ := Option.ne_none_iff_exists'.mp hfault
    exact h ⟨.member key, mismatch⟩ ⟨key, value, hvalue, rfl, hmismatch⟩
  · rintro h p ⟨key, value, hvalue, -, hfault⟩
    rw [h key value hvalue] at hfault
    cases hfault

/-- The problem told of is that of the least key that is at fault. -/
theorem ofMembers_eq_error {p : Problem}
    (h : (ofFields readFlag (.members members)).result = .error p) :
    ∃ key value, members.lookup key = some value ∧ fault? readFlag key value = some p.mismatch ∧
      ∀ other held, members.lookup other = some held → fault? readFlag other held ≠ none →
        ¬ other < key := by
  obtain ⟨⟨key, value, hvalue, hplace, hfault⟩, hfirst⟩ :=
    (ofMembers_blames readFlag members).firstOf h
  refine ⟨key, value, hvalue, hfault, ?_⟩
  intro other held hheld hwrong
  obtain ⟨mismatch, hmismatch⟩ := Option.ne_none_iff_exists'.mp hwrong
  have hlater := hfirst ⟨.member other, mismatch⟩ ⟨other, held, hheld, rfl, hmismatch⟩
  rw [hplace] at hlater
  exact of_decide_eq_false hlater

/-- What is read from members depends on nothing but what they hold under each name. -/
theorem ofMembers_congr {members' : List (String × V)}
    (h : ∀ key, members.lookup key = members'.lookup key) :
    (ofFields readFlag (.members members)).result =
      (ofFields readFlag (.members members')).result := by
  have hleft := ofMembers_blames readFlag members
  have hright : (ofFields readFlag (.members members')).Blames (Faulty readFlag members) :=
    (ofMembers_blames readFlag members').congr fun p => by simp only [Faulty, h]
  cases hresult : (ofFields readFlag (.members members)).result with
  | ok layer =>
    obtain ⟨layer', hresult'⟩ := hright.ok_iff.mpr (hleft.ok_iff.mp ⟨layer, hresult⟩)
    rw [hresult', Except.ok.injEq]
    apply ext_get
    intro field
    rw [get_ofFields hresult, get_ofFields hresult']
    exact congrArg (Option.bind · _) (h field.name)
  | error p =>
    have hp := hleft.firstOf hresult
    cases hresult' : (ofFields readFlag (.members members')).result with
    | ok layer' => exact absurd hp.1 (hright.ok_iff.mp ⟨layer', hresult'⟩ p)
    | error q =>
      have hq := hright.firstOf hresult'
      rw [hp.1.eq_of_place hq.1 (hp.place_eq hq)]

theorem fault?_eq_none_iff {key : String} {value : V} :
    fault? readFlag key value = none ↔ key ∈ names ∧ ∃ flag, (readFlag value).toOption = some flag := by
  unfold fault?
  split
  · rename_i hknown
    cases readFlag value <;> simp [hknown, Except.toOption]
  · rename_i hunknown
    simp [hunknown]

/-- Two ways of reading give the same layer from members that hold the same flags. -/
theorem toOption_ofMembers_congr {W : Type} {readOther : W → Except Mismatch (Option Bool)}
    {others : List (String × W)}
    (h : ∀ key,
      Option.Rel (fun value other => (readFlag value).toOption = (readOther other).toOption)
        (members.lookup key) (others.lookup key)) :
    (ofFields readFlag (.members members)).result.toOption =
      (ofFields readOther (.members others)).result.toOption := by
  have haccept : (∃ layer, (ofFields readFlag (.members members)).result = .ok layer) ↔
      ∃ layer, (ofFields readOther (.members others)).result = .ok layer := by
    simp only [exists_ofMembers_iff, fault?_eq_none_iff]
    refine forall_congr' fun key => ?_
    have hkey := h key
    generalize members.lookup key = value at hkey ⊢
    generalize others.lookup key = other at hkey ⊢
    cases hkey with
    | none => simp
    | some hflag => simp [hflag]
  cases hleft : (ofFields readFlag (.members members)).result with
  | ok layer =>
    obtain ⟨layer', hright⟩ := haccept.mp ⟨layer, hleft⟩
    have hsame : layer = layer' := by
      apply ext_get
      intro field
      rw [get_ofFields hleft, get_ofFields hright]
      simp only [Record.value?, record]
      have hname := h field.name
      generalize members.lookup field.name = value at hname ⊢
      generalize others.lookup field.name = other at hname ⊢
      cases hname with
      | none => rfl
      | some hflag => rw [Option.bind_some, Option.bind_some, hflag]
    rw [hright, hsame]
  | error p =>
    cases hright : (ofFields readOther (.members others)).result with
    | ok layer' =>
      obtain ⟨layer, hok⟩ := haccept.mpr ⟨layer', hright⟩
      rw [hleft] at hok
      cases hok
    | error q => rfl

end Members

end Layer

/-! ## Flags -/

namespace Json

/-- A truth value, or null for none. -/
def isFlag : Json → Bool
  | .null => true
  | .bool _ => true
  | _ => false

/-- The truth value that a flag sets. -/
def flag? : Json → Option Bool
  | .bool flag => some flag
  | _ => none

theorem readFlag_eq (value : Json) :
    readOption readBool value =
      if value.isFlag then .ok value.flag? else .error (.wrongType value.found "a boolean") := by
  cases value <;> rfl

/-- The value is a layer: an object whose members are flags under the names of fields, or a list of
no more flags than there are fields. -/
def IsLayer : Json → Prop
  | .obj members => ∀ key value, members.lookup key = some value →
      key ∈ ["snippets", "hover", "genericCompletions"] ∧ value.isFlag = true
  | .arr items => items.length ≤ 3 ∧ ∀ item ∈ items, item.isFlag = true
  | _ => False

/-- What is wrong with a member of an object that is no layer: its name if that is no field, and
else that it is no flag. -/
def offence? (key : String) (value : Json) : Option Mismatch :=
  if key ∉ ["snippets", "hover", "genericCompletions"] then
    some (.unknownField key ["snippets", "hover", "genericCompletions"])
  else if value.isFlag = false then some (.wrongType value.found "a boolean")
  else none

theorem offence?_eq_none_iff {key : String} {value : Json} :
    value.offence? key = none ↔
      key ∈ ["snippets", "hover", "genericCompletions"] ∧ value.isFlag = true := by
  unfold offence?
  split
  · rename_i hunknown
    simp only [reduceCtorEq, false_iff]
    exact fun h => hunknown h.1
  · rename_i hknown
    rw [not_not] at hknown
    cases value.isFlag <;> simp [hknown]

end Json

namespace Toml

/-- The truth value that a value of a document is. -/
def Node.flag? : Node → Option Bool
  | .scalar (.bool flag) => some flag
  | _ => none

theorem Node.readFlag_eq (value : Span × Node) :
    Layer.readFlag value =
      match value.2.flag? with
      | some flag => .ok (some flag)
      | none => .error (Layer.flagMismatch value.2) := by
  obtain ⟨span, node⟩ := value
  cases node with
  | scalar value => cases value <;> rfl
  | _ => rfl

/-- A JSON value that stands for a value of a document: the same truth value, or something that is
no flag for something that is none. -/
def Node.MirroredBy (node : Node) (value : Json) : Prop :=
  match node.flag? with
  | some flag => value = .bool flag
  | none => value.isFlag = false

/-- The members of an object stand for the entries of a document: they have the same names, and each
stands for the entry of its name. -/
def Entries.MirroredBy (entries : Entries) (members : List (String × Json)) : Prop :=
  ∀ name, Option.Rel (fun entry value => entry.2.MirroredBy value) (entries.get? name)
    (members.lookup name)

theorem Entries.get?_eq_lookup (entries : Entries) (name : String) :
    entries.get? name = (entries.map fun (key, value) => (key.name, value)).lookup name := by
  induction entries with
  | nil => rfl
  | cons entry rest ih =>
    obtain ⟨key, value⟩ := entry
    rw [List.map_cons, Json.lookup_member, ← ih, get?, List.find?_cons]
    by_cases h : key.name = name
    · simp [h]
    · simp [beq_false_of_ne h, Ne.symm h, get?]

/-- Each document has an object that mirrors it. -/
theorem Entries.exists_mirroredBy (entries : Entries) : ∃ members, entries.MirroredBy members := by
  let mirror (node : Node) : Json := (node.flag?.map Json.bool).getD (.arr [])
  have hmirror (node : Node) : node.MirroredBy (mirror node) := by
    unfold Node.MirroredBy
    cases hflag : node.flag? <;> simp [mirror, hflag, Json.isFlag]
  refine ⟨entries.map fun (key, _, node) => (key.name, mirror node), ?_⟩
  intro name
  rw [get?_eq_lookup]
  induction entries with
  | nil => exact .none
  | cons entry rest ih =>
    obtain ⟨key, span, node⟩ := entry
    simp only [List.map_cons, Json.lookup_member]
    split
    · exact .some (hmirror node)
    · exact ih

end Toml

/-! ## Layers of JSON values and of documents -/

namespace Layer

open Settings (Field)

theorem ofJson_obj (members : List (String × Json)) :
    ofJson (.obj members) =
      (ofFields (Json.readOption Json.readBool) (.members members)).outcome := rfl

theorem fault?_json (key : String) (value : Json) :
    fault? (Json.readOption Json.readBool) key value = value.offence? key := by
  unfold fault? Json.offence?
  rw [Json.readFlag_eq]
  cases value.isFlag <;> by_cases hkey : key ∈ names <;> simp_all [names]

theorem exists_ofJson_obj_iff (members : List (String × Json)) :
    (∃ layer, ofJson (.obj members) = .ok layer) ↔ (Json.obj members).IsLayer := by
  simp only [ofJson_obj, Attempt.outcome_eq_ok, exists_ofMembers_iff, fault?_json,
    Json.offence?_eq_none_iff, Json.IsLayer]

theorem exists_ofJson_arr_iff (items : List Json) :
    (∃ layer, ofJson (.arr items) = .ok layer) ↔ (Json.arr items).IsLayer := by
  simp only [ofJson, Attempt.outcome_eq_ok,
    (ofFields_blames (Json.readOption Json.readBool) (.items items)).ok_iff]
  constructor
  · intro h
    have hlength : items.length ≤ 3 := by
      by_contra hlong
      exact h ⟨.absent, _⟩ (.inr ⟨Nat.lt_of_not_le hlong, rfl⟩)
    refine ⟨hlength, ?_⟩
    intro item hitem
    obtain ⟨i, hi, rfl⟩ := List.getElem_of_mem hitem
    obtain ⟨field, hfield⟩ := Field.exists_place (Nat.lt_of_lt_of_le hi hlength)
    by_contra hflag
    refine h ⟨.item field.place, .wrongType items[i].found "a boolean"⟩
      (.inl ⟨field, congrArg Place.item field.idxOf_name.symm, items[i], ?_, ?_⟩)
    · change items[names.idxOf field.name]? = some items[i]
      rw [field.idxOf_name, hfield, List.getElem?_eq_getElem hi]
    · rw [Json.readFlag_eq, if_neg hflag]
  · rintro ⟨hlength, hflags⟩ p (⟨field, -, item, hitem, hread⟩ | ⟨hlong, -⟩)
    · rw [Json.readFlag_eq, if_pos (hflags item (List.mem_of_getElem? hitem))] at hread
      cases hread
    · exact absurd hlong (Nat.not_lt.mpr hlength)

theorem exists_ofJson_iff (value : Json) :
    (∃ layer, ofJson value = .ok layer) ↔ value.IsLayer := by
  cases value with
  | obj members => exact exists_ofJson_obj_iff members
  | arr items => exact exists_ofJson_arr_iff items
  | _ => exact ⟨fun ⟨_, h⟩ => (by cases h), False.elim⟩

/-- A layer sets the fields that the value gives as truth values. -/
theorem get_ofJson {value : Json} {layer : Layer} (h : ofJson value = .ok layer) (field : Field) :
    layer.get field = (value.held? field.name field.place).bind Json.flag? := by
  have hflag (held : Json) : (Json.readOption Json.readBool held).toOption.join = held.flag? := by
    cases held <;> rfl
  cases value with
  | obj members =>
    rw [get_ofFields (Attempt.outcome_eq_ok.mp h) field]
    simp only [hflag]
    rfl
  | arr items =>
    rw [get_ofFields (Attempt.outcome_eq_ok.mp h) field]
    simp only [hflag, Record.value?, record, field.idxOf_name]
    rfl
  | _ => cases h

/-- The problem with an object that is no layer is the offence of the least key that has one. -/
theorem ofJson_obj_eq_error {members : List (String × Json)} (h : ¬ (Json.obj members).IsLayer) :
    ∃ key value mismatch, members.lookup key = some value ∧ value.offence? key = some mismatch ∧
      ofJson (.obj members) = .error mismatch ∧
      ∀ other held, members.lookup other = some held → held.offence? other ≠ none →
        Utf8.encode key.toList ≤ Utf8.encode other.toList := by
  cases hresult : (ofFields (Json.readOption Json.readBool) (.members members)).result with
  | ok layer =>
    exact absurd ((exists_ofJson_obj_iff members).mp ⟨layer, Attempt.outcome_eq_ok.mpr hresult⟩) h
  | error p =>
    obtain ⟨key, value, hvalue, hfault, hleast⟩ := ofMembers_eq_error hresult
    simp only [fault?_json] at hfault hleast
    refine ⟨key, value, p.mismatch, hvalue, hfault, ?_, ?_⟩
    · rw [ofJson_obj, Attempt.outcome, hresult]
      rfl
    · intro other held hheld hwrong
      rw [← List.not_lt, Utf8.encode_lt_iff]
      exact hleast other held hheld hwrong

theorem ofJson_obj_congr {members members' : List (String × Json)}
    (h : ∀ key, members.lookup key = members'.lookup key) :
    ofJson (.obj members) = ofJson (.obj members') := by
  rw [ofJson_obj, ofJson_obj, Attempt.outcome, Attempt.outcome, ofMembers_congr h]

theorem toOption_readFlag {value : Toml.Span × Toml.Node} {other : Json}
    (h : value.2.MirroredBy other) :
    (readFlag value).toOption = (Json.readOption Json.readBool other).toOption := by
  rw [Toml.Node.readFlag_eq, Json.readFlag_eq]
  unfold Toml.Node.MirroredBy at h
  cases hflag : value.2.flag? with
  | some flag =>
    simp only [hflag] at h
    rw [h]
    rfl
  | none =>
    simp only [hflag] at h
    rw [h]
    rfl

/-- A document gives the layer of an object that mirrors it, or no layer as that object does. -/
theorem toOption_ofEntries {entries : Toml.Entries} {members : List (String × Json)}
    (h : entries.MirroredBy members) :
    (ofEntries entries).toOption = (ofJson (.obj members)).toOption := by
  have hdrop {ε δ α : Type} (read : Except ε α) (f : ε → δ) :
      (read.mapError f).toOption = read.toOption := by
    cases read <;> rfl
  simp only [ofEntries, ofJson_obj, Attempt.outcome, hdrop]
  apply toOption_ofMembers_congr
  intro key
  have hkey := h key
  rw [Toml.Entries.get?_eq_lookup] at hkey
  generalize members.lookup key = other at hkey ⊢
  generalize List.lookup key _ = value at hkey ⊢
  cases hkey with
  | none => exact .none
  | some hmirrored => exact .some (toOption_readFlag hmirrored)

/-- A JSON value is read as a layer just if it is an object whose members are flags under the names
of fields, or a list of no more flags than there are fields, and the layer sets just the fields that
are given as truth values. Of the members of any other object the one at fault with the least name,
octet by octet, is told of, and the order of members does not show. A settings file that is a
document gives the layer that an object gives which mirrors the document, or none as that does. -/
theorem just_flags_of_known_fields_make_a_layer :
    (∀ value : Json, (∃ layer, ofJson value = .ok layer) ↔ value.IsLayer) ∧
    (∀ (value : Json) (layer : Layer), ofJson value = .ok layer →
      ∀ field : Field, layer.get field = (value.held? field.name field.place).bind Json.flag?) ∧
    (∀ members : List (String × Json), ¬ (Json.obj members).IsLayer →
      ∃ key value mismatch, members.lookup key = some value ∧
        value.offence? key = some mismatch ∧ ofJson (.obj members) = .error mismatch ∧
        ∀ other held, members.lookup other = some held → held.offence? other ≠ none →
          Utf8.encode key.toList ≤ Utf8.encode other.toList) ∧
    (∀ members members' : List (String × Json), members.Perm members' →
      (members.map (·.1)).Nodup →
        ofJson (.obj members) = ofJson (.obj members') ∧
        ofJson (Json.object members) = ofJson (Json.object members')) ∧
    (∀ (text : Text) (entries : Toml.Entries), Toml.parse? text = some entries →
      (∃ members, entries.MirroredBy members) ∧
      ∀ members, entries.MirroredBy members →
        (ofToml text).toOption = (ofJson (.obj members)).toOption) := by
  refine ⟨exists_ofJson_iff, fun _ _ => get_ofJson, fun _ => ofJson_obj_eq_error, ?_, ?_⟩
  · intro members members' hperm hkeys
    refine ⟨ofJson_obj_congr (Json.lookup_eq_of_perm hperm hkeys), ?_⟩
    have hreverse : (members.reverse.map (·.1)).Nodup :=
      ((List.reverse_perm members).map (·.1)).nodup_iff.mpr hkeys
    have hperm' : members.reverse.Perm members'.reverse :=
      (List.reverse_perm _).trans (hperm.trans (List.reverse_perm _).symm)
    refine ofJson_obj_congr fun key => ?_
    change (Json.object members).member? key = (Json.object members').member? key
    rw [Json.member?_object, Json.member?_object, Json.lookup_eq_of_perm hperm' hreverse]
  · intro text entries hparse
    refine ⟨entries.exists_mirroredBy, ?_⟩
    intro members hmirrored
    rw [ofToml, hparse]
    exact toOption_ofEntries hmirrored

/-- A list that ends early and leaves a field open; an object with a flag, a number in place of one
and a name that is no field, which is the least; and a settings file with two flags. -/
theorem a_list_and_a_file_make_layers :
    let list := Json.arr [.null, .bool false]
    let mixed := [("snippets", Json.bool true), ("hover", .int 3), ("Hover", .bool true)]
    let text := "hover = false\nsnippets = true".toList
    let members := [("snippets", Json.bool true), ("hover", .bool false)]
    (ofJson list = .ok ⟨none, some false, none⟩ ∧
      ∀ field, Layer.get ⟨none, some false, none⟩ field =
        (list.held? field.name field.place).bind Json.flag?) ∧
    (¬ (Json.obj mixed).IsLayer ∧ ∃ key value mismatch, mixed.lookup key = some value ∧
      value.offence? key = some mismatch ∧ ofJson (.obj mixed) = .error mismatch ∧
      ∀ other held, mixed.lookup other = some held → held.offence? other ≠ none →
        Utf8.encode key.toList ≤ Utf8.encode other.toList) ∧
    (mixed.Perm mixed.reverse ∧ (mixed.map (·.1)).Nodup ∧
      ofJson (.obj mixed) = ofJson (.obj mixed.reverse) ∧
      ofJson (Json.object mixed) = ofJson (Json.object mixed.reverse)) ∧
    ∃ entries, Toml.parse? text = some entries ∧ entries.MirroredBy members ∧
      (ofToml text).toOption = (ofJson (.obj members)).toOption ∧
      (ofToml text).toOption = some ⟨some true, some false, none⟩ := by
  intro list mixed text members
  obtain ⟨-, hget, hleast, horder, htoml⟩ := just_flags_of_known_fields_make_a_layer
  have hlist : ofJson list = .ok ⟨none, some false, none⟩ := by rfl
  have hmixed : ¬ (Json.obj mixed).IsLayer := fun h => by
    simpa [Json.isFlag] using (h "hover" (.int 3) rfl).2
  have hperm : mixed.Perm mixed.reverse := (List.reverse_perm mixed).symm
  have hkeys : (mixed.map (·.1)).Nodup := by decide
  refine ⟨⟨hlist, hget list _ hlist⟩, ⟨hmixed, hleast mixed hmixed⟩,
    ⟨hperm, hkeys, horder mixed _ hperm hkeys⟩, ?_⟩
  have hflags : (Toml.parse? text).map (·.map fun entry => (entry.1.name, entry.2.2.flag?)) =
      some [("hover", some false), ("snippets", some true)] := by decide +kernel
  obtain ⟨entries, hparse, hentries⟩ := Option.map_eq_some_iff.mp hflags
  have hmirrored : entries.MirroredBy members := by
    obtain ⟨⟨first, _, hover⟩, _, rfl, hhover, hrest⟩ := List.map_eq_cons_iff.mp hentries
    obtain ⟨⟨second, _, snippets⟩, _, rfl, hsnippets, hnil⟩ := List.map_eq_cons_iff.mp hrest
    obtain rfl := List.map_eq_nil_iff.mp hnil
    simp only [Prod.mk.injEq] at hhover hsnippets
    intro name
    simp only [Toml.Entries.get?_eq_lookup, List.map_cons, List.map_nil, Json.lookup_member,
      hhover.1, hsnippets.1, members]
    by_cases hname : name = "hover"
    · subst hname
      exact .some (by simp [Toml.Node.MirroredBy, hhover.2])
    · rw [if_neg hname, if_neg hname]
      split
      · exact .some (by simp [Toml.Node.MirroredBy, hsnippets.2])
      · exact .none
  refine ⟨entries, hparse, hmirrored, (htoml text entries hparse).2 members hmirrored, ?_⟩
  decide +kernel

end Layer

end DelugeAssist
