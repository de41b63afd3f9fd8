-- Settings that the editor sends under their name. They mean what they mean when they are sent
-- bare, but for null: sent bare it is no settings at all, and under the name it is taken for
-- settings that do not fit, so there is a warning.

import DelugeAssist.Proofs.Settings.Resolution

namespace DelugeAssist

namespace Layer

theorem section?_of_member {value inner : Json}
    (h : value.member? "deluge" = some inner) : section? value = some inner := by
  cases value with
  | obj members =>
    have hlookup : members.lookup "deluge" = some inner := h
    rw [section?, hlookup, Option.getD_some]
  | _ => cases h

theorem section?_of_bare {value : Json} (h : value.member? "deluge" = none)
    (hnull : value ≠ .null) : section? value = some value := by
  cases value with
  | null => exact absurd rfl hnull
  | obj members =>
    have hlookup : members.lookup "deluge" = none := h
    rw [section?, hlookup, Option.getD_none]
  | _ => rfl

end Layer

namespace Settings

/-- The warning of a null that stands under the name of the settings. -/
def nullWarning (channel : Layer.Channel) : Event :=
  ⟨.warning, "Failed to parse " ++ channel.description ++
    ": invalid type: null, expected struct DelugeSettings"⟩

/-- The section of a null is null itself, which is read as a layer and does not fit. -/
theorem event_section_null (channel : Layer.Channel) :
    (sentPart (some (channel, .obj [("deluge", .null)]))).event = some (nullWarning channel) := by
  cases channel <;> decide +kernel

variable (files : Files) (userPath root : Option String) (channel : Layer.Channel)

/-- Of what the editor sends only the section counts. -/
theorem load_congr_of_section? {value value' : Json}
    (h : Layer.section? value = Layer.section? value') :
    load files userPath root (some (channel, value)) =
      load files userPath root (some (channel, value')) := by
  simp only [load, sentPart, h]

/-- A null under the name of the settings sets nothing, and is told of. -/
theorem load_section_null :
    load files userPath root (some (channel, .obj [("deluge", .null)])) =
      ⟨(load files userPath root (some (channel, .null))).settings,
        (load files userPath root (some (channel, .null))).events ++ [nullWarning channel]⟩ := by
  rw [Outcome.mk.injEq]
  constructor
  · exact settings_load_congr rfl rfl rfl
  · rw [events_load, events_load, event_section_null]
    simp [sentPart, Layer.section?]

/-- Settings under their name bring the same as bare ones, in every field and every event, unless
they are null: then the fields are the same, and there is one warning more. -/
theorem a_section_brings_what_its_value_brings_unless_null {value : Json}
    (hbare : value.member? "deluge" = none) :
    let bare := load files userPath root (some (channel, value))
    let sectioned := load files userPath root (some (channel, .obj [("deluge", value)]))
    sectioned.settings = bare.settings ∧
    (sectioned = bare ↔ value ≠ .null) ∧
    (value = .null → sectioned.events = bare.events ++ [nullWarning channel]) := by
  intro bare sectioned
  by_cases hnull : value = .null
  · subst hnull
    have hsectioned : sectioned = ⟨bare.settings, bare.events ++ [nullWarning channel]⟩ :=
      load_section_null files userPath root channel
    have hevents : sectioned.events = bare.events ++ [nullWarning channel] := by rw [hsectioned]
    refine ⟨by rw [hsectioned], iff_of_false ?_ (not_not_intro rfl), fun _ => hevents⟩
    intro hsame
    rw [hsame, List.self_eq_append_right] at hevents
    cases hevents
  · have hsection : Layer.section? (.obj [("deluge", value)]) = Layer.section? value := by
      rw [Layer.section?_of_bare hbare hnull]
      exact Layer.section?_of_member rfl
    have hsame : sectioned = bare := load_congr_of_section? files userPath root channel hsection
    exact ⟨congrArg Outcome.settings hsame, iff_of_true hsame hnull, fun h => absurd h hnull⟩

/-- A section that does not fit over the file of a user, and a null one: of the one the warnings are
the same, and of the other there is one only under the name. -/
theorem a_null_section_over_a_user_file_warns_once_more :
    let files : Files := fun _ => .content (Utf8.encode "hover = false".toList)
    let load := fun value =>
      Settings.load files (some "/u") none (some (.clientConfiguration, value))
    let unfit := Json.obj [("hover", .str "no")]
    load (.obj [("deluge", unfit)]) = load unfit ∧
    (load unfit).events.map (·.level) = [.info, .warning] ∧
    (load (.obj [("deluge", .null)])).settings = (load .null).settings ∧
    (load .null).settings = ⟨true, false, true⟩ ∧
    (load (.obj [("deluge", .null)])).events =
      (load .null).events ++ [nullWarning .clientConfiguration] := by
  intro files load unfit
  have hunfit := a_section_brings_what_its_value_brings_unless_null files (some "/u") none
    .clientConfiguration (show unfit.member? "deluge" = none by decide)
  have hnull := a_section_brings_what_its_value_brings_unless_null files (some "/u") none
    .clientConfiguration (show Json.null.member? "deluge" = none by decide)
  refine ⟨hunfit.2.1.mpr Json.noConfusion, ?_, hnull.1, ?_, hnull.2.2 rfl⟩
  · decide +kernel
  · decide +kernel

/-- With no settings files, a bare null brings no event, and the same null under the name one. -/
theorem a_section_of_null_is_told_of_and_a_bare_null_is_not :
    let load := fun value =>
      Settings.load (fun _ => .absent) none none (some (.clientConfiguration, value))
    Json.null.member? "deluge" = none ∧
    load (.obj [("deluge", .null)]) ≠ load .null ∧
    (load .null).events = [] ∧
    (load (.obj [("deluge", .null)])).events = [nullWarning .clientConfiguration] := by
  intro load
  refine ⟨rfl, ?_, ?_, ?_⟩
  · decide +kernel
  · decide +kernel
  · decide +kernel

end Settings

end DelugeAssist
