-- How the settings are resolved. A source is missing, unfit, or gives a layer; each field is taken
-- from the highest layer that sets it, and each source that is there is told of once.

import DelugeAssist.Settings.Load
import Mathlib.Data.List.Induction

namespace DelugeAssist

/-! ## Fields -/

/-- A field of the settings. -/
inductive Settings.Field where
  | snippets
  | hover
  | genericCompletions
deriving DecidableEq, Repr

/-- What a layer sets a field to, if it sets it. -/
def Layer.get (layer : Layer) : Settings.Field → Option Bool
  | .snippets => layer.snippets
  | .hover => layer.hover
  | .genericCompletions => layer.genericCompletions

def Settings.get (settings : Settings) : Field → Bool
  | .snippets => settings.snippets
  | .hover => settings.hover
  | .genericCompletions => settings.genericCompletions

namespace Layer

@[simp] theorem get_onto (upper lower : Layer) (field : Settings.Field) :
    (upper.onto lower).get field = (upper.get field).or (lower.get field) := by
  cases field <;> rfl

@[simp] theorem get_defaults (field : Settings.Field) : defaults.get field = some true := by
  cases field <;> rfl

theorem get_merge (lower upper : Option Layer) (field : Settings.Field) :
    (merge lower upper).bind (·.get field) =
      (upper.bind (·.get field)).or (lower.bind (·.get field)) := by
  cases lower <;> cases upper <;> simp [merge]

theorem onto_assoc (upper middle lower : Layer) :
    (upper.onto middle).onto lower = upper.onto (middle.onto lower) := by
  simp only [onto, Option.or_assoc]

theorem merge_assoc (lower middle upper : Option Layer) :
    merge (merge lower middle) upper = merge lower (merge middle upper) := by
  cases lower <;> cases middle <;> cases upper <;> simp [merge, onto_assoc]

/-- Layers laid one after another onto what stands below them come to all of them laid onto it. -/
theorem foldl_merge (below : Option Layer) (layers : List (Option Layer)) :
    layers.foldl merge below = merge below (mergeAll layers) := by
  induction layers generalizing below with
  | nil => simp [mergeAll]
  | cons layer rest ih =>
    rw [mergeAll, List.foldl_cons, List.foldl_cons, ih, ih, none_merge, merge_assoc]

theorem mergeAll_append (lower upper : List (Option Layer)) :
    mergeAll (lower ++ upper) = merge (mergeAll lower) (mergeAll upper) := by
  rw [mergeAll, List.foldl_append, ← mergeAll, foldl_merge]

@[simp] theorem mergeAll_singleton (layer : Option Layer) : mergeAll [layer] = layer :=
  none_merge layer

/-- A field of merged layers is that of the highest layer that sets it. -/
theorem get_mergeAll (layers : List (Option Layer)) (field : Settings.Field) :
    (mergeAll layers).bind (·.get field) =
      layers.reverse.findSome? fun layer => layer.bind (·.get field) := by
  induction layers using List.reverseRecOn with
  | nil => rfl
  | append_singleton layers upper ih =>
    rw [mergeAll_append, mergeAll_singleton, get_merge, ih, List.reverse_append,
      List.reverse_singleton, List.singleton_append, List.findSome?_cons]
    cases upper.bind (·.get field) <;> rfl

theorem get_resolveOr (layer : Option Layer) (field : Settings.Field) :
    (resolveOr layer).get field = (layer.bind (·.get field)).getD true := by
  cases layer <;> cases field <;> rfl

end Layer

namespace Settings

theorem ext_get {first second : Settings} (h : ∀ field, first.get field = second.get field) :
    first = second := by
  obtain ⟨s, v, g⟩ := first
  obtain ⟨s', v', g'⟩ := second
  rw [mk.injEq]
  exact ⟨h .snippets, h .hover, h .genericCompletions⟩

/-! ## What is found of a source -/

/-- What the loading finds of a source. -/
inductive Finding where
  | missing
  /-- There is something, and it is no layer. -/
  | unfit
  | fit (layer : Layer)
deriving DecidableEq, Repr

namespace Finding

/-- A source that is there, read as a layer. -/
def decoded {ε : Type} : Except ε Layer → Finding
  | .ok layer => .fit layer
  | .error _ => .unfit

/-- A settings file. -/
def ofFile : FileState → Finding
  | .absent => .missing
  | .unreadable _ => .unfit
  | .content octets =>
    match Utf8.decode? octets with
    | none => .unfit
    | some text => decoded (Layer.ofToml text)

/-- The file of the user, where there is a path for one. -/
def ofUser (files : Files) : Option String → Finding
  | none => .missing
  | some path => ofFile (files path)

/-- The file of the project, where there is a project. -/
def ofProject (files : Files) : Option String → Finding
  | none => .missing
  | some root => ofFile (files (Layer.projectPath root))

/-- What the editor sent. Null counts as nothing, and an object stands for what it holds under
the name of the settings, where it has that. -/
def ofSent : Option (Layer.Channel × Json) → Finding
  | none => .missing
  | some (_, .null) => .missing
  | some (_, .obj members) => decoded (Layer.ofJson ((members.lookup "deluge").getD (.obj members)))
  | some (_, value) => decoded (Layer.ofJson value)

/-- The layer that a source gives. -/
def layer? : Finding → Option Layer
  | .fit layer => some layer
  | _ => none

/-- The level of the event that a source gives. -/
def level? : Finding → Option EventLevel
  | .missing => none
  | .unfit => some .warning
  | .fit _ => some .info

end Finding

/-- A part holds the layer of a finding, and one event of its level. -/
def Part.Tells (part : Part) (finding : Finding) : Prop :=
  part.layer = finding.layer? ∧ part.event.map (·.level) = finding.level?

/-! ## Each part against its source -/

/-- What the reading of a settings file finds. -/
def Finding.ofReading {ε : Type} : Except ε (Option Layer) → Finding
  | .ok none => .missing
  | .ok (some layer) => .fit layer
  | .error _ => .unfit

/-- The two settings files are read alike, whatever is said of one that cannot be read or does not
fit. -/
theorem ofReading_file {ε : Type} (state : FileState) (unreadable : String → ε)
    (unfit : Text → Toml.DocumentError → ε) :
    Finding.ofReading
      (match state with
      | .absent => .ok none
      | state =>
        match state.text with
        | .error reason => .error (unreadable reason)
        | .ok text =>
          match Layer.ofToml text with
          | .error problem => .error (unfit text problem)
          | .ok layer => .ok (some layer)) = Finding.ofFile state := by
  rcases state with _ | reason | octets
  · rfl
  · rfl
  · simp only [FileState.text, Finding.ofFile]
    rcases Utf8.decode? octets with _ | text
    · rfl
    · simp only
      rcases Layer.ofToml text with problem | layer <;> rfl

theorem ofReading_ofUserFile (files : Files) (path : Option String) :
    Finding.ofReading (Layer.ofUserFile files path) = Finding.ofUser files path := by
  rcases path with _ | path
  · rfl
  · exact ofReading_file (files path) _ _

theorem ofReading_ofProjectFile (files : Files) (root : String) :
    Finding.ofReading (Layer.ofProjectFile files root) = Finding.ofProject files (some root) :=
  ofReading_file (files (Layer.projectPath root)) _ _

theorem userPart_tells (files : Files) (path : Option String) :
    (userPart files path).Tells (.ofUser files path) := by
  rw [← ofReading_ofUserFile]
  unfold userPart
  rcases Layer.ofUserFile files path with error | _ | layer
  · exact ⟨rfl, rfl⟩
  · exact ⟨rfl, rfl⟩
  · exact ⟨rfl, rfl⟩

theorem projectPart_tells (files : Files) (root : Option String) :
    (projectPart files root).Tells (.ofProject files root) := by
  rcases root with _ | root
  · exact ⟨rfl, rfl⟩
  · rw [← ofReading_ofProjectFile]
    simp only [projectPart]
    rcases Layer.ofProjectFile files root with error | _ | layer
    · exact ⟨rfl, rfl⟩
    · exact ⟨rfl, rfl⟩
    · exact ⟨rfl, rfl⟩

theorem ofSent_of_section {value : Json} (channel : Layer.Channel) :
    Finding.ofSent (some (channel, value)) =
      match Layer.section? value with
      | none => .missing
      | some inner => .decoded (Layer.ofJson inner) := by
  cases value <;> rfl

theorem sentPart_tells (sent : Option (Layer.Channel × Json)) :
    (sentPart sent).Tells (.ofSent sent) := by
  rcases sent with _ | ⟨channel, value⟩
  · exact ⟨rfl, rfl⟩
  · rw [ofSent_of_section]
    simp only [sentPart]
    rcases Layer.section? value with _ | inner
    · exact ⟨rfl, rfl⟩
    · simp only
      rcases Layer.ofJson inner with mismatch | layer
      · exact ⟨rfl, rfl⟩
      · exact ⟨rfl, rfl⟩

/-! ## The outcome -/

/-- A field is that of the highest part with a layer that sets it, and on where there is none. -/
theorem get_load (files : Files) (userPath root : Option String)
    (sent : Option (Layer.Channel × Json)) (field : Field) :
    (load files userPath root sent).settings.get field =
      ([Finding.ofSent sent, .ofProject files root, .ofUser files userPath].findSome?
        fun finding => finding.layer?.bind (·.get field)).getD true := by
  simp only [load, combine, Layer.get_resolveOr, Layer.get_mergeAll, List.map_cons, List.map_nil,
    (userPart_tells files userPath).1, (projectPart_tells files root).1, (sentPart_tells sent).1]
  rcases hs : (Finding.ofSent sent).layer?.bind (·.get field) with _ | value
  · rcases hp : (Finding.ofProject files root).layer?.bind (·.get field) with _ | value
    · rcases hu : (Finding.ofUser files userPath).layer?.bind (·.get field) with _ | value
      · simp [hs, hp, hu]
      · simp [hs, hp, hu]
    · simp [hs, hp]
  · simp [hs]

theorem events_load (files : Files) (userPath root : Option String)
    (sent : Option (Layer.Channel × Json)) :
    (load files userPath root sent).events =
      (userPart files userPath).event.toList ++ (projectPart files root).event.toList ++
        (sentPart sent).event.toList := by
  simp only [load, combine, List.filterMap_cons, List.filterMap_nil]
  rcases (userPart files userPath).event with _ | _ <;>
    rcases (projectPart files root).event with _ | _ <;>
    rcases (sentPart sent).event with _ | _ <;> rfl

theorem settings_load_congr {files files' : Files} {userPath userPath' root root' : Option String}
    {sent sent' : Option (Layer.Channel × Json)}
    (hu : (Finding.ofUser files userPath).layer? = (Finding.ofUser files' userPath').layer?)
    (hp : (Finding.ofProject files root).layer? = (Finding.ofProject files' root').layer?)
    (hs : (Finding.ofSent sent).layer? = (Finding.ofSent sent').layer?) :
    (load files userPath root sent).settings = (load files' userPath' root' sent').settings := by
  apply ext_get
  intro field
  simp only [get_load, List.findSome?_cons, hu, hp, hs]

/-- Each field is taken from the highest source that is there, fits as a whole and sets it, and is
on where there is none. The events are those of the user, the project and the editor, in this order:
one for each source that is there, and a warning just if that source does not fit. A source that
does not fit sets nothing, and takes nothing from the others: the settings are those without it. -/
theorem each_field_comes_from_the_highest_source_that_sets_it (files : Files)
    (userPath root : Option String) (sent : Option (Layer.Channel × Json)) :
    let user := Finding.ofUser files userPath
    let project := Finding.ofProject files root
    let editor := Finding.ofSent sent
    let outcome := load files userPath root sent
    (∀ field, outcome.settings.get field =
      ([editor, project, user].findSome?
        fun finding => finding.layer?.bind (·.get field)).getD true) ∧
    (outcome.events =
      (userPart files userPath).event.toList ++ (projectPart files root).event.toList ++
        (sentPart sent).event.toList ∧
      (userPart files userPath).event.map (·.level) = user.level? ∧
      (projectPart files root).event.map (·.level) = project.level? ∧
      (sentPart sent).event.map (·.level) = editor.level?) ∧
    (user = .unfit → outcome.settings = (load files none root sent).settings) ∧
    (project = .unfit → outcome.settings = (load files userPath none sent).settings) ∧
    (editor = .unfit → outcome.settings = (load files userPath root none).settings) := by
  intro user project editor outcome
  refine ⟨get_load files userPath root sent, ⟨events_load files userPath root sent, ?_⟩, ?_, ?_, ?_⟩
  · exact ⟨(userPart_tells files userPath).2, (projectPart_tells files root).2,
      (sentPart_tells sent).2⟩
  · intro hunfit
    have hnone : user.layer? = none := congrArg Finding.layer? hunfit
    exact settings_load_congr hnone rfl rfl
  · intro hunfit
    have hnone : project.layer? = none := congrArg Finding.layer? hunfit
    exact settings_load_congr rfl hnone rfl
  · intro hunfit
    have hnone : editor.layer? = none := congrArg Finding.layer? hunfit
    exact settings_load_congr rfl rfl hnone

/-- A file of the project with one field that fits and one that does not sets neither, and the other
sources are taken as if it were not there. -/
theorem an_unfit_project_file_sets_no_field :
    let files : Files := fun path =>
      if path = "/u" then .content (Utf8.encode "snippets = false".toList)
      else .content (Utf8.encode "snippets = true\nhover = 1".toList)
    let sent := (Layer.Channel.clientConfiguration, Json.obj [("genericCompletions", .bool false)])
    let outcome := load files (some "/u") (some "/w") (some sent)
    outcome.settings = (load files (some "/u") none (some sent)).settings ∧
      outcome.settings = ⟨false, true, false⟩ ∧
      outcome.events.map (·.level) = [.info, .warning, .info] := by
  intro files sent outcome
  have hlaw := each_field_comes_from_the_highest_source_that_sets_it files (some "/u") (some "/w")
    (some sent)
  refine ⟨hlaw.2.2.2.1 ?_, ?_, ?_⟩
  · decide +kernel
  · decide +kernel
  · decide +kernel

end Settings

end DelugeAssist
