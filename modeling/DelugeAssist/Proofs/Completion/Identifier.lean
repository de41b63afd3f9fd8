-- What an identifier behind `zoho.` leads to. The endings pick the same service as the table of
-- identifiers does, whatever stands before them; its methods are offered, and the text beside each
-- of them shows the whole call under that identifier.

import DelugeAssist.Proofs.Completion.Trigger

namespace DelugeAssist

/-! ## The service of an identifier -/

theorem Service.ofIdentifier?_eq_some_iff {identifier : String} {service : Service} :
    ofIdentifier? identifier = some service ↔ service.identifier = identifier := by
  constructor
  · intro h
    simpa using List.find?_some h
  · rintro rfl
    exact ofIdentifier?_identifier service

/-- An identifier behind `zoho.` asks for its service, unless it ends in `zoho` itself. -/
theorem Trigger.ofText_written (before : Text) {identifier : String}
    (hdot : '.' ∉ identifier.toList) :
    ofText (before ++ ("zoho." ++ identifier ++ ".").toList) =
      if "zoho".toList <:+ identifier.toList then .namespaceRoot
      else
        match Service.ofIdentifier? identifier with
        | some service => .serviceScoped service
        | none => .generic := by
  have hleft : before ++ ("zoho." ++ identifier ++ ".").toList =
      before ++ rootEnding ++ identifier.toList ++ ['.'] := by simp [rootEnding]
  have hscoped (service : Service) :
      AskedBy (.serviceScoped service) (before ++ rootEnding ++ identifier.toList ++ ['.']) ↔
        Service.ofIdentifier? identifier = some service := by
    rw [serviceScoped_askedBy_iff, scopedEnding_suffix_iff hdot, String.toList_inj,
      Service.ofIdentifier?_eq_some_iff]
  rw [hleft]
  split
  · rename_i hzoho
    rw [ofText_eq_iff (by decide), namespaceRoot_askedBy_iff, rootEnding_suffix_iff]
    exact hzoho
  · rename_i hzoho
    rcases hservice : Service.ofIdentifier? identifier with _ | service
    · rw [ofText_eq_generic_iff]
      intro trigger hasked
      cases trigger with
      | namespaceRoot =>
        rw [namespaceRoot_askedBy_iff, rootEnding_suffix_iff] at hasked
        exact hzoho hasked
      | serviceScoped service =>
        rw [hscoped, hservice] at hasked
        cases hasked
      | generic => exact not_generic_askedBy hasked
    · rw [ofText_eq_iff (by simp), hscoped, hservice]

/-! ## The items of an identifier -/

/-- An identifier without a dot, between `zoho.` and a dot, asks for the service that the table of
identifiers has for it, whatever stands before it; with none there it asks for the words of the
language, and where it ends in `zoho` itself, for a service. So an identifier in the table leads to
its methods in their order under any options, and the one line of the usage beside each of them
shows the call behind that identifier. -/
theorem an_identifier_leads_to_the_methods_of_its_service (before : Text) (identifier : String) :
    ('.' ∉ identifier.toList →
      Trigger.ofText (before ++ ("zoho." ++ identifier ++ ".").toList) =
        if "zoho".toList <:+ identifier.toList then .namespaceRoot
        else
          match Service.ofIdentifier? identifier with
          | some service => .serviceScoped service
          | none => .generic) ∧
    (Service.ofIdentifier? identifier ≠ none → ∀ options : Completion.Options, ∃ items,
      Completion.items (before ++ ("zoho." ++ identifier ++ ".").toList) options = some items ∧
      items.map (·.label) = (methodsNamed identifier).map (·.name) ∧
      items.map (·.usageLines) = (methodsNamed identifier).map fun method =>
        [("**Usage:** `" ++ "zoho." ++ identifier ++ "." ++ method.name ++ method.parameters ++
          "`").toList]) := by
  refine ⟨Trigger.ofText_written before, ?_⟩
  intro hservice options
  obtain ⟨service, hfound⟩ := Option.ne_none_iff_exists'.mp hservice
  obtain rfl := Service.ofIdentifier?_eq_some_iff.mp hfound
  have htrigger := Trigger.ofText_written before service.dot_notMem_identifier
  rw [if_neg service.not_zoho_suffix_identifier, hfound] at htrigger
  refine ⟨Completion.methodItems service options.snippets, ?_, ?_, ?_⟩
  · rw [Completion.items, htrigger, Completion.ofTrigger]
  · rw [methodsNamed, hfound, Completion.labels_methodItems, Trigger.labels]
  · rw [methodsNamed, hfound, Completion.usageLines_methodItems]
    simp [Method.call]

/-- An identifier in the table behind other text, one that begins as another does, and one that ends
in the word of the namespace. -/
theorem identifiers_lead_to_methods_behind_other_text :
    let before : Text := "é = zoho.crm; ".toList
    '.' ∉ "ai".toList ∧ Service.ofIdentifier? "ai" ≠ none ∧
    Trigger.ofText (before ++ "zoho.ai.".toList) = .serviceScoped .ai ∧
    (∃ items, Completion.items (before ++ "zoho.ai.".toList) {} = some items ∧
      items.map (·.label) = (methodsNamed "ai").map (·.name) ∧
      items[0]?.map (·.usageLines) =
        some ["**Usage:** `zoho.ai.translate(text, target_lang, source_lang)`".toList]) ∧
    '.' ∉ "crmx".toList ∧ Trigger.ofText (before ++ "zoho.crmx.".toList) = .generic ∧
    '.' ∉ "myzoho".toList ∧
    Trigger.ofText (before ++ "zoho.myzoho.".toList) = .namespaceRoot := by
  intro before
  have hdot : '.' ∉ "ai".toList := by decide
  have hservice : Service.ofIdentifier? "ai" ≠ none := by decide
  obtain ⟨htrigger, hitems⟩ := an_identifier_leads_to_the_methods_of_its_service before "ai"
  obtain ⟨items, hanswer, hlabels, hlines⟩ := hitems hservice {}
  have hlonger : '.' ∉ "crmx".toList := by decide
  have hzoho : '.' ∉ "myzoho".toList := by decide
  refine ⟨hdot, hservice, htrigger hdot, ⟨items, hanswer, hlabels, ?_⟩, hlonger, ?_, hzoho, ?_⟩
  · rw [← List.getElem?_map, hlines]
    decide +kernel
  · exact (an_identifier_leads_to_the_methods_of_its_service before "crmx").1 hlonger
  · exact (an_identifier_leads_to_the_methods_of_its_service before "myzoho").1 hzoho

end DelugeAssist
