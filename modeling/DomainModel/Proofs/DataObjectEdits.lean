import DomainModel.Proofs.ProjectSound
import DomainModel.Proofs.ProjectEdits

/-! Adding a data object. The rule for data objects compares the new name with those of the other data
objects only, since entities have names of their own. Mappers name both kinds, and under a shared name
they mean the data object. So an accepted data object may step in front of an entity that some mapper
leads to, and the rows of that mapper then speak of other fields. The project stays valid exactly when
the rows of each such mapper fit the fields of the data object as well. -/

namespace DomainModel.Rule

open Text (Alike trim)

/-- The project with one more data object. -/
def addDataObject (project : Project) (object : DataObject) : Project :=
  { project with dataObjects := project.dataObjects ++ [object] }

section Lookups
variable {project : Project} {object : DataObject}

theorem dataObject?_eq_none_of_fresh (hfresh : ∀ other ∈ project.dataObjects, ¬ Alike other.name object.name)
    {name : String} (hname : Text.equalIgnoringCase object.name name = true) : project.dataObject? name = none := by
  rw [Project.dataObject?, List.find?_eq_none]
  intro other hother hothername
  have hsame := Text.equalIgnoringCase_trans hothername (Text.equalIgnoringCase_symm hname)
  exact hfresh other hother (Text.equalIgnoringCase_trim hsame)

/-- Under its own name the new data object comes first, whatever the name meant before. -/
theorem fieldsOf?_addDataObject (hfresh : ∀ other ∈ project.dataObjects, ¬ Alike other.name object.name)
    (name : String) :
    (addDataObject project object).fieldsOf? name =
      if Text.equalIgnoringCase object.name name = true then some object.fields else project.fieldsOf? name := by
  have hobject : (addDataObject project object).dataObject? name =
      (project.dataObject? name).or (if Text.equalIgnoringCase object.name name = true then some object else none) := by
    rw [Project.dataObject?, addDataObject, List.find?_append, List.find?_singleton]
    rfl
  have hentity : (addDataObject project object).entity? name = project.entity? name := rfl
  rw [Project.fieldsOf?, hobject, hentity]
  by_cases hname : Text.equalIgnoringCase object.name name = true
  · rw [dataObject?_eq_none_of_fresh hfresh hname, if_pos hname, if_pos hname]
    rfl
  · rw [if_neg hname, if_neg hname, Option.or_none]
    rfl

/-- What the name of the new data object led to before was an entity. -/
theorem exists_entity_alike (hfresh : ∀ other ∈ project.dataObjects, ¬ Alike other.name object.name) {name : String}
    (hname : Text.equalIgnoringCase object.name name = true) {fields : List Field}
    (hfields : project.fieldsOf? name = some fields) : ∃ entity ∈ project.entities, Alike entity.name object.name := by
  rw [Project.fieldsOf?, dataObject?_eq_none_of_fresh hfresh hname] at hfields
  obtain ⟨entity, hentity, -⟩ := Option.map_eq_some_iff.1 hfields
  obtain ⟨hmem, hentityname⟩ := entity?_eq_some hentity
  have hsame := Text.equalIgnoringCase_trans hentityname (Text.equalIgnoringCase_symm hname)
  exact ⟨entity, hmem, Text.equalIgnoringCase_trim hsame⟩

end Lookups

/-- The rows of a mapper fit a data object at each end that bears its name. -/
structure FitsInPlace (project : Project) (object : DataObject) (mapper : Mapper) : Prop where
  source : Text.equalIgnoringCase object.name (trim mapper.fromModel) = true →
    ∀ toFields, project.fieldsOf? (trim mapper.toModel) = some toFields →
      RowsFit object.fields toFields mapper.mappings
  target : Text.equalIgnoringCase object.name (trim mapper.toModel) = true →
    ∀ fromFields, project.fieldsOf? (trim mapper.fromModel) = some fromFields →
      RowsFit fromFields object.fields mapper.mappings

/-- A sound mapper stays sound exactly when its rows fit the data object where it steps in. The two ends of
a mapper have different names, so it steps in at one end at most. -/
theorem SoundMapper.addDataObject_iff {project : Project} {object : DataObject} {mapper : Mapper}
    (hmapper : SoundMapper project mapper)
    (hfresh : ∀ other ∈ project.dataObjects, ¬ Alike other.name object.name) :
    SoundMapper (addDataObject project object) mapper ↔ FitsInPlace project object mapper := by
  obtain ⟨fromFields, toFields, hfrom, hto, hdifferent, hrows⟩ := hmapper
  rw [endpointFields?_eq_some_iff] at hfrom hto
  have hone : Text.equalIgnoringCase object.name (trim mapper.fromModel) = true →
      ¬ Text.equalIgnoringCase object.name (trim mapper.toModel) = true :=
    fun hsource htarget => hdifferent (Text.equalIgnoringCase_trans (Text.equalIgnoringCase_symm hsource) htarget)
  have hshape : SoundMapper (addDataObject project object) mapper ↔
      ∃ newFrom newTo, (addDataObject project object).fieldsOf? (trim mapper.fromModel) = some newFrom ∧
        (addDataObject project object).fieldsOf? (trim mapper.toModel) = some newTo ∧
        RowsFit newFrom newTo mapper.mappings := by
    simp only [SoundMapper, endpointFields?_eq_some_iff]
    constructor
    · rintro ⟨newFrom, newTo, hnewFrom, hnewTo, -, hfit⟩
      exact ⟨newFrom, newTo, hnewFrom.2, hnewTo.2, hfit⟩
    · rintro ⟨newFrom, newTo, hnewFrom, hnewTo, hfit⟩
      exact ⟨newFrom, newTo, ⟨hfrom.1, hnewFrom⟩, ⟨hto.1, hnewTo⟩, hdifferent, hfit⟩
  rw [hshape]
  simp only [fieldsOf?_addDataObject hfresh, hfrom.2, hto.2]
  -- the fields change at the end that bears the name, and at the other one they are those of before
  by_cases hsource : Text.equalIgnoringCase object.name (trim mapper.fromModel) = true
  · have htarget := hone hsource
    simp only [if_pos hsource, if_neg htarget, Option.some.injEq, exists_and_left, exists_eq_left']
    refine ⟨fun hfit => ⟨fun _ fields hfields => ?_, fun hnamed => absurd hnamed htarget⟩, fun hfit => ?_⟩
    · rwa [← Option.some.inj (hto.2.symm.trans hfields)]
    · exact hfit.source hsource toFields hto.2
  · by_cases htarget : Text.equalIgnoringCase object.name (trim mapper.toModel) = true
    · simp only [if_neg hsource, if_pos htarget, Option.some.injEq, exists_and_left, exists_eq_left']
      refine ⟨fun hfit => ⟨fun hnamed => absurd hnamed hsource, fun _ fields hfields => ?_⟩, fun hfit => ?_⟩
      · rwa [← Option.some.inj (hfrom.2.symm.trans hfields)]
      · exact hfit.target htarget fromFields hfrom.2
    · simp only [if_neg hsource, if_neg htarget, Option.some.injEq, exists_and_left, exists_eq_left']
      exact ⟨fun _ => ⟨fun hnamed => absurd hnamed hsource, fun hnamed => absurd hnamed htarget⟩, fun _ => hrows⟩

theorem SoundProject.addDataObject_iff {project : Project} {allowSelfReference : Bool}
    (h : SoundProject project allowSelfReference) {object : DataObject}
    (hobject : ErrorFree (dataObjectIssues object project none)) :
    SoundProject (addDataObject project object) allowSelfReference ↔
      ∀ mapper ∈ project.mappers, FitsInPlace project object mapper := by
  obtain ⟨hname, hsound⟩ := errorFree_dataObjectIssues_iff.1 hobject
  have hfresh : ∀ other ∈ project.dataObjects, ¬ Alike other.name object.name := by
    simpa [otherNames] using hname.2
  constructor
  · intro hafter mapper hmapper
    exact ((h.mappers mapper hmapper).addDataObject_iff hfresh).1 (hafter.mappers mapper hmapper)
  · intro hfits
    have hnames := (namesFit_append_iff h.dataObjectNames object.name).2 hname
    exact { h with
      dataObjectNames := by simpa [addDataObject] using hnames
      dataObjects := by
        intro other hother
        rcases List.mem_append.1 hother with hold | hnew
        · exact h.dataObjects other hold
        · rwa [List.mem_singleton.1 hnew]
      relations := h.relations
      mappers := fun mapper hmapper => ((h.mappers mapper hmapper).addDataObject_iff hfresh).2 (hfits mapper hmapper) }

/-- A login form under the name of an entity of the shop, from which a mapper leads away. -/
def loginForm : DataObject where
  name := "Customer"
  direction := .request
  fields := [{ name := "login", typeName := "String" }]

/-- An accepted data object can make a valid project invalid. -/
theorem not_valid_addDataObject :
    ¬ ∀ (project : Project) (allowSelfReference : Bool) (object : DataObject),
      (validate project allowSelfReference).isOk = true →
      (Report.ofIssues (dataObjectIssues object project none)).isOk = true →
      (validate (addDataObject project object) allowSelfReference).isOk = true := by
  intro h
  have hobject : (Report.ofIssues (dataObjectIssues loginForm shop none)).isOk = true := by decide +kernel
  have hafter : (validate (addDataObject shop loginForm) false).isOk = false := by decide +kernel
  rw [h shop false loginForm isOk_validate_shop hobject] at hafter
  exact Bool.noConfusion hafter

/-- A valid project stays valid with an accepted data object exactly when the rows of the mappers that
name it fit it, and always when no entity has that name. -/
theorem valid_addDataObject_iff {project : Project} {allowSelfReference : Bool} {object : DataObject}
    (h : (validate project allowSelfReference).isOk = true)
    (hobject : (Report.ofIssues (dataObjectIssues object project none)).isOk = true) :
    ((validate (addDataObject project object) allowSelfReference).isOk = true ↔
      ∀ mapper ∈ project.mappers, FitsInPlace project object mapper) ∧
    ((∀ entity ∈ project.entities, ¬ Alike entity.name object.name) →
      (validate (addDataObject project object) allowSelfReference).isOk = true) := by
  have hsound := isOk_validate_iff.1 h
  have hfree := Report.isOk_ofIssues.1 hobject
  have hiff := hsound.addDataObject_iff hfree
  have hfresh : ∀ other ∈ project.dataObjects, ¬ Alike other.name object.name := by
    simpa [otherNames] using (errorFree_dataObjectIssues_iff.1 hfree).1.2
  rw [isOk_validate_iff]
  refine ⟨hiff, fun hapart => hiff.2 fun mapper hmapper => ?_⟩
  obtain ⟨fromFields, toFields, hfrom, hto, -, -⟩ := hsound.mappers mapper hmapper
  rw [endpointFields?_eq_some_iff] at hfrom hto
  constructor
  · intro hname
    obtain ⟨entity, hentity, halike⟩ := exists_entity_alike hfresh hname hfrom.2
    exact absurd halike (hapart entity hentity)
  · intro hname
    obtain ⟨entity, hentity, halike⟩ := exists_entity_alike hfresh hname hto.2
    exact absurd halike (hapart entity hentity)

/-- A view of customers under the name of the entity, with fields for the rows of the mapper. -/
def customerForm : DataObject where
  name := "Customer"
  direction := .response
  fields := [{ name := "ID", typeName := "Integer" }, { name := "email", typeName := "String" }]

theorem valid_shop_customerForm :
    (validate shop false).isOk = true ∧
    (Report.ofIssues (dataObjectIssues customerForm shop none)).isOk = true ∧
    ((validate (addDataObject shop customerForm) false).isOk = true ↔
      ∀ mapper ∈ shop.mappers, FitsInPlace shop customerForm mapper) := by
  have hobject : (Report.ofIssues (dataObjectIssues customerForm shop none)).isOk = true := by decide +kernel
  exact ⟨isOk_validate_shop, hobject, (valid_addDataObject_iff isOk_validate_shop hobject).1⟩

end DomainModel.Rule
