import DomainModel.Proofs.RuleElements

/-! What it means that a whole project has no errors. The rules look at one element at a time, each with
its own way of leaving the element itself out; together they say that the project is sound: all names
fit, every element is right by itself, no two relations have the same holder, and all ends of relations
and mappers resolve. The converse holds as well, so soundness is the verdict itself, and statements about
whole projects are proved about it. The last theorem spells out what follows for a project without
errors, with the facts that no single rule states: exactly one key, unique names and the coverage of
mappers. -/

namespace DomainModel.Rule

open Text (Alike Distinct trim)

/-- Package coordinates that are right. -/
structure SoundCoordinates (settings : Coordinates) : Prop where
  group : Naming.isGroupId (trim settings.groupId) = true
  artifact : Naming.isArtifactId (trim settings.artifactId) = true

/-- A project in which everything is right. -/
structure SoundProject (project : Project) (allowSelfReference : Bool) : Prop where
  settings : ∀ settings, project.settings = some settings → SoundCoordinates settings
  entityNames : NamesFit (project.entities.map (·.name))
  entities : ∀ entity ∈ project.entities, SoundEntity entity
  dataObjectNames : NamesFit (project.dataObjects.map (·.name))
  dataObjects : ∀ object ∈ project.dataObjects, SoundDataObject object
  relations : ∀ relation ∈ project.relations, SoundRelation project allowSelfReference relation
  holders : project.relations.Pairwise fun a b => ¬ SameHolder a b
  mapperNames : NamesFit (project.mappers.map (·.name))
  mappers : ∀ mapper ∈ project.mappers, SoundMapper project mapper

theorem errorFree_coordinatesIssues_iff {settings : Coordinates} :
    ErrorFree (coordinatesIssues settings) ↔ SoundCoordinates settings := by
  have hshape : SoundCoordinates settings ↔
      Naming.isGroupId (trim settings.groupId) = true ∧ Naming.isArtifactId (trim settings.artifactId) = true :=
    ⟨fun h => ⟨h.1, h.2⟩, fun h => ⟨h.1, h.2⟩⟩
  rw [hshape, coordinatesIssues, ErrorFree.append_iff]
  by_cases hgroup : Naming.isGroupId (trim settings.groupId) = true <;>
    by_cases hartifact : Naming.isArtifactId (trim settings.artifactId) = true <;>
    simp [hgroup, hartifact, Issue.isError]

theorem errorFree_settings_iff {settings : Option Coordinates} :
    ErrorFree ((settings.map coordinatesIssues).getD []) ↔
      ∀ coordinates, settings = some coordinates → SoundCoordinates coordinates := by
  cases settings with
  | none => simp
  | some coordinates => simpa using errorFree_coordinatesIssues_iff

/-- Elements of one kind, each checked as if it were saved under its own name: their names fit and each
of them is right by itself. -/
theorem each_saved_iff {α : Type} {name : α → String} {right : α → Prop} {elements : List α} :
    (∀ (i : Nat) element, elements[i]? = some element →
      (Usable (name element) ∧
        ∀ other ∈ otherNames (elements.map name) (some (name element)), ¬ Alike other (name element)) ∧
      right element) ↔
    NamesFit (elements.map name) ∧ ∀ element ∈ elements, right element := by
  rw [namesFit_iff]
  simp only [List.forall_mem_map]
  constructor
  · intro h
    constructor
    · intro element hmem
      obtain ⟨i, hi⟩ := List.mem_iff_getElem?.1 hmem
      exact (h i element hi).1
    · intro element hmem
      obtain ⟨i, hi⟩ := List.mem_iff_getElem?.1 hmem
      exact (h i element hi).2
  · rintro ⟨hnames, hright⟩ i element hi
    have hmem := List.mem_of_getElem? hi
    exact ⟨hnames element hmem, hright element hmem⟩

/-- Relations, each checked against all others. -/
theorem each_relation_iff {project : Project} {allowSelfReference : Bool} :
    (∀ i relation, project.relations[i]? = some relation →
      SoundRelation project allowSelfReference relation ∧
      ∀ other ∈ otherRelations project (some i), ¬ SameHolder other relation) ↔
    (∀ relation ∈ project.relations, SoundRelation project allowSelfReference relation) ∧
      project.relations.Pairwise fun a b => ¬ SameHolder a b := by
  rw [pairwise_iff_eraseIdx fun _ _ h hsame => h hsame.symm]
  constructor
  · intro h
    refine ⟨fun relation hmem => ?_, fun i relation hi => (h i relation hi).2⟩
    obtain ⟨i, hi⟩ := List.mem_iff_getElem?.1 hmem
    exact (h i relation hi).1
  · rintro ⟨hsound, hholders⟩ i relation hi
    exact ⟨hsound relation (List.mem_of_getElem? hi), hholders i relation hi⟩

theorem isOk_validate_iff {project : Project} {allowSelfReference : Bool} :
    (validate project allowSelfReference).isOk = true ↔ SoundProject project allowSelfReference := by
  rw [validate, Report.isOk_ofIssues]
  simp only [projectIssues, ErrorFree.append_iff, errorFree_settings_iff, ErrorFree.issuesOfEach_iff,
    errorFree_entityIssues_iff, errorFree_dataObjectIssues_iff, errorFree_relationIssues_iff,
    errorFree_mapperIssues_iff, each_saved_iff, each_relation_iff]
  constructor
  · rintro ⟨⟨⟨⟨hsettings, hentities⟩, hobjects⟩, hrelations⟩, hmappers⟩
    exact ⟨hsettings, hentities.1, hentities.2, hobjects.1, hobjects.2, hrelations.1, hrelations.2,
      hmappers.1, hmappers.2⟩
  · intro h
    exact ⟨⟨⟨⟨h.settings, h.entityNames, h.entities⟩, h.dataObjectNames, h.dataObjects⟩, h.relations, h.holders⟩,
      h.mapperNames, h.mappers⟩

/-! ### Consequences -/

/-- Elements with distinct names are told apart by them. -/
theorem eq_of_alike {α : Type} {name : α → String} {elements : List α} (hdistinct : Distinct (elements.map name))
    {a b : α} (ha : a ∈ elements) (hb : b ∈ elements) (h : Alike (name a) (name b)) : a = b :=
  eq_of_pairwise_not (fun _ _ halike => Alike.symm halike) (List.pairwise_map.1 hdistinct) ha hb h

theorem entity?_eq_some {project : Project} {name : String} {entity : Entity} (h : project.entity? name = some entity) :
    entity ∈ project.entities ∧ Text.equalIgnoringCase entity.name name = true := by
  have hname := List.find?_some h
  exact ⟨List.mem_of_find?_eq_some h, hname⟩

theorem findField?_eq_some {fields : List Field} {name : String} {field : Field}
    (h : findField? fields name = some field) : field ∈ fields ∧ Text.equalIgnoringCase field.name name = true := by
  have hname := List.find?_some h
  exact ⟨List.mem_of_find?_eq_some h, hname⟩

/-- The fields that a name of a model leads to belong to a data object or an entity. -/
theorem soundFields_of_fieldsOf? {project : Project} (hentities : ∀ entity ∈ project.entities, SoundEntity entity)
    (hobjects : ∀ object ∈ project.dataObjects, SoundDataObject object) {name : String} {fields : List Field}
    (h : project.fieldsOf? name = some fields) : ∃ owner, SoundFields fields owner := by
  rw [Project.fieldsOf?] at h
  split at h
  · next object hobject =>
      have hmem := List.mem_of_find?_eq_some hobject
      rw [← Option.some.inj h]
      exact ⟨_, (hobjects object hmem).fields⟩
  · obtain ⟨entity, hentity, rfl⟩ := Option.map_eq_some_iff.1 h
    exact ⟨_, (hentities entity (entity?_eq_some hentity).1).fields⟩

theorem SoundProject.fieldsOf {project : Project} {allowSelfReference : Bool}
    (hsound : SoundProject project allowSelfReference) {name : String} {fields : List Field}
    (h : project.fieldsOf? name = some fields) : Distinct (fields.map (·.name)) := by
  obtain ⟨_, hfields⟩ := soundFields_of_fieldsOf? hsound.entities hsound.dataObjects h
  exact hfields.distinct

/-- Every source field of a sound mapper has a row that leads from it to an existing target field of a
compatible type. The row finds a source field by name; as names are distinct, it is the field itself. -/
theorem RowsFit.exists_row {fromFields toFields : List Field} {rows : List FieldMapping}
    (hrows : RowsFit fromFields toFields rows) (hdistinct : Distinct (fromFields.map (·.name))) {field : Field}
    (hfield : field ∈ fromFields) :
    ∃ row ∈ rows, ∃ target ∈ toFields, Text.equalIgnoringCase (trim row.sourceField) field.name = true ∧
      Text.equalIgnoringCase target.name (trim row.targetField) = true ∧
      TypeName.compatible field.typeName target.typeName = true := by
  obtain ⟨text, htext⟩ := Option.isSome_iff_exists.1 (hrows.covered field hfield)
  obtain ⟨row, hrow, hnonblank⟩ := Option.bind_eq_some_iff.1 htext
  have hmem : row ∈ rows := List.mem_of_find?_eq_some hrow
  have hsource := List.find?_some hrow
  have hfits := hrows.each row hmem
  have hne : trim row.targetField ≠ "" := by
    intro hempty
    simp [hempty] at hnonblank
  obtain ⟨target, htarget⟩ := Option.isSome_iff_exists.1 (hfits.target hne)
  have hfound : (findField? fromFields (trim row.sourceField)).isSome = true := by
    rw [findField?, List.find?_isSome]
    exact ⟨field, hfield, Text.equalIgnoringCase_symm hsource⟩
  obtain ⟨source, hsourceField⟩ := Option.isSome_iff_exists.1 hfound
  obtain ⟨hsourceMem, hsourceName⟩ := findField?_eq_some hsourceField
  have hself : source = field :=
    eq_of_alike hdistinct hsourceMem hfield
      (Text.equalIgnoringCase_trim (Text.equalIgnoringCase_trans hsourceName hsource))
  subst hself
  obtain ⟨htargetMem, htargetName⟩ := findField?_eq_some htarget
  exact ⟨row, hmem, target, htargetMem, hsource, htargetName, hfits.types source target hsourceField htarget⟩

/-- What a project without errors guarantees, in the terms of the model and not of the rules. -/
structure Consistent (project : Project) (allowSelfReference : Bool) : Prop where
  /-- Entities, data objects and mappers each have usable names, no two of them alike. -/
  names : ∀ names ∈ [project.entities.map (·.name), project.dataObjects.map (·.name), project.mappers.map (·.name)],
    (∀ name ∈ names, Usable name) ∧ names.Pairwise fun a b => ¬ Alike a b
  key : ∀ entity ∈ project.entities, entity.fields.countP (·.primaryKey) = 1
  fields : ∀ fields ∈ project.entities.map (·.fields) ++ project.dataObjects.map (·.fields),
    fields ≠ [] ∧ (∀ field ∈ fields, SoundField field) ∧ fields.Pairwise fun a b => ¬ Alike a.name b.name
  flags : ∀ entity ∈ project.entities,
    ¬(entity.mappedSuperclass = true ∧ entity.addRestEndpoints = true) ∧
    ¬(entity.mappedSuperclass = true ∧ entity.addCrudOperations = true) ∧
    ¬(entity.addRestEndpoints = true ∧ entity.addCrudOperations = true)
  wrappers : ∀ object ∈ project.dataObjects, ∀ wrapper,
    object.responseWrapper.bind Text.nonBlank? = some wrapper → Naming.isTypeName wrapper = true
  /-- Both ends of a relation are names of entities, different ones where the policy asks for that. -/
  ends : ∀ relation ∈ project.relations,
    (∃ source ∈ project.entities, Text.equalIgnoringCase source.name (trim relation.sourceEntity) = true) ∧
    (∃ target ∈ project.entities, Text.equalIgnoringCase target.name (trim relation.targetEntity) = true) ∧
    (allowSelfReference = false →
      Text.equalIgnoringCase (trim relation.sourceEntity) (trim relation.targetEntity) = false)
  /-- What a relation says of the fields at its ends agrees with the entities found there. -/
  relations : ∀ relation ∈ project.relations, SoundRelation project allowSelfReference relation
  holders : project.relations.Pairwise fun a b =>
    ¬(Alike a.sourceEntity b.sourceEntity ∧ Alike a.sourceFieldName b.sourceFieldName)
  /-- A mapper leads between two models under different names. Its rows name fields of these, and each
  source field has a row to an existing target field of a compatible type. -/
  mappers : ∀ mapper ∈ project.mappers,
    Text.equalIgnoringCase (trim mapper.fromModel) (trim mapper.toModel) = false ∧
    ∃ fromFields toFields, project.fieldsOf? (trim mapper.fromModel) = some fromFields ∧
      project.fieldsOf? (trim mapper.toModel) = some toFields ∧
      (∀ row ∈ mapper.mappings, RowFits fromFields toFields row) ∧
      ∀ field ∈ fromFields, (explicitTarget? mapper.mappings field.name).isSome = true ∧
        ∃ row ∈ mapper.mappings, ∃ target ∈ toFields,
          Text.equalIgnoringCase (trim row.sourceField) field.name = true ∧
          Text.equalIgnoringCase target.name (trim row.targetField) = true ∧
          TypeName.compatible field.typeName target.typeName = true
  settings : ∀ settings, project.settings = some settings →
    Naming.isGroupId (trim settings.groupId) = true ∧ Naming.isArtifactId (trim settings.artifactId) = true

/-- A project in which no rule finds an error is consistent. -/
theorem consistent_of_isOk_validate {project : Project} {allowSelfReference : Bool}
    (h : (validate project allowSelfReference).isOk = true) : Consistent project allowSelfReference := by
  have hsound := isOk_validate_iff.1 h
  constructor
  case names =>
    intro names hnames
    simp only [List.mem_cons, List.not_mem_nil, or_false] at hnames
    rcases hnames with rfl | rfl | rfl
    · exact ⟨hsound.entityNames.usable, hsound.entityNames.distinct⟩
    · exact ⟨hsound.dataObjectNames.usable, hsound.dataObjectNames.distinct⟩
    · exact ⟨hsound.mapperNames.usable, hsound.mapperNames.distinct⟩
  case key =>
    intro entity hentity
    exact (hsound.entities entity hentity).fields.key rfl
  case fields =>
    intro fields hfields
    obtain ⟨owner, hright⟩ : ∃ owner, SoundFields fields owner := by
      rcases List.mem_append.1 hfields with hmem | hmem
      · obtain ⟨entity, hentity, rfl⟩ := List.mem_map.1 hmem
        exact ⟨_, (hsound.entities entity hentity).fields⟩
      · obtain ⟨object, hobject, rfl⟩ := List.mem_map.1 hmem
        exact ⟨_, (hsound.dataObjects object hobject).fields⟩
    exact ⟨hright.nonempty, hright.each, List.pairwise_map.1 hright.distinct⟩
  case flags =>
    intro entity hentity
    have hright := hsound.entities entity hentity
    exact ⟨hright.superclassWithoutEndpoints, hright.superclassWithoutOperations, hright.endpointsWithoutOperations⟩
  case wrappers =>
    intro object hobject
    exact (hsound.dataObjects object hobject).wrapper
  case ends =>
    intro relation hrelation
    obtain ⟨source, target, hsource, htarget, hfits⟩ := hsound.relations relation hrelation
    refine ⟨⟨source, entity?_eq_some hsource⟩, ⟨target, entity?_eq_some htarget⟩, fun hpolicy => ?_⟩
    exact Bool.eq_false_iff.2 (hfits.selfReference hpolicy)
  case relations => exact hsound.relations
  case holders => exact hsound.holders
  case mappers =>
    intro mapper hmapper
    obtain ⟨fromFields, toFields, hfrom, hto, hdifferent, hrows⟩ := hsound.mappers mapper hmapper
    have hfrom := (endpointFields?_eq_some_iff.1 hfrom).2
    have hto := (endpointFields?_eq_some_iff.1 hto).2
    refine ⟨Bool.eq_false_iff.2 hdifferent, fromFields, toFields, hfrom, hto, hrows.each, fun field hfield => ?_⟩
    exact ⟨hrows.covered field hfield, hrows.exists_row (hsound.fieldsOf hfrom) hfield⟩
  case settings =>
    intro settings hsettings
    have hright := hsound.settings settings hsettings
    exact ⟨hright.group, hright.artifact⟩

/-- A small project in which everything is right. -/
def shop : Project where
  settings := some { groupId := "com.example.shop", artifactId := "order-service" }
  entities := [
    { name := "Customer",
      fields := [.syntheticId,
        { name := "email", typeName := "String", maxLength := some 80,
          constraints := [{ name := "Size", value := some "3" }] }] },
    { name := "Purchase", fields := [.syntheticId, { name := "customer", typeName := "Long" }], auditable := true }]
  dataObjects := [
    { name := "CustomerView", direction := .response, responseWrapper := some "Page",
      fields := [{ name := "number", typeName := "long" }, { name := "Email", typeName := "Text" }] }]
  relations := [
    { sourceEntity := "purchase", targetEntity := " Customer", sourceFieldName := "customer",
      relationType := .manyToOne, targetFieldName := some "email" }]
  mappers := [
    { name := "CustomerMapper", fromModel := "Customer", toModel := "customerview",
      mappings := [⟨"id", "number"⟩, ⟨"EMAIL", " email "⟩] }]

theorem isOk_validate_shop : (validate shop false).isOk = true := by decide +kernel

theorem consistent_shop : (validate shop false).isOk = true ∧ Consistent shop false :=
  ⟨isOk_validate_shop, consistent_of_isOk_validate isOk_validate_shop⟩

end DomainModel.Rule
