import DomainModel.Proofs.RuleFields

/-! What the rules for entities, data objects, relations and mappers accept. Each verdict has two parts:
what the element has to be by itself, given the models that its names lead to, and how it has to differ
from the other elements of its kind. Relations and mappers depend on the project only through the models
that their ends resolve to. -/

namespace DomainModel.Rule

open Text (Alike Distinct trim)

/-! ### Entities and data objects -/

/-- An entity that is right by itself, its name apart. -/
structure SoundEntity (entity : Entity) : Prop where
  superclassWithoutEndpoints : ¬(entity.mappedSuperclass = true ∧ entity.addRestEndpoints = true)
  superclassWithoutOperations : ¬(entity.mappedSuperclass = true ∧ entity.addCrudOperations = true)
  endpointsWithoutOperations : ¬(entity.addRestEndpoints = true ∧ entity.addCrudOperations = true)
  fields : SoundFields entity.fields .entity

/-- A data object that is right by itself, its name apart. -/
structure SoundDataObject (object : DataObject) : Prop where
  wrapper : ∀ wrapper, object.responseWrapper.bind Text.nonBlank? = some wrapper → Naming.isTypeName wrapper = true
  fields : SoundFields object.fields .dataObject

theorem errorFree_flagIssues_iff {entity : Entity} :
    ErrorFree (flagIssues entity) ↔
      ¬(entity.mappedSuperclass = true ∧ entity.addRestEndpoints = true) ∧
      ¬(entity.mappedSuperclass = true ∧ entity.addCrudOperations = true) ∧
      ¬(entity.addRestEndpoints = true ∧ entity.addCrudOperations = true) := by
  cases hsuper : entity.mappedSuperclass <;> cases hrest : entity.addRestEndpoints <;>
    cases hcrud : entity.addCrudOperations <;>
    simp [flagIssues, exclusiveFlags, hsuper, hrest, hcrud, Issue.isError]

theorem errorFree_wrapperIssues_iff {object : DataObject} :
    ErrorFree (wrapperIssues object) ↔
      ∀ wrapper, object.responseWrapper.bind Text.nonBlank? = some wrapper → Naming.isTypeName wrapper = true := by
  rw [wrapperIssues]
  cases object.responseWrapper.bind Text.nonBlank? with
  | none => simp
  | some wrapper => by_cases h : Naming.isTypeName wrapper = true <;> simp [h, Issue.isError]

theorem errorFree_entityIssues_iff {entity : Entity} {project : Project} {former : Option String} :
    ErrorFree (entityIssues entity project former) ↔
      (Usable entity.name ∧
        ∀ other ∈ otherNames (project.entities.map (·.name)) former, ¬ Alike other entity.name) ∧
      SoundEntity entity := by
  simp only [entityIssues, ErrorFree.append_iff, errorFree_nameIssues_iff, errorFree_flagIssues_iff,
    errorFree_fieldsIssues_iff]
  constructor
  · rintro ⟨⟨hname, hflags⟩, hfields⟩
    exact ⟨hname, hflags.1, hflags.2.1, hflags.2.2, hfields⟩
  · rintro ⟨hname, hsound⟩
    exact ⟨⟨hname, hsound.1, hsound.2, hsound.3⟩, hsound.fields⟩

theorem errorFree_dataObjectIssues_iff {object : DataObject} {project : Project} {former : Option String} :
    ErrorFree (dataObjectIssues object project former) ↔
      (Usable object.name ∧
        ∀ other ∈ otherNames (project.dataObjects.map (·.name)) former, ¬ Alike other object.name) ∧
      SoundDataObject object := by
  simp only [dataObjectIssues, ErrorFree.append_iff, errorFree_nameIssues_iff, errorFree_wrapperIssues_iff,
    errorFree_fieldsIssues_iff]
  constructor
  · rintro ⟨⟨hname, hwrapper⟩, hfields⟩
    exact ⟨hname, hwrapper, hfields⟩
  · rintro ⟨hname, hsound⟩
    exact ⟨⟨hname, hsound.wrapper⟩, hsound.fields⟩

/-! ### Relations -/

/-- A relation that is right between the entities that its ends name. -/
structure RelationFits (relation : Relation) (allowSelfReference : Bool) (source target : Entity) : Prop where
  selfReference : allowSelfReference = false → ¬ Alike relation.sourceEntity relation.targetEntity
  sourceField : trim relation.sourceFieldName ≠ ""
  sourceLetters : ∀ c ∈ (trim relation.sourceFieldName).toList, c.isAlphanum = true
  targetField : ∀ name, relation.targetFieldName.bind Text.nonBlank? = some name → (target.field? name).isSome = true
  keyType : relation.relationType.isSingleValued = true →
    ∀ existing key, source.field? (trim relation.sourceFieldName) = some existing → target.primaryKey? = some key →
      TypeName.compatible existing.typeName key.typeName = true

/-- A relation whose ends are entities of the project and that is right between them. -/
def SoundRelation (project : Project) (allowSelfReference : Bool) (relation : Relation) : Prop :=
  ∃ source target, project.entity? (trim relation.sourceEntity) = some source ∧
    project.entity? (trim relation.targetEntity) = some target ∧
    RelationFits relation allowSelfReference source target

/-- Two relations that are held by one field of one entity. -/
def SameHolder (a b : Relation) : Prop :=
  Alike a.sourceEntity b.sourceEntity ∧ Alike a.sourceFieldName b.sourceFieldName

theorem SameHolder.symm {a b : Relation} (h : SameHolder a b) : SameHolder b a := ⟨h.1.symm, h.2.symm⟩

theorem errorFree_endIssues_iff {found : Option Entity} {role path name : String} :
    ErrorFree (endIssues found role path name) ↔ ∃ entity, found = some entity := by
  cases found <;> simp [endIssues, Issue.isError]

theorem errorFree_selfReferenceIssues_iff {relation : Relation} {allowSelfReference : Bool} :
    ErrorFree (selfReferenceIssues relation allowSelfReference) ↔
      (allowSelfReference = false → ¬ Alike relation.sourceEntity relation.targetEntity) := by
  rw [selfReferenceIssues, Alike]
  cases allowSelfReference <;>
    cases Text.equalIgnoringCase (trim relation.sourceEntity) (trim relation.targetEntity) <;>
    simp [Issue.isError]

theorem errorFree_sourceFieldIssues_iff {fieldName : String} :
    ErrorFree (sourceFieldIssues fieldName) ↔
      fieldName ≠ "" ∧ ∀ c ∈ fieldName.toList, c.isAlphanum = true := by
  rw [sourceFieldIssues]
  by_cases hempty : fieldName = ""
  · simp [hempty, Issue.isError]
  · have hne : fieldName.isEmpty = false := by simpa using hempty
    cases hall : fieldName.toList.all Char.isAlphanum with
    | true => simpa [hne, hempty] using hall
    | false =>
        have hnot : ¬∀ c ∈ fieldName.toList, c.isAlphanum = true := by
          intro h
          rw [List.all_eq_true.2 h] at hall
          contradiction
        simpa [hne, hempty, Issue.isError] using hnot

/-- A relation of an unknown type is worth a warning only. -/
theorem errorFree_relationTypeIssues (relationType : RelationType) : ErrorFree (relationTypeIssues relationType) := by
  cases h : relationType.isKnown <;> simp [relationTypeIssues, h, Issue.isError]

theorem errorFree_targetFieldIssues_iff {target : Entity} {targetField : Option String} :
    ErrorFree (targetFieldIssues (some target) targetField) ↔
      ∀ name, targetField = some name → (target.field? name).isSome = true := by
  cases targetField with
  | none => simp [targetFieldIssues]
  | some name => cases h : target.field? name <;> simp [targetFieldIssues, h, Issue.isError]

theorem errorFree_keyTypeIssues_iff {relationType : RelationType} {fieldName : String} {source target : Entity}
    (hname : fieldName ≠ "") :
    ErrorFree (keyTypeIssues relationType fieldName (some source) (some target)) ↔
      (relationType.isSingleValued = true →
        ∀ existing key, source.field? fieldName = some existing → target.primaryKey? = some key →
          TypeName.compatible existing.typeName key.typeName = true) := by
  have hne : fieldName.isEmpty = false := by simpa using hname
  unfold keyTypeIssues
  cases hsingle : relationType.isSingleValued with
  | false => simp
  | true =>
      cases hfield : source.field? fieldName with
      | none => simp [hne, hfield]
      | some existing =>
          cases hkey : target.primaryKey? with
          | none => simp [hne, hfield, hkey]
          | some key =>
              by_cases htypes : TypeName.compatible existing.typeName key.typeName = true <;>
                simp [hne, hfield, hkey, htypes, Issue.isError]

theorem errorFree_clashIssues_iff {relation : Relation} {others : List Relation}
    (hname : trim relation.sourceFieldName ≠ "") :
    ErrorFree (clashIssues relation (trim relation.sourceFieldName) others) ↔
      ∀ other ∈ others, ¬ SameHolder other relation := by
  have hne : (trim relation.sourceFieldName).isEmpty = false := by simpa using hname
  have hheld : ∀ other, isHeldBy (trim relation.sourceEntity) (trim relation.sourceFieldName) other = true ↔
      SameHolder other relation := fun other => Bool.and_eq_true_iff
  rw [clashIssues, hne, Bool.not_false, Bool.true_and]
  split
  · next h =>
      obtain ⟨other, hmem, hother⟩ := List.any_eq_true.1 h
      constructor
      · intro hfree
        exact absurd hfree (by simp [Issue.isError])
      · intro hnone
        exact absurd ((hheld other).1 hother) (hnone other hmem)
  · next h =>
      simp only [ErrorFree.nil_iff, true_iff]
      intro other hmem hother
      exact h (List.any_eq_true.2 ⟨other, hmem, (hheld other).2 hother⟩)

theorem errorFree_relationIssues_iff {relation : Relation} {project : Project} {allowSelfReference : Bool}
    {editing : Option Nat} :
    ErrorFree (relationIssues relation project allowSelfReference editing) ↔
      SoundRelation project allowSelfReference relation ∧
      ∀ other ∈ otherRelations project editing, ¬ SameHolder other relation := by
  simp only [relationIssues, ErrorFree.append_iff, errorFree_endIssues_iff, errorFree_selfReferenceIssues_iff,
    errorFree_sourceFieldIssues_iff]
  constructor
  · rintro ⟨⟨⟨⟨⟨⟨⟨⟨source, hsource⟩, ⟨target, htarget⟩⟩, hself⟩, hname, hletters⟩, -⟩, hfield⟩, hkey⟩, hclash⟩
    rw [htarget] at hfield hkey
    rw [hsource] at hkey
    exact ⟨⟨source, target, hsource, htarget, hself, hname, hletters, errorFree_targetFieldIssues_iff.1 hfield,
      (errorFree_keyTypeIssues_iff hname).1 hkey⟩, (errorFree_clashIssues_iff hname).1 hclash⟩
  · rintro ⟨⟨source, target, hsource, htarget, hfits⟩, hclash⟩
    rw [hsource, htarget]
    exact ⟨⟨⟨⟨⟨⟨⟨⟨source, rfl⟩, ⟨target, rfl⟩⟩, hfits.selfReference⟩, hfits.sourceField, hfits.sourceLetters⟩,
      errorFree_relationTypeIssues _⟩, errorFree_targetFieldIssues_iff.2 hfits.targetField⟩,
      (errorFree_keyTypeIssues_iff hfits.sourceField).2 hfits.keyType⟩,
      (errorFree_clashIssues_iff hfits.sourceField).2 hclash⟩

/-! ### Mappers -/

/-- A row that is right between two lists of fields: what it names exists, and has compatible types. -/
structure RowFits (fromFields toFields : List Field) (row : FieldMapping) : Prop where
  source : trim row.sourceField ≠ "" → (findField? fromFields (trim row.sourceField)).isSome = true
  target : trim row.targetField ≠ "" → (findField? toFields (trim row.targetField)).isSome = true
  types : ∀ source target, findField? fromFields (trim row.sourceField) = some source →
    findField? toFields (trim row.targetField) = some target →
    TypeName.compatible source.typeName target.typeName = true

/-- Rows that are right between two lists of fields and give each source field a target. -/
structure RowsFit (fromFields toFields : List Field) (rows : List FieldMapping) : Prop where
  each : ∀ row ∈ rows, RowFits fromFields toFields row
  covered : ∀ field ∈ fromFields, (explicitTarget? rows field.name).isSome = true

/-- A mapper between two different models of the project whose rows are right. -/
def SoundMapper (project : Project) (mapper : Mapper) : Prop :=
  ∃ fromFields toFields, endpointFields? (trim mapper.fromModel) project = some fromFields ∧
    endpointFields? (trim mapper.toModel) project = some toFields ∧
    ¬ Alike mapper.fromModel mapper.toModel ∧ RowsFit fromFields toFields mapper.mappings

theorem endpointFields?_eq_some_iff {name : String} {project : Project} {fields : List Field} :
    endpointFields? name project = some fields ↔ name ≠ "" ∧ project.fieldsOf? name = some fields := by
  by_cases h : name = "" <;> simp [endpointFields?, h]

theorem errorFree_endpointIssues_iff {name role path : String} {project : Project} :
    ErrorFree (endpointIssues name role path project) ↔ ∃ fields, endpointFields? name project = some fields := by
  by_cases hname : name = ""
  · simp [endpointIssues, endpointFields?, hname, Issue.isError]
  · cases hfields : project.fieldsOf? name <;> simp [endpointIssues, endpointFields?, hname, hfields, Issue.isError]

theorem errorFree_sameModelIssues_iff {fromModel toModel : String} (hname : trim fromModel ≠ "") :
    ErrorFree (sameModelIssues (trim fromModel) (trim toModel)) ↔ ¬ Alike fromModel toModel := by
  have hne : (trim fromModel).isEmpty = false := by simpa using hname
  rw [sameModelIssues, Alike, hne, Bool.not_false, Bool.true_and]
  cases Text.equalIgnoringCase (trim fromModel) (trim toModel) <;> simp [Issue.isError]

theorem errorFree_rowNameIssues_iff {found : Option Field} {role path model name : String} :
    ErrorFree (rowNameIssues found role path model name) ↔ (name ≠ "" → found.isSome = true) := by
  by_cases hname : name = "" <;> cases found <;> simp [rowNameIssues, hname, Issue.isError]

theorem errorFree_rowTypeIssues_iff {found given : Option Field} {path : String} :
    ErrorFree (rowTypeIssues found given path) ↔
      ∀ source target, found = some source → given = some target →
        TypeName.compatible source.typeName target.typeName = true := by
  cases found with
  | none => simp [rowTypeIssues]
  | some source =>
      cases given with
      | none => simp [rowTypeIssues]
      | some target =>
          by_cases h : TypeName.compatible source.typeName target.typeName = true <;>
            simp [rowTypeIssues, h, Issue.isError]

theorem errorFree_rowIssues_iff {fromName toName : String} {fromFields toFields : List Field} {index : Nat}
    {row : FieldMapping} :
    ErrorFree (rowIssues fromName toName fromFields toFields index row) ↔ RowFits fromFields toFields row := by
  simp only [rowIssues, ErrorFree.append_iff, errorFree_rowNameIssues_iff, errorFree_rowTypeIssues_iff]
  exact ⟨fun h => ⟨h.1.1, h.1.2, h.2⟩, fun h => ⟨⟨h.source, h.target⟩, h.types⟩⟩

theorem errorFree_coverageIssues_iff {fromFields : List Field} {rows : List FieldMapping} :
    ErrorFree (coverageIssues fromFields rows) ↔
      ∀ field ∈ fromFields, (explicitTarget? rows field.name).isSome = true := by
  have hnone : unmappedFields fromFields rows = [] ↔
      ∀ field ∈ fromFields, (explicitTarget? rows field.name).isSome = true := by
    simp [unmappedFields, List.filter_eq_nil_iff, Option.isSome_iff_ne_none]
  rw [← hnone, coverageIssues]
  by_cases h : unmappedFields fromFields rows = [] <;> simp [h, Issue.isError]

theorem errorFree_rowsIssues_iff {fromName toName : String} {fromFields toFields : List Field}
    {rows : List FieldMapping} :
    ErrorFree (rowsIssues fromName toName fromFields toFields rows) ↔ RowsFit fromFields toFields rows := by
  simp only [rowsIssues, ErrorFree.append_iff, ErrorFree.flatten_mapIdx_iff, errorFree_rowIssues_iff,
    errorFree_coverageIssues_iff]
  constructor
  · rintro ⟨heach, hcovered⟩
    refine ⟨fun row hmem => ?_, hcovered⟩
    obtain ⟨i, hi⟩ := List.mem_iff_getElem?.1 hmem
    exact heach i row hi
  · intro h
    exact ⟨fun i row hi => h.each row (List.mem_of_getElem? hi), h.covered⟩

theorem errorFree_mapperIssues_iff {mapper : Mapper} {project : Project} {former : Option String} :
    ErrorFree (mapperIssues mapper project former) ↔
      (Usable mapper.name ∧
        ∀ other ∈ otherNames (project.mappers.map (·.name)) former, ¬ Alike other mapper.name) ∧
      SoundMapper project mapper := by
  simp only [mapperIssues, ErrorFree.append_iff, errorFree_nameIssues_iff, errorFree_endpointIssues_iff]
  constructor
  · rintro ⟨⟨⟨⟨hname, ⟨fromFields, hfrom⟩⟩, ⟨toFields, hto⟩⟩, hsame⟩, hrows⟩
    have hne := (endpointFields?_eq_some_iff.1 hfrom).1
    rw [hfrom, hto] at hrows
    exact ⟨hname, fromFields, toFields, hfrom, hto, (errorFree_sameModelIssues_iff hne).1 hsame,
      errorFree_rowsIssues_iff.1 hrows⟩
  · rintro ⟨hname, fromFields, toFields, hfrom, hto, hdifferent, hrows⟩
    have hne := (endpointFields?_eq_some_iff.1 hfrom).1
    rw [hfrom, hto]
    exact ⟨⟨⟨⟨hname, ⟨fromFields, rfl⟩⟩, ⟨toFields, rfl⟩⟩, (errorFree_sameModelIssues_iff hne).2 hdifferent⟩,
      errorFree_rowsIssues_iff.2 hrows⟩

end DomainModel.Rule
