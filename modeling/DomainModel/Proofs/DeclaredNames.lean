import DomainModel.Proofs.JsonPointers
import DomainModel.Proofs.ProjectSound
import DomainModel.Proofs.RuleEnds

/-! References that are spelled as the names they stand for. The rule for names trims a name before it judges it, so a
declared name may have outer blanks; a reference is trimmed before it is looked up, but the names that it is held
against are not. A name with outer blanks is therefore found by no reference, not even by one that is spelled the same,
and any other name is found. What is said here of one lookup is then said of the ends of relations, of the ends of
mappers and of their rows. -/

namespace DomainModel.Rule

open Text (Alike Distinct trim equalIgnoringCase)

/-! ### Lookups -/

section Lookups
variable {α : Type} {name : α → String} {l : List α} {reference : String}

/-- A lookup passes over the names with outer blanks. -/
theorem find?_trim_eq_none_iff :
    l.find? (fun a => equalIgnoringCase (name a) (trim reference)) = none ↔
      ∀ declared ∈ l.map name, Alike declared reference → trim declared ≠ declared := by
  simp only [List.find?_eq_none, Text.equalIgnoringCase_trim_right_iff, not_and, List.forall_mem_map, ne_eq]

/-- Of distinct names a declared one is missed for its own outer blanks alone. -/
theorem find?_trim_eq_none_iff_of_mem (hdistinct : Distinct (l.map name)) (h : reference ∈ l.map name) :
    l.find? (fun a => equalIgnoringCase (name a) (trim reference)) = none ↔ trim reference ≠ reference := by
  rw [find?_trim_eq_none_iff]
  constructor
  · intro hnone
    exact hnone reference h (Alike.refl reference)
  · intro hblanks declared hdeclared halike
    have hsame : declared = reference :=
      eq_of_pairwise_not (fun _ _ halike => Alike.symm halike) hdistinct hdeclared h halike
    rwa [hsame]

end Lookups

/-! ### Where an issue is -/

/-- Some issue of the list has the code and is at the path. -/
def ReportsAt (code path : String) (issues : List Issue) : Prop :=
  ∃ issue ∈ issues, issue.code = code ∧ issue.path = path

instance (code path : String) (issues : List Issue) : Decidable (ReportsAt code path issues) :=
  inferInstanceAs (Decidable (∃ issue ∈ issues, issue.code = code ∧ issue.path = path))

namespace ReportsAt
variable {code path : String}

@[simp] theorem nil_iff : ReportsAt code path [] ↔ False := by simp [ReportsAt]

@[simp] theorem append_iff {left right : List Issue} :
    ReportsAt code path (left ++ right) ↔ ReportsAt code path left ∨ ReportsAt code path right := by
  simp only [ReportsAt, List.mem_append, or_and_right, exists_or]

@[simp] theorem singleton_iff {issue : Issue} :
    ReportsAt code path [issue] ↔ issue.code = code ∧ issue.path = path := by
  simp [ReportsAt]

theorem flatten_mapIdx_iff {α : Type} {issues : Nat → α → List Issue} {elements : List α} :
    ReportsAt code path (elements.mapIdx issues).flatten ↔
      ∃ i element, elements[i]? = some element ∧ ReportsAt code path (issues i element) := exists_mem_flatten_mapIdx

end ReportsAt

section Mappers
variable {code path : String} {mapper : Mapper} {project : Project} {former : Option String}

/-- The codes of what is wrong with a mapper apart from unknown names. -/
def knownCodes : List String :=
  nameCodes ++
    ["source_model_required", "target_model_required", "same_model", "incompatible_types", "all_rows_mapped"]

theorem reportsAt_endpointIssues_iff {name role place : String} (hcode : role ++ "_model_required" ≠ code) :
    ReportsAt code path (endpointIssues name role place project) ↔
      (name ≠ "" ∧ project.fieldsOf? name = none) ∧ "unknown_model" = code ∧ place = path := by
  by_cases hname : name = ""
  · simp [endpointIssues, hname, hcode]
  · cases hfields : project.fieldsOf? name <;> simp [endpointIssues, hname, hfields]

theorem reportsAt_rowNameIssues_iff {found : Option Field} {role place model name : String} :
    ReportsAt code path (rowNameIssues found role place model name) ↔
      (name ≠ "" ∧ found = none) ∧ "unknown_" ++ role ++ "_field" = code ∧ place = path := by
  by_cases hname : name = "" <;> cases found <;> simp [rowNameIssues, hname]

theorem reportsAt_rowIssues_iff {fromName toName : String} {fromFields toFields : List Field} {i : Nat}
    {row : FieldMapping} (hcode : code ∉ knownCodes) :
    ReportsAt code path (rowIssues fromName toName fromFields toFields i row) ↔
      ((trim row.sourceField ≠ "" ∧ findField? fromFields (trim row.sourceField) = none) ∧
        "unknown_source_field" = code ∧ "/mappings/" ++ toString i ++ "/sourceField" = path) ∨
      ((trim row.targetField ≠ "" ∧ findField? toFields (trim row.targetField) = none) ∧
        "unknown_target_field" = code ∧ "/mappings/" ++ toString i ++ "/targetField" = path) := by
  have htypes (source target : Option Field) (place : String) :
      ¬ ReportsAt code path (rowTypeIssues source target place) := by
    have hother : "incompatible_types" ≠ code := by
      rintro rfl
      exact hcode (by decide)
    unfold rowTypeIssues
    repeat' split
    all_goals simp [hother]
  simp only [rowIssues, ReportsAt.append_iff, reportsAt_rowNameIssues_iff, htypes, or_false]
  rfl

/-- The other codes come from the ends, and from the rows where both ends are known. -/
theorem reportsAt_mapperIssues_iff (hcode : code ∉ knownCodes) :
    ReportsAt code path (mapperIssues mapper project former) ↔
      ((trim mapper.fromModel ≠ "" ∧ project.fieldsOf? (trim mapper.fromModel) = none) ∧
        "unknown_model" = code ∧ "/fromModel" = path) ∨
      ((trim mapper.toModel ≠ "" ∧ project.fieldsOf? (trim mapper.toModel) = none) ∧
        "unknown_model" = code ∧ "/toModel" = path) ∨
      ∃ fromFields toFields, endpointFields? (trim mapper.fromModel) project = some fromFields ∧
        endpointFields? (trim mapper.toModel) project = some toFields ∧
        ∃ i row, mapper.mappings[i]? = some row ∧
          ReportsAt code path (rowIssues (trim mapper.fromModel) (trim mapper.toModel) fromFields toFields i row) := by
  have hname : ¬ ReportsAt code path (nameIssues mapper.name .mapper (project.mappers.map (·.name)) former) := by
    rintro ⟨issue, hissue, rfl, -⟩
    exact hcode (List.mem_append_left _ (code_of_mem_nameIssues hissue))
  simp only [knownCodes, List.mem_append, List.mem_cons, List.not_mem_nil, or_false, not_or,
    eq_comm (a := code)] at hcode
  obtain ⟨-, hsource, htarget, hself, -, hcovered⟩ := hcode
  have hsource : "source" ++ "_model_required" ≠ code := by simpa using hsource
  have htarget : "target" ++ "_model_required" ≠ code := by simpa using htarget
  have hselfRule : ¬ ReportsAt code path (sameModelIssues (trim mapper.fromModel) (trim mapper.toModel)) := by
    rw [sameModelIssues]
    split <;> simp [hself]
  have hcoverage (fields : List Field) : ¬ ReportsAt code path (coverageIssues fields mapper.mappings) := by
    simp only [coverageIssues]
    split <;> simp [hcovered]
  simp only [mapperIssues, ReportsAt.append_iff, hname, hselfRule, false_or, or_false,
    reportsAt_endpointIssues_iff hsource, reportsAt_endpointIssues_iff htarget, or_assoc]
  refine or_congr_right (or_congr_right ?_)
  cases endpointFields? (trim mapper.fromModel) project with
  | none => simp
  | some fromFields =>
      cases endpointFields? (trim mapper.toModel) project with
      | none => simp
      | some toFields =>
          simp only [rowsIssues, ReportsAt.append_iff, hcoverage, or_false, ReportsAt.flatten_mapIdx_iff]
          simp

theorem rowPath_inj {i j : Nat} {part : String} :
    "/mappings/" ++ toString i ++ part = "/mappings/" ++ toString j ++ part ↔ i = j := by
  rw [String.append_left_inj, String.append_right_inj, Json.toString_inj]

theorem reportsAt_fromModel_iff :
    ReportsAt "unknown_model" "/fromModel" (mapperIssues mapper project former) ↔
      trim mapper.fromModel ≠ "" ∧ project.fieldsOf? (trim mapper.fromModel) = none := by
  have hcode : "unknown_model" ∉ knownCodes := by decide
  simp [reportsAt_mapperIssues_iff hcode, reportsAt_rowIssues_iff hcode]

theorem reportsAt_toModel_iff :
    ReportsAt "unknown_model" "/toModel" (mapperIssues mapper project former) ↔
      trim mapper.toModel ≠ "" ∧ project.fieldsOf? (trim mapper.toModel) = none := by
  have hcode : "unknown_model" ∉ knownCodes := by decide
  simp [reportsAt_mapperIssues_iff hcode, reportsAt_rowIssues_iff hcode]

variable {i : Nat} {row : FieldMapping} {fields : List Field}

theorem reportsAt_sourceField_iff (hrow : mapper.mappings[i]? = some row)
    (hfields : endpointFields? (trim mapper.fromModel) project = some fields) :
    ReportsAt "unknown_source_field" ("/mappings/" ++ toString i ++ "/sourceField")
        (mapperIssues mapper project former) ↔
      (trim row.sourceField ≠ "" ∧ findField? fields (trim row.sourceField) = none) ∧
        (endpointFields? (trim mapper.toModel) project).isSome = true := by
  have hcode : "unknown_source_field" ∉ knownCodes := by decide
  simp only [reportsAt_mapperIssues_iff hcode, reportsAt_rowIssues_iff hcode, String.reduceEq, false_and, and_false,
    false_or, or_false, true_and, rowPath_inj]
  constructor
  · rintro ⟨fromFields, toFields, hfrom, hto, j, other, hother, hmissing, rfl⟩
    obtain rfl := Option.some.inj (hfrom.symm.trans hfields)
    obtain rfl := Option.some.inj (hother.symm.trans hrow)
    exact ⟨hmissing, Option.isSome_of_eq_some hto⟩
  · rintro ⟨hmissing, hto⟩
    obtain ⟨toFields, hto⟩ := Option.isSome_iff_exists.1 hto
    exact ⟨fields, toFields, hfields, hto, i, row, hrow, hmissing, rfl⟩

theorem reportsAt_targetField_iff (hrow : mapper.mappings[i]? = some row)
    (hfields : endpointFields? (trim mapper.toModel) project = some fields) :
    ReportsAt "unknown_target_field" ("/mappings/" ++ toString i ++ "/targetField")
        (mapperIssues mapper project former) ↔
      (trim row.targetField ≠ "" ∧ findField? fields (trim row.targetField) = none) ∧
        (endpointFields? (trim mapper.fromModel) project).isSome = true := by
  have hcode : "unknown_target_field" ∉ knownCodes := by decide
  simp only [reportsAt_mapperIssues_iff hcode, reportsAt_rowIssues_iff hcode, String.reduceEq, false_and, and_false,
    false_or, true_and, rowPath_inj]
  constructor
  · rintro ⟨fromFields, toFields, hfrom, hto, j, other, hother, hmissing, rfl⟩
    obtain rfl := Option.some.inj (hto.symm.trans hfields)
    obtain rfl := Option.some.inj (hother.symm.trans hrow)
    exact ⟨hmissing, Option.isSome_of_eq_some hfrom⟩
  · rintro ⟨hmissing, hfrom⟩
    obtain ⟨fromFields, hfrom⟩ := Option.isSome_iff_exists.1 hfrom
    exact ⟨fromFields, fields, hfrom, hfields, i, row, hrow, hmissing, rfl⟩

end Mappers

/-! ### Projects -/

/-- Every entity and every data object passes its rule, as one that is saved unchanged. -/
structure ModelsPass (project : Project) : Prop where
  entities : ∀ entity ∈ project.entities,
    (Report.ofIssues (entityIssues entity project (some entity.name))).isOk = true
  dataObjects : ∀ object ∈ project.dataObjects,
    (Report.ofIssues (dataObjectIssues object project (some object.name))).isOk = true

/-- The names that an end of a mapper can refer to. -/
def modelNames (project : Project) : List String :=
  project.entities.map (·.name) ++ project.dataObjects.map (·.name)

namespace ModelsPass
variable {project : Project} (h : ModelsPass project)
include h

theorem sound_entities :
    NamesFit (project.entities.map (·.name)) ∧ ∀ entity ∈ project.entities, SoundEntity entity := by
  rw [← each_saved_iff]
  intro i entity hi
  exact errorFree_entityIssues_iff.1 (Report.isOk_ofIssues.1 (h.entities entity (List.mem_of_getElem? hi)))

theorem sound_dataObjects :
    NamesFit (project.dataObjects.map (·.name)) ∧ ∀ object ∈ project.dataObjects, SoundDataObject object := by
  rw [← each_saved_iff]
  intro i object hi
  exact errorFree_dataObjectIssues_iff.1 (Report.isOk_ofIssues.1 (h.dataObjects object (List.mem_of_getElem? hi)))

theorem trim_ne_empty {name : String} (hname : name ∈ modelNames project) : trim name ≠ "" := by
  have husable : Usable name := by
    rcases List.mem_append.1 hname with hentity | hobject
    · exact h.sound_entities.1.usable name hentity
    · exact h.sound_dataObjects.1.usable name hobject
  exact trim_ne_empty_of_isIdentifier husable.identifier

theorem entity?_eq_none_iff {name : String} (hname : name ∈ project.entities.map (·.name)) :
    project.entity? (trim name) = none ↔ trim name ≠ name :=
  find?_trim_eq_none_iff_of_mem h.sound_entities.1.distinct hname

/-- A field that is spelled as declared is missed for its outer blanks alone. -/
theorem findField?_eq_none_iff {model : String} {fields : List Field}
    (hfields : endpointFields? model project = some fields) {name : String} (hname : name ∈ fields.map (·.name)) :
    (trim name ≠ "" ∧ findField? fields (trim name) = none) ↔ trim name ≠ name := by
  obtain ⟨owner, hsound⟩ := soundFields_of_fieldsOf? h.sound_entities.2 h.sound_dataObjects.2
    (endpointFields?_eq_some_iff.1 hfields).2
  obtain ⟨field, hfield, rfl⟩ := List.mem_map.1 hname
  have hne : trim field.name ≠ "" := trim_ne_empty_of_isIdentifier (hsound.each field hfield).name
  rw [and_iff_right hne]
  exact find?_trim_eq_none_iff_of_mem hsound.distinct hname

end ModelsPass

/-- No model of the project is found for a name exactly when all models alike have outer blanks. -/
theorem fieldsOf?_trim_eq_none_iff {project : Project} {name : String} :
    project.fieldsOf? (trim name) = none ↔
      ∀ declared ∈ modelNames project, Alike declared name → trim declared ≠ declared := by
  have hentity : project.entity? (trim name) = none ↔ _ := find?_trim_eq_none_iff
  have hobject : project.dataObject? (trim name) = none ↔ _ := find?_trim_eq_none_iff
  rw [modelNames, List.forall_mem_append, ← hentity, ← hobject, Project.fieldsOf?]
  cases project.dataObject? (trim name) <;> simp

/-- **A name that is spelled as declared is found unless it has outer blanks.** Where all models of a project pass
their rules, an end of a relation that is the name of an entity is reported as unknown if and only if it has outer
blanks; an end of a mapper that is the name of a model, if and only if all models of that name have outer blanks; and
a name in a row that is the name of a field of the model there, if and only if it has outer blanks and the other model
is known too, as rows are not looked at before. -/
theorem declared_unknown_iff {project : Project} (h : ModelsPass project) :
    (∀ (relation : Relation) (allowSelfReference : Bool) (editing : Option Nat),
      (relation.sourceEntity ∈ project.entities.map (·.name) →
        (Reports "unknown_source_entity" (relationIssues relation project allowSelfReference editing) ↔
          trim relation.sourceEntity ≠ relation.sourceEntity)) ∧
      (relation.targetEntity ∈ project.entities.map (·.name) →
        (Reports "unknown_target_entity" (relationIssues relation project allowSelfReference editing) ↔
          trim relation.targetEntity ≠ relation.targetEntity))) ∧
    ∀ (mapper : Mapper) (former : Option String),
      (mapper.fromModel ∈ modelNames project →
        (ReportsAt "unknown_model" "/fromModel" (mapperIssues mapper project former) ↔
          ∀ name ∈ modelNames project, Alike name mapper.fromModel → trim name ≠ name)) ∧
      (mapper.toModel ∈ modelNames project →
        (ReportsAt "unknown_model" "/toModel" (mapperIssues mapper project former) ↔
          ∀ name ∈ modelNames project, Alike name mapper.toModel → trim name ≠ name)) ∧
      ∀ (i : Nat) (row : FieldMapping), mapper.mappings[i]? = some row →
        (∀ fields, endpointFields? (trim mapper.fromModel) project = some fields →
          row.sourceField ∈ fields.map (·.name) →
          (ReportsAt "unknown_source_field" ("/mappings/" ++ toString i ++ "/sourceField")
              (mapperIssues mapper project former) ↔
            trim row.sourceField ≠ row.sourceField ∧
              (endpointFields? (trim mapper.toModel) project).isSome = true)) ∧
        (∀ fields, endpointFields? (trim mapper.toModel) project = some fields →
          row.targetField ∈ fields.map (·.name) →
          (ReportsAt "unknown_target_field" ("/mappings/" ++ toString i ++ "/targetField")
              (mapperIssues mapper project former) ↔
            trim row.targetField ≠ row.targetField ∧
              (endpointFields? (trim mapper.fromModel) project).isSome = true)) := by
  refine ⟨fun relation allowSelfReference editing => ⟨fun hsource => ?_, fun htarget => ?_⟩,
    fun mapper former => ⟨fun hfrom => ?_, fun hto => ?_,
      fun i row hrow => ⟨fun fields hfields hname => ?_, fun fields hfields hname => ?_⟩⟩⟩
  · rw [reports_unknownSource_iff, h.entity?_eq_none_iff hsource]
  · rw [reports_unknownTarget_iff, h.entity?_eq_none_iff htarget]
  · rw [reportsAt_fromModel_iff, fieldsOf?_trim_eq_none_iff]
    exact and_iff_right (h.trim_ne_empty hfrom)
  · rw [reportsAt_toModel_iff, fieldsOf?_trim_eq_none_iff]
    exact and_iff_right (h.trim_ne_empty hto)
  · rw [reportsAt_sourceField_iff hrow hfields, h.findField?_eq_none_iff hfields hname]
  · rw [reportsAt_targetField_iff hrow hfields, h.findField?_eq_none_iff hfields hname]

def binContents : Relation where
  sourceEntity := " Bin"
  targetEntity := "Item"
  sourceFieldName := "items"
  relationType := .oneToMany

def binMapper : Mapper where
  name := "BinMapper"
  fromModel := " Bin"
  toModel := "ItemForm"

def itemMapper : Mapper where
  name := "ItemMapper"
  fromModel := "Item"
  toModel := "ItemForm"
  mappings := [⟨"id", "id"⟩, ⟨" label", "label"⟩]

/-- A project with an entity and a field whose names have outer blanks. -/
def warehouse : Project where
  entities := [
    { name := " Bin", fields := [.syntheticId] },
    { name := "Item", fields := [.syntheticId, { name := " label", typeName := "String" }] }]
  dataObjects := [
    { name := "ItemForm", direction := .request
      fields := [{ name := "id", typeName := "Long" }, { name := "label", typeName := "String" }] }]
  relations := [binContents]
  mappers := [binMapper, itemMapper]

theorem modelsPass_warehouse : ModelsPass warehouse := ⟨by decide +kernel, by decide +kernel⟩

theorem declared_unknown_warehouse :
    ModelsPass warehouse ∧
      Reports "unknown_source_entity" (relationIssues binContents warehouse false none) ∧
      ¬ Reports "unknown_target_entity" (relationIssues binContents warehouse false none) ∧
      ReportsAt "unknown_model" "/fromModel" (mapperIssues binMapper warehouse none) ∧
      ¬ ReportsAt "unknown_model" "/toModel" (mapperIssues binMapper warehouse none) ∧
      ReportsAt "unknown_source_field" ("/mappings/" ++ toString 1 ++ "/sourceField")
        (mapperIssues itemMapper warehouse none) ∧
      ¬ ReportsAt "unknown_target_field" ("/mappings/" ++ toString 1 ++ "/targetField")
        (mapperIssues itemMapper warehouse none) := by
  obtain ⟨hrelations, hmappers⟩ := declared_unknown_iff modelsPass_warehouse
  obtain ⟨hsource, htarget⟩ := hrelations binContents false none
  obtain ⟨hfrom, hto, -⟩ := hmappers binMapper none
  obtain ⟨hsourceField, htargetField⟩ := (hmappers itemMapper none).2.2 1 ⟨" label", "label"⟩ rfl
  refine ⟨modelsPass_warehouse, (hsource (by decide)).2 (by decide), ?_, (hfrom (by decide)).2 (by decide), ?_,
    (hsourceField _ rfl (by decide)).2 (by decide), ?_⟩
  · rw [htarget (by decide)]
    decide
  · rw [hto (by decide)]
    decide
  · rw [htargetField _ rfl (by decide)]
    decide

/-- Neither the ends of relations nor the ends of mappers nor their rows are found wherever they are spelled as
declared. -/
theorem not_declared_found :
    (¬ ∀ (project : Project) (relation : Relation), ModelsPass project →
      relation.sourceEntity ∈ project.entities.map (·.name) →
      ¬ Reports "unknown_source_entity" (relationIssues relation project false none)) ∧
    (¬ ∀ (project : Project) (mapper : Mapper), ModelsPass project → mapper.fromModel ∈ modelNames project →
      ¬ ReportsAt "unknown_model" "/fromModel" (mapperIssues mapper project none)) ∧
    ¬ ∀ (project : Project) (mapper : Mapper) (i : Nat) (row : FieldMapping) (fields : List Field),
      ModelsPass project → mapper.mappings[i]? = some row →
      endpointFields? (trim mapper.fromModel) project = some fields → row.sourceField ∈ fields.map (·.name) →
      ¬ ReportsAt "unknown_source_field" ("/mappings/" ++ toString i ++ "/sourceField")
        (mapperIssues mapper project none) := by
  refine ⟨fun hall => ?_, fun hall => ?_, fun hall => ?_⟩
  · exact absurd (hall warehouse binContents modelsPass_warehouse (by decide)) (by decide +kernel)
  · exact absurd (hall warehouse binMapper modelsPass_warehouse (by decide)) (by decide +kernel)
  · exact absurd (hall warehouse itemMapper 1 _ _ modelsPass_warehouse rfl rfl (by decide)) (by decide +kernel)

end DomainModel.Rule
