import DomainModel.Proofs.JsonPointers
import DomainModel.Proofs.RuleErrors

/-! Where reports point. Each rule gives its issues paths into the element that it checks, and the checks of
lists and of the whole project put the place of the element in front. Read as pointers into the JSON form of
the project, all these paths lead somewhere: attributes that are written always cannot be missed, and a rule
points to an attribute that may be left out only when it is there. So every error and every warning of a
report shows a part of the document that the project is written as. -/

namespace DomainModel

/-- Every issue is about a part of the value. -/
def PointInto (value : Json.Value) (issues : List Issue) : Prop :=
  ∀ issue ∈ issues, ∃ part, value.at? issue.path = some part

namespace PointInto
variable {value part : Json.Value}

theorem nil : PointInto value [] := fun _ hissue => absurd hissue List.not_mem_nil

theorem append {left right : List Issue} (hleft : PointInto value left) (hright : PointInto value right) :
    PointInto value (left ++ right) := List.forall_mem_append.2 ⟨hleft, hright⟩

theorem single {issue : Issue} (h : value.at? issue.path = some part) : PointInto value [issue] :=
  List.forall_mem_singleton.2 ⟨part, h⟩

theorem flatten_mapIdx {α : Type} {issues : Nat → α → List Issue} {elements : List α}
    (h : ∀ i element, elements[i]? = some element → PointInto value (issues i element)) :
    PointInto value (elements.mapIdx issues).flatten := by
  intro issue hissue
  obtain ⟨i, element, helement, hmem⟩ := mem_flatten_mapIdx.1 hissue
  exact h i element helement issue hmem

/-- Issues about a part become issues about the whole when the place of the part is put in front. -/
theorem nestAt {base : String} {issues : List Issue} (hbase : value.at? base = some part)
    (h : PointInto part issues) : PointInto value (issues.map (·.nestAt base)) := by
  intro issue hissue
  obtain ⟨own, hown, rfl⟩ := List.mem_map.1 hissue
  obtain ⟨inner, hinner⟩ := h own hown
  simp only [Issue.nestAt]
  split
  · exact ⟨part, hbase⟩
  · exact ⟨inner, Json.Value.at?_append hbase hinner⟩

/-- Issues about the elements of a list that is written under a path. -/
theorem issuesOfEach {α : Type} {path : String} {issues : Nat → α → List Issue} {elements : List α}
    {toJson : α → Json.Value} (hlist : value.at? path = some (.list (elements.map toJson)))
    (h : ∀ i element, elements[i]? = some element → PointInto (toJson element) (issues i element)) :
    PointInto value (Rule.issuesOfEach path issues elements) := by
  apply flatten_mapIdx
  intro i element hi
  exact nestAt (Json.Value.at?_element hlist hi) (h i element hi)

end PointInto

namespace Rule

theorem pointInto_nameIssues {value part : Json.Value} (hname : value.at? "/name" = some part) (name : String)
    (space : NameSpace) (existing : List String) (former : Option String) :
    PointInto value (nameIssues name space existing former) := by
  simp only [nameIssues]
  split
  · exact .single hname
  split
  · exact .single hname
  split
  · exact .single hname
  split
  · exact .single hname
  · exact .nil

/-! ### Fields -/

section Fields
variable (field : Field)

theorem pointInto_fieldNameIssues (others : List Field) : PointInto field.toJson (fieldNameIssues field others) := by
  have hname : field.toJson.at? "/name" = some (.text field.name) :=
    at?_slot field.toJson_eq field.nodup_slots "name" (by simp [Field.slots]) (by decide)
  simp only [fieldNameIssues]
  split
  · exact .single hname
  split
  · exact .single hname
  split
  · exact .single hname
  split
  · exact .single hname
  · exact .nil

theorem pointInto_keyIssues (others : List Field) (owner : FieldOwner) :
    PointInto field.toJson (keyIssues field others owner) := by
  have hkey : field.toJson.at? "/primaryKey" = some (.bool field.primaryKey) :=
    at?_slot field.toJson_eq field.nodup_slots "primaryKey" (by simp [Field.slots]) (by decide)
  rw [keyIssues]
  split
  · exact .single hkey
  · exact .nil

theorem pointInto_typeIssues : PointInto field.toJson (typeIssues field) := by
  have htype : field.toJson.at? "/type" = some (.text field.typeName) :=
    at?_slot field.toJson_eq field.nodup_slots "type" (by simp [Field.slots]) (by decide)
  rw [typeIssues]
  split
  · exact .single htype
  · exact .nil

/-- A length that is reported is there. -/
theorem pointInto_lengthIssues : PointInto field.toJson (lengthIssues field) := by
  rw [lengthIssues]
  split
  · next hzero =>
      have hslot : ("maxLength", some (.number (.integer 0))) ∈ field.slots := by
        simp [Field.slots, eq_of_beq hzero]
      have hlength : field.toJson.at? "/maxLength" = some (.number (.integer 0)) :=
        at?_slot field.toJson_eq field.nodup_slots "maxLength" hslot (by decide)
      exact .single hlength
  · exact .nil

theorem at?_constraints (h : field.constraints ≠ []) :
    field.toJson.at? "/constraints" = some (.list (field.constraints.map Constraint.toJson)) :=
  at?_slot field.toJson_eq field.nodup_slots "constraints" (by simp [Field.slots, h]) (by decide)

/-- An empty list has no fault. -/
theorem pointInto_constraintListIssues : PointInto field.toJson (constraintListIssues field) := by
  rw [constraintListIssues]
  split
  · next hfault =>
      have hsome : field.constraints ≠ [] := by
        intro hempty
        rw [hempty] at hfault
        cases hfault
      exact .single (at?_constraints field hsome)
  · exact .nil

theorem pointInto_constraintIssues {i : Nat} {constraint : Constraint} (h : field.constraints[i]? = some constraint) :
    PointInto field.toJson (constraintIssues field.typeName i constraint) := by
  have hsome : field.constraints ≠ [] := List.ne_nil_of_mem (List.mem_of_getElem? h)
  have hplace := Json.Value.at?_element (at?_constraints field hsome) h
  have hpath : "/constraints" ++ "/" ++ toString i = "/constraints/" ++ toString i := rfl
  rw [hpath] at hplace
  simp only [constraintIssues]
  split
  · exact .nil
  split
  · exact .single hplace
  split
  · exact .single hplace
  · exact .nil

theorem pointInto_fieldIssues (siblings : List Field) (editing : Option Nat) (owner : FieldOwner) :
    PointInto field.toJson (fieldIssues field siblings editing owner) := by
  simp only [fieldIssues]
  refine .append (.append (.append (.append (.append ?_ ?_) ?_) ?_) ?_) ?_
  · exact pointInto_fieldNameIssues field _
  · exact pointInto_keyIssues field _ owner
  · exact pointInto_typeIssues field
  · exact pointInto_lengthIssues field
  · exact pointInto_constraintListIssues field
  · exact .flatten_mapIdx fun _ _ hi => pointInto_constraintIssues field hi

end Fields

/-- Lists of fields are written always, also when they are empty. -/
theorem pointInto_fieldsIssues {value : Json.Value} {fields : List Field}
    (hfields : value.at? "/fields" = some (.list (fields.map Field.toJson))) (owner : FieldOwner) :
    PointInto value (fieldsIssues fields owner) := by
  have hlist : PointInto value (fieldListIssues fields owner) := by
    rw [fieldListIssues]
    split
    · exact .single hfields
    split
    · exact .single hfields
    · exact .nil
  have heach : PointInto value (issuesOfEach "/fields"
      (fun i field => fieldIssues field (fields.take i) none owner) fields) :=
    .issuesOfEach hfields fun i field _ => pointInto_fieldIssues field (fields.take i) none owner
  rw [fieldsIssues]
  exact hlist.append heach

/-! ### Entities and data objects -/

/-- The flags that exclude each other are attributes of an entity. -/
theorem pointInto_flagIssues (entity : Entity) : PointInto entity.toJson (flagIssues entity) := by
  rw [flagIssues]
  split
  · next first second rest hflags =>
      have hmem : second ∈ exclusiveFlags entity := by simp [hflags]
      obtain ⟨⟨flag, key⟩, hset, rfl⟩ := List.mem_map.1 hmem
      have hslot : (key, some (.bool flag)) ∈ entity.slots ∧ Json.IsPlainToken key.toList := by
        have hpair := List.mem_of_mem_filter hset
        simp only [List.mem_cons, Prod.mk.injEq, List.not_mem_nil, or_false] at hpair
        rcases hpair with ⟨rfl, rfl⟩ | ⟨rfl, rfl⟩ | ⟨rfl, rfl⟩ <;> exact ⟨by simp [Entity.slots], by decide⟩
      exact .single (at?_slot entity.toJson_eq entity.nodup_slots key hslot.1 hslot.2)
  · exact .nil

theorem pointInto_entityIssues (entity : Entity) (project : Project) (former : Option String) :
    PointInto entity.toJson (entityIssues entity project former) := by
  have hname : entity.toJson.at? "/name" = some (.text entity.name) :=
    at?_slot entity.toJson_eq entity.nodup_slots "name" (by simp [Entity.slots]) (by decide)
  have hfields : entity.toJson.at? "/fields" = some (.list (entity.fields.map Field.toJson)) :=
    at?_slot entity.toJson_eq entity.nodup_slots "fields" (by simp [Entity.slots]) (by decide)
  rw [entityIssues]
  exact ((pointInto_nameIssues hname _ _ _ _).append (pointInto_flagIssues entity)).append
    (pointInto_fieldsIssues hfields .entity)

/-- A wrapper that is reported is there. -/
theorem pointInto_wrapperIssues (object : DataObject) : PointInto object.toJson (wrapperIssues object) := by
  rw [wrapperIssues]
  split
  · next wrapper hwrapper =>
      obtain ⟨text, htext, -⟩ := Option.bind_eq_some_iff.1 hwrapper
      have hplace : object.toJson.at? "/responseWrapper" = some (.text text) :=
        at?_slot object.toJson_eq object.nodup_slots "responseWrapper" (by simp [DataObject.slots, htext]) (by decide)
      split
      · exact .nil
      · exact .single hplace
  · exact .nil

theorem pointInto_dataObjectIssues (object : DataObject) (project : Project) (former : Option String) :
    PointInto object.toJson (dataObjectIssues object project former) := by
  have hname : object.toJson.at? "/name" = some (.text object.name) :=
    at?_slot object.toJson_eq object.nodup_slots "name" (by simp [DataObject.slots]) (by decide)
  have hfields : object.toJson.at? "/fields" = some (.list (object.fields.map Field.toJson)) :=
    at?_slot object.toJson_eq object.nodup_slots "fields" (by simp [DataObject.slots]) (by decide)
  rw [dataObjectIssues]
  exact ((pointInto_nameIssues hname _ _ _ _).append (pointInto_wrapperIssues object)).append
    (pointInto_fieldsIssues hfields .dataObject)

/-! ### Relations -/

theorem pointInto_endIssues {value part : Json.Value} {path : String} (hpath : value.at? path = some part)
    (found : Option Entity) (role name : String) : PointInto value (endIssues found role path name) := by
  rw [endIssues]
  split
  · exact .single hpath
  · exact .nil

/-- A target field that is reported is there. -/
theorem pointInto_targetFieldIssues (relation : Relation) (target : Option Entity) :
    PointInto relation.toJson (targetFieldIssues target (relation.targetFieldName.bind Text.nonBlank?)) := by
  rw [targetFieldIssues.eq_def]
  split
  · next target name hname =>
      obtain ⟨text, htext, -⟩ := Option.bind_eq_some_iff.1 hname
      have hplace : relation.toJson.at? "/targetFieldName" = some (.text text) :=
        at?_slot relation.toJson_eq relation.nodup_slots "targetFieldName" (by simp [Relation.slots, htext]) (by decide)
      split
      · exact .single hplace
      · exact .nil
  · exact .nil

theorem pointInto_keyTypeIssues {value part : Json.Value} (hfield : value.at? "/sourceFieldName" = some part)
    (relationType : RelationType) (fieldName : String) (source target : Option Entity) :
    PointInto value (keyTypeIssues relationType fieldName source target) := by
  unfold keyTypeIssues
  split
  · split
    · split
      · exact .nil
      · exact .single hfield
    · exact .nil
  · exact .nil

theorem pointInto_relationIssues (relation : Relation) (project : Project) (allowSelfReference : Bool)
    (editing : Option Nat) :
    PointInto relation.toJson (relationIssues relation project allowSelfReference editing) := by
  have hsource : relation.toJson.at? "/sourceEntity" = some (.text relation.sourceEntity) :=
    at?_slot relation.toJson_eq relation.nodup_slots "sourceEntity" (by simp [Relation.slots]) (by decide)
  have htarget : relation.toJson.at? "/targetEntity" = some (.text relation.targetEntity) :=
    at?_slot relation.toJson_eq relation.nodup_slots "targetEntity" (by simp [Relation.slots]) (by decide)
  have hfield : relation.toJson.at? "/sourceFieldName" = some (.text relation.sourceFieldName) :=
    at?_slot relation.toJson_eq relation.nodup_slots "sourceFieldName" (by simp [Relation.slots]) (by decide)
  have htype : relation.toJson.at? "/relationType" = some (.text relation.relationType.toText) :=
    at?_slot relation.toJson_eq relation.nodup_slots "relationType" (by simp [Relation.slots]) (by decide)
  simp only [relationIssues]
  refine .append (.append (.append (.append (.append (.append (.append ?_ ?_) ?_) ?_) ?_) ?_) ?_) ?_
  · exact pointInto_endIssues hsource _ _ _
  · exact pointInto_endIssues htarget _ _ _
  · rw [selfReferenceIssues]
    split
    · exact .single htarget
    · exact .nil
  · rw [sourceFieldIssues]
    split
    · exact .single hfield
    split
    · exact .single hfield
    · exact .nil
  · rw [relationTypeIssues]
    split
    · exact .nil
    · exact .single htype
  · exact pointInto_targetFieldIssues relation _
  · exact pointInto_keyTypeIssues hfield _ _ _ _
  · rw [clashIssues]
    split
    · exact .single hfield
    · exact .nil

/-! ### Mappers -/

theorem pointInto_endpointIssues {value part : Json.Value} {path : String} (hpath : value.at? path = some part)
    (name role : String) (project : Project) : PointInto value (endpointIssues name role path project) := by
  rw [endpointIssues]
  split
  · exact .single hpath
  split
  · exact .single hpath
  · exact .nil

theorem pointInto_rowNameIssues {value part : Json.Value} {path : String} (hpath : value.at? path = some part)
    (found : Option Field) (role model name : String) : PointInto value (rowNameIssues found role path model name) := by
  rw [rowNameIssues]
  split
  · exact .single hpath
  · exact .nil

theorem pointInto_rowIssues {mapper : Mapper} {i : Nat} {row : FieldMapping}
    (hrow : mapper.toJson.at? ("/mappings/" ++ toString i) = some row.toJson) (fromName toName : String)
    (fromFields toFields : List Field) :
    PointInto mapper.toJson (rowIssues fromName toName fromFields toFields i row) := by
  have hsource : row.toJson.at? "/sourceField" = some (.text row.sourceField) :=
    at?_slot row.toJson_eq row.nodup_slots "sourceField" (by simp [FieldMapping.slots]) (by decide)
  have htarget : row.toJson.at? "/targetField" = some (.text row.targetField) :=
    at?_slot row.toJson_eq row.nodup_slots "targetField" (by simp [FieldMapping.slots]) (by decide)
  have hsource := Json.Value.at?_append hrow hsource
  have htarget := Json.Value.at?_append hrow htarget
  simp only [rowIssues]
  refine .append (.append ?_ ?_) ?_
  · exact pointInto_rowNameIssues hsource _ _ _ _
  · exact pointInto_rowNameIssues htarget _ _ _ _
  · rw [rowTypeIssues.eq_def]
    split
    · split
      · exact .nil
      · exact .single htarget
    · exact .nil

theorem pointInto_mapperIssues (mapper : Mapper) (project : Project) (former : Option String) :
    PointInto mapper.toJson (mapperIssues mapper project former) := by
  have hname : mapper.toJson.at? "/name" = some (.text mapper.name) :=
    at?_slot mapper.toJson_eq mapper.nodup_slots "name" (by simp [Mapper.slots]) (by decide)
  have hfrom : mapper.toJson.at? "/fromModel" = some (.text mapper.fromModel) :=
    at?_slot mapper.toJson_eq mapper.nodup_slots "fromModel" (by simp [Mapper.slots]) (by decide)
  have hto : mapper.toJson.at? "/toModel" = some (.text mapper.toModel) :=
    at?_slot mapper.toJson_eq mapper.nodup_slots "toModel" (by simp [Mapper.slots]) (by decide)
  have hrows : mapper.toJson.at? "/mappings" = some (.list (mapper.mappings.map FieldMapping.toJson)) :=
    at?_slot mapper.toJson_eq mapper.nodup_slots "mappings" (by simp [Mapper.slots]) (by decide)
  simp only [mapperIssues]
  refine .append (.append (.append (.append ?_ ?_) ?_) ?_) ?_
  · exact pointInto_nameIssues hname _ _ _ _
  · exact pointInto_endpointIssues hfrom _ _ _
  · exact pointInto_endpointIssues hto _ _ _
  · rw [sameModelIssues]
    split
    · exact .single hto
    · exact .nil
  · split
    · refine .append (.flatten_mapIdx fun i row hi => ?_) ?_
      · have hrow := Json.Value.at?_element hrows hi
        have hpath : "/mappings" ++ "/" ++ toString i = "/mappings/" ++ toString i := rfl
        rw [hpath] at hrow
        exact pointInto_rowIssues hrow _ _ _ _
      · simp only [coverageIssues]
        split
        · exact .nil
        · exact .single hrows
    · exact .nil

/-! ### Projects -/

theorem pointInto_coordinatesIssues {value : Json.Value} {settings : Coordinates}
    (hsettings : value.at? "/settings" = some settings.toJson) : PointInto value (coordinatesIssues settings) := by
  have hgroup : settings.toJson.at? "/groupId" = some (.text settings.groupId) :=
    at?_slot settings.toJson_eq settings.nodup_slots "groupId" (by simp [Coordinates.slots]) (by decide)
  have hartifact : settings.toJson.at? "/artifactId" = some (.text settings.artifactId) :=
    at?_slot settings.toJson_eq settings.nodup_slots "artifactId" (by simp [Coordinates.slots]) (by decide)
  have hgroup : value.at? "/settings/groupId" = some (.text settings.groupId) :=
    Json.Value.at?_append hsettings hgroup
  have hartifact : value.at? "/settings/artifactId" = some (.text settings.artifactId) :=
    Json.Value.at?_append hsettings hartifact
  rw [coordinatesIssues]
  refine .append ?_ ?_
  · split
    · exact .nil
    · exact .single hgroup
  · split
    · exact .nil
    · exact .single hartifact

theorem pointInto_projectIssues (project : Project) (allowSelfReference : Bool) :
    PointInto project.toJson (projectIssues project allowSelfReference) := by
  have hentities : project.toJson.at? "/entities" = some (.list (project.entities.map Entity.toJson)) :=
    at?_slot project.toJson_eq project.nodup_slots "entities" (by simp [Project.slots]) (by decide)
  have hobjects : project.toJson.at? "/dataObjects" = some (.list (project.dataObjects.map DataObject.toJson)) :=
    at?_slot project.toJson_eq project.nodup_slots "dataObjects" (by simp [Project.slots]) (by decide)
  have hrelations : project.toJson.at? "/relations" = some (.list (project.relations.map Relation.toJson)) :=
    at?_slot project.toJson_eq project.nodup_slots "relations" (by simp [Project.slots]) (by decide)
  have hmappers : project.toJson.at? "/mappers" = some (.list (project.mappers.map Mapper.toJson)) :=
    at?_slot project.toJson_eq project.nodup_slots "mappers" (by simp [Project.slots]) (by decide)
  rw [projectIssues]
  refine .append (.append (.append (.append ?_ ?_) ?_) ?_) ?_
  · cases hsettings : project.settings with
    | none => exact .nil
    | some settings =>
        have hplace : project.toJson.at? "/settings" = some settings.toJson :=
          at?_slot project.toJson_eq project.nodup_slots "settings" (by simp [Project.slots, hsettings]) (by decide)
        exact pointInto_coordinatesIssues hplace
  · exact .issuesOfEach hentities fun _ entity _ => pointInto_entityIssues entity project _
  · exact .issuesOfEach hobjects fun _ object _ => pointInto_dataObjectIssues object project _
  · exact .issuesOfEach hrelations fun _ relation _ => pointInto_relationIssues relation project _ _
  · exact .issuesOfEach hmappers fun _ mapper _ => pointInto_mapperIssues mapper project _

/-- **Reported paths are real.** The path of every error and of every warning leads to a part of the document that
the project is written as. -/
theorem exists_part_of_reported {project : Project} {allowSelfReference : Bool} {issue : Issue}
    (h : issue ∈ (validate project allowSelfReference).errors ∨
      issue ∈ (validate project allowSelfReference).warnings) :
    ∃ part, project.toJson.at? issue.path = some part := by
  apply pointInto_projectIssues project allowSelfReference issue
  rw [validate, Report.ofIssues] at h
  exact h.elim List.mem_of_mem_filter List.mem_of_mem_filter

/-- A project with faults on each level. -/
def faultyProject : Project where
  settings := some { groupId := "Com", artifactId := "shop" }
  entities := [
    { name := "Item",
      fields := [.syntheticId,
        { name := "select", typeName := "Long", maxLength := some 0, constraints := [{ name := "Past" }] }] }]
  relations := [
    { sourceEntity := "Item", targetEntity := "Item", sourceFieldName := "item", relationType := .other "x",
      targetFieldName := some "missing" }]
  mappers := [
    { name := "ItemMapper", fromModel := "Item", toModel := "Item", mappings := [⟨"id", "id"⟩, ⟨"select", "none"⟩] }]

theorem exists_part_faultyProject :
    (∃ issue ∈ (validate faultyProject false).errors, issue.path = "/entities/0/fields/1/constraints/0" ∧
      ∃ part, faultyProject.toJson.at? issue.path = some part) ∧
    (∃ issue ∈ (validate faultyProject false).warnings, issue.path = "/entities/0/fields/1/name" ∧
      ∃ part, faultyProject.toJson.at? issue.path = some part) := by
  have herror : ∃ issue ∈ (validate faultyProject false).errors, issue.path = "/entities/0/fields/1/constraints/0" := by
    decide +kernel
  have hwarning : ∃ issue ∈ (validate faultyProject false).warnings, issue.path = "/entities/0/fields/1/name" := by
    decide +kernel
  obtain ⟨error, hmem, hpath⟩ := herror
  obtain ⟨warning, hwarned, hplace⟩ := hwarning
  exact ⟨⟨error, hmem, hpath, exists_part_of_reported (.inl hmem)⟩,
    ⟨warning, hwarned, hplace, exists_part_of_reported (.inr hwarned)⟩⟩

end Rule

end DomainModel
