import DomainModel.Model.Encode
import Mathlib.Data.List.Nodup

/-! Models as they are written: every object has its keys in a fixed order, each of them once, and a key whose
attribute is absent is left out. So what an object holds under a key is what its attribute is written as, and
nothing else need be known of the order of the keys or of those that are left out. -/

namespace DomainModel

open Json (Value)

/-! ### Objects with attributes that may be missing -/

/-- The members of an object, given all its keys; a key without a value is left out. -/
def presentMembers (slots : List (String × Option Value)) : List (String × Value) :=
  slots.flatMap fun slot => presentMember slot.1 slot.2

theorem member?_presentMembers_of_not_mem {slots : List (String × Option Value)} {key : String}
    (h : key ∉ slots.map (·.1)) : Json.member? (presentMembers slots) key = none := by
  rw [Json.member?, List.lookup_eq_none_iff]
  rintro ⟨other, value⟩ hmem
  obtain ⟨⟨name, value?⟩, hslot, hpresent⟩ := List.mem_flatMap.1 hmem
  cases value? with
  | none => exact absurd hpresent List.not_mem_nil
  | some value =>
      rw [presentMember, List.mem_singleton, Prod.mk.injEq] at hpresent
      rw [bne_iff_ne, hpresent.1]
      exact fun heq => h (List.mem_map.2 ⟨_, hslot, heq.symm⟩)

theorem member?_presentMembers {slots : List (String × Option Value)} (hnodup : (slots.map (·.1)).Nodup)
    {key : String} {value? : Option Value} (h : (key, value?) ∈ slots) :
    Json.member? (presentMembers slots) key = value? := by
  induction slots with
  | nil => exact absurd h List.not_mem_nil
  | cons slot rest ih =>
      obtain ⟨name, own?⟩ := slot
      rw [List.map_cons, List.nodup_cons] at hnodup
      have happend : Json.member? (presentMembers ((name, own?) :: rest)) key =
          (Json.member? (presentMember name own?) key).or (Json.member? (presentMembers rest) key) :=
        List.lookup_append
      rw [happend]
      rcases List.mem_cons.1 h with heq | hmem
      · cases heq
        rw [member?_presentMembers_of_not_mem hnodup.1, Option.or_none]
        cases value? with
        | none => rfl
        | some value => exact List.lookup_cons_self
      · have hne : key ≠ name := by
          rintro rfl
          exact hnodup.1 (List.mem_map.2 ⟨_, hmem, rfl⟩)
        have hown : Json.member? (presentMember name own?) key = none := by
          cases own? with
          | none => rfl
          | some value => rw [presentMember, Json.member?, List.lookup_cons, beq_eq_false_iff_ne.2 hne, List.lookup_nil]
        rw [hown, Option.none_or]
        exact ih hnodup.2 hmem

theorem mem_presentMembers {slots : List (String × Option Value)} {key : String} {value : Value} :
    (key, value) ∈ presentMembers slots ↔ (key, some value) ∈ slots := by
  rw [presentMembers, List.mem_flatMap]
  constructor
  · rintro ⟨⟨name, value?⟩, hslot, hmem⟩
    cases value? with
    | none => exact absurd hmem List.not_mem_nil
    | some own =>
        cases List.mem_singleton.1 hmem
        exact hslot
  · exact fun hmem => ⟨_, hmem, List.mem_singleton_self _⟩

theorem keys_presentMembers_sublist (slots : List (String × Option Value)) :
    ((presentMembers slots).map (·.1)).Sublist (slots.map (·.1)) := by
  induction slots with
  | nil => exact .slnil
  | cons slot rest ih =>
      obtain ⟨key, value?⟩ := slot
      rw [presentMembers, List.flatMap_cons, List.map_append]
      cases value? with
      | none => exact ih.cons key
      | some value => exact ih.cons_cons key

/-! ### The attributes of a model -/

def Constraint.slots (constraint : Constraint) : List (String × Option Value) :=
  [("name", some (.text constraint.name)), ("value", constraint.value.map .text),
    ("value2", constraint.value2.map .text)]

def Field.slots (field : Field) : List (String × Option Value) :=
  [("name", some (.text field.name)), ("type", some (.text field.typeName)),
    ("maxLength", field.maxLength.map fun n => .number (.integer n.toNat)), ("primaryKey", some (.bool field.primaryKey)),
    ("required", some (.bool field.required)), ("unique", some (.bool field.unique)),
    ("jsonProperty", field.jsonProperty.map .text),
    ("constraints", if field.constraints.isEmpty then none else some (.list (field.constraints.map Constraint.toJson)))]

def Entity.slots (entity : Entity) : List (String × Option Value) :=
  [("name", some (.text entity.name)), ("fields", some (.list (entity.fields.map Field.toJson))),
    ("mappedSuperclass", some (.bool entity.mappedSuperclass)), ("addRestEndpoints", some (.bool entity.addRestEndpoints)),
    ("addCrudOperations", some (.bool entity.addCrudOperations)), ("auditable", some (.bool entity.auditable)),
    ("softDelete", some (.bool entity.softDelete)), ("immutable", some (.bool entity.immutable)),
    ("naturalIdCache", some (.bool entity.naturalIdCache))]

def Relation.slots (relation : Relation) : List (String × Option Value) :=
  [("sourceEntity", some (.text relation.sourceEntity)), ("targetEntity", some (.text relation.targetEntity)),
    ("sourceFieldName", some (.text relation.sourceFieldName)), ("relationType", some (.text relation.relationType.toText)),
    ("targetFieldName", relation.targetFieldName.map .text), ("required", some (.bool relation.required))]

def DataObject.slots (object : DataObject) : List (String × Option Value) :=
  [("name", some (.text object.name)), ("dtoType", some (.text object.direction.toText)),
    ("fields", some (.list (object.fields.map Field.toJson))), ("classMethods", some (.bool object.classMethods)),
    ("responseWrapper", object.responseWrapper.map .text),
    ("enableFieldProjection", some (.bool object.enableFieldProjection)),
    ("includeHateoasLinks", some (.bool object.includeHateoasLinks))]

def FieldMapping.slots (mapping : FieldMapping) : List (String × Option Value) :=
  [("sourceField", some (.text mapping.sourceField)), ("targetField", some (.text mapping.targetField))]

def Mapper.slots (mapper : Mapper) : List (String × Option Value) :=
  [("name", some (.text mapper.name)), ("fromModel", some (.text mapper.fromModel)), ("toModel", some (.text mapper.toModel)),
    ("mappings", some (.list (mapper.mappings.map FieldMapping.toJson)))]

def Coordinates.slots (settings : Coordinates) : List (String × Option Value) :=
  [("groupId", some (.text settings.groupId)), ("artifactId", some (.text settings.artifactId)),
    ("name", settings.name.map .text)]

def Project.slots (project : Project) : List (String × Option Value) :=
  [("settings", project.settings.map Coordinates.toJson), ("entities", some (.list (project.entities.map Entity.toJson))),
    ("relations", some (.list (project.relations.map Relation.toJson))),
    ("dataObjects", some (.list (project.dataObjects.map DataObject.toJson))),
    ("mappers", some (.list (project.mappers.map Mapper.toJson)))]

theorem Constraint.toJson_eq (constraint : Constraint) : constraint.toJson = .object (presentMembers constraint.slots) := by
  simp [Constraint.toJson, presentMembers, Constraint.slots, presentMember]

theorem Field.toJson_eq (field : Field) : field.toJson = .object (presentMembers field.slots) := by
  simp only [Field.toJson, presentMembers, Field.slots, List.flatMap_cons, List.flatMap_nil, List.append_nil]
  split <;> simp [presentMember]

theorem Entity.toJson_eq (entity : Entity) : entity.toJson = .object (presentMembers entity.slots) := rfl

theorem Relation.toJson_eq (relation : Relation) : relation.toJson = .object (presentMembers relation.slots) := by
  simp [Relation.toJson, presentMembers, Relation.slots, presentMember]

theorem DataObject.toJson_eq (object : DataObject) : object.toJson = .object (presentMembers object.slots) := by
  simp [DataObject.toJson, presentMembers, DataObject.slots, presentMember]

theorem FieldMapping.toJson_eq (mapping : FieldMapping) : mapping.toJson = .object (presentMembers mapping.slots) := rfl

theorem Mapper.toJson_eq (mapper : Mapper) : mapper.toJson = .object (presentMembers mapper.slots) := rfl

theorem Coordinates.toJson_eq (settings : Coordinates) : settings.toJson = .object (presentMembers settings.slots) := by
  simp [Coordinates.toJson, presentMembers, Coordinates.slots, presentMember]

theorem Project.toJson_eq (project : Project) : project.toJson = .object (presentMembers project.slots) := by
  simp [Project.toJson, presentMembers, Project.slots, presentMember]

/-! The keys are always the same ones, each of them once. -/

theorem Constraint.nodup_slots (constraint : Constraint) : (constraint.slots.map (·.1)).Nodup := by
  exact (by decide : ["name", "value", "value2"].Nodup)

theorem Field.nodup_slots (field : Field) : (field.slots.map (·.1)).Nodup := by
  exact (by decide : ["name", "type", "maxLength", "primaryKey", "required", "unique", "jsonProperty",
    "constraints"].Nodup)

theorem Entity.nodup_slots (entity : Entity) : (entity.slots.map (·.1)).Nodup := by
  exact (by decide : ["name", "fields", "mappedSuperclass", "addRestEndpoints", "addCrudOperations",
    "auditable", "softDelete", "immutable", "naturalIdCache"].Nodup)

theorem Relation.nodup_slots (relation : Relation) : (relation.slots.map (·.1)).Nodup := by
  exact (by decide : ["sourceEntity", "targetEntity", "sourceFieldName", "relationType", "targetFieldName",
    "required"].Nodup)

theorem DataObject.nodup_slots (object : DataObject) : (object.slots.map (·.1)).Nodup := by
  exact (by decide : ["name", "dtoType", "fields", "classMethods", "responseWrapper", "enableFieldProjection",
    "includeHateoasLinks"].Nodup)

theorem FieldMapping.nodup_slots (mapping : FieldMapping) : (mapping.slots.map (·.1)).Nodup := by
  exact (by decide : ["sourceField", "targetField"].Nodup)

theorem Mapper.nodup_slots (mapper : Mapper) : (mapper.slots.map (·.1)).Nodup := by
  exact (by decide : ["name", "fromModel", "toModel", "mappings"].Nodup)

theorem Coordinates.nodup_slots (settings : Coordinates) : (settings.slots.map (·.1)).Nodup := by
  exact (by decide : ["groupId", "artifactId", "name"].Nodup)

theorem Project.nodup_slots (project : Project) : (project.slots.map (·.1)).Nodup := by
  exact (by decide : ["settings", "entities", "relations", "dataObjects", "mappers"].Nodup)

end DomainModel
