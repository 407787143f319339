import DomainModel.Proofs.JsonTexts
import DomainModel.Proofs.SchemaAgreement
import DomainModel.Proofs.WrittenObjects
import DomainModel.Model.Decode
import DomainModel.Schema.Project

/-! What is written for a model fits the schema, and read again it is the model. Both go up from the attributes of a
record to the record: an attribute that is present is written as a value that fits its schema and stands for the
attribute, and one that is left out is read as its default. -/

namespace DomainModel

open Json (Value Document Shape Slot)
open Schema (Fits FitsAny AnyFormat WordFormat PropertiesFit)

/-! ### Values that fit -/

/-- A value as it is written: it fits the schema and its formats, and it can be given as a text. -/
structure Sound (schema : Schema) (value : Value) : Prop where
  fits : Fits WordFormat schema value
  distinct : value.hasDistinctKeys = true
  words : value.hasWords = true

/-- An attribute as it is written: if it is there, its value is sound. -/
def SlotSound (properties : List (String × Schema)) (slot : String × Option Value) : Prop :=
  ∀ value, slot.2 = some value → ∃ schema, properties.lookup slot.1 = some schema ∧ Sound schema value

section Slots
variable {properties : List (String × Schema)} {key : String} {schema : Schema}

theorem SlotSound.present (hlookup : properties.lookup key = some schema) {value : Value} (h : Sound schema value) :
    SlotSound properties (key, some value) := by
  rintro _ ⟨⟩
  exact ⟨schema, hlookup, h⟩

theorem SlotSound.ofOption (hlookup : properties.lookup key = some schema) {α : Type} {write : α → Value}
    (h : ∀ a, Sound schema (write a)) (a? : Option α) : SlotSound properties (key, a?.map write) := by
  intro value hvalue
  obtain ⟨a, -, rfl⟩ := Option.map_eq_some_iff.1 hvalue
  exact ⟨schema, hlookup, h a⟩

end Slots

namespace Sound
variable {notes : SchemaNotes}

theorem text (text : String) : Sound (.scalar notes [.text]) (.text text) := ⟨rfl, rfl, rfl⟩

theorem textOrNull (text : String) : Sound (.scalar notes [.text, .null]) (.text text) := ⟨rfl, rfl, rfl⟩

theorem flag (flag : Bool) : Sound (.scalar notes [.bool]) (.bool flag) := ⟨rfl, rfl, rfl⟩

theorem length (n : UInt32) : Sound (.count [.integer, .null] "uint32") (.number (.integer n.toNat)) where
  fits := by
    have hbound : n.toNat < 0x100000000 := n.toNat_lt
    refine ⟨rfl, ?_, fun _ => ?_⟩
    · rintro _ ⟨⟩
      exact decide_eq_false (Int.not_lt.2 (Int.natCast_nonneg n.toNat))
    · rintro _ ⟨⟩
      exact ⟨n.toNat, rfl, Int.natCast_nonneg _, by omega⟩
  distinct := rfl
  words := by
    have hbound : n.toNat < 0x100000000 := n.toNat_lt
    rw [Value.hasWords, decide_eq_true_iff, Json.FitsWord]
    omega

theorem direction (direction : Direction) : Sound Schema.direction (.text direction.toText) where
  fits := by cases direction <;> simp [Schema.direction, Fits, Direction.toText]
  distinct := rfl
  words := rfl

theorem listOf {item : Schema} {α : Type} {write : α → Value} (h : ∀ a, Sound item (write a)) (items : List α) :
    Sound (.list notes item) (.list (items.map write)) where
  fits := ⟨_, rfl, List.forall_mem_map.2 fun a _ => (h a).fits⟩
  distinct := Value.hasDistinctKeys_list.2 (List.forall_mem_map.2 fun a _ => (h a).distinct)
  words := Value.hasWords_list.2 (List.forall_mem_map.2 fun a _ => (h a).words)

theorem named {name : String} {schema : Schema} {value : Value} (h : Sound schema value) :
    Sound (.named name schema) value :=
  ⟨by rw [Fits]; exact h.fits, h.distinct, h.words⟩

theorem orNull {schema : Schema} {value : Value} (h : Sound schema value) :
    Sound (.anyOf [schema, .scalar notes [.null]]) value :=
  ⟨by rw [Fits, FitsAny]; exact .inl h.fits, h.distinct, h.words⟩

theorem record {required : List String} {properties : List (String × Schema)} {slots : List (String × Option Value)}
    (hproperties : (properties.map (·.1)).Nodup) (hnodup : (slots.map (·.1)).Nodup)
    (hrequired : ∀ key ∈ required, ∃ value, (key, some value) ∈ slots)
    (hslots : ∀ slot ∈ slots, SlotSound properties slot) :
    Sound (.record notes required properties) (.object (presentMembers slots)) where
  fits := by
    refine ⟨_, rfl, fun key hkey => ?_, Schema.propertiesFit_iff.2 fun key schema hmem value hvalue => ?_⟩
    · obtain ⟨value, hvalue⟩ := hrequired key hkey
      rw [member?_presentMembers hnodup hvalue, Option.isSome_some]
    · have hslot := mem_presentMembers.1 (Json.mem_of_lookup hvalue)
      obtain ⟨own, hown, hsound⟩ := hslots _ hslot value rfl
      rw [← Json.eq_of_lookup hproperties hown hmem]
      exact hsound.fits
  distinct := by
    refine Value.hasDistinctKeys_object.2 ⟨(keys_presentMembers_sublist slots).nodup hnodup, ?_⟩
    rintro ⟨key, value⟩ hmem
    obtain ⟨_, -, hsound⟩ := hslots _ (mem_presentMembers.1 hmem) value rfl
    exact hsound.distinct
  words := by
    refine Value.hasWords_object.2 ?_
    rintro ⟨key, value⟩ hmem
    obtain ⟨_, -, hsound⟩ := hslots _ (mem_presentMembers.1 hmem) value rfl
    exact hsound.words

end Sound

/-! ### What is written is sound -/

theorem Constraint.sound (constraint : Constraint) : Sound Schema.constraint constraint.toJson := by
  rw [constraint.toJson_eq]
  refine .named (.record (by decide) constraint.nodup_slots (by simp [Constraint.slots]) ?_)
  simp only [Constraint.slots, List.forall_mem_cons]
  exact ⟨.present rfl (.text _), .ofOption rfl .textOrNull _, .ofOption rfl .textOrNull _, List.forall_mem_nil _⟩

theorem Field.sound (field : Field) : Sound Schema.field field.toJson := by
  rw [field.toJson_eq]
  refine .named (.record (by decide) field.nodup_slots (by simp [Field.slots]) ?_)
  simp only [Field.slots, List.forall_mem_cons]
  refine ⟨.present rfl (.text _), .present rfl (.text _), .ofOption rfl .length _, .present rfl (.flag _),
    .present rfl (.flag _), .present rfl (.flag _), .ofOption rfl .textOrNull _, ?_, List.forall_mem_nil _⟩
  split
  · rintro _ ⟨⟩
  · exact .present rfl (.listOf Constraint.sound _)

theorem Entity.sound (entity : Entity) : Sound Schema.entity entity.toJson := by
  rw [entity.toJson_eq]
  refine .named (.record (by decide) entity.nodup_slots (by simp [Entity.slots]) ?_)
  simp only [Entity.slots, List.forall_mem_cons]
  exact ⟨.present rfl (.text _), .present rfl (.listOf Field.sound _), .present rfl (.flag _), .present rfl (.flag _),
    .present rfl (.flag _), .present rfl (.flag _), .present rfl (.flag _), .present rfl (.flag _),
    .present rfl (.flag _), List.forall_mem_nil _⟩

theorem Relation.sound (relation : Relation) : Sound Schema.relation relation.toJson := by
  rw [relation.toJson_eq]
  refine .named (.record (by decide) relation.nodup_slots (by simp [Relation.slots]) ?_)
  simp only [Relation.slots, List.forall_mem_cons]
  exact ⟨.present rfl (.text _), .present rfl (.text _), .present rfl (.text _), .present rfl (.text _),
    .ofOption rfl .textOrNull _, .present rfl (.flag _), List.forall_mem_nil _⟩

theorem DataObject.sound (object : DataObject) : Sound Schema.dataObject object.toJson := by
  rw [object.toJson_eq]
  refine .named (.record (by decide) object.nodup_slots (by simp [DataObject.slots]) ?_)
  simp only [DataObject.slots, List.forall_mem_cons]
  exact ⟨.present rfl (.text _), .present rfl (.direction _), .present rfl (.listOf Field.sound _),
    .present rfl (.flag _), .ofOption rfl .textOrNull _, .present rfl (.flag _), .present rfl (.flag _),
    List.forall_mem_nil _⟩

theorem FieldMapping.sound (mapping : FieldMapping) : Sound Schema.fieldMapping mapping.toJson := by
  rw [mapping.toJson_eq]
  refine .named (.record (by decide) mapping.nodup_slots (by simp [FieldMapping.slots]) ?_)
  simp only [FieldMapping.slots, List.forall_mem_cons]
  exact ⟨.present rfl (.text _), .present rfl (.text _), List.forall_mem_nil _⟩

theorem Mapper.sound (mapper : Mapper) : Sound Schema.mapper mapper.toJson := by
  rw [mapper.toJson_eq]
  refine .named (.record (by decide) mapper.nodup_slots (by simp [Mapper.slots]) ?_)
  simp only [Mapper.slots, List.forall_mem_cons]
  exact ⟨.present rfl (.text _), .present rfl (.text _), .present rfl (.text _),
    .present rfl (.listOf FieldMapping.sound _), List.forall_mem_nil _⟩

theorem Coordinates.sound (settings : Coordinates) : Sound Schema.coordinates settings.toJson := by
  rw [settings.toJson_eq]
  refine .named (.record (by decide) settings.nodup_slots (by simp [Coordinates.slots]) ?_)
  simp only [Coordinates.slots, List.forall_mem_cons]
  exact ⟨.present rfl (.text _), .present rfl (.text _), .ofOption rfl .textOrNull _, List.forall_mem_nil _⟩

theorem Project.sound (project : Project) : Sound Schema.project project.toJson := by
  rw [project.toJson_eq]
  refine .record (by decide) project.nodup_slots (List.forall_mem_nil _) ?_
  simp only [Project.slots, List.forall_mem_cons]
  exact ⟨.ofOption rfl (fun settings => .orNull (Coordinates.sound settings)) _, .present rfl (.listOf Entity.sound _),
    .present rfl (.listOf Relation.sound _), .present rfl (.listOf DataObject.sound _),
    .present rfl (.listOf Mapper.sound _), List.forall_mem_nil _⟩

/-- **Every project that is written passes the structural check.** -/
theorem Project.accepted_toJson (project : Project) : (Schema.check Schema.project project.toJson).isOk = true :=
  Schema.isOk_check_iff.2 project.sound.fits.anyFormat

/-! ### What is written is read again -/

section Parts
variable {α β : Type} {shape : Shape β} {slots : List (String × Option Value)} {key : String} {place : Nat}

/-- What is read under a key of a record that is written. -/
theorem part_presentMembers (hnodup : (slots.map (·.1)).Nodup) {value? : Option Value}
    (hlookup : slots.lookup key = some value?) (default : β) :
    shape.part default (.ofValue (.object (presentMembers slots))) place key =
      (value?.map fun value => shape.build (.ofValue value)).getD default := by
  rw [Shape.part, Document.ofValue, Document.part?, Document.member?_ofMembers,
    member?_presentMembers hnodup (Json.mem_of_lookup hlookup)]
  cases value? with
  | none => rfl
  | some value => rfl

theorem part_present (hnodup : (slots.map (·.1)).Nodup) {value : Value} (hlookup : slots.lookup key = some (some value))
    {default b : β} (h : shape.build (.ofValue value) = b) :
    shape.part default (.ofValue (.object (presentMembers slots))) place key = b := by
  rw [part_presentMembers hnodup hlookup, ← h]
  rfl

theorem part_ofOption (hnodup : (slots.map (·.1)).Nodup) {write : β → Value} {b? : Option β}
    (hlookup : slots.lookup key = some (b?.map write))
    (h : ∀ b, write b ≠ .null ∧ shape.build (.ofValue (write b)) = b) :
    shape.optional.part none (.ofValue (.object (presentMembers slots))) place key = b? := by
  rw [part_presentMembers hnodup hlookup]
  cases b? with
  | none => rfl
  | some b =>
      have hnull : Document.ofValue (write b) ≠ .null := Document.ofValue_ne_null (h b).1
      rw [Option.map_some, Option.map_some, Option.getD_some, Shape.optional_build hnull, (h b).2]

theorem build_listOf {read : α → β} {write : α → Value} {items : List α}
    (h : ∀ a, shape.build (.ofValue (write a)) = read a) :
    shape.listOf.build (.ofValue (.list (items.map write))) = items.map read := by
  rw [Document.ofValue, Document.ofValues_eq_map]
  show ((items.map write).map Document.ofValue).map shape.build = items.map read
  rw [List.map_map, List.map_map]
  exact List.map_congr_left fun a _ => h a

theorem build_listOf_self {write : β → Value} {items : List β} (h : ∀ b, shape.build (.ofValue (write b)) = b) :
    shape.listOf.build (.ofValue (.list (items.map write))) = items := by
  rw [build_listOf h, List.map_id']

end Parts

theorem build_map {α β : Type} {shape : Shape α} {f : α → β} {doc : Document} :
    (shape.map f).build doc = f (shape.build doc) := rfl

theorem build_text (text : String) : Shape.text.build (.ofValue (.text text)) = text := rfl

theorem build_word (n : UInt32) : Shape.word.build (.ofValue (.number (.integer n.toNat))) = n := by
  show UInt32.ofNat ((n.toNat : Int).toNat) = n
  rw [Int.toNat_natCast, UInt32.ofNat_toNat]

theorem Constraint.build_toJson (constraint : Constraint) :
    Constraint.shape.build (.ofValue constraint.toJson) = constraint := by
  have hnodup := constraint.nodup_slots
  rw [constraint.toJson_eq]
  obtain ⟨name, value, value2⟩ := constraint
  simp only [Constraint.shape, Shape.record, Constraint.mk.injEq]
  exact ⟨part_present hnodup rfl rfl, part_ofOption hnodup rfl fun _ => ⟨nofun, rfl⟩,
    part_ofOption hnodup rfl fun _ => ⟨nofun, rfl⟩⟩

theorem Field.build_toJson (field : Field) : Field.shape.build (.ofValue field.toJson) = field := by
  have hnodup := field.nodup_slots
  rw [field.toJson_eq]
  obtain ⟨name, typeName, maxLength, primaryKey, required, unique, jsonProperty, constraints⟩ := field
  simp only [Field.shape, Shape.record, Field.mk.injEq]
  refine ⟨part_present hnodup rfl rfl, part_present hnodup rfl rfl,
    part_ofOption hnodup rfl fun n => ⟨nofun, build_word n⟩, part_present hnodup rfl rfl, part_present hnodup rfl rfl,
    part_present hnodup rfl rfl, part_ofOption hnodup rfl fun _ => ⟨nofun, rfl⟩, ?_⟩
  rw [part_presentMembers hnodup rfl]
  -- an empty list is left out, and a list that is left out is read as an empty one
  cases constraints with
  | nil => rfl
  | cons constraint rest => exact build_listOf_self Constraint.build_toJson

theorem Entity.build_toJson (entity : Entity) : Entity.shape.build (.ofValue entity.toJson) = entity := by
  have hnodup := entity.nodup_slots
  rw [entity.toJson_eq]
  obtain ⟨name, fields, mappedSuperclass, addRestEndpoints, addCrudOperations, auditable, softDelete, immutable,
    naturalIdCache⟩ := entity
  simp only [Entity.shape, Shape.record, Entity.mk.injEq]
  exact ⟨part_present hnodup rfl rfl, part_present hnodup rfl (build_listOf_self Field.build_toJson),
    part_present hnodup rfl rfl, part_present hnodup rfl rfl, part_present hnodup rfl rfl, part_present hnodup rfl rfl,
    part_present hnodup rfl rfl, part_present hnodup rfl rfl, part_present hnodup rfl rfl⟩

/-- The type that its tag is read as. -/
def RelationType.canonical (relationType : RelationType) : RelationType := .parse relationType.toText

theorem RelationType.build_toText (relationType : RelationType) :
    RelationType.shape.build (.ofValue (.text relationType.toText)) = relationType.canonical := by
  rw [RelationType.shape, build_map, build_text, RelationType.canonical]

/-- A relation with the type that its tag is read as. -/
def Relation.canonical (relation : Relation) : Relation :=
  { relation with relationType := relation.relationType.canonical }

theorem Relation.build_toJson (relation : Relation) :
    Relation.shape.build (.ofValue relation.toJson) = relation.canonical := by
  have hnodup := relation.nodup_slots
  rw [relation.toJson_eq]
  obtain ⟨sourceEntity, targetEntity, sourceFieldName, relationType, targetFieldName, required⟩ := relation
  simp only [Relation.shape, Relation.canonical, Shape.record, Relation.mk.injEq]
  exact ⟨part_present hnodup rfl rfl, part_present hnodup rfl rfl, part_present hnodup rfl rfl,
    part_present hnodup rfl (RelationType.build_toText relationType), part_ofOption hnodup rfl fun _ => ⟨nofun, rfl⟩,
    part_present hnodup rfl rfl⟩

theorem Direction.build_toText (direction : Direction) :
    Direction.shape.build (.ofValue (.text direction.toText)) = direction := by
  cases direction with
  | request => rfl
  | response => rfl

theorem DataObject.build_toJson (object : DataObject) : DataObject.shape.build (.ofValue object.toJson) = object := by
  have hnodup := object.nodup_slots
  rw [object.toJson_eq]
  obtain ⟨name, direction, fields, classMethods, responseWrapper, enableFieldProjection, includeHateoasLinks⟩ := object
  simp only [DataObject.shape, Shape.record, DataObject.mk.injEq]
  exact ⟨part_present hnodup rfl rfl, part_present hnodup rfl (Direction.build_toText direction),
    part_present hnodup rfl (build_listOf_self Field.build_toJson), part_present hnodup rfl rfl,
    part_ofOption hnodup rfl fun _ => ⟨nofun, rfl⟩, part_present hnodup rfl rfl, part_present hnodup rfl rfl⟩

theorem FieldMapping.build_toJson (mapping : FieldMapping) :
    FieldMapping.shape.build (.ofValue mapping.toJson) = mapping := by
  have hnodup := mapping.nodup_slots
  rw [mapping.toJson_eq]
  obtain ⟨sourceField, targetField⟩ := mapping
  simp only [FieldMapping.shape, Shape.record, FieldMapping.mk.injEq]
  exact ⟨part_present hnodup rfl rfl, part_present hnodup rfl rfl⟩

theorem Mapper.build_toJson (mapper : Mapper) : Mapper.shape.build (.ofValue mapper.toJson) = mapper := by
  have hnodup := mapper.nodup_slots
  rw [mapper.toJson_eq]
  obtain ⟨name, fromModel, toModel, mappings⟩ := mapper
  simp only [Mapper.shape, Shape.record, Mapper.mk.injEq]
  exact ⟨part_present hnodup rfl rfl, part_present hnodup rfl rfl, part_present hnodup rfl rfl,
    part_present hnodup rfl (build_listOf_self FieldMapping.build_toJson)⟩

theorem Coordinates.build_toJson (settings : Coordinates) :
    Coordinates.shape.build (.ofValue settings.toJson) = settings := by
  have hnodup := settings.nodup_slots
  rw [settings.toJson_eq]
  obtain ⟨groupId, artifactId, name⟩ := settings
  simp only [Coordinates.shape, Shape.record, Coordinates.mk.injEq]
  exact ⟨part_present hnodup rfl rfl, part_present hnodup rfl rfl, part_ofOption hnodup rfl fun _ => ⟨nofun, rfl⟩⟩

/-- A project with each relation of the type that its tag is read as. -/
def Project.canonical (project : Project) : Project :=
  { project with relations := project.relations.map Relation.canonical }

theorem Project.build_toJson (project : Project) : Project.shape.build (.ofValue project.toJson) = project.canonical := by
  have hnodup := project.nodup_slots
  rw [project.toJson_eq]
  obtain ⟨settings, entities, relations, dataObjects, mappers⟩ := project
  simp only [Project.shape, Project.canonical, Shape.record, Project.mk.injEq]
  exact ⟨part_ofOption hnodup rfl fun settings => ⟨nofun, settings.build_toJson⟩,
    part_present hnodup rfl (build_listOf_self Entity.build_toJson),
    part_present hnodup rfl (build_listOf Relation.build_toJson),
    part_present hnodup rfl (build_listOf_self DataObject.build_toJson),
    part_present hnodup rfl (build_listOf_self Mapper.build_toJson)⟩

end DomainModel
