import DomainModel.Command.Execute
import DomainModel.Proofs.SchemaAgreement

/-! The two ways to read a project file. To validate it, it is read as a value, which is checked against the schema
of projects and then read as a project; to import into it, its text is read as a project at once. The schema agrees
with what is read, part by part, but for two things. It passes over the format of the one number that a project has,
so a document may be accepted and not be read. And a value has each key once, so the value of a text may be read
where the text, which repeats a key, is refused. -/

namespace DomainModel

open Json (Value Document Shape)
open Schema (Agrees Fits AnyFormat WordFormat)

/-! ### The schema of each part of a project agrees with its shape -/

theorem Constraint.agrees : Agrees Schema.constraint Constraint.shape := by
  refine .named (.record ⟨by decide, by decide, by decide, ?_⟩ fun doc other h => ?_)
  · simp only [List.forall_mem_cons]
    exact ⟨⟨_, rfl, Agrees.text.fault⟩, ⟨_, rfl, Agrees.optionalText.fault⟩, ⟨_, rfl, Agrees.optionalText.fault⟩,
      List.forall_mem_nil _⟩
  · simp only [Constraint.mk.injEq]
    exact ⟨h "name" _ _ rfl Agrees.text.build, h "value" _ _ rfl Agrees.optionalText.build,
      h "value2" _ _ rfl Agrees.optionalText.build⟩

theorem Field.agrees : Agrees Schema.field Field.shape := by
  refine .named (.record ⟨by decide, by decide, by decide, ?_⟩ fun doc other h => ?_)
  · simp only [List.forall_mem_cons]
    exact ⟨⟨_, rfl, Agrees.text.fault⟩, ⟨_, rfl, Agrees.text.fault⟩, ⟨_, rfl, Agrees.optionalWord.fault⟩,
      ⟨_, rfl, Agrees.flag.fault⟩, ⟨_, rfl, Agrees.flag.fault⟩, ⟨_, rfl, Agrees.flag.fault⟩,
      ⟨_, rfl, Agrees.optionalText.fault⟩, ⟨_, rfl, Constraint.agrees.listOf.fault⟩, List.forall_mem_nil _⟩
  · simp only [Field.mk.injEq]
    exact ⟨h "name" _ _ rfl Agrees.text.build, h "type" _ _ rfl Agrees.text.build,
      h "maxLength" _ _ rfl Agrees.optionalWord.build, h "primaryKey" _ _ rfl Agrees.flag.build,
      h "required" _ _ rfl Agrees.flag.build, h "unique" _ _ rfl Agrees.flag.build,
      h "jsonProperty" _ _ rfl Agrees.optionalText.build, h "constraints" _ _ rfl Constraint.agrees.listOf.build⟩

theorem Entity.agrees : Agrees Schema.entity Entity.shape := by
  refine .named (.record ⟨by decide, by decide, by decide, ?_⟩ fun doc other h => ?_)
  · simp only [List.forall_mem_cons]
    exact ⟨⟨_, rfl, Agrees.text.fault⟩, ⟨_, rfl, Field.agrees.listOf.fault⟩, ⟨_, rfl, Agrees.flag.fault⟩,
      ⟨_, rfl, Agrees.flag.fault⟩, ⟨_, rfl, Agrees.flag.fault⟩, ⟨_, rfl, Agrees.flag.fault⟩,
      ⟨_, rfl, Agrees.flag.fault⟩, ⟨_, rfl, Agrees.flag.fault⟩, ⟨_, rfl, Agrees.flag.fault⟩, List.forall_mem_nil _⟩
  · simp only [Entity.mk.injEq]
    exact ⟨h "name" _ _ rfl Agrees.text.build, h "fields" _ _ rfl Field.agrees.listOf.build,
      h "mappedSuperclass" _ _ rfl Agrees.flag.build, h "addRestEndpoints" _ _ rfl Agrees.flag.build,
      h "addCrudOperations" _ _ rfl Agrees.flag.build, h "auditable" _ _ rfl Agrees.flag.build,
      h "softDelete" _ _ rfl Agrees.flag.build, h "immutable" _ _ rfl Agrees.flag.build,
      h "naturalIdCache" _ _ rfl Agrees.flag.build⟩

theorem RelationType.agrees {notes : SchemaNotes} : Agrees (.scalar notes [.text]) RelationType.shape :=
  Agrees.text.map RelationType.parse

theorem Relation.agrees : Agrees Schema.relation Relation.shape := by
  refine .named (.record ⟨by decide, by decide, by decide, ?_⟩ fun doc other h => ?_)
  · simp only [List.forall_mem_cons]
    exact ⟨⟨_, rfl, Agrees.text.fault⟩, ⟨_, rfl, Agrees.text.fault⟩, ⟨_, rfl, Agrees.text.fault⟩,
      ⟨_, rfl, RelationType.agrees.fault⟩, ⟨_, rfl, Agrees.optionalText.fault⟩, ⟨_, rfl, Agrees.flag.fault⟩,
      List.forall_mem_nil _⟩
  · simp only [Relation.mk.injEq]
    exact ⟨h "sourceEntity" _ _ rfl Agrees.text.build, h "targetEntity" _ _ rfl Agrees.text.build,
      h "sourceFieldName" _ _ rfl Agrees.text.build, h "relationType" _ _ rfl RelationType.agrees.build,
      h "targetFieldName" _ _ rfl Agrees.optionalText.build, h "required" _ _ rfl Agrees.flag.build⟩

theorem Direction.agrees : Agrees Schema.direction Direction.shape := Agrees.named (.oneOf rfl)

theorem DataObject.agrees : Agrees Schema.dataObject DataObject.shape := by
  refine .named (.record ⟨by decide, by decide, by decide, ?_⟩ fun doc other h => ?_)
  · simp only [List.forall_mem_cons]
    exact ⟨⟨_, rfl, Agrees.text.fault⟩, ⟨_, rfl, Direction.agrees.fault⟩, ⟨_, rfl, Field.agrees.listOf.fault⟩,
      ⟨_, rfl, Agrees.flag.fault⟩, ⟨_, rfl, Agrees.optionalText.fault⟩, ⟨_, rfl, Agrees.flag.fault⟩,
      ⟨_, rfl, Agrees.flag.fault⟩, List.forall_mem_nil _⟩
  · simp only [DataObject.mk.injEq]
    exact ⟨h "name" _ _ rfl Agrees.text.build, h "dtoType" _ _ rfl Direction.agrees.build,
      h "fields" _ _ rfl Field.agrees.listOf.build, h "classMethods" _ _ rfl Agrees.flag.build,
      h "responseWrapper" _ _ rfl Agrees.optionalText.build, h "enableFieldProjection" _ _ rfl Agrees.flag.build,
      h "includeHateoasLinks" _ _ rfl Agrees.flag.build⟩

theorem FieldMapping.agrees : Agrees Schema.fieldMapping FieldMapping.shape := by
  refine .named (.record ⟨by decide, by decide, by decide, ?_⟩ fun doc other h => ?_)
  · simp only [List.forall_mem_cons]
    exact ⟨⟨_, rfl, Agrees.text.fault⟩, ⟨_, rfl, Agrees.text.fault⟩, List.forall_mem_nil _⟩
  · simp only [FieldMapping.mk.injEq]
    exact ⟨h "sourceField" _ _ rfl Agrees.text.build, h "targetField" _ _ rfl Agrees.text.build⟩

theorem Mapper.agrees : Agrees Schema.mapper Mapper.shape := by
  refine .named (.record ⟨by decide, by decide, by decide, ?_⟩ fun doc other h => ?_)
  · simp only [List.forall_mem_cons]
    exact ⟨⟨_, rfl, Agrees.text.fault⟩, ⟨_, rfl, Agrees.text.fault⟩, ⟨_, rfl, Agrees.text.fault⟩,
      ⟨_, rfl, FieldMapping.agrees.listOf.fault⟩, List.forall_mem_nil _⟩
  · simp only [Mapper.mk.injEq]
    exact ⟨h "name" _ _ rfl Agrees.text.build, h "fromModel" _ _ rfl Agrees.text.build,
      h "toModel" _ _ rfl Agrees.text.build, h "mappings" _ _ rfl FieldMapping.agrees.listOf.build⟩

theorem Coordinates.agrees : Agrees Schema.coordinates Coordinates.shape := by
  refine .named (.record ⟨by decide, by decide, by decide, ?_⟩ fun doc other h => ?_)
  · simp only [List.forall_mem_cons]
    exact ⟨⟨_, rfl, Agrees.text.fault⟩, ⟨_, rfl, Agrees.text.fault⟩, ⟨_, rfl, Agrees.optionalText.fault⟩,
      List.forall_mem_nil _⟩
  · simp only [Coordinates.mk.injEq]
    exact ⟨h "groupId" _ _ rfl Agrees.text.build, h "artifactId" _ _ rfl Agrees.text.build,
      h "name" _ _ rfl Agrees.optionalText.build⟩

theorem Project.agrees : Agrees Schema.project Project.shape := by
  refine .record ⟨by decide, by decide, by decide, ?_⟩ fun doc other h => ?_
  · simp only [List.forall_mem_cons]
    exact ⟨⟨_, rfl, Coordinates.agrees.orNull.fault⟩, ⟨_, rfl, Entity.agrees.listOf.fault⟩,
      ⟨_, rfl, Relation.agrees.listOf.fault⟩, ⟨_, rfl, DataObject.agrees.listOf.fault⟩,
      ⟨_, rfl, Mapper.agrees.listOf.fault⟩, List.forall_mem_nil _⟩
  · simp only [Project.mk.injEq]
    exact ⟨h "settings" _ _ rfl Coordinates.agrees.orNull.build, h "entities" _ _ rfl Entity.agrees.listOf.build,
      h "relations" _ _ rfl Relation.agrees.listOf.build, h "dataObjects" _ _ rfl DataObject.agrees.listOf.build,
      h "mappers" _ _ rfl Mapper.agrees.listOf.build⟩

/-! ### Documents that are accepted -/

/-- The items of the list under a key; none where there is no list. -/
def Json.Value.itemsUnder (value : Value) (key : String) : List Value :=
  ((value.get? key).bind Value.items?).getD []

/-- The lengths that a project document states for the fields of its entities and data objects. -/
def statedLengths (document : Value) : List Value :=
  (document.itemsUnder "entities" ++ document.itemsUnder "dataObjects").flatMap fun owner =>
    (owner.itemsUnder "fields").filterMap (·.get? "maxLength")

/-- A number of 32 bits that is not written with a fraction or an exponent, or `null`. -/
def IsLength (length : Value) : Prop := length = .null ∨ ∃ n : Nat, n < 0x100000000 ∧ length = .number (.integer n)

namespace Schema

theorem fits_length_iff {length : Value} :
    Fits WordFormat (.count [.integer, .null] "uint32") length ↔ IsLength length := by
  simp only [Fits, WordFormat, IsLength, forall_const]
  constructor
  · rintro ⟨haccepts, -, hword⟩
    cases length with
    | null => exact .inl rfl
    | number n =>
        obtain ⟨k, rfl, hnonneg, hbound⟩ := hword n rfl
        exact .inr ⟨k.toNat, by omega, by rw [Int.toNat_of_nonneg hnonneg]⟩
    | _ => simp [ValueKind.accepts] at haccepts
  · rintro (rfl | ⟨n, hn, rfl⟩)
    · simp [ValueKind.accepts]
    · refine ⟨rfl, ?_, ?_⟩
      · rintro _ ⟨⟩
        exact decide_eq_false (Int.not_lt.2 (Int.natCast_nonneg n))
      · rintro _ ⟨⟩
        exact ⟨n, rfl, by omega, by omega⟩

theorem fits_field_iff {field : Value} (h : Fits AnyFormat Schema.field field) :
    Fits WordFormat Schema.field field ↔ ∀ length, field.get? "maxLength" = some length → IsLength length := by
  rw [Schema.field, Fits] at h ⊢
  rw [fits_record_iff h]
  show (∀ property ∈ [("maxLength", Schema.count [.integer, .null] "uint32")], _) ↔ _
  simp only [List.forall_mem_singleton, fits_length_iff]

section Lists
variable {obeys : String → Value → Prop} {notes : SchemaNotes} {required : List String}
  {properties : List (String × Schema)} {value : Value}

theorem fits_of_mem_itemsUnder (h : Fits obeys (.record notes required properties) value) {key : String}
    {listNotes : SchemaNotes} {item : Schema} (hmem : (key, .list listNotes item) ∈ properties) :
    ∀ inner ∈ value.itemsUnder key, Fits obeys item inner := by
  obtain ⟨members, rfl, -, hfits⟩ := h
  intro inner hinner
  cases hheld : Json.member? members key with
  | none => simp [Json.Value.itemsUnder, Json.Value.get?, hheld] at hinner
  | some held =>
      obtain ⟨items, rfl, hitems⟩ := propertiesFit_iff.1 hfits key _ hmem held hheld
      simp only [Json.Value.itemsUnder, Json.Value.get?, hheld, Json.Value.items?, Option.bind_some,
        Option.getD_some] at hinner
      exact hitems inner hinner

/-- Where the properties that state formats are lists, a record fits when the items of these lists do. -/
theorem fits_lists_iff (h : Fits AnyFormat (.record notes required properties) value)
    (lists : List (String × SchemaNotes × Schema))
    (hlists : properties.filter (statesFormat ·.2) = lists.map fun list => (list.1, .list list.2.1 list.2.2)) :
    Fits obeys (.record notes required properties) value ↔
      ∀ list ∈ lists, ∀ inner ∈ value.itemsUnder list.1, Fits obeys list.2.2 inner := by
  have hproperty : ∀ list ∈ lists, (list.1, Schema.list list.2.1 list.2.2) ∈ properties := fun list hlist =>
    List.mem_of_mem_filter (hlists ▸ List.mem_map_of_mem hlist)
  constructor
  · exact fun hfits list hlist => fits_of_mem_itemsUnder hfits (hproperty list hlist)
  · intro hitems
    rw [fits_record_iff h, hlists, List.forall_mem_map]
    intro list hlist inner hinner
    obtain ⟨members, rfl, -, hmembers⟩ := h
    obtain ⟨items, rfl, -⟩ := propertiesFit_iff.1 hmembers _ _ (hproperty list hlist) inner hinner
    refine ⟨items, rfl, fun item hitem => hitems list hlist item ?_⟩
    rwa [Json.Value.itemsUnder, hinner]

end Lists

/-- The fields of an owner fit when the lengths that they state do. -/
theorem fits_fields_iff {owner : Value} (h : ∀ field ∈ owner.itemsUnder "fields", Fits AnyFormat Schema.field field) :
    (∀ field ∈ owner.itemsUnder "fields", Fits WordFormat Schema.field field) ↔
      ∀ length ∈ (owner.itemsUnder "fields").filterMap (·.get? "maxLength"), IsLength length := by
  simp only [List.mem_filterMap, forall_exists_index, and_imp]
  rw [forall_comm]
  refine forall_congr' fun field => ?_
  rw [forall_comm]
  exact forall_congr' fun hfield => fits_field_iff (h field hfield)

/-- An owner of fields whose schema states formats for these alone. -/
theorem fits_owner_iff {name : String} {notes listNotes : SchemaNotes} {required : List String}
    {properties : List (String × Schema)} {owner : Value}
    (h : Fits AnyFormat (.named name (.record notes required properties)) owner)
    (hfields : properties.filter (statesFormat ·.2) = [("fields", .list listNotes Schema.field)]) :
    Fits WordFormat (.named name (.record notes required properties)) owner ↔
      ∀ length ∈ (owner.itemsUnder "fields").filterMap (·.get? "maxLength"), IsLength length := by
  have hmem : ("fields", Schema.list listNotes Schema.field) ∈ properties :=
    List.mem_of_mem_filter (hfields ▸ List.mem_singleton_self _)
  rw [Fits] at h ⊢
  rw [fits_lists_iff h [("fields", listNotes, Schema.field)] hfields, List.forall_mem_singleton]
  exact fits_fields_iff (fits_of_mem_itemsUnder h hmem)

theorem fits_project_iff {document : Value} (h : Fits AnyFormat Schema.project document) :
    Fits WordFormat Schema.project document ↔ ∀ length ∈ statedLengths document, IsLength length := by
  have hentities : ∀ entity ∈ document.itemsUnder "entities", Fits AnyFormat Schema.entity entity :=
    fits_of_mem_itemsUnder h (Json.mem_of_lookup rfl)
  have hobjects : ∀ object ∈ document.itemsUnder "dataObjects", Fits AnyFormat Schema.dataObject object :=
    fits_of_mem_itemsUnder h (Json.mem_of_lookup rfl)
  refine (fits_lists_iff h [("dataObjects", _, Schema.dataObject), ("entities", _, Schema.entity)] rfl).trans ?_
  rw [List.forall_mem_cons, List.forall_mem_singleton, and_comm, statedLengths, List.forall_mem_flatMap,
    List.forall_mem_append]
  exact and_congr (forall₂_congr fun entity hmem => fits_owner_iff (hentities entity hmem) rfl)
    (forall₂_congr fun object hmem => fits_owner_iff (hobjects object hmem) rfl)

end Schema

/-! ### Reading what is accepted -/

/-- What an accepted document must keep to so that a project is read from it. -/
theorem Project.fault?_ofValue_eq_none_iff {document : Value} (hkeys : document.hasDistinctKeys = true)
    (h : (Schema.check Schema.project document).isOk = true) :
    Project.shape.fault? (.ofValue document) = none ↔ ∀ length ∈ statedLengths document, IsLength length := by
  rw [Schema.isOk_check_iff] at h
  rw [Project.agrees.fault _ _ (Document.toValue?_ofValue document hkeys) h, Schema.fits_project_iff h,
    and_iff_right (Schema.repeatsKey_ofValue Schema.project document hkeys)]

theorem Project.ofJson?_eq_some_iff {document : Value} {project : Project} :
    Project.ofJson? document = some project ↔
      Project.shape.fault? (.ofValue document) = none ∧ Project.shape.build (.ofValue document) = project := by
  rw [Project.ofJson?, Shape.ofValue?, Shape.read]
  cases Project.shape.fault? (.ofValue document) with
  | none => simp [Except.toOption]
  | some fault => simp [Except.toOption]

/-- **Accepted documents that can be read.** A document that passes the structural check is read as a project, and
its validation comes to a report, exactly when each length that it states is a number of 32 bits without fraction
and exponent, or `null`; the check passes greater numbers, and `10.0`. -/
theorem Project.read_of_accepted_iff {document : Value} (hkeys : document.hasDistinctKeys = true)
    (h : (Schema.check Schema.project document).isOk = true) :
    ((∃ project, Project.ofJson? document = some project) ↔ ∀ length ∈ statedLengths document, IsLength length) ∧
      ∀ settings, (∃ report, Command.examine settings document = .ok report) ↔
        ∀ length ∈ statedLengths document, IsLength length := by
  have hread : (∃ project, Project.ofJson? document = some project) ↔
      ∀ length ∈ statedLengths document, IsLength length := by
    simp only [ofJson?_eq_some_iff, exists_and_left, exists_eq', and_true, fault?_ofValue_eq_none_iff hkeys h]
  refine ⟨hread, fun settings => ?_⟩
  rw [← hread, Command.examine, if_pos h]
  cases Project.ofJson? document with
  | none => simp
  | some project => simp

/-- A document of an entity whose one field states a length. -/
def lengthDocument (length : Int) : Value :=
  .object [("entities", .list [.object [("name", .text "A"), ("fields", .list
    [.object [("name", .text "n"), ("type", .text "String"), ("maxLength", .number (.integer length))]])]])]

theorem Project.read_of_accepted_greatestLength :
    (lengthDocument 4294967295).hasDistinctKeys = true ∧
      (Schema.check Schema.project (lengthDocument 4294967295)).isOk = true ∧
        ∃ project, Project.ofJson? (lengthDocument 4294967295) = some project := by
  have hkeys : (lengthDocument 4294967295).hasDistinctKeys = true := by decide +kernel
  have hcheck : (Schema.check Schema.project (lengthDocument 4294967295)).isOk = true := by decide +kernel
  refine ⟨hkeys, hcheck, (Project.read_of_accepted_iff hkeys hcheck).1.2 fun length hlength => ?_⟩
  have honly : statedLengths (lengthDocument 4294967295) = [.number (.integer 4294967295)] := rfl
  rw [honly, List.mem_singleton] at hlength
  exact .inr ⟨4294967295, by decide, hlength⟩

/-- Not every document that passes the structural check is read. -/
theorem Project.not_read_of_accepted : ¬ ∀ document : Value, document.hasDistinctKeys = true →
    (Schema.check Schema.project document).isOk = true → ∃ project, Project.ofJson? document = some project := by
  intro h
  obtain ⟨project, hproject⟩ := h (lengthDocument 4294967296) (by decide +kernel) (by decide +kernel)
  have hnone : Project.ofJson? (lengthDocument 4294967296) = none := by decide +kernel
  rw [hnone] at hproject
  cases hproject

/-! ### The text and its value -/

/-- **The two readers of a text.** Let a text be read by way of its value: the value passes the structural check and
a project is read from it. Then the text itself is read as the same project, unless an object of it has one of
the keys twice that are known there; in that case the text is refused. -/
theorem Project.read_text_of_read_value {text : String} {document : Value} {project : Project}
    (hparse : Json.parse? text = some document) (hcheck : (Schema.check Schema.project document).isOk = true)
    (hread : Project.ofJson? document = some project) :
    (Schema.project.repeatsKey (Document.ofText text).1 = false → Project.read text = .ok project) ∧
      (Schema.project.repeatsKey (Document.ofText text).1 = true → ∃ fault, Project.read text = .error fault) := by
  obtain ⟨doc, htext, hvalue⟩ := Document.ofText_of_parse? hparse
  have hkeys := Document.hasDistinctKeys_of_toValue? doc hvalue
  obtain ⟨hvalid, hbuild⟩ := ofJson?_eq_some_iff.1 hread
  rw [Schema.isOk_check_iff] at hcheck
  -- the value obeys the formats, as a project was read from it
  have hobeys := ((Project.agrees.fault _ _ (Document.toValue?_ofValue document hkeys) hcheck).1 hvalid).2
  have hfault : Project.shape.fault? doc = none ↔ Schema.project.repeatsKey doc = false := by
    rw [Project.agrees.fault doc document hvalue hcheck, and_iff_left hobeys]
  rw [Project.read, Shape.readText_of_ofText htext, htext]
  constructor
  · intro hsingle
    rw [Shape.read_of_fault?_eq_none (hfault.2 hsingle), Project.agrees.build doc document hvalue hcheck hsingle, hbuild]
  · intro hrepeats
    rw [Shape.read]
    cases hnone : Project.shape.fault? doc with
    | none =>
        rw [hfault.1 hnone] at hrepeats
        cases hrepeats
    | some fault => exact ⟨fault, rfl⟩

/-- A text that has a key twice, but one that projects do not know. -/
def annotatedText : String := "\x7b\"notes\": [], \"entities\": [], \"notes\": []\x7d"

/-- Its value. -/
def annotatedDocument : Value := .object [("notes", .list []), ("entities", .list [])]

theorem Project.read_text_annotated : Json.parse? annotatedText = some annotatedDocument ∧
    (Schema.check Schema.project annotatedDocument).isOk = true ∧ Project.ofJson? annotatedDocument = some {} ∧
      Project.read annotatedText = .ok {} := by
  have hparse : Json.parse? annotatedText = some annotatedDocument := by cbv
  have hcheck : (Schema.check Schema.project annotatedDocument).isOk = true := by decide +kernel
  have hread : Project.ofJson? annotatedDocument = some {} := by decide +kernel
  exact ⟨hparse, hcheck, hread, (Project.read_text_of_read_value hparse hcheck hread).1 (by decide +kernel)⟩

/-- A text that has a key twice that projects know. -/
def repeatingText : String := "\x7b\"entities\": [], \"entities\": []\x7d"

/-- Not every text is read where its value is. -/
theorem Project.not_read_text_of_read_value : ¬ ∀ (text : String) (document : Value) (project : Project),
    Json.parse? text = some document → (Schema.check Schema.project document).isOk = true →
      Project.ofJson? document = some project → Project.read text = .ok project := by
  intro h
  have hparse : Json.parse? repeatingText = some (.object [("entities", .list [])]) := by cbv
  have hread := h repeatingText _ {} hparse (by decide +kernel) (by decide +kernel)
  have hrefused : Project.read repeatingText = .error .mismatched := by decide +kernel
  rw [hrefused] at hread
  cases hread

end DomainModel
