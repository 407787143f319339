import DomainModel.Proofs.ExportSpelling
import DomainModel.Proofs.TextCase
import DomainModel.Proofs.WrittenObjects
import Mathlib.Data.List.Forall2

/-! Reading a schema again that was read and written. What is written spells the schema with canonical keys,
so it is read as the same schema when the schema is one that can be spelled. Reading sees to that in all its
ways but one: a field that an object keeps as a bare type is taken as it stands, even when its name or its type
is blank. Such a field is lost, or gets a type, when the schema is read again, and nothing else is. -/

namespace DomainModel

open Json (Value)
open SchemaExport

/-! ### Objects with attributes that may be missing -/

/-- Of the keys of an attribute the object uses only one. -/
def OnlyKey (used keys : List String) (key : String) : Prop := used.Nodup ∧ keys.filter (used.contains ·) = [key]

instance (used keys : List String) (key : String) : Decidable (OnlyKey used keys key) :=
  inferInstanceAs (Decidable (_ ∧ _))

section Slots
variable {slots : List (String × Option Value)} {used : List String} (hused : slots.map (·.1) = used)
  {keys : List String} (key : String) (honly : OnlyKey used keys key)

include hused honly

theorem vacant_others : Vacant (presentMembers slots) (keys.filter (· != key)) := by
  subst hused
  intro other hother value hvalue
  obtain ⟨hmem, hne⟩ := List.mem_filter.1 hother
  have hunused : other ∉ slots.map (·.1) := by
    intro hslot
    have hkept : other ∈ keys.filter ((slots.map (·.1)).contains ·) :=
      List.mem_filter.2 ⟨hmem, List.contains_iff_mem.2 hslot⟩
    rw [honly.2, List.mem_singleton] at hkept
    exact bne_iff_ne.1 hne hkept
  rw [member?_presentMembers_of_not_mem hunused] at hvalue
  cases hvalue

theorem held_presentMembers {spells : Value → Prop} {value : Value} (hmem : (key, some value) ∈ slots)
    (hspells : spells value) : Held (presentMembers slots) keys spells := by
  have hkey : key ∈ keys.filter (used.contains ·) := by rw [honly.2]; exact List.mem_singleton_self key
  have hvacant := vacant_others hused key honly
  subst hused
  exact ⟨key, (List.mem_filter.1 hkey).1, ⟨value, member?_presentMembers honly.1 hmem, hspells⟩, hvacant⟩

theorem vacant_presentMembers (hmem : (key, none) ∈ slots) : Vacant (presentMembers slots) keys := by
  intro other hother value hvalue
  by_cases hsame : other = key
  · subst hused
    rw [hsame, member?_presentMembers honly.1 hmem] at hvalue
    cases hvalue
  · exact vacant_others hused key honly other (List.mem_filter.2 ⟨hother, bne_iff_ne.2 hsame⟩) value hvalue

theorem heldIfAny_presentMembers {α : Type} {spells : α → Value → Prop} (write : α → Value) {a? : Option α}
    (hmem : (key, a?.map write) ∈ slots) (hspells : ∀ a ∈ a?, spells a (write a)) :
    HeldIfAny (presentMembers slots) keys spells a? := by
  cases a? with
  | some a => exact held_presentMembers hused key honly hmem (hspells a rfl)
  | none => exact vacant_presentMembers hused key honly hmem

end Slots

/-! ### What is written spells what is meant -/

theorem spellsName_text {name : String} (h : Text.trim name = name) : SpellsName name (.text name) := ⟨name, rfl, h⟩

theorem Constraint.spells_toJson {constraint : Constraint} (hname : Text.trim constraint.name = constraint.name) :
    SpellsConstraint constraint constraint.toJson := by
  have hused : constraint.slots.map (·.1) = ["name", "value", "value2"] := rfl
  rw [constraint.toJson_eq]
  refine .object (held_presentMembers hused "name" (by decide) ?_ (spellsName_text hname))
    (heldIfAny_presentMembers hused "value" (by decide) .text ?_ fun _ _ => .text)
    (heldIfAny_presentMembers hused "value2" (by decide) .text ?_ fun _ _ => .text)
  all_goals simp [Constraint.slots]

/-- What is read of the names in a field: they have no outer blanks, and the optional one is not blank. -/
structure Trimmed (field : Field) : Prop where
  name : Text.trim field.name = field.name
  typeName : Text.trim field.typeName = field.typeName
  jsonProperty : ∀ name ∈ field.jsonProperty, Text.trim name = name ∧ name ≠ ""
  constraints : ∀ constraint ∈ field.constraints, Text.trim constraint.name = constraint.name

theorem Field.spells_toJson {field : Field} (h : Trimmed field) : IsObject (SpellsField field none) field.toJson := by
  have hused : field.slots.map (·.1) =
      ["name", "type", "maxLength", "primaryKey", "required", "unique", "jsonProperty", "constraints"] := rfl
  have hconstraints : HeldOr [] (presentMembers field.slots) constraintsKeys (SpellsList SpellsConstraint)
      field.constraints := by
    by_cases hempty : field.constraints = []
    · refine .inr ⟨hempty, vacant_presentMembers hused "constraints" (by decide) ?_⟩
      simp [Field.slots, hempty]
    · have hlist : SpellsList SpellsConstraint field.constraints (.list (field.constraints.map Constraint.toJson)) := by
        refine ⟨_, rfl, List.forall₂_map_right_iff.2 (List.forall₂_same.2 fun constraint hconstraint => ?_)⟩
        exact Constraint.spells_toJson (h.constraints constraint hconstraint)
      refine .inl (held_presentMembers hused "constraints" (by decide) ?_ hlist)
      simp [Field.slots, hempty]
  refine ⟨_, field.toJson_eq, ?_⟩
  refine
    { name := .inl (held_presentMembers hused "name" (by decide) ?_ (spellsName_text h.name))
      typeName := .inl (held_presentMembers hused "type" (by decide) ?_ (spellsName_text h.typeName))
      maxLength := heldIfAny_presentMembers hused "maxLength" (by decide) (.number <| .integer ·.toNat) ?_
        fun _ _ => .number
      primaryKey := .inl (held_presentMembers hused "primaryKey" (by decide) ?_ .bool)
      required := .inl (held_presentMembers hused "required" (by decide) ?_ .bool)
      unique := .inl (held_presentMembers hused "unique" (by decide) ?_ .bool)
      jsonProperty := heldIfAny_presentMembers hused "jsonProperty" (by decide) .text ?_
        fun name hname => spellsName_text (h.jsonProperty name hname).1
      constraints := hconstraints }
  all_goals simp [Field.slots]

theorem Entity.spells_toJson {entity : Entity} (hname : Text.trim entity.name = entity.name)
    (hfields : ∀ field ∈ entity.fields, Trimmed field) : IsObject (SpellsEntity entity) entity.toJson := by
  have hused : entity.slots.map (·.1) =
      ["name", "fields", "mappedSuperclass", "addRestEndpoints", "addCrudOperations", "auditable", "softDelete",
        "immutable", "naturalIdCache"] := rfl
  have hlist : SpellsFields entity.fields (.list (entity.fields.map Field.toJson)) := by
    refine .list (List.forall₂_map_right_iff.2 (List.forall₂_same.2 fun field hfield => ?_))
    exact Field.spells_toJson (hfields field hfield)
  refine ⟨_, entity.toJson_eq, ?_⟩
  refine
    { name := held_presentMembers hused "name" (by decide) ?_ (spellsName_text hname)
      fields := .inl (held_presentMembers hused "fields" (by decide) ?_ hlist)
      mappedSuperclass := .inl (held_presentMembers hused "mappedSuperclass" (by decide) ?_ .bool)
      addRestEndpoints := .inl (held_presentMembers hused "addRestEndpoints" (by decide) ?_ .bool)
      addCrudOperations := .inl (held_presentMembers hused "addCrudOperations" (by decide) ?_ .bool)
      auditable := .inl (held_presentMembers hused "auditable" (by decide) ?_ .bool)
      softDelete := .inl (held_presentMembers hused "softDelete" (by decide) ?_ .bool)
      immutable := .inl (held_presentMembers hused "immutable" (by decide) ?_ .bool)
      naturalIdCache := .inl (held_presentMembers hused "naturalIdCache" (by decide) ?_ .bool) }
  all_goals simp [Entity.slots]

/-- What is read of a relation: its ends are names of entities, and its type is that of its tag. -/
structure Resolved (entities : List Entity) (relation : Relation) : Prop where
  source : ∃ entity ∈ entities, entity.name = relation.sourceEntity
  target : ∃ entity ∈ entities, entity.name = relation.targetEntity
  sourceFieldName : Text.trim relation.sourceFieldName = relation.sourceFieldName ∧ relation.sourceFieldName ≠ ""
  relationType : SpellsType relation.relationType (.text relation.relationType.toText)
  targetFieldName : ∀ name ∈ relation.targetFieldName, Text.trim name = name ∧ name ≠ ""

/-- The ends are written exactly as they are named. -/
theorem Relation.spells_toJson {entities : List Entity} {relation : Relation} (h : Resolved entities relation) :
    IsObject (SpellsRelation (fun name value => value = .text name) relation) relation.toJson := by
  have hused : relation.slots.map (·.1) =
      ["sourceEntity", "targetEntity", "sourceFieldName", "relationType", "targetFieldName", "required"] := rfl
  refine ⟨_, relation.toJson_eq, ?_⟩
  refine
    { sourceEntity := held_presentMembers hused "sourceEntity" (by decide) ?_ rfl
      targetEntity := held_presentMembers hused "targetEntity" (by decide) ?_ rfl
      sourceFieldName := .inl (held_presentMembers hused "sourceFieldName" (by decide) ?_
        (spellsName_text h.sourceFieldName.1))
      relationType := .inl (held_presentMembers hused "relationType" (by decide) ?_ h.relationType)
      targetFieldName := heldIfAny_presentMembers hused "targetFieldName" (by decide) .text ?_
        fun name hname => spellsName_text (h.targetFieldName name hname).1
      required := .inl (held_presentMembers hused "required" (by decide) ?_ .bool) }
  all_goals simp [Relation.slots]

/-! ### What is read -/

theorem trim_of_name? {value : Value} {name : String} (h : name? value = some name) :
    Text.trim name = name ∧ name ≠ "" := by
  cases value with
  | text text =>
      rw [name?, Text.nonBlank?] at h
      split at h
      · cases h
      · next hnonblank =>
          cases h
          exact ⟨Text.trim_trim text, fun hempty => hnonblank (String.isEmpty_iff.2 hempty)⟩
  | _ => cases h

theorem trim_of_firstUsable {members : Members} {keys : List String} {name : String}
    (h : firstUsable name? members keys = some name) : Text.trim name = name ∧ name ≠ "" := by
  obtain ⟨key, -, hkey⟩ := List.exists_of_findSome?_eq_some h
  obtain ⟨value, -, hvalue⟩ := Option.bind_eq_some_iff.1 hkey
  exact trim_of_name? hvalue

theorem trim_constraint? {value : Value} {constraint : Constraint} (h : constraint? value = some constraint) :
    Text.trim constraint.name = constraint.name := by
  cases value with
  | text text =>
      cases h
      exact Text.trim_trim text
  | object members =>
      cases h
      dsimp only
      cases hname : firstUsable name? members constraintNameKeys with
      | none => decide
      | some name => exact (trim_of_firstUsable hname).1
  | _ => cases h

theorem trim_of_mem_constraintsOf {members : Members} {constraint : Constraint} (h : constraint ∈ constraintsOf members) :
    Text.trim constraint.name = constraint.name := by
  rw [constraintsOf] at h
  split at h
  · obtain ⟨value, -, hvalue⟩ := List.mem_filterMap.1 h
    exact trim_constraint? hvalue
  · exact absurd h List.not_mem_nil

/-- A field that is read from an object of its own has a name and a type. -/
theorem trimmed_of_field? {members : Members} {key : Option String} {field : Field}
    (h : field? members key = some field) : Trimmed field ∧ field.name ≠ "" ∧ field.typeName ≠ "" := by
  rw [field?] at h
  split at h
  · cases h
  · next name hname =>
      cases h
      have hname : Text.trim name = name ∧ name ≠ "" := by
        rcases Option.or_eq_some_iff.1 hname with hown | ⟨-, hkey⟩
        · exact trim_of_firstUsable hown
        · obtain ⟨text, -, htext⟩ := Option.bind_eq_some_iff.1 hkey
          exact trim_of_name? (show name? (.text text) = some name from htext)
      have htype : ∀ typeName, (firstUsable name? members fieldTypeKeys).getD "String" = typeName →
          Text.trim typeName = typeName ∧ typeName ≠ "" := by
        rintro _ rfl
        cases htype : firstUsable name? members fieldTypeKeys with
        | none => decide
        | some typeName => exact trim_of_firstUsable htype
      exact ⟨⟨hname.1, (htype _ rfl).1, fun _ hproperty => trim_of_firstUsable hproperty, fun _ => trim_of_mem_constraintsOf⟩,
        hname.2, (htype _ rfl).2⟩

/-- Of the fields that are read only a bare type under a key may lack a name or a type. -/
theorem trimmed_of_mem_fieldsOf {value : Value} {field : Field} (h : field ∈ fieldsOf value) :
    Trimmed field ∧ (field.name ≠ "" ∧ field.typeName ≠ "" ∨ ∃ entries key text, value = .object entries ∧
      (key, .text text) ∈ entries ∧ field = { name := Text.trim key, typeName := Text.trim text }) := by
  cases value with
  | list items =>
      obtain ⟨item, -, hitem⟩ := List.mem_filterMap.1 h
      cases item with
      | object members => exact (trimmed_of_field? hitem).imp_right .inl
      | _ => cases hitem
  | object entries =>
      obtain ⟨⟨key, item⟩, hmem, hitem⟩ := List.mem_filterMap.1 h
      cases item with
      | object members => exact (trimmed_of_field? hitem).imp_right .inl
      | text text =>
          cases hitem
          refine ⟨⟨Text.trim_trim key, Text.trim_trim text, nofun, nofun⟩, .inr ⟨entries, key, text, rfl, hmem, rfl⟩⟩
      | _ => cases hitem
  | _ => cases h

theorem mem_fields_entityNamed {name : String} {members : Members} {field : Field} (hne : field ≠ Field.syntheticId) :
    field ∈ (entityNamed name members).fields ↔
      ∃ value, firstUsable anything? members entityFieldsKeys = some value ∧ field ∈ fieldsOf value := by
  have hfields : (entityNamed name members).fields =
      if (((firstUsable anything? members entityFieldsKeys).map fieldsOf).getD []).isEmpty then [Field.syntheticId]
      else ((firstUsable anything? members entityFieldsKeys).map fieldsOf).getD [] := rfl
  rw [hfields]
  cases firstUsable anything? members entityFieldsKeys with
  | none => simp [hne]
  | some value =>
      rw [Option.map_some, Option.getD_some]
      split
      · next hempty => simp [List.isEmpty_iff.1 hempty, hne]
      · simp

theorem trimmed_syntheticId : Trimmed Field.syntheticId ∧ Field.syntheticId.name ≠ "" ∧ Field.syntheticId.typeName ≠ "" :=
  ⟨⟨by decide, by decide, nofun, nofun⟩, by decide, by decide⟩

theorem entity?_eq_some {value : Value} {entity : Entity} (h : entity? value = some entity) :
    ∃ members name, value = .object members ∧ firstUsable name? members entityNameKeys = some name ∧
      entity = entityNamed name members := by
  cases value with
  | object members =>
      obtain ⟨name, hname, rfl⟩ := Option.map_eq_some_iff.1 h
      exact ⟨members, name, rfl, hname, rfl⟩
  | _ => cases h

theorem trimmed_of_mem_entity? {value : Value} {entity : Entity} (h : entity? value = some entity) :
    (Text.trim entity.name = entity.name ∧ entity.name ≠ "") ∧ entity.fields ≠ [] ∧ ∀ field ∈ entity.fields, Trimmed field := by
  obtain ⟨members, name, rfl, hname, rfl⟩ := entity?_eq_some h
  refine ⟨trim_of_firstUsable hname, ?_, fun field hfield => ?_⟩
  · rw [entityNamed]
    dsimp only
    split
    · exact List.cons_ne_nil _ _
    · next hnonempty => exact fun hnil => hnonempty (List.isEmpty_iff.2 hnil)
  · by_cases hsynthetic : field = Field.syntheticId
    · rw [hsynthetic]
      exact trimmed_syntheticId.1
    · obtain ⟨fields, -, hmem⟩ := (mem_fields_entityNamed hsynthetic).1 hfield
      exact (trimmed_of_mem_fieldsOf hmem).1

theorem resolve?_eq_some {entities : List Entity} {text name : String} (h : resolve? entities text = some name) :
    ∃ entity ∈ entities, entity.name = name := by
  obtain ⟨entity, hfound, rfl⟩ := Option.map_eq_some_iff.1 h
  refine ⟨entity, ?_, rfl⟩
  rcases Option.or_eq_some_iff.1 hfound with hexact | ⟨-, halike⟩
  · exact List.mem_of_find?_eq_some hexact
  · exact List.mem_of_find?_eq_some halike

theorem resolve?_of_mem {entities : List Entity} {name : String} (h : ∃ entity ∈ entities, entity.name = name) :
    resolve? entities name = some name := by
  obtain ⟨entity, hentity, hname⟩ := h
  rw [resolve?]
  cases hfound : entities.find? (·.name == name) with
  | some found =>
      have hsame := List.find?_some hfound
      rw [beq_iff_eq] at hsame
      rw [Option.some_or, Option.map_some, hsame]
  | none =>
      rw [List.find?_eq_none] at hfound
      exact absurd (beq_iff_eq.2 hname) (hfound entity hentity)

/-- A tag gives a type, the tag of which gives the same type. -/
theorem spellsType_parse {tag : String} (h : Text.trim tag = tag ∧ tag ≠ "") :
    SpellsType (RelationType.parse tag) (.text (RelationType.parse tag).toText) := by
  have hknown : ∀ relationType : RelationType, Text.trim relationType.toText ≠ "" →
      RelationType.parse (Text.trim relationType.toText) = relationType →
      SpellsType relationType (.text relationType.toText) := fun _ hnonblank hparse => ⟨_, rfl, hnonblank, hparse⟩
  have hother : RelationType.parse tag = .other tag → SpellsType (.other tag) (.text tag) := by
    intro hparse
    exact ⟨tag, rfl, by rw [h.1]; exact h.2, by rw [h.1]; exact hparse⟩
  revert hother
  rw [RelationType.parse]
  split
  · exact fun _ => hknown .oneToOne (by decide) (by decide)
  split
  · exact fun _ => hknown .oneToMany (by decide) (by decide)
  split
  · exact fun _ => hknown .manyToOne (by decide) (by decide)
  split
  · exact fun _ => hknown .manyToMany (by decide) (by decide)
  · exact fun hother => hother rfl

theorem lowerChar_ne_nil (c : Char) : Text.lowerChar c ≠ [] := by
  rw [Text.lowerChar]
  split
  · exact List.cons_ne_nil _ _
  · rcases Text.mapCase_cases Text.lowerRuns Text.lowerSequences c with ⟨row, hrow, heq⟩ | ⟨-, -, n, -, -, heq⟩ | heq
    · have hrows : ∀ row ∈ Text.lowerSequences, row.2 ≠ [] := by decide
      rw [heq]
      exact fun hnil => hrows row hrow (List.map_eq_nil_iff.1 hnil)
    · rw [heq]
      exact List.cons_ne_nil _ _
    · rw [heq]
      exact List.cons_ne_nil _ _

/-- Only the first letter changes, and not to a blank. -/
theorem trim_decapitalize {name : String} (h : Text.trim name = name ∧ name ≠ "") :
    Text.trim (Naming.decapitalize name) = Naming.decapitalize name ∧ Naming.decapitalize name ≠ "" := by
  have htrimmed : Text.trimChars name.toList = name.toList := by rw [← Text.toList_trim, h.1]
  cases hname : name.toList with
  | nil => exact absurd (String.toList_eq_nil_iff.1 hname) h.2
  | cons c rest =>
      rw [hname] at htrimmed
      have hfirst : Text.isBlank c = false := Text.head_trimChars (s := c :: rest) (by rw [htrimmed]; rfl)
      have hchars : (Naming.decapitalize name).toList = Text.lowerChar c ++ rest := by
        rw [Naming.decapitalize, hname, String.toList_ofList]
      have hletter : ∀ d ∈ Text.lowerChar c, Text.isBlank d = false := fun d hd => Text.isBlank_of_mem_lowerChar hfirst hd
      have hhead : ∀ d ∈ (Text.lowerChar c ++ rest).head?, Text.isBlank d = false := by
        intro d hd
        rw [List.head?_append_of_ne_nil _ (lowerChar_ne_nil c)] at hd
        exact hletter d (List.mem_of_mem_head? hd)
      have hlast : ∀ d ∈ (Text.lowerChar c ++ rest).getLast?, Text.isBlank d = false := by
        intro d hd
        cases rest with
        | nil =>
            rw [List.append_nil] at hd
            exact hletter d (List.mem_of_getLast? hd)
        | cons e rest =>
            rw [List.getLast?_append_of_ne_nil _ (List.cons_ne_nil e rest)] at hd
            exact Text.last_trimChars (s := c :: e :: rest) (by rw [htrimmed, List.getLast?_cons_cons]; exact hd)
      refine ⟨?_, fun hempty => ?_⟩
      · rw [← String.toList_inj, Text.toList_trim, hchars, Text.trimChars_eq_self hhead hlast]
      · rw [hempty, String.toList_empty] at hchars
        exact lowerChar_ne_nil c (List.append_eq_nil_iff.1 hchars.symm).1

theorem resolved_of_relation? {allowSelfReference : Bool} {entities : List Entity}
    (hentities : ∀ entity ∈ entities, Text.trim entity.name = entity.name ∧ entity.name ≠ "") {value : Value}
    {relation : Relation} (h : relation? allowSelfReference entities value = some relation) :
    Resolved entities relation ∧ (allowSelfReference = true ∨ relation.sourceEntity ≠ relation.targetEntity) := by
  cases value with
  | object members =>
      rw [relation?] at h
      split at h
      · cases h
      · next source target hends =>
          split at h
          · cases h
          · next hself =>
              cases h
              obtain ⟨_, hsource, hends⟩ := Option.bind_eq_some_iff.1 hends
              obtain ⟨_, htarget, hends⟩ := Option.bind_eq_some_iff.1 hends
              cases hends
              obtain ⟨_, -, hsource⟩ := Option.bind_eq_some_iff.1 hsource
              obtain ⟨_, -, htarget⟩ := Option.bind_eq_some_iff.1 htarget
              have hsource := resolve?_eq_some hsource
              have htarget := resolve?_eq_some htarget
              refine ⟨⟨hsource, htarget, ?_, ?_, fun name hname => trim_of_firstUsable hname⟩, ?_⟩
              · obtain ⟨entity, hentity, rfl⟩ := htarget
                rw [relationBetween]
                dsimp only
                cases hname : firstUsable name? members sourceFieldKeys with
                | none => exact trim_decapitalize (hentities entity hentity)
                | some name => exact trim_of_firstUsable hname
              · rw [relationBetween]
                dsimp only
                cases htag : firstUsable name? members relationTypeKeys with
                | none => exact ⟨_, rfl, by decide, by decide⟩
                | some tag =>
                    rw [Option.map_some, Option.getD_some]
                    exact spellsType_parse (trim_of_firstUsable htag)
              · rw [Bool.and_eq_true, Bool.not_eq_true', beq_iff_eq, not_and] at hself
                by_cases hallow : allowSelfReference = true
                · exact .inl hallow
                · exact .inr (hself (Bool.eq_false_iff.2 hallow))
  | _ => cases h

/-! ### Reading again -/

namespace SchemaExport

/-- What a reading gives: the entities of the export, and its relations between them. -/
theorem read?_eq_some {allowSelfReference : Bool} {root : Value} {schema : ImportedSchema}
    (h : read? allowSelfReference root = some schema) :
    ∃ items, rawEntities? root = some items ∧ schema.entities = items.filterMap entity? ∧
      schema.relations = (rawRelations root).filterMap (relation? allowSelfReference schema.entities) := by
  obtain ⟨items, hitems, rfl⟩ := Option.map_eq_some_iff.1 h
  exact ⟨items, hitems, rfl, rfl⟩

/-- What is read of an entity: a name without outer blanks, and at least one field. -/
theorem trimmed_of_mem_read? {allowSelfReference : Bool} {root : Value} {schema : ImportedSchema}
    (h : read? allowSelfReference root = some schema) {entity : Entity} (hentity : entity ∈ schema.entities) :
    (Text.trim entity.name = entity.name ∧ entity.name ≠ "") ∧
      entity.fields ≠ [] ∧ ∀ field ∈ entity.fields, Trimmed field := by
  obtain ⟨items, -, hentities, -⟩ := read?_eq_some h
  rw [hentities] at hentity
  obtain ⟨item, -, hitem⟩ := List.mem_filterMap.1 hentity
  exact trimmed_of_mem_entity? hitem

theorem resolved_of_mem_read? {allowSelfReference : Bool} {root : Value} {schema : ImportedSchema}
    (h : read? allowSelfReference root = some schema) {relation : Relation} (hrelation : relation ∈ schema.relations) :
    Resolved schema.entities relation ∧
      (allowSelfReference = true ∨ relation.sourceEntity ≠ relation.targetEntity) := by
  obtain ⟨items, -, -, hrelations⟩ := read?_eq_some h
  rw [hrelations] at hrelation
  obtain ⟨item, -, hitem⟩ := List.mem_filterMap.1 hrelation
  exact resolved_of_relation? (fun entity hentity => (trimmed_of_mem_read? h hentity).1) hitem

theorem read?_toJson {allowSelfReference : Bool} (schema : ImportedSchema) :
    read? allowSelfReference schema.toJson =
      some (let entities := (schema.entities.map Entity.toJson).filterMap entity?
        { entities
          relations := (schema.relations.map Relation.toJson).filterMap (relation? allowSelfReference entities) }) :=
  rfl

/-- A schema that was read and whose fields all have a name and a type is read again as it is. -/
theorem read?_toJson_of_named {allowSelfReference : Bool} {root : Value} {schema : ImportedSchema}
    (h : read? allowSelfReference root = some schema)
    (hnamed : ∀ entity ∈ schema.entities, ∀ field ∈ entity.fields, field.name ≠ "" ∧ field.typeName ≠ "") :
    read? allowSelfReference schema.toJson = some schema := by
  have hrereadEntities : (schema.entities.map Entity.toJson).filterMap entity? = schema.entities := by
    refine filterMap_of_spells (List.forall₂_map_right_iff.2 (List.forall₂_same.2 fun entity _ => rfl)) ?_
    rintro entity hmem _ rfl
    obtain ⟨hname, hfields, htrimmed⟩ := trimmed_of_mem_read? h hmem
    obtain ⟨members, hmembers, hspells⟩ := Entity.spells_toJson hname.1 htrimmed
    have hwhole : ∀ field ∈ entity.fields, Named field := fun field hfield =>
      ⟨(hnamed entity hmem field hfield).1, (hnamed entity hmem field hfield).2,
        fun hproperty => ((htrimmed field hfield).jsonProperty "" hproperty).2 rfl⟩
    rw [hmembers, entity?_of_spells hname.2 hfields hwhole hspells]
  have hrereadRelations : (schema.relations.map Relation.toJson).filterMap
      (relation? allowSelfReference schema.entities) = schema.relations := by
    refine filterMap_of_spells (List.forall₂_map_right_iff.2 (List.forall₂_same.2 fun relation _ => rfl)) ?_
    rintro relation hmem _ rfl
    obtain ⟨hresolved, hself⟩ := resolved_of_mem_read? h hmem
    obtain ⟨members, hmembers, hspells⟩ := Relation.spells_toJson hresolved
    have hends : ∀ name, name = relation.sourceEntity ∨ name = relation.targetEntity → ∀ value, value = .text name →
        ∃ text, name? value = some text ∧ resolve? schema.entities text = some name := by
      rintro name hname _ rfl
      have hentityName : ∃ entity ∈ schema.entities, entity.name = name := by
        rcases hname with rfl | rfl
        · exact hresolved.source
        · exact hresolved.target
      refine ⟨name, ?_, resolve?_of_mem hentityName⟩
      obtain ⟨entity, hmem, rfl⟩ := hentityName
      have hname := (trimmed_of_mem_read? h hmem).1
      exact name?_of_spells hname.2 (spellsName_text hname.1)
    rw [hmembers]
    exact relation?_of_spells hends hself hresolved.sourceFieldName.2
      (fun htarget => (hresolved.targetFieldName "" htarget).2 rfl) hspells
  rw [read?_toJson, hrereadEntities]
  dsimp only
  rw [hrereadRelations]

/-- Of a relation that was read both ends are names without outer blanks. -/
theorem ends_of_read? {allowSelfReference : Bool} {root : Value} {schema : ImportedSchema}
    (h : read? allowSelfReference root = some schema) {relation : Relation} (hrelation : relation ∈ schema.relations) :
    (∃ entity ∈ schema.entities, entity.name = relation.sourceEntity ∧ Text.trim entity.name = entity.name) ∧
      ∃ entity ∈ schema.entities, entity.name = relation.targetEntity ∧ Text.trim entity.name = entity.name := by
  obtain ⟨⟨source, hsource, hsourceName⟩, ⟨target, htarget, htargetName⟩, -⟩ := (resolved_of_mem_read? h hrelation).1
  exact ⟨⟨source, hsource, hsourceName, (trimmed_of_mem_read? h hsource).1.1⟩, target, htarget, htargetName,
    (trimmed_of_mem_read? h htarget).1.1⟩

/-- What is read of a written schema has fields with names and types only. -/
theorem named_of_reread {allowSelfReference : Bool} {schema reread : ImportedSchema}
    (h : read? allowSelfReference schema.toJson = some reread) :
    ∀ entity ∈ reread.entities, ∀ field ∈ entity.fields, field.name ≠ "" ∧ field.typeName ≠ "" := by
  intro entity hmem field hfield
  obtain ⟨items, hitems, hentities, -⟩ := read?_eq_some h
  cases hitems
  rw [hentities] at hmem
  obtain ⟨value, hvalue, hread⟩ := List.mem_filterMap.1 hmem
  obtain ⟨written, -, rfl⟩ := List.mem_map.1 hvalue
  obtain ⟨members, name, hmembers, -, rfl⟩ := entity?_eq_some hread
  cases hmembers
  by_cases hsynthetic : field = Field.syntheticId
  · rw [hsynthetic]
    exact trimmed_syntheticId.2
  · obtain ⟨value, hvalue, hmem⟩ := (mem_fields_entityNamed hsynthetic).1 hfield
    cases hvalue
    -- fields are written as a list, where none is a bare type
    rcases (trimmed_of_mem_fieldsOf hmem).2 with hnamed | ⟨entries, key, text, hentries, -⟩
    · exact hnamed
    · cases hentries

/-- Some entity keeps a bare type under its name as a field, and the type or the name is blank. -/
def KeepsBlank (root : Value) : Prop :=
  ∃ items, rawEntities? root = some items ∧ ∃ members, .object members ∈ items ∧
    (firstUsable name? members entityNameKeys).isSome = true ∧
    ∃ entries, firstUsable anything? members entityFieldsKeys = some (.object entries) ∧
      ∃ key text, (key, .text text) ∈ entries ∧ (Text.trim key = "" ∨ Text.trim text = "")

theorem keepsBlank_iff {allowSelfReference : Bool} {root : Value} {schema : ImportedSchema}
    (h : read? allowSelfReference root = some schema) :
    KeepsBlank root ↔ ∃ entity ∈ schema.entities, ∃ field ∈ entity.fields, field.name = "" ∨ field.typeName = "" := by
  obtain ⟨items, hitems, hentities, -⟩ := read?_eq_some h
  rw [hentities]
  constructor
  · rintro ⟨_, hraw, members, hmem, hname, entries, hentries, key, text, hentry, hblank⟩
    cases hitems.symm.trans hraw
    obtain ⟨name, hname⟩ := Option.isSome_iff_exists.1 hname
    refine ⟨entityNamed name members, List.mem_filterMap.2 ⟨_, hmem, ?_⟩,
      { name := Text.trim key, typeName := Text.trim text }, ?_, hblank⟩
    · rw [entity?, hname, Option.map_some]
    · rw [mem_fields_entityNamed (by simp [Field.syntheticId])]
      exact ⟨_, hentries, List.mem_filterMap.2 ⟨_, hentry, rfl⟩⟩
  · rintro ⟨entity, hmem, field, hfield, hblank⟩
    obtain ⟨item, hitem, hread⟩ := List.mem_filterMap.1 hmem
    have hsynthetic : field ≠ Field.syntheticId := by
      rintro rfl
      exact hblank.elim (trimmed_syntheticId.2.1 ·) (trimmed_syntheticId.2.2 ·)
    obtain ⟨members, name, rfl, hname, rfl⟩ := entity?_eq_some hread
    obtain ⟨value, hvalue, hmem⟩ := (mem_fields_entityNamed hsynthetic).1 hfield
    rcases (trimmed_of_mem_fieldsOf hmem).2 with hnamed | ⟨entries, key, text, rfl, hentry, rfl⟩
    · exact absurd hblank (not_or.2 hnamed)
    · exact ⟨items, hitems, members, hitem, by rw [hname]; rfl, entries, hvalue, key, text, hentry, hblank⟩

/-- **A schema that was read and written is read again as it was, unless its export keeps a blank bare type.** -/
theorem reread_eq_iff {allowSelfReference : Bool} {root : Value} {schema : ImportedSchema}
    (h : read? allowSelfReference root = some schema) :
    read? allowSelfReference schema.toJson = some schema ↔ ¬ KeepsBlank root := by
  rw [keepsBlank_iff h]
  constructor
  · rintro hreread ⟨entity, hmem, field, hfield, hblank⟩
    exact absurd hblank (not_or.2 (named_of_reread hreread entity hmem field hfield))
  · intro hnone
    refine read?_toJson_of_named h fun entity hmem field hfield => not_or.1 fun hblank => ?_
    exact hnone ⟨entity, hmem, field, hfield, hblank⟩

/-- An entity that keeps two bare types, one of them under a blank key, and what is read of it. -/
def blankExport : Value :=
  .list [.object [("name", .text "Account"), ("fields", .object [(" ", .text "String"), ("id", .text "Long")])]]

def blankSchema : ImportedSchema where
  entities := [
    { name := "Account", fields := [{ name := "", typeName := "String" }, { name := "id", typeName := "Long" }] }]

theorem read?_blankExport : read? true blankExport = some blankSchema := by decide +kernel

theorem reread_blankSchema :
    read? true blankExport = some blankSchema ∧
      (read? true blankSchema.toJson = some blankSchema ↔ ¬ KeepsBlank blankExport) :=
  ⟨read?_blankExport, reread_eq_iff read?_blankExport⟩

/-- A schema that was read and written can lose a field when it is read again. -/
theorem not_reread_eq :
    ¬ ∀ (allowSelfReference : Bool) (root : Value) (schema : ImportedSchema),
      read? allowSelfReference root = some schema → read? allowSelfReference schema.toJson = some schema := by
  intro hall
  exact absurd (hall true blankExport blankSchema read?_blankExport) (by decide +kernel)

end SchemaExport

end DomainModel
