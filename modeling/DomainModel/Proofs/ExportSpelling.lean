import DomainModel.Proofs.TextFolding
import DomainModel.SchemaExport.Read
import Mathlib.Data.List.Pairwise

/-! The ways in which an export may spell a schema. Each attribute of an object has several keys and its value
has several spellings; an attribute with its default value may be left out. Fields come as a list or as an
object that keeps each under its name, entities and relations at one of several paths. Whatever is chosen,
attribute by attribute and object by object, reading gives the schema back: a key that holds nothing is passed
over, and what a spelling is used as does not depend on the key. -/

namespace DomainModel.SchemaExport

open Json (Value)

/-! ### Attributes -/

/-- The keys hold nothing. -/
def Vacant (members : Members) (keys : List String) : Prop :=
  ∀ key ∈ keys, ∀ value, Json.member? members key = some value → value = .null

/-- One of the keys holds a spelling, and the others hold nothing. -/
def Held (members : Members) (keys : List String) (spells : Value → Prop) : Prop :=
  ∃ key ∈ keys, (∃ value, Json.member? members key = some value ∧ spells value) ∧
    Vacant members (keys.filter (· != key))

/-- An attribute that may be missing. -/
def HeldIfAny {α : Type} (members : Members) (keys : List String) (spells : α → Value → Prop) : Option α → Prop
  | some a => Held members keys (spells a)
  | none => Vacant members keys

/-- An attribute that may be left out when it has its default value. -/
def HeldOr {α : Type} (default : α) (members : Members) (keys : List String) (spells : α → Value → Prop) (a : α) :
    Prop :=
  Held members keys (spells a) ∨ a = default ∧ Vacant members keys

theorem vacant_iff {members : Members} {keys : List String} :
    Vacant members keys ↔ (keys.all fun key => ((Json.member? members key).bind anything?).isNone) = true := by
  have hnothing : ∀ value, anything? value = none ↔ value = .null := by
    intro value
    cases value <;> simp [anything?]
  simp only [Vacant, List.all_eq_true, Option.isNone_iff_eq_none, Option.bind_eq_none_iff, hnothing]

instance (members : Members) (keys : List String) : Decidable (Vacant members keys) :=
  decidable_of_iff _ vacant_iff.symm

section Attributes
variable {α : Type} {use : Value → Option α} {members : Members} {keys : List String}

theorem firstUsable_cons {key : String} :
    firstUsable use members (key :: keys) =
      ((Json.member? members key).bind use).or (firstUsable use members keys) := by
  rw [firstUsable, List.findSome?_cons, firstUsable]
  cases (Json.member? members key).bind use <;> rfl

theorem firstUsable_of_vacant (hnull : use .null = none) (h : Vacant members keys) :
    firstUsable use members keys = none := by
  rw [firstUsable, List.findSome?_eq_none_iff]
  intro key hkey
  rw [Option.bind_eq_none_iff]
  intro value hvalue
  rw [h key hkey value hvalue, hnull]

theorem firstUsable_of_held {spells : Value → Prop} {a? : Option α} (hnull : use .null = none)
    (huse : ∀ value, spells value → use value = a?) (h : Held members keys spells) :
    firstUsable use members keys = a? := by
  obtain ⟨key, hkey, ⟨value, hvalue, hspells⟩, hothers⟩ := h
  have hown : (Json.member? members key).bind use = a? := by rw [hvalue, Option.bind_some, huse value hspells]
  have hother : ∀ other ∈ keys, other ≠ key → (Json.member? members other).bind use = none := by
    intro other hmem hne
    rw [Option.bind_eq_none_iff]
    intro held hheld
    rw [hothers other (List.mem_filter.2 ⟨hmem, bne_iff_ne.2 hne⟩) held hheld, hnull]
  clear hothers hvalue
  induction keys with
  | nil => exact absurd hkey List.not_mem_nil
  | cons first rest ih =>
      have hrest : ∀ other ∈ rest, other ≠ key → (Json.member? members other).bind use = none :=
        fun other hmem => hother other (List.mem_cons_of_mem first hmem)
      rw [firstUsable_cons]
      by_cases hfirst : first = key
      · rw [hfirst, hown]
        cases a? with
        | some a => rfl
        | none =>
            rw [Option.none_or, firstUsable, List.findSome?_eq_none_iff]
            intro other hmem
            by_cases hsame : other = key
            · rw [hsame, hown]
            · exact hrest other hmem hsame
      · rw [hother first List.mem_cons_self hfirst, Option.none_or]
        exact ih (List.mem_of_ne_of_mem (Ne.symm hfirst) hkey) hrest

/-- What is spelled may be told apart from how. -/
theorem exists_of_held {spells : Value → Prop} (h : Held members keys spells) :
    ∃ value, spells value ∧ Held members keys (· = value) := by
  obtain ⟨key, hkey, ⟨value, hvalue, hspells⟩, hothers⟩ := h
  exact ⟨value, hspells, key, hkey, ⟨value, hvalue, rfl⟩, hothers⟩

theorem firstUsable_of_heldIfAny {spells : α → Value → Prop} {a? : Option α} (hnull : use .null = none)
    (huse : ∀ a ∈ a?, ∀ value, spells a value → use value = some a) (h : HeldIfAny members keys spells a?) :
    firstUsable use members keys = a? := by
  cases a? with
  | none => exact firstUsable_of_vacant hnull h
  | some a => exact firstUsable_of_held hnull (huse a rfl) h

theorem getD_firstUsable_of_heldOr {spells : α → Value → Prop} {default a : α} (hnull : use .null = none)
    (huse : ∀ value, spells a value → use value = some a) (h : HeldOr default members keys spells a) :
    (firstUsable use members keys).getD default = a := by
  rcases h with hheld | ⟨rfl, hvacant⟩
  · rw [firstUsable_of_held hnull huse hheld, Option.getD_some]
  · rw [firstUsable_of_vacant hnull hvacant, Option.getD_none]

end Attributes

/-! ### Values -/

/-- A name may have blanks around it. -/
def SpellsName (name : String) (value : Value) : Prop := ∃ text, value = .text text ∧ Text.trim text = name

/-- The words for a truth value, which may be written in any case. -/
def wordsFor : Bool → List String
  | true => ["true", "yes", "y", "1"]
  | false => ["false", "no", "n", "0"]

inductive SpellsTruth (truth : Bool) : Value → Prop where
  | bool : SpellsTruth truth (.bool truth)
  | number : SpellsTruth truth (.number (.integer (if truth then 1 else 0)))
  | word {text : String} (h : Text.asciiLower (Text.trim text) ∈ wordsFor truth) : SpellsTruth truth (.text text)

inductive SpellsLength (length : UInt32) : Value → Prop where
  | number : SpellsLength length (.number (.integer length.toNat))
  | digits {text : String} (hnonempty : Text.trimChars text.toList ≠ [])
      (hdigits : ∀ c ∈ Text.trimChars text.toList, c.isDigit = true)
      (hvalue : Text.digitsValue (Text.trimChars text.toList) = length.toNat) : SpellsLength length (.text text)

/-- The value of a constraint is text; numbers and truth values stand for their texts. -/
inductive SpellsScalar : String → Value → Prop where
  | text {text} : SpellsScalar text (.text text)
  | number {text} {number : Json.Number} (h : number.toText = text) : SpellsScalar text (.number number)
  | yes : SpellsScalar "true" (.bool true)
  | no : SpellsScalar "false" (.bool false)

/-- The end of a relation may differ in case from the name of the entity. -/
def SpellsEnd (name : String) (value : Value) : Prop :=
  ∃ text, value = .text text ∧ Text.equalIgnoringCase (Text.trim text) name = true

def SpellsType (relationType : RelationType) (value : Value) : Prop :=
  ∃ text, value = .text text ∧ Text.trim text ≠ "" ∧ RelationType.parse (Text.trim text) = relationType

/-- A list of spellings, one for each element. -/
def SpellsList {α : Type} (spells : α → Value → Prop) (elements : List α) (value : Value) : Prop :=
  ∃ items, value = .list items ∧ List.Forall₂ spells elements items

theorem name?_of_spells {name : String} (hname : name ≠ "") {value : Value} (h : SpellsName name value) :
    name? value = some name := by
  obtain ⟨text, rfl, rfl⟩ := h
  rw [name?, Text.nonBlank?, if_neg (by rwa [String.isEmpty_iff])]

theorem truth?_of_spells {truth : Bool} {value : Value} (h : SpellsTruth truth value) : truth? value = some truth := by
  cases h with
  | bool => rfl
  | number => cases truth <;> rfl
  | word h =>
      rw [truth?]
      revert h
      generalize Text.asciiLower (Text.trim _) = word
      intro h
      cases truth with
      | true =>
          simp only [wordsFor, List.mem_cons, List.not_mem_nil, or_false] at h
          rcases h with rfl | rfl | rfl | rfl <;> decide
      | false =>
          simp only [wordsFor, List.mem_cons, List.not_mem_nil, or_false] at h
          rcases h with rfl | rfl | rfl | rfl <;> decide

theorem word32?_toNat (length : UInt32) : word32? length.toNat = some length := by
  have hlength := length.toNat_lt
  rw [word32?, if_pos (by omega), Int.toNat_natCast, UInt32.ofNat_toNat]

/-- A run of digits has no sign. -/
theorem splitSign_of_digits {digits : List Char} (h : ∀ c ∈ digits, c.isDigit = true) :
    Numeral.splitSign digits = (false, digits) := by
  cases digits with
  | nil => rfl
  | cons c rest =>
      have hc := h c List.mem_cons_self
      rw [Numeral.splitSign]
      · intro _ heq
        rw [(List.cons.inj heq).1] at hc
        exact absurd hc (by decide)
      · intro _ heq
        rw [(List.cons.inj heq).1] at hc
        exact absurd hc (by decide)

theorem length?_of_spells {length : UInt32} {value : Value} (h : SpellsLength length value) :
    length? value = some length := by
  cases h with
  | number => exact word32?_toNat length
  | @digits text hnonempty hdigits hvalue =>
      have hsign : ¬ ((Text.trimChars text.toList).head? == some '-') = true := by
        rw [beq_iff_eq]
        intro hhead
        exact absurd (hdigits '-' (List.mem_of_mem_head? hhead)) (by decide)
      rw [length?, lengthText?, if_neg hsign, Numeral.integer?, splitSign_of_digits hdigits]
      dsimp only
      rw [if_pos, if_neg Bool.false_ne_true, Option.bind_some, hvalue, word32?_toNat]
      rw [Bool.and_eq_true, Bool.not_eq_true', List.isEmpty_eq_false_iff, List.all_eq_true]
      exact ⟨hnonempty, hdigits⟩

theorem scalar?_of_spells {text : String} {value : Value} (h : SpellsScalar text value) : scalar? value = some text := by
  cases h with
  | number h => rw [scalar?, h]
  | _ => rfl

/-- A key that holds a spelling is found, whatever is spelled. -/
theorem exists_anything?_of_held {members : Members} {keys : List String} {spells : Value → Prop}
    (hnull : ¬ spells .null) (h : Held members keys spells) :
    ∃ value, firstUsable anything? members keys = some value ∧ spells value := by
  obtain ⟨value, hspells, hheld⟩ := exists_of_held h
  refine ⟨value, firstUsable_of_held rfl ?_ hheld, hspells⟩
  intro held hsame
  subst hsame
  cases held with
  | null => exact absurd hspells hnull
  | _ => rfl

/-- Reading a list of spellings element by element gives the elements. -/
theorem filterMap_of_spells {α β : Type} {read : β → Option α} {spells : α → β → Prop} {elements : List α}
    {items : List β} (h : List.Forall₂ spells elements items)
    (hread : ∀ element ∈ elements, ∀ item, spells element item → read item = some element) :
    items.filterMap read = elements := by
  induction h with
  | nil => rfl
  | cons hspells _ ih =>
      rw [List.forall_mem_cons] at hread
      rw [List.filterMap_cons_some (hread.1 _ hspells), ih hread.2]

/-! ### Objects -/

/-- A constraint that has no values may be just its name. -/
inductive SpellsConstraint (constraint : Constraint) : Value → Prop where
  | bare {text : String} (hname : Text.trim text = constraint.name) (hvalue : constraint.value = none)
      (hvalue2 : constraint.value2 = none) : SpellsConstraint constraint (.text text)
  | object {members : Members} (hname : Held members constraintNameKeys (SpellsName constraint.name))
      (hvalue : HeldIfAny members constraintValueKeys SpellsScalar constraint.value)
      (hvalue2 : HeldIfAny members constraintValue2Keys SpellsScalar constraint.value2) :
      SpellsConstraint constraint (.object members)

/-- A field, which may take its name from the `key` that it is kept under. Whether it is required may also be
said the other way round. -/
structure SpellsField (field : Field) (key : Option String) (members : Members) : Prop where
  name : Held members fieldNameKeys (SpellsName field.name) ∨
    Vacant members fieldNameKeys ∧ ∃ text ∈ key, Text.trim text = field.name
  typeName : HeldOr "String" members fieldTypeKeys SpellsName field.typeName
  maxLength : HeldIfAny members maxLengthKeys SpellsLength field.maxLength
  primaryKey : HeldOr false members primaryKeyKeys SpellsTruth field.primaryKey
  required : Held members requiredKeys (SpellsTruth field.required) ∨
    Vacant members requiredKeys ∧ HeldOr true members nullableKeys SpellsTruth (!field.required)
  unique : HeldOr false members uniqueKeys SpellsTruth field.unique
  jsonProperty : HeldIfAny members jsonPropertyKeys SpellsName field.jsonProperty
  constraints : HeldOr [] members constraintsKeys (SpellsList SpellsConstraint) field.constraints

/-- A field in an object that keeps each under its name. One that has only a type may be just that type. -/
inductive SpellsEntry (field : Field) : String × Value → Prop where
  | bare {key text : String} (h : field = { name := Text.trim key, typeName := Text.trim text }) :
      SpellsEntry field (key, .text text)
  | object {key : String} {members : Members} (h : SpellsField field (some key) members) :
      SpellsEntry field (key, .object members)

inductive SpellsFields (fields : List Field) : Value → Prop where
  | list {items : List Value}
      (h : List.Forall₂ (fun field item => ∃ members, item = .object members ∧ SpellsField field none members)
        fields items) :
      SpellsFields fields (.list items)
  | keyed {entries : Members} (h : List.Forall₂ SpellsEntry fields entries) : SpellsFields fields (.object entries)

/-- An entity. Its fields may be left out when they are those that an entity without fields is given. -/
structure SpellsEntity (entity : Entity) (members : Members) : Prop where
  name : Held members entityNameKeys (SpellsName entity.name)
  fields : HeldOr [Field.syntheticId] members entityFieldsKeys SpellsFields entity.fields
  mappedSuperclass : HeldOr false members mappedSuperclassKeys SpellsTruth entity.mappedSuperclass
  addRestEndpoints : HeldOr false members restEndpointsKeys SpellsTruth entity.addRestEndpoints
  addCrudOperations : HeldOr false members crudOperationsKeys SpellsTruth entity.addCrudOperations
  auditable : HeldOr false members auditableKeys SpellsTruth entity.auditable
  softDelete : HeldOr false members softDeleteKeys SpellsTruth entity.softDelete
  immutable : HeldOr false members immutableKeys SpellsTruth entity.immutable
  naturalIdCache : HeldOr false members naturalIdCacheKeys SpellsTruth entity.naturalIdCache

/-- A relation, the ends of which are spelled in a way that is left open. -/
structure SpellsRelation (spellsEnd : String → Value → Prop) (relation : Relation) (members : Members) : Prop where
  sourceEntity : Held members sourceEntityKeys (spellsEnd relation.sourceEntity)
  targetEntity : Held members targetEntityKeys (spellsEnd relation.targetEntity)
  sourceFieldName : HeldOr (Naming.decapitalize relation.targetEntity) members sourceFieldKeys SpellsName
    relation.sourceFieldName
  relationType : HeldOr .manyToOne members relationTypeKeys SpellsType relation.relationType
  targetFieldName : HeldIfAny members targetFieldKeys SpellsName relation.targetFieldName
  required : HeldOr false members requiredKeys SpellsTruth relation.required

theorem constraint?_of_spells {constraint : Constraint} {value : Value} (h : SpellsConstraint constraint value) :
    constraint? value = some constraint := by
  cases h with
  | @bare text hname hvalue hvalue2 =>
      obtain ⟨name, value, value2⟩ := constraint
      dsimp only at hname hvalue hvalue2
      rw [constraint?, hname, hvalue, hvalue2]
  | @object members hname hvalue hvalue2 =>
      have hscalar : ∀ (text? : Option String), ∀ text ∈ text?, ∀ value, SpellsScalar text value → scalar? value = some text :=
        fun _ _ _ _ => scalar?_of_spells
      have hname : (firstUsable name? members constraintNameKeys).getD "" = constraint.name := by
        by_cases hempty : constraint.name = ""
        · -- no name is usable, and the empty one takes its place
          rw [hempty] at hname ⊢
          have hblank : ∀ value, SpellsName "" value → name? value = none := by
            rintro _ ⟨text, rfl, htext⟩
            rw [name?, Text.nonBlank?, if_pos (by rw [htext]; rfl)]
          rw [firstUsable_of_held rfl hblank hname, Option.getD_none]
        · rw [firstUsable_of_held rfl (fun _ => name?_of_spells hempty) hname, Option.getD_some]
      rw [constraint?, hname, firstUsable_of_heldIfAny rfl (hscalar _) hvalue,
        firstUsable_of_heldIfAny rfl (hscalar _) hvalue2]

theorem constraintsOf_of_spells {constraints : List Constraint} {members : Members}
    (h : HeldOr [] members constraintsKeys (SpellsList SpellsConstraint) constraints) :
    constraintsOf members = constraints := by
  rcases h with hheld | ⟨rfl, hvacant⟩
  · have hnull : ¬ SpellsList SpellsConstraint constraints .null := fun ⟨_, hlist, _⟩ => nomatch hlist
    obtain ⟨_, hlist, items, rfl, hitems⟩ := exists_anything?_of_held hnull hheld
    rw [constraintsOf, hlist]
    exact filterMap_of_spells hitems fun _ _ _ => constraint?_of_spells
  · rw [constraintsOf, firstUsable_of_vacant rfl hvacant]

theorem getD_truth?_of_spells {truth default : Bool} {members : Members} {keys : List String}
    (h : HeldOr default members keys SpellsTruth truth) : (firstUsable truth? members keys).getD default = truth :=
  getD_firstUsable_of_heldOr rfl (fun _ => truth?_of_spells) h

theorem isRequired_of_spells {required : Bool} {members : Members}
    (h : Held members requiredKeys (SpellsTruth required) ∨
      Vacant members requiredKeys ∧ HeldOr true members nullableKeys SpellsTruth (!required)) :
    isRequired members = required := by
  rcases h with hheld | ⟨hvacant, hnullable⟩
  · rw [isRequired, firstUsable_of_held rfl (fun _ => truth?_of_spells) hheld, Option.some_or, Option.getD_some]
  · rw [isRequired, firstUsable_of_vacant rfl hvacant, Option.none_or]
    have hflag := getD_truth?_of_spells hnullable
    cases hfound : firstUsable truth? members nullableKeys with
    | none =>
        rw [hfound, Option.getD_none] at hflag
        rw [Option.map_none, Option.getD_none, ← Bool.not_not required, ← hflag, Bool.not_true]
    | some nullable =>
        rw [hfound, Option.getD_some] at hflag
        rw [Option.map_some, Option.getD_some, hflag, Bool.not_not]

/-- A field has a name, a type and no empty name for serializers. -/
structure Named (field : Field) : Prop where
  name : field.name ≠ ""
  typeName : field.typeName ≠ ""
  jsonProperty : field.jsonProperty ≠ some ""

theorem field?_of_spells {field : Field} (hnamed : Named field) {key : Option String} {members : Members}
    (h : SpellsField field key members) : field? members key = some field := by
  have hname : (firstUsable name? members fieldNameKeys).or (key.bind Text.nonBlank?) = some field.name := by
    rcases h.name with hheld | ⟨hvacant, text, rfl, htext⟩
    · rw [firstUsable_of_held rfl (fun _ => name?_of_spells hnamed.name) hheld, Option.some_or]
    · rw [firstUsable_of_vacant rfl hvacant, Option.none_or, Option.bind_some, Text.nonBlank?, htext, if_neg]
      rw [String.isEmpty_iff]
      exact hnamed.name
  have htype : (firstUsable name? members fieldTypeKeys).getD "String" = field.typeName :=
    getD_firstUsable_of_heldOr rfl (fun _ => name?_of_spells hnamed.typeName) h.typeName
  have hlength : firstUsable length? members maxLengthKeys = field.maxLength :=
    firstUsable_of_heldIfAny rfl (fun _ _ _ => length?_of_spells) h.maxLength
  have hproperty : firstUsable name? members jsonPropertyKeys = field.jsonProperty := by
    refine firstUsable_of_heldIfAny rfl (fun name hname _ => name?_of_spells ?_) h.jsonProperty
    rintro rfl
    exact hnamed.jsonProperty hname
  rw [field?, hname]
  dsimp only
  rw [htype, hlength, hproperty, getD_truth?_of_spells h.primaryKey, isRequired_of_spells h.required,
    getD_truth?_of_spells h.unique, constraintsOf_of_spells h.constraints]

theorem keptField?_of_spells {field : Field} (hnamed : Named field) {entry : String × Value}
    (h : SpellsEntry field entry) : keptField? entry = some field := by
  cases h with
  | bare h => rw [keptField?, h]
  | object h => exact field?_of_spells hnamed h

theorem fieldsOf_of_spells {fields : List Field} (hnamed : ∀ field ∈ fields, Named field) {value : Value}
    (h : SpellsFields fields value) : fieldsOf value = fields := by
  cases h with
  | list h =>
      refine filterMap_of_spells h fun field hfield item => ?_
      rintro ⟨members, rfl, hmembers⟩
      exact field?_of_spells (hnamed field hfield) hmembers
  | keyed h => exact filterMap_of_spells h fun field hfield _ => keptField?_of_spells (hnamed field hfield)

theorem entity?_of_spells {entity : Entity} (hname : entity.name ≠ "") (hfields : entity.fields ≠ [])
    (hnamed : ∀ field ∈ entity.fields, Named field) {members : Members} (h : SpellsEntity entity members) :
    entity? (.object members) = some entity := by
  have hread : (let fields := ((firstUsable anything? members entityFieldsKeys).map fieldsOf).getD []
      if fields.isEmpty then [Field.syntheticId] else fields) = entity.fields := by
    rcases h.fields with hheld | ⟨hdefault, hvacant⟩
    · obtain ⟨value, hsome, hspells⟩ := exists_anything?_of_held (nofun) hheld
      rw [hsome, Option.map_some, Option.getD_some, fieldsOf_of_spells hnamed hspells]
      exact if_neg (by rwa [List.isEmpty_iff])
    · rw [firstUsable_of_vacant rfl hvacant, hdefault]
      rfl
  rw [entity?, firstUsable_of_held rfl (fun _ => name?_of_spells hname) h.name, Option.map_some, entityNamed]
  dsimp only at hread ⊢
  rw [hread, getD_truth?_of_spells h.mappedSuperclass, getD_truth?_of_spells h.addRestEndpoints,
    getD_truth?_of_spells h.addCrudOperations, getD_truth?_of_spells h.auditable, getD_truth?_of_spells h.softDelete,
    getD_truth?_of_spells h.immutable, getD_truth?_of_spells h.naturalIdCache]

/-- A relation is read when its ends are found, as they are spelled, under the names that it has. -/
theorem relation?_of_spells {allowSelfReference : Bool} {entities : List Entity} {relation : Relation}
    {spellsEnd : String → Value → Prop}
    (hends : ∀ name, name = relation.sourceEntity ∨ name = relation.targetEntity → ∀ value, spellsEnd name value →
      ∃ text, name? value = some text ∧ resolve? entities text = some name)
    (hself : allowSelfReference = true ∨ relation.sourceEntity ≠ relation.targetEntity)
    (hsource : relation.sourceFieldName ≠ "") (htarget : relation.targetFieldName ≠ some "") {members : Members}
    (h : SpellsRelation spellsEnd relation members) :
    relation? allowSelfReference entities (.object members) = some relation := by
  have hend : ∀ name, name = relation.sourceEntity ∨ name = relation.targetEntity → ∀ keys,
      Held members keys (spellsEnd name) → (firstUsable name? members keys).bind (resolve? entities) = some name := by
    intro name hname keys hkeys
    obtain ⟨value, hspells, hheld⟩ := exists_of_held hkeys
    obtain ⟨text, htext, hresolve⟩ := hends name hname value hspells
    rw [firstUsable_of_held rfl (by rintro _ rfl; exact htext) hheld, Option.bind_some, hresolve]
  have hboth : ends? entities members = some (relation.sourceEntity, relation.targetEntity) := by
    rw [ends?, hend _ (.inl rfl) _ h.sourceEntity, hend _ (.inr rfl) _ h.targetEntity]
    rfl
  have hname : (firstUsable name? members sourceFieldKeys).getD (Naming.decapitalize relation.targetEntity) =
      relation.sourceFieldName :=
    getD_firstUsable_of_heldOr rfl (fun _ => name?_of_spells hsource) h.sourceFieldName
  have htype : ((firstUsable name? members relationTypeKeys).map RelationType.parse).getD .manyToOne =
      relation.relationType := by
    rcases h.relationType with hkeys | ⟨hdefault, hvacant⟩
    · obtain ⟨value, ⟨text, rfl, hnonblank, hparse⟩, hheld⟩ := exists_of_held hkeys
      have hname : name? (.text text) = some (Text.trim text) := name?_of_spells hnonblank ⟨text, rfl, rfl⟩
      rw [firstUsable_of_held rfl (by rintro _ rfl; exact hname) hheld, Option.map_some, Option.getD_some, hparse]
    · rw [firstUsable_of_vacant rfl hvacant, hdefault]
      rfl
  have hfield : firstUsable name? members targetFieldKeys = relation.targetFieldName := by
    refine firstUsable_of_heldIfAny rfl (fun name hname _ => name?_of_spells ?_) h.targetFieldName
    rintro rfl
    exact htarget hname
  have hkept : ¬ (!allowSelfReference && relation.sourceEntity == relation.targetEntity) = true := by
    rw [Bool.and_eq_true, Bool.not_eq_true', beq_iff_eq]
    rintro ⟨hforbidden, hsame⟩
    rcases hself with hallowed | hdifferent
    · rw [hallowed] at hforbidden
      cases hforbidden
    · exact hdifferent hsame
  rw [relation?, hboth]
  dsimp only
  rw [if_neg hkept, relationBetween, hname, htype, hfield, getD_truth?_of_spells h.required]

/-! ### Documents -/

/-- The path leads to no list. -/
def LeadsNowhere (root : Value) (path : List String) : Prop := (path.foldlM Value.get? root).bind Value.items? = none

instance (root : Value) (path : List String) : Decidable (LeadsNowhere root path) :=
  decidable_of_iff _ Option.isNone_iff_eq_none

/-- One of the paths leads to the items, and the others lead to no list. -/
def ListedAt (root : Value) (paths : List (List String)) (items : List Value) : Prop :=
  ∃ path ∈ paths, path.foldlM Value.get? root = some (.list items) ∧
    ∀ other ∈ paths, other ≠ path → LeadsNowhere root other

/-- An item that is an object. -/
def IsObject (spells : Members → Prop) (item : Value) : Prop := ∃ members, item = .object members ∧ spells members

/-- A document that spells a schema: it may be just the list of the entities when there are no relations. -/
inductive SpellsSchema (schema : ImportedSchema) : Value → Prop where
  | entities {items : List Value} (hrelations : schema.relations = [])
      (h : List.Forall₂ (fun entity => IsObject (SpellsEntity entity)) schema.entities items) :
      SpellsSchema schema (.list items)
  | document {root : Value} {entities relations : List Value} (hentities : ListedAt root entityPaths entities)
      (hrelations : ListedAt root relationPaths relations ∨
        relations = [] ∧ ∀ path ∈ relationPaths, LeadsNowhere root path)
      (hentity : List.Forall₂ (fun entity => IsObject (SpellsEntity entity)) schema.entities entities)
      (hrelation : List.Forall₂ (fun relation => IsObject (SpellsRelation SpellsEnd relation)) schema.relations
        relations) : SpellsSchema schema root

/-- A schema that an export can spell in full. That its names have no outer blanks need not be said: a name
that has them has no spelling. -/
structure Canonical (allowSelfReference : Bool) (schema : ImportedSchema) : Prop where
  entityName : ∀ entity ∈ schema.entities, entity.name ≠ ""
  distinct : schema.entities.Pairwise fun a b => Text.equalIgnoringCase a.name b.name = false
  fields : ∀ entity ∈ schema.entities, entity.fields ≠ []
  named : ∀ entity ∈ schema.entities, ∀ field ∈ entity.fields, Named field
  source : ∀ relation ∈ schema.relations, ∃ entity ∈ schema.entities, entity.name = relation.sourceEntity
  target : ∀ relation ∈ schema.relations, ∃ entity ∈ schema.entities, entity.name = relation.targetEntity
  sourceFieldName : ∀ relation ∈ schema.relations, relation.sourceFieldName ≠ ""
  targetFieldName : ∀ relation ∈ schema.relations, relation.targetFieldName ≠ some ""
  selfReference : allowSelfReference = true ∨
    ∀ relation ∈ schema.relations, relation.sourceEntity ≠ relation.targetEntity

theorem listAt?_of_listedAt {root : Value} {paths : List (List String)} {items : List Value}
    (h : ListedAt root paths items) : listAt? root paths = some items := by
  obtain ⟨path, hpath, hitems, hothers⟩ := h
  have hown : (path.foldlM Value.get? root).bind Value.items? = some items := by rw [hitems]; rfl
  rw [listAt?]
  induction paths with
  | nil => exact absurd hpath List.not_mem_nil
  | cons first rest ih =>
      rw [List.findSome?_cons]
      by_cases hfirst : first = path
      · rw [hfirst, hown]
      · rw [hothers first List.mem_cons_self hfirst]
        exact ih (List.mem_of_ne_of_mem (Ne.symm hfirst) hpath) fun other hother =>
          hothers other (List.mem_cons_of_mem first hother)

theorem listAt?_of_leadsNowhere {root : Value} {paths : List (List String)}
    (h : ∀ path ∈ paths, LeadsNowhere root path) : listAt? root paths = none :=
  List.findSome?_eq_none_iff.2 h

/-- Among names that differ ignoring case, the one that is meant is found. -/
theorem resolve?_of_alike {entities : List Entity}
    (hdistinct : entities.Pairwise fun a b => Text.equalIgnoringCase a.name b.name = false) {entity : Entity}
    (hentity : entity ∈ entities) {text : String} (h : Text.equalIgnoringCase text entity.name = true) :
    resolve? entities text = some entity.name := by
  have halike : ∀ other ∈ entities, Text.equalIgnoringCase other.name text = true → other.name = entity.name := by
    intro other hother hsame
    have hboth := Text.equalIgnoringCase_trans hsame h
    by_contra hne
    have hdiffer : other ≠ entity := fun heq => hne (congrArg Entity.name heq)
    have : Std.Symm fun a b : Entity => Text.equalIgnoringCase a.name b.name = false :=
      ⟨fun a b hab => by rwa [Text.equalIgnoringCase_comm]⟩
    have hapart := hdistinct.forall hother hentity hdiffer
    rw [hboth] at hapart
    cases hapart
  rw [resolve?]
  cases hexact : entities.find? (·.name == text) with
  | some found =>
      have hfound := List.find?_some hexact
      rw [beq_iff_eq] at hfound
      have hsame := halike found (List.mem_of_find?_eq_some hexact) (hfound ▸ Text.equalIgnoringCase_refl _)
      rw [Option.some_or, Option.map_some, hsame]
  | none =>
      rw [Option.none_or]
      cases hfound : entities.find? (Text.equalIgnoringCase ·.name text) with
      | some found =>
          have hsame := List.find?_some hfound
          rw [Option.map_some, halike found (List.mem_of_find?_eq_some hfound) hsame]
      | none =>
          rw [List.find?_eq_none] at hfound
          exact absurd (Text.equalIgnoringCase_symm h) (hfound entity hentity)

theorem end_of_spells {schema : ImportedSchema} {allowSelfReference : Bool} (hs : Canonical allowSelfReference schema)
    {name : String} (hname : ∃ entity ∈ schema.entities, entity.name = name) {value : Value}
    (h : SpellsEnd name value) : ∃ text, name? value = some text ∧ resolve? schema.entities text = some name := by
  obtain ⟨entity, hentity, rfl⟩ := hname
  obtain ⟨text, rfl, halike⟩ := h
  refine ⟨Text.trim text, name?_of_spells ?_ ⟨text, rfl, rfl⟩, resolve?_of_alike hs.distinct hentity halike⟩
  intro hempty
  rw [hempty, Text.equalIgnoringCase_iff, String.toList_empty, List.map_nil] at halike
  have hnil := List.map_eq_nil_iff.1 halike.symm
  exact hs.entityName entity hentity (String.toList_eq_nil_iff.1 hnil)

/-- **Whatever keys and spellings an export chooses, reading it gives the schema that it spells.** -/
theorem read_of_spells {allowSelfReference : Bool} {schema : ImportedSchema}
    (hs : Canonical allowSelfReference schema) {root : Value} (h : SpellsSchema schema root) :
    read? allowSelfReference root = some schema := by
  have hentities : ∀ items, List.Forall₂ (fun entity => IsObject (SpellsEntity entity)) schema.entities items →
      items.filterMap entity? = schema.entities := by
    intro items hitems
    refine filterMap_of_spells hitems fun entity hentity item => ?_
    rintro ⟨members, rfl, hmembers⟩
    exact entity?_of_spells (hs.entityName entity hentity) (hs.fields entity hentity) (hs.named entity hentity) hmembers
  have hrelations : ∀ items, List.Forall₂ (fun relation => IsObject (SpellsRelation SpellsEnd relation))
      schema.relations items → items.filterMap (relation? allowSelfReference schema.entities) = schema.relations := by
    intro items hitems
    refine filterMap_of_spells hitems fun relation hrelation item => ?_
    rintro ⟨members, rfl, hmembers⟩
    refine relation?_of_spells ?_ (hs.selfReference.imp_right (· relation hrelation))
      (hs.sourceFieldName relation hrelation) (hs.targetFieldName relation hrelation) hmembers
    rintro name (rfl | rfl) value hvalue
    · exact end_of_spells hs (hs.source relation hrelation) hvalue
    · exact end_of_spells hs (hs.target relation hrelation) hvalue
  have hread : ∀ entities relations, rawEntities? root = some entities → rawRelations root = relations →
      entities.filterMap entity? = schema.entities →
      relations.filterMap (relation? allowSelfReference schema.entities) = schema.relations →
      read? allowSelfReference root = some schema := by
    intro entities relations hraw hrawRelations hentities hrelations
    rw [read?, hraw, hrawRelations, Option.map_some]
    dsimp only
    rw [hentities, hrelations]
  cases h with
  | @entities items hnone hitems => exact hread items [] rfl rfl (hentities items hitems) hnone.symm
  | @document _ entities relations hlisted hmaybe hentity hrelation =>
      refine hread entities relations ?_ ?_ (hentities entities hentity) (hrelations relations hrelation)
      · rw [← listAt?_of_listedAt hlisted]
        cases root with
        | list items =>
            obtain ⟨path, hpath, hitems, -⟩ := hlisted
            simp only [entityPaths, List.mem_cons, List.not_mem_nil, or_false] at hpath
            rcases hpath with rfl | rfl | rfl <;> cases hitems
        | _ => rfl
      · rcases hmaybe with hat | ⟨rfl, hnowhere⟩
        · rw [rawRelations, listAt?_of_listedAt hat, Option.getD_some]
        · rw [rawRelations, listAt?_of_leadsNowhere hnowhere, Option.getD_none]

/-- A schema of two entities, and an export of it that hardly uses a canonical key. -/
def orders : ImportedSchema where
  entities := [
    { name := "Customer"
      fields := [
        { name := "id", typeName := "Long", primaryKey := true, required := true },
        { name := "email", typeName := "String", maxLength := some 80, required := true, constraints := [
            { name := "NotBlank" }, { name := "Size", value := some "1", value2 := some "80" }] },
        { name := "note", typeName := "Text" }]
      auditable := true },
    { name := "Purchase", fields := [.syntheticId] }]
  relations := [
    { sourceEntity := "Purchase", targetEntity := "Customer", sourceFieldName := "customer"
      relationType := .oneToOne, targetFieldName := some "email" }]

def ordersExport : Value :=
  .object [
    ("model", .object [("entities", .list [
      .object [
        ("tableName", .text " Customer "),
        ("columns", .object [
          ("id", .object [("dataType", .text "Long"), ("pk", .text "Yes"), ("nullable", .number (.integer 0))]),
          ("e-mail", .object [
            ("attribute", .text "email"), ("length", .text "080"), ("not_null", .number (.integer 1)),
            ("validations", .list [
              .text "NotBlank",
              .object [("type", .text "Size"), ("min", .number (.integer 1)), ("secondValue", .text "80")]])]),
          ("note", .text "Text")]),
        ("isAuditable", .text "y"), ("rows", .null)],
      .object [("entity", .text "Purchase")]])]),
    ("relationships", .list [
      .object [
        ("from", .text "PURCHASE"), ("to", .text "customer"), ("cardinality", .text "one-to-one"),
        ("mappedBy", .text "email"), ("required", .null)]])]

theorem canonical_orders : Canonical false orders where
  entityName := by decide
  distinct := by decide +kernel
  fields := by decide
  named := by
    intro entity hentity field hfield
    simp only [orders, List.mem_cons, List.not_mem_nil, or_false] at hentity
    rcases hentity with rfl | rfl <;>
      simp only [List.mem_cons, List.not_mem_nil, or_false] at hfield
    · rcases hfield with rfl | rfl | rfl <;> constructor <;> decide
    · subst hfield
      constructor <;> decide
  source := by decide
  target := by decide
  sourceFieldName := by decide
  targetFieldName := by decide
  selfReference := by decide

theorem spells_ordersExport : SpellsSchema orders ordersExport := by
  refine .document ⟨["model", "entities"], by decide, rfl, by decide⟩
    (.inl ⟨["relationships"], by decide, rfl, by decide⟩) (.cons ⟨_, rfl, ?customer⟩ (.cons ⟨_, rfl, ?purchase⟩ .nil))
    (.cons ⟨_, rfl, ?relation⟩ .nil)
  case customer =>
    refine
      { name := ⟨"tableName", by decide, ⟨_, rfl, _, rfl, by decide⟩, by decide⟩
        fields := .inl ⟨"columns", by decide, ⟨_, rfl, .keyed ?fields⟩, by decide⟩
        mappedSuperclass := .inr ⟨rfl, by decide⟩
        addRestEndpoints := .inr ⟨rfl, by decide⟩
        addCrudOperations := .inr ⟨rfl, by decide⟩
        auditable := .inl ⟨"isAuditable", by decide, ⟨_, rfl, .word (by decide)⟩, by decide⟩
        softDelete := .inr ⟨rfl, by decide⟩
        immutable := .inr ⟨rfl, by decide⟩
        naturalIdCache := .inr ⟨rfl, by decide⟩ }
    refine .cons (.object ?id) (.cons (.object ?email) (.cons (.bare (by decide)) .nil))
    case id =>
      exact
        { name := .inr ⟨by decide, "id", rfl, by decide⟩
          typeName := .inl ⟨"dataType", by decide, ⟨_, rfl, _, rfl, by decide⟩, by decide⟩
          maxLength := show Vacant _ _ by decide
          primaryKey := .inl ⟨"pk", by decide, ⟨_, rfl, .word (by decide)⟩, by decide⟩
          required := .inr ⟨by decide, .inl ⟨"nullable", by decide, ⟨_, rfl, .number⟩, by decide⟩⟩
          unique := .inr ⟨rfl, by decide⟩
          jsonProperty := show Vacant _ _ by decide
          constraints := .inr ⟨rfl, by decide⟩ }
    case email =>
      have hsize : SpellsConstraint { name := "Size", value := some "1", value2 := some "80" }
          (.object [("type", .text "Size"), ("min", .number (.integer 1)), ("secondValue", .text "80")]) :=
        .object ⟨"type", by decide, ⟨_, rfl, _, rfl, by decide⟩, by decide⟩
          ⟨"min", by decide, ⟨_, rfl, .number (by decide)⟩, by decide⟩ ⟨"secondValue", by decide, ⟨_, rfl, .text⟩, by decide⟩
      exact
        { name := .inl ⟨"attribute", by decide, ⟨_, rfl, _, rfl, by decide⟩, by decide⟩
          typeName := .inr ⟨rfl, by decide⟩
          maxLength := ⟨"length", by decide, ⟨_, rfl, .digits (by decide) (List.all_eq_true.1 (by decide)) (by decide)⟩,
            by decide⟩
          primaryKey := .inr ⟨rfl, by decide⟩
          required := .inl ⟨"not_null", by decide, ⟨_, rfl, .number⟩, by decide⟩
          unique := .inr ⟨rfl, by decide⟩
          jsonProperty := show Vacant _ _ by decide
          constraints := .inl ⟨"validations", by decide,
            ⟨_, rfl, _, rfl, .cons (.bare (by decide) rfl rfl) (.cons hsize .nil)⟩, by decide⟩ }
  case purchase =>
    exact
      { name := ⟨"entity", by decide, ⟨_, rfl, _, rfl, by decide⟩, by decide⟩
        fields := .inr ⟨rfl, by decide⟩
        mappedSuperclass := .inr ⟨rfl, by decide⟩
        addRestEndpoints := .inr ⟨rfl, by decide⟩
        addCrudOperations := .inr ⟨rfl, by decide⟩
        auditable := .inr ⟨rfl, by decide⟩
        softDelete := .inr ⟨rfl, by decide⟩
        immutable := .inr ⟨rfl, by decide⟩
        naturalIdCache := .inr ⟨rfl, by decide⟩ }
  case relation =>
    exact
      { sourceEntity := ⟨"from", by decide, ⟨_, rfl, _, rfl, by decide⟩, by decide⟩
        targetEntity := ⟨"to", by decide, ⟨_, rfl, _, rfl, by decide⟩, by decide⟩
        sourceFieldName := .inr ⟨by decide, by decide⟩
        relationType := .inl ⟨"cardinality", by decide, ⟨_, rfl, _, rfl, by decide, by decide⟩, by decide⟩
        targetFieldName := ⟨"mappedBy", by decide, ⟨_, rfl, _, rfl, by decide⟩, by decide⟩
        required := .inr ⟨rfl, by decide⟩ }

theorem read_ordersExport :
    Canonical false orders ∧ SpellsSchema orders ordersExport ∧ read? false ordersExport = some orders :=
  ⟨canonical_orders, spells_ordersExport, read_of_spells canonical_orders spells_ordersExport⟩

end DomainModel.SchemaExport
