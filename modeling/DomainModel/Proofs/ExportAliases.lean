import DomainModel.Proofs.ExportSpelling
import DomainModel.Proofs.RuleErrors
import Mathlib.Data.List.TakeWhile

/-! Keys that an attribute is not read from. Of the keys of an attribute the first with a usable value counts, so the
entries under the keys in front of it could as well be missing. That is so for every attribute of every object, with
two exceptions: the fields of an entity and the constraints of a field are taken from the first key that does not hold
`null`, and what stands there may be neither a list nor an object. It then hides the list under a later key. -/

namespace DomainModel.SchemaExport

open Json (Value)

/-! ### Attributes -/

/-- An attribute of an object: the keys that may hold it, and which values can be used for it. -/
structure Attribute where
  keys : List String
  usable : Value → Bool

namespace Attribute

/-- The attribute that is read in this way. -/
def readBy {α : Type} (use : Value → Option α) (keys : List String) : Attribute where
  keys := keys
  usable value := (use value).isSome

/-- The keys in front of the first one with a usable value. -/
def passedOver (a : Attribute) (members : Members) : List String :=
  a.keys.takeWhile fun key => !(Json.member? members key).any a.usable

end Attribute

/-- The object without the entries under some keys. -/
def without (members : Members) (keys : List String) : Members :=
  members.filter fun member => !keys.contains member.1

/-- The object without the entries that are passed over for the attribute. -/
def Attribute.clear (a : Attribute) (members : Members) : Members := without members (a.passedOver members)

/-- No key may hold two of the attributes. -/
def KeysApart (attributes : List Attribute) : Prop :=
  attributes.Pairwise fun a b => ¬ ∃ key ∈ a.keys, key ∈ b.keys

instance (attributes : List Attribute) : Decidable (KeysApart attributes) :=
  decidable_of_iff ((attributes.map (·.keys)).Pairwise fun keys others => ¬ ∃ key ∈ keys, key ∈ others)
    List.pairwise_map

/-! ### Reading without the entries that are passed over -/

theorem member?_without (members : Members) (keys : List String) (key : String) :
    Json.member? (without members keys) key = if key ∈ keys then none else Json.member? members key := by
  simp only [Json.member?, without]
  induction members with
  | nil => simp
  | cons member members ih =>
      obtain ⟨other, value⟩ := member
      by_cases hother : other ∈ keys
      · rw [List.filter_cons_of_neg (by simpa using hother), ih, List.lookup_cons]
        split
        · rfl
        · next hkey =>
            have hne : (key == other) = false := beq_eq_false_iff_ne.2 fun heq => hkey (heq ▸ hother)
            rw [hne]
      · rw [List.filter_cons_of_pos (by simpa using hother), List.lookup_cons, List.lookup_cons, ih]
        by_cases hkey : key = other
        · subst hkey
          rw [if_neg hother, if_neg hother, beq_self_eq_true]
        · rw [beq_eq_false_iff_ne.2 hkey]

section Reads
variable {α : Type} {use : Value → Option α} {members : Members} {keys : List String}

/-- Entries without a usable value are not missed. -/
theorem firstUsable_without {dropped : List String}
    (h : ∀ key ∈ keys, key ∈ dropped → (Json.member? members key).bind use = none) :
    firstUsable use (without members dropped) keys = firstUsable use members keys := by
  induction keys with
  | nil => rfl
  | cons key keys ih =>
      rw [List.forall_mem_cons] at h
      have hkey : (Json.member? (without members dropped) key).bind use = (Json.member? members key).bind use := by
        rw [member?_without]
        split
        · next hmem => rw [h.1 hmem, Option.bind_none]
        · rfl
      rw [firstUsable_cons, firstUsable_cons, hkey, ih h.2]

theorem bind_of_mem_passedOver {key : String} (h : key ∈ (Attribute.readBy use keys).passedOver members) :
    (Json.member? members key).bind use = none := by
  have hpassed := List.mem_takeWhile_imp h
  rw [Option.bind_eq_none_iff]
  intro value hvalue
  rw [hvalue] at hpassed
  simpa [Attribute.readBy] using hpassed

/-- Keys are shared with no other attribute, so clearing away for one of the attributes can only change what is read
under its own keys. -/
theorem firstUsable_clear_of {attributes : List Attribute} (hapart : KeysApart attributes) {a b : Attribute}
    (ha : a ∈ attributes) (hb : b ∈ attributes)
    (hown : a = b → ∀ key ∈ a.passedOver members, (Json.member? members key).bind use = none) :
    firstUsable use (a.clear members) b.keys = firstUsable use members b.keys := by
  apply firstUsable_without
  intro key hkey hpassed
  refine hown (eq_of_pairwise_not (fun _ _ ⟨key, hkey, hother⟩ => ⟨key, hother, hkey⟩) hapart ha hb ?_) key hpassed
  exact ⟨key, List.takeWhile_subset _ hpassed, hkey⟩

/-- An attribute that is read as it says is read as before. -/
theorem firstUsable_clear {attributes : List Attribute} (hapart : KeysApart attributes) {a : Attribute}
    (ha : a ∈ attributes) (hread : .readBy use keys ∈ attributes) :
    firstUsable use (a.clear members) keys = firstUsable use members keys := by
  refine firstUsable_clear_of hapart ha hread ?_
  rintro rfl key hpassed
  exact bind_of_mem_passedOver hpassed

theorem firstUsable_clear_each {attributes : List Attribute} (hapart : KeysApart attributes) {a : Attribute}
    (ha : a ∈ attributes) {keyLists : List (List String)} (hreads : keyLists.map (.readBy use) ⊆ attributes) :
    ∀ keys ∈ keyLists, firstUsable use (a.clear members) keys = firstUsable use members keys :=
  fun _ hkeys => firstUsable_clear hapart ha (hreads (List.mem_map_of_mem hkeys))

end Reads

/-! ### Lists -/

/-- A list in an object, and what it is read as. A value that is no list is read as no value at all. -/
structure ListReading (β : Type) where
  use : Value → Option Value
  keys : List String
  read : Option Value → β
  eq_of_use : ∀ value used, use value = some used → used = value
  use_null : use .null = none
  read_useless : ∀ value, use value = none → read (some value) = read none

namespace ListReading
variable {β : Type} (list : ListReading β) {members : Members}

/-- The list is what should be used. -/
def asAttribute : Attribute := .readBy list.use list.keys

/-- What is read under the first key that does not hold `null`. -/
def taken (members : Members) : β := list.read (firstUsable anything? members list.keys)

/-- What is read under the first key that holds a list. -/
def listed (members : Members) : β := list.read (firstUsable list.use members list.keys)

/-- The list counts for nothing, as what stands under an earlier key is something else, and not `null`; and that makes
a difference. -/
structure Hides (members : Members) : Prop where
  hidden : ∃ value, firstUsable anything? members list.keys = some value ∧ list.use value = none
  changed : list.listed members ≠ list.read none

/-- The first value that is not `null` can only differ from the first list by being none. -/
theorem firstUsable_anything_cases (keys : List String) :
    firstUsable anything? members keys = firstUsable list.use members keys ∨
      ∃ value, firstUsable anything? members keys = some value ∧ list.use value = none := by
  induction keys with
  | nil => exact .inl rfl
  | cons key keys ih =>
      rw [firstUsable_cons, firstUsable_cons]
      cases hmember : Json.member? members key with
      | none => exact ih
      | some value =>
          rw [Option.bind_some, Option.bind_some]
          cases hanything : anything? value with
          | none =>
              have hvalue : value = .null := by
                cases value with
                | null => rfl
                | _ => cases hanything
              rw [hvalue, list.use_null]
              exact ih
          | some same =>
              have hvalue : same = value := by
                cases value with
                | null => cases hanything
                | _ => exact (Option.some.inj hanything).symm
              rw [hvalue, Option.some_or]
              cases huse : list.use value with
              | none => exact .inr ⟨value, rfl, huse⟩
              | some used =>
                  rw [list.eq_of_use value used huse]
                  exact .inl rfl

/-- Without what is passed over the first value that is not `null` is the first list. -/
theorem firstUsable_anything_without {keys dropped : List String}
    (hdropped : ∀ key ∈ dropped, (Json.member? members key).bind list.use = none)
    (hfront : ∀ key ∈ (Attribute.readBy list.use keys).passedOver members, key ∈ dropped) :
    firstUsable anything? (without members dropped) keys = firstUsable list.use members keys := by
  induction keys with
  | nil => rfl
  | cons key keys ih =>
      rw [firstUsable_cons, firstUsable_cons, member?_without]
      -- a key without a list is passed over, so its entry is gone; the first one with a list is kept
      cases husable : (Json.member? members key).bind list.use with
      | none =>
          have hpassed : (Attribute.readBy list.use (key :: keys)).passedOver members =
              key :: (Attribute.readBy list.use keys).passedOver members := by
            refine List.takeWhile_cons_of_pos ?_
            rw [Option.bind_eq_none_iff] at husable
            cases hmember : Json.member? members key with
            | none => rfl
            | some value => simp [Attribute.readBy, husable value hmember]
          rw [hpassed, List.forall_mem_cons] at hfront
          rw [if_pos hfront.1, Option.bind_none, Option.none_or, Option.none_or]
          exact ih hfront.2
      | some used =>
          have hkept : key ∉ dropped := by
            intro hmem
            rw [hdropped key hmem] at husable
            cases husable
          obtain ⟨value, hmember, huse⟩ := Option.bind_eq_some_iff.1 husable
          have hanything : anything? value = some used := by
            rw [list.eq_of_use value used huse]
            cases value with
            | null =>
                rw [list.use_null] at huse
                cases huse
            | _ => rfl
          rw [if_neg hkept, hmember, Option.bind_some, hanything, Option.some_or, Option.some_or]

theorem taken_clear : list.taken (list.asAttribute.clear members) = list.listed members :=
  congrArg list.read (list.firstUsable_anything_without (fun _ => bind_of_mem_passedOver) (fun _ => id))

theorem listed_eq_taken_iff : list.listed members = list.taken members ↔ ¬ list.Hides members := by
  rcases list.firstUsable_anything_cases list.keys with hsame | ⟨value, hvalue, hnone⟩
  · refine iff_of_true (congrArg list.read hsame.symm) ?_
    rintro ⟨⟨value, hvalue, hnone⟩, -⟩
    rw [hsame] at hvalue
    obtain ⟨key, -, hkey⟩ := List.exists_of_findSome?_eq_some hvalue
    obtain ⟨held, -, hheld⟩ := Option.bind_eq_some_iff.1 hkey
    rw [list.eq_of_use held value hheld, hheld] at hnone
    cases hnone
  · have htaken : list.taken members = list.read none := by rw [taken, hvalue, list.read_useless value hnone]
    rw [htaken]
    exact ⟨fun hsame h => h.changed hsame, fun hnot => by_contra fun hne => hnot ⟨⟨value, hvalue, hnone⟩, hne⟩⟩

/-- Clearing away for one of the attributes changes what is read if it brings a hidden list to light. -/
theorem taken_clear_iff {attributes : List Attribute} (hapart : KeysApart attributes) {a : Attribute}
    (ha : a ∈ attributes) (hlist : list.asAttribute ∈ attributes) :
    list.taken (a.clear members) = list.taken members ↔ ¬ (a = list.asAttribute ∧ list.Hides members) := by
  by_cases hown : a = list.asAttribute
  · rw [hown, list.taken_clear, list.listed_eq_taken_iff, and_iff_right rfl]
  · have hsame : firstUsable anything? (a.clear members) list.keys = firstUsable anything? members list.keys :=
      firstUsable_clear_of hapart ha hlist fun heq => absurd heq hown
    exact iff_of_true (congrArg list.read hsame) fun h => hown h.1

/-- Setting a part of an object to what is read now changes nothing, unless there is such an object and a hidden list
comes to light. -/
theorem map_set_taken_eq_self_iff {attributes : List Attribute} (hapart : KeysApart attributes) {a : Attribute}
    (ha : a ∈ attributes) (hlist : list.asAttribute ∈ attributes) {α : Type} (part : α → β) (set : β → α → α)
    (hset : ∀ new object, part (set new object) = new) (hkeep : ∀ object, set (part object) object = object)
    {read : Option α} (hpart : ∀ object ∈ read, part object = list.taken members) :
    read.map (set (list.taken (a.clear members))) = read ↔
      ¬ (a = list.asAttribute ∧ read.isSome = true ∧ list.Hides members) := by
  cases read with
  | none => exact iff_of_true rfl fun h => Bool.false_ne_true h.2.1
  | some object =>
      have hsame : set (list.taken (a.clear members)) object = object ↔
          list.taken (a.clear members) = part object := by
        constructor
        · intro hobject
          rw [← hset (list.taken (a.clear members)) object, hobject]
        · intro htaken
          rw [htaken, hkeep]
      rw [Option.map_some, Option.some_inj, hsame, hpart object rfl, list.taken_clear_iff hapart ha hlist,
        Option.isSome_some, and_iff_right rfl]

end ListReading

/-! ### Entities -/

/-- The fields of an entity are a list or an object. -/
def fieldList? : Value → Option Value
  | .list items => some (.list items)
  | .object members => some (.object members)
  | _ => none

/-- The fields of an entity: those that are listed, or else a key. -/
def fieldsOrKey (listed : Option Value) : List Field :=
  if ((listed.map fieldsOf).getD []).isEmpty then [Field.syntheticId] else (listed.map fieldsOf).getD []

def entityFields : ListReading (List Field) where
  use := fieldList?
  keys := entityFieldsKeys
  read := fieldsOrKey
  eq_of_use value used h := by
    cases value with
    | list => exact (Option.some.inj h).symm
    | object => exact (Option.some.inj h).symm
    | _ => cases h
  use_null := rfl
  read_useless value h := by
    cases value with
    | list => cases h
    | object => cases h
    | _ => rfl

def entityFlagKeys : List (List String) := [
  mappedSuperclassKeys, restEndpointsKeys, crudOperationsKeys, auditableKeys, softDeleteKeys, immutableKeys,
  naturalIdCacheKeys]

def entityAttributes : List Attribute :=
  .readBy name? entityNameKeys :: entityFields.asAttribute :: entityFlagKeys.map (.readBy truth?)

theorem entityFields_mem : entityFields.asAttribute ∈ entityAttributes := List.mem_cons_of_mem _ List.mem_cons_self

theorem keysApart_entityAttributes : KeysApart entityAttributes := by decide

/-- Only the fields of the entity can change. -/
theorem entity?_clear {a : Attribute} (ha : a ∈ entityAttributes) (members : Members) :
    entity? (.object (a.clear members)) =
      (entity? (.object members)).map fun entity =>
        { entity with fields := entityFields.taken (a.clear members) } := by
  have hname : firstUsable name? (a.clear members) entityNameKeys = firstUsable name? members entityNameKeys :=
    firstUsable_clear keysApart_entityAttributes ha List.mem_cons_self
  have hflags : ∀ keys ∈ entityFlagKeys,
      firstUsable truth? (a.clear members) keys = firstUsable truth? members keys :=
    firstUsable_clear_each keysApart_entityAttributes ha
      (List.Subset.trans (List.subset_cons_self _ _) (List.subset_cons_self _ _))
  simp only [entityFlagKeys, List.forall_mem_cons] at hflags
  -- name and flags are read as before, so both sides are built from the same name
  rw [entity?, entity?, hname, Option.map_map]
  refine congrArg (Option.map · _) (funext fun name => ?_)
  simp only [entityNamed, Function.comp_apply, hflags]
  rfl

theorem entity?_clear_iff {a : Attribute} (ha : a ∈ entityAttributes) (members : Members) :
    entity? (.object (a.clear members)) = entity? (.object members) ↔
      ¬ (a = entityFields.asAttribute ∧ (entity? (.object members)).isSome = true ∧ entityFields.Hides members) := by
  have hfields : ∀ entity ∈ entity? (.object members), entity.fields = entityFields.taken members := by
    intro entity hentity
    obtain ⟨name, -, rfl⟩ := Option.map_eq_some_iff.1 hentity
    rfl
  rw [entity?_clear ha]
  exact entityFields.map_set_taken_eq_self_iff keysApart_entityAttributes ha entityFields_mem Entity.fields
    (fun fields entity => { entity with fields }) (fun _ _ => rfl) (fun _ => rfl) hfields

/-! ### Fields -/

/-- The constraints of a field are a list. -/
def constraintList? : Value → Option Value
  | .list items => some (.list items)
  | _ => none

/-- The constraints of a field: those in its list. -/
def constraintsIn : Option Value → List Constraint
  | some (.list items) => items.filterMap constraint?
  | _ => []

def fieldConstraints : ListReading (List Constraint) where
  use := constraintList?
  keys := constraintsKeys
  read := constraintsIn
  eq_of_use value used h := by
    cases value with
    | list => exact (Option.some.inj h).symm
    | _ => cases h
  use_null := rfl
  read_useless value h := by
    cases value with
    | list => cases h
    | _ => rfl

theorem constraintsOf_eq (members : Members) : constraintsOf members = fieldConstraints.taken members := rfl

def fieldTextKeys : List (List String) := [fieldNameKeys, fieldTypeKeys, jsonPropertyKeys]

def fieldFlagKeys : List (List String) := [primaryKeyKeys, requiredKeys, nullableKeys, uniqueKeys]

def fieldAttributes : List Attribute :=
  .readBy length? maxLengthKeys :: fieldConstraints.asAttribute ::
    (fieldTextKeys.map (.readBy name?) ++ fieldFlagKeys.map (.readBy truth?))

theorem fieldConstraints_mem : fieldConstraints.asAttribute ∈ fieldAttributes :=
  List.mem_cons_of_mem _ List.mem_cons_self

theorem keysApart_fieldAttributes : KeysApart fieldAttributes := by decide

/-- Only the constraints of the field can change. -/
theorem field?_clear {a : Attribute} (ha : a ∈ fieldAttributes) (members : Members) (key : Option String) :
    field? (a.clear members) key =
      (field? members key).map fun field =>
        { field with constraints := fieldConstraints.taken (a.clear members) } := by
  have hlength : firstUsable length? (a.clear members) maxLengthKeys = firstUsable length? members maxLengthKeys :=
    firstUsable_clear keysApart_fieldAttributes ha List.mem_cons_self
  have hread : fieldTextKeys.map (Attribute.readBy name?) ++ fieldFlagKeys.map (.readBy truth?) ⊆ fieldAttributes :=
    List.Subset.trans (List.subset_cons_self _ _) (List.subset_cons_self _ _)
  have htexts : ∀ keys ∈ fieldTextKeys, firstUsable name? (a.clear members) keys = firstUsable name? members keys :=
    firstUsable_clear_each keysApart_fieldAttributes ha (List.Subset.trans (List.subset_append_left _ _) hread)
  have hflags : ∀ keys ∈ fieldFlagKeys, firstUsable truth? (a.clear members) keys = firstUsable truth? members keys :=
    firstUsable_clear_each keysApart_fieldAttributes ha (List.Subset.trans (List.subset_append_right _ _) hread)
  simp only [fieldTextKeys, fieldFlagKeys, List.forall_mem_cons] at htexts hflags
  simp only [field?, htexts, hflags, hlength, isRequired, constraintsOf_eq]
  cases (firstUsable name? members fieldNameKeys).or (key.bind Text.nonBlank?) <;> rfl

theorem field?_clear_iff {a : Attribute} (ha : a ∈ fieldAttributes) (members : Members) (key : Option String) :
    field? (a.clear members) key = field? members key ↔
      ¬ (a = fieldConstraints.asAttribute ∧ (field? members key).isSome = true ∧
        fieldConstraints.Hides members) := by
  have hconstraints : ∀ field ∈ field? members key, field.constraints = fieldConstraints.taken members := by
    intro field hfield
    rw [field?] at hfield
    split at hfield
    · cases hfield
    · cases hfield
      rfl
  rw [field?_clear ha]
  exact fieldConstraints.map_set_taken_eq_self_iff keysApart_fieldAttributes ha fieldConstraints_mem
    Field.constraints (fun constraints field => { field with constraints }) (fun _ _ => rfl) (fun _ => rfl)
    hconstraints

/-! ### Constraints and relations -/

def constraintScalarKeys : List (List String) := [constraintValueKeys, constraintValue2Keys]

def constraintAttributes : List Attribute :=
  .readBy name? constraintNameKeys :: constraintScalarKeys.map (.readBy scalar?)

theorem constraint?_clear {a : Attribute} (ha : a ∈ constraintAttributes) (members : Members) :
    constraint? (.object (a.clear members)) = constraint? (.object members) := by
  have hapart : KeysApart constraintAttributes := by decide
  have hname : firstUsable name? (a.clear members) constraintNameKeys =
      firstUsable name? members constraintNameKeys := firstUsable_clear hapart ha List.mem_cons_self
  have hscalars : ∀ keys ∈ constraintScalarKeys,
      firstUsable scalar? (a.clear members) keys = firstUsable scalar? members keys :=
    firstUsable_clear_each hapart ha (List.subset_cons_self _ _)
  simp only [constraintScalarKeys, List.forall_mem_cons] at hscalars
  simp only [constraint?, hname, hscalars]

def relationTextKeys : List (List String) := [
  sourceEntityKeys, targetEntityKeys, sourceFieldKeys, relationTypeKeys, targetFieldKeys]

def relationAttributes : List Attribute :=
  .readBy truth? requiredKeys :: relationTextKeys.map (.readBy name?)

theorem relation?_clear {a : Attribute} (ha : a ∈ relationAttributes) (allowSelfReference : Bool)
    (entities : List Entity) (members : Members) :
    relation? allowSelfReference entities (.object (a.clear members)) =
      relation? allowSelfReference entities (.object members) := by
  have hapart : KeysApart relationAttributes := by decide
  have hrequired : firstUsable truth? (a.clear members) requiredKeys = firstUsable truth? members requiredKeys :=
    firstUsable_clear hapart ha List.mem_cons_self
  have htexts : ∀ keys ∈ relationTextKeys,
      firstUsable name? (a.clear members) keys = firstUsable name? members keys :=
    firstUsable_clear_each hapart ha (List.subset_cons_self _ _)
  simp only [relationTextKeys, List.forall_mem_cons] at htexts
  simp only [relation?, ends?, relationBetween, htexts, hrequired]

/-! ### All objects -/

/-- **What is passed over is not missed, unless it hides a list.** Without the entries that are passed over for one of
its attributes every object is read as before, except that an entity comes to hidden fields, and a field to hidden
constraints. -/
theorem clear_reads_same_iff (members : Members) :
    (∀ a ∈ entityAttributes, entity? (.object (a.clear members)) = entity? (.object members) ↔
      ¬ (a = entityFields.asAttribute ∧ (entity? (.object members)).isSome = true ∧ entityFields.Hides members)) ∧
    (∀ a ∈ fieldAttributes, ∀ key, field? (a.clear members) key = field? members key ↔
      ¬ (a = fieldConstraints.asAttribute ∧ (field? members key).isSome = true ∧
        fieldConstraints.Hides members)) ∧
    (∀ a ∈ constraintAttributes, constraint? (.object (a.clear members)) = constraint? (.object members)) ∧
    ∀ a ∈ relationAttributes, ∀ allowSelfReference entities,
      relation? allowSelfReference entities (.object (a.clear members)) =
        relation? allowSelfReference entities (.object members) :=
  ⟨fun _ ha => entity?_clear_iff ha members, fun _ ha => field?_clear_iff ha members,
    fun _ ha => constraint?_clear ha members, fun _ ha allow entities => relation?_clear ha allow entities members⟩

/-- An entity with a list of fields under the second key, and a word under the first. -/
def accountMembers : Members := [
  ("name", .text " "), ("entityName", .text "Account"), ("fields", .text "none"),
  ("columns", .list [.object [("name", .text "code"), ("type", .text "String")]])]

theorem hides_accountMembers :
    (entity? (.object accountMembers)).isSome = true ∧ entityFields.Hides accountMembers :=
  ⟨by decide +kernel, ⟨.text "none", rfl, rfl⟩, by decide +kernel⟩

/-- A blank name hides nothing; the word for the fields does. -/
theorem clear_accountMembers :
    entity? (.object ((Attribute.readBy name? entityNameKeys).clear accountMembers)) =
        entity? (.object accountMembers) ∧
      entity? (.object (entityFields.asAttribute.clear accountMembers)) ≠ entity? (.object accountMembers) := by
  obtain ⟨hentity, -⟩ := clear_reads_same_iff accountMembers
  constructor
  · refine (hentity _ List.mem_cons_self).2 ?_
    rintro ⟨hown, -⟩
    exact absurd (congrArg Attribute.keys hown) (by decide)
  · exact fun hsame => (hentity _ entityFields_mem).1 hsame ⟨rfl, hides_accountMembers⟩

/-- A field with a list of constraints under the second key, and a word under the first. -/
def codeMembers : Members := [
  ("name", .text "code"), ("constraints", .text "none"), ("validations", .list [.text "NotBlank"])]

/-- There are entries that are missed: for the fields of an entity and for the constraints of a field. -/
theorem not_clear_reads_same :
    (¬ ∀ members, ∀ a ∈ entityAttributes, entity? (.object (a.clear members)) = entity? (.object members)) ∧
      ¬ ∀ members, ∀ a ∈ fieldAttributes, ∀ key, field? (a.clear members) key = field? members key := by
  have hfield : (field? codeMembers none).isSome = true ∧ fieldConstraints.Hides codeMembers :=
    ⟨by decide +kernel, ⟨.text "none", rfl, rfl⟩, by decide +kernel⟩
  refine ⟨fun h => ?_, fun h => ?_⟩
  · exact (entity?_clear_iff entityFields_mem _).1 (h accountMembers _ entityFields_mem)
      ⟨rfl, hides_accountMembers⟩
  · exact (field?_clear_iff fieldConstraints_mem _ none).1 (h codeMembers _ fieldConstraints_mem none)
      ⟨rfl, hfield⟩

end DomainModel.SchemaExport
