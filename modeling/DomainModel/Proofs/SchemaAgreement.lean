import DomainModel.Proofs.SchemaFits
import DomainModel.Proofs.ShapeReading

/-! Where checking a document against a schema and reading it as a shape agree. The check looks at the value of a
document, reading at the document itself, and so reading minds two things that the check passes over: a known key
that is written twice, and the format of a number. Apart from these the two agree, and what is read depends on
the value alone. Each kind of schema hands the agreement on from its parts, so that it need be said only once how
the schema of a record corresponds to its slots. -/

namespace DomainModel.Schema

open Json (Value Document Fault Shape Slot)
open Json.Shape (SlotsRead SlotsFilled)

/-! ### Repeated keys and formats -/

mutual

/-- Some object of the document has a key twice that the schema knows there. -/
def repeatsKey : Schema → Document → Bool
  | .list _ item, .list items _ => items.any (repeatsKey item)
  | .record _ _ properties, .object members _ =>
    !decide (Document.keysAmong (properties.map (·.1)) members).Nodup || propertiesRepeatKey properties members
  | .named _ schema, doc => repeatsKey schema doc
  | .anyOf options, doc => optionsRepeatKey options doc
  | _, _ => false

/-- Some object below the known members has a known key twice. -/
def propertiesRepeatKey : List (String × Schema) → List (Document × Document) → Bool
  | [], _ => false
  | (key, schema) :: rest, members =>
    (members.any fun member => Document.keyText? member == some key && repeatsKey schema member.2) ||
      propertiesRepeatKey rest members

/-- One of the schemas knows a key that some object has twice. -/
def optionsRepeatKey : List Schema → Document → Bool
  | [], _ => false
  | schema :: rest, doc => repeatsKey schema doc || optionsRepeatKey rest doc

end

mutual

theorem repeatsKey_null : ∀ schema : Schema, repeatsKey schema .null = false
  | .named _ schema => by rw [repeatsKey, repeatsKey_null schema]
  | .anyOf options => by rw [repeatsKey, optionsRepeatKey_null options]
  | .scalar _ _ | .choice _ _ | .count _ _ | .list _ _ | .record _ _ _ => rfl

theorem optionsRepeatKey_null : ∀ options : List Schema, optionsRepeatKey options .null = false
  | [] => rfl
  | schema :: rest => by rw [optionsRepeatKey, repeatsKey_null schema, optionsRepeatKey_null rest, Bool.or_false]

end

theorem propertiesRepeatKey_eq_false_iff {properties : List (String × Schema)} {members : List (Document × Document)} :
    propertiesRepeatKey properties members = false ↔
      ∀ key schema, (key, schema) ∈ properties → ∀ doc, (.text (some key), doc) ∈ members →
        repeatsKey schema doc = false := by
  induction properties with
  | nil => simp [propertiesRepeatKey]
  | cons property rest ih =>
      obtain ⟨key, schema⟩ := property
      rw [propertiesRepeatKey, Bool.or_eq_false_iff, ih, List.any_eq_false]
      constructor
      · rintro ⟨hfirst, hrest⟩ other inner hmem doc hdoc
        rcases List.mem_cons.1 hmem with heq | hmem
        · cases heq
          have hnot := hfirst _ hdoc
          rwa [Document.keyText?, beq_self_eq_true, Bool.true_and, Bool.not_eq_true] at hnot
        · exact hrest other inner hmem doc hdoc
      · refine fun h => ⟨fun member hmember => ?_, fun other inner hmem => h other inner (List.mem_cons_of_mem _ hmem)⟩
        obtain ⟨name, doc⟩ := member
        rw [Bool.and_eq_true, beq_iff_eq, not_and, Bool.not_eq_true]
        intro hname
        cases name with
        | text text =>
            rw [Document.keyText?] at hname
            exact h key schema List.mem_cons_self doc (hname ▸ hmember)
        | _ => cases hname

theorem repeatsKey_record {notes : SchemaNotes} {required : List String} {properties : List (String × Schema)}
    {members : List (Document × Document)} {closed : Bool} :
    repeatsKey (.record notes required properties) (.object members closed) = false ↔
      (Document.keysAmong (properties.map (·.1)) members).Nodup ∧
        ∀ key schema, (key, schema) ∈ properties → ∀ doc, (.text (some key), doc) ∈ members →
          repeatsKey schema doc = false := by
  rw [repeatsKey, Bool.or_eq_false_iff, propertiesRepeatKey_eq_false_iff, Bool.not_eq_false', decide_eq_true_iff]

mutual

/-- A value with distinct keys, written out, repeats none. -/
theorem repeatsKey_ofValue : ∀ (schema : Schema) (value : Value), value.hasDistinctKeys = true →
    repeatsKey schema (.ofValue value) = false
  | .scalar _ _, value, _ => by rw [repeatsKey.eq_def]
  | .choice _ _, value, _ => by rw [repeatsKey.eq_def]
  | .count _ _, value, _ => by rw [repeatsKey.eq_def]
  | .list _ item, value, h => by
      cases value with
      | list items =>
          rw [Value.hasDistinctKeys_list] at h
          rw [Document.ofValue, repeatsKey, List.any_eq_false, Document.ofValues_eq_map]
          intro inner hinner
          obtain ⟨value, hvalue, rfl⟩ := List.mem_map.1 hinner
          rw [Bool.not_eq_true]
          exact repeatsKey_ofValue item value (h value hvalue)
      | _ => rfl
  | .record _ _ properties, value, h => by
      cases value with
      | object members =>
          rw [Value.hasDistinctKeys_object] at h
          rw [Document.ofValue, repeatsKey, Bool.or_eq_false_iff, Bool.not_eq_false', decide_eq_true_iff]
          refine ⟨?_, propertiesRepeatKey_ofMembers properties members h.2⟩
          rw [Document.keysAmong, Document.keys_ofMembers]
          exact h.1.filter _
      | _ => rfl
  | .named _ schema, value, h => by rw [repeatsKey, repeatsKey_ofValue schema value h]
  | .anyOf options, value, h => by rw [repeatsKey, optionsRepeatKey_ofValue options value h]

theorem propertiesRepeatKey_ofMembers : ∀ (properties : List (String × Schema)) (members : List (String × Value)),
    (∀ member ∈ members, member.2.hasDistinctKeys = true) →
      propertiesRepeatKey properties (Document.ofMembers members) = false
  | [], _, _ => rfl
  | (key, schema) :: rest, members, h => by
      rw [propertiesRepeatKey, Bool.or_eq_false_iff, List.any_eq_false, Document.ofMembers_eq_map]
      refine ⟨fun doc hdoc => ?_, Document.ofMembers_eq_map members ▸ propertiesRepeatKey_ofMembers rest members h⟩
      obtain ⟨member, hmember, rfl⟩ := List.mem_map.1 hdoc
      rw [repeatsKey_ofValue schema member.2 (h member hmember), Bool.and_false]
      exact Bool.false_ne_true

theorem optionsRepeatKey_ofValue : ∀ (options : List Schema) (value : Value), value.hasDistinctKeys = true →
    optionsRepeatKey options (.ofValue value) = false
  | [], _, _ => rfl
  | schema :: rest, value, h => by
      rw [optionsRepeatKey, repeatsKey_ofValue schema value h, optionsRepeatKey_ofValue rest value h, Bool.or_false]

end

/-- A number of 32 bits, not written with a fraction or an exponent; anything that is no number passes. -/
def WordFormat (format : String) (value : Value) : Prop :=
  format = "uint32" → ∀ n, value = .number n → ∃ k : Int, n = .integer k ∧ 0 ≤ k ∧ k < 0x100000000

/-! ### Agreement -/

/-- Of the documents whose value fits but for its formats, those are read that repeat no known key and obey the
formats. -/
def FaultAgrees (schema : Schema) (fault? : Document → Option Fault) : Prop :=
  ∀ doc value, doc.toValue? = some value → Fits AnyFormat schema value →
    (fault? doc = none ↔ repeatsKey schema doc = false ∧ Fits WordFormat schema value)

/-- What is read of a document that repeats no known key is what is read of its value. -/
def BuildAgrees {α : Type} (schema : Schema) (build : Document → α) : Prop :=
  ∀ doc value, doc.toValue? = some value → Fits AnyFormat schema value → repeatsKey schema doc = false →
    build doc = build (.ofValue value)

/-- Fitting a schema and being read as a shape agree. -/
structure Agrees {α : Type} (schema : Schema) (shape : Shape α) : Prop where
  fault : FaultAgrees schema shape.fault?
  build : BuildAgrees schema shape.build

namespace Agrees

theorem text {notes : SchemaNotes} : Agrees (.scalar notes [.text]) Shape.text where
  fault doc value hvalue hfits := by
    cases value <;> simp [Fits, ValueKind.accepts] at hfits
    rw [Document.toValue?_eq_text hvalue]
    simp [Shape.text, repeatsKey, Fits, ValueKind.accepts]
  build doc value hvalue hfits _ := by
    cases value <;> simp [Fits, ValueKind.accepts] at hfits
    rw [Document.toValue?_eq_text hvalue, Document.ofValue]

theorem flag {notes : SchemaNotes} : Agrees (.scalar notes [.bool]) Shape.flag where
  fault doc value hvalue hfits := by
    cases value <;> simp [Fits, ValueKind.accepts] at hfits
    rw [Document.toValue?_eq_bool hvalue]
    simp [Shape.flag, repeatsKey, Fits, ValueKind.accepts]
  build doc value hvalue hfits _ := by
    cases value <;> simp [Fits, ValueKind.accepts] at hfits
    rw [Document.toValue?_eq_bool hvalue, Document.ofValue]

theorem optionalText {notes : SchemaNotes} : Agrees (.scalar notes [.text, .null]) Shape.text.optional where
  fault doc value hvalue hfits := by
    cases value <;> simp [Fits, ValueKind.accepts] at hfits
    · rw [Document.toValue?_eq_null hvalue]
      simp [Shape.optional, repeatsKey, Fits, ValueKind.accepts]
    · rw [Document.toValue?_eq_text hvalue]
      simp [Shape.optional, Shape.text, repeatsKey, Fits, ValueKind.accepts]
  build doc value hvalue hfits _ := by
    cases value <;> simp [Fits, ValueKind.accepts] at hfits
    · rw [Document.toValue?_eq_null hvalue, Document.ofValue]
    · rw [Document.toValue?_eq_text hvalue, Document.ofValue]

theorem optionalWord : Agrees (.count [.integer, .null] "uint32") Shape.word.optional where
  fault doc value hvalue hfits := by
    cases value <;> simp [Fits, ValueKind.accepts] at hfits
    · rw [Document.toValue?_eq_null hvalue]
      simp [Shape.optional, repeatsKey, Fits, ValueKind.accepts, WordFormat]
    · next n =>
        rw [Document.toValue?_eq_number hvalue]
        cases n with
        | integer k => simp_all [Shape.optional, Shape.word, repeatsKey, Fits, ValueKind.accepts, WordFormat]
        | float x => simp [Shape.optional, Shape.word, repeatsKey, Fits, WordFormat]
  build doc value hvalue hfits _ := by
    cases value <;> simp [Fits, ValueKind.accepts] at hfits
    · rw [Document.toValue?_eq_null hvalue, Document.ofValue]
    · rw [Document.toValue?_eq_number hvalue, Document.ofValue]

theorem oneOf {α : Type} {notes : SchemaNotes} {options : List String} {names : List (String × α)} {fallback : α}
    (h : options = names.map (·.1)) : Agrees (.choice notes options) (Shape.oneOf names fallback) where
  fault doc value hvalue hfits := by
    subst h
    obtain ⟨text, hmem, rfl⟩ := hfits
    rw [Document.toValue?_eq_text hvalue]
    refine iff_of_true ?_ ⟨rfl, text, hmem, rfl⟩
    exact if_pos (List.contains_iff_mem.2 hmem)
  build doc value hvalue hfits _ := by
    obtain ⟨text, -, rfl⟩ := hfits
    rw [Document.toValue?_eq_text hvalue, Document.ofValue]

theorem map {α β : Type} {schema : Schema} {shape : Shape α} (h : Agrees schema shape) (f : α → β) :
    Agrees schema (shape.map f) where
  fault := h.fault
  build doc value hvalue hfits hrepeats := congrArg f (h.build doc value hvalue hfits hrepeats)

theorem named {α : Type} {name : String} {schema : Schema} {shape : Shape α} (h : Agrees schema shape) :
    Agrees (.named name schema) shape where
  fault doc value hvalue hfits := by
    rw [Fits] at hfits
    rw [repeatsKey, Fits]
    exact h.fault doc value hvalue hfits
  build doc value hvalue hfits hrepeats := by
    rw [Fits] at hfits
    rw [repeatsKey] at hrepeats
    exact h.build doc value hvalue hfits hrepeats

theorem orNull {α : Type} {notes : SchemaNotes} {schema : Schema} {shape : Shape α} (h : Agrees schema shape) :
    Agrees (.anyOf [schema, .scalar notes [.null]]) shape.optional := by
  have hsome : ∀ {obeys : String → Value → Prop} {value : Value}, value ≠ .null →
      (Fits obeys (.anyOf [schema, .scalar notes [.null]]) value ↔ Fits obeys schema value) := by
    intro obeys value hvalue
    simp only [Fits, FitsAny, or_false, or_iff_left_iff_imp]
    intro haccepts
    cases value <;> simp_all [ValueKind.accepts]
  have hrepeats : ∀ doc, repeatsKey (.anyOf [schema, .scalar notes [.null]]) doc = repeatsKey schema doc := by
    intro doc
    simp [repeatsKey, optionsRepeatKey]
  have hpresent : ∀ {doc : Document} {value : Value}, doc.toValue? = some value → value ≠ .null →
      doc ≠ .null ∧ Document.ofValue value ≠ .null := by
    intro doc value hvalue hnull
    refine ⟨?_, Document.ofValue_ne_null hnull⟩
    rintro rfl
    exact hnull (Option.some.inj hvalue).symm
  constructor
  · intro doc value hvalue hfits
    by_cases hnull : value = .null
    · subst hnull
      rw [Document.toValue?_eq_null hvalue, hrepeats, repeatsKey_null]
      simp [Shape.optional, Fits, FitsAny, ValueKind.accepts]
    · rw [hsome hnull] at hfits
      rw [hsome hnull, hrepeats, Shape.optional_fault? (hpresent hvalue hnull).1]
      exact h.fault doc value hvalue hfits
  · intro doc value hvalue hfits hsingle
    by_cases hnull : value = .null
    · subst hnull
      rw [Document.toValue?_eq_null hvalue, Document.ofValue]
    · rw [hsome hnull] at hfits
      rw [hrepeats] at hsingle
      obtain ⟨hdoc, hwritten⟩ := hpresent hvalue hnull
      rw [Shape.optional_build hdoc, Shape.optional_build hwritten, h.build doc value hvalue hfits hsingle]

theorem listOf {α : Type} {notes : SchemaNotes} {item : Schema} {shape : Shape α} (h : Agrees item shape) :
    Agrees (.list notes item) shape.listOf := by
  constructor
  · rintro doc _ hvalue ⟨values, rfl, hfits⟩
    obtain ⟨items, rfl, hitems⟩ := Document.toValue?_eq_list hvalue
    have hfault : shape.listOf.fault? (.list items true) = none ↔ ∀ inner ∈ items, shape.fault? inner = none := by
      simp [Shape.listOf]
    have hrepeats : repeatsKey (.list notes item) (.list items true) = false ↔
        ∀ inner ∈ items, repeatsKey item inner = false := by
      simp [repeatsKey]
    have hfitsList : Fits WordFormat (.list notes item) (.list values) ↔
        ∀ inner ∈ values, Fits WordFormat item inner := by
      simp [Fits]
    rw [hfault, hrepeats, hfitsList]
    have hall := Document.forall₂_of_toValues? hitems
    clear hvalue hitems hfault hrepeats hfitsList
    induction hall with
    | nil => simp
    | @cons inner value items values hinner _ ih =>
        rw [List.forall_mem_cons] at hfits
        simp only [List.forall_mem_cons, h.fault inner value hinner hfits.1, ih hfits.2]
        tauto
  · rintro doc _ hvalue ⟨values, rfl, hfits⟩ hsingle
    obtain ⟨items, rfl, hitems⟩ := Document.toValue?_eq_list hvalue
    rw [repeatsKey, List.any_eq_false] at hsingle
    rw [Document.ofValue]
    show items.map shape.build = (Document.ofValues values).map shape.build
    have hall := Document.forall₂_of_toValues? hitems
    clear hvalue hitems
    induction hall with
    | nil => rfl
    | @cons inner value items values hinner _ ih =>
        rw [List.forall_mem_cons] at hfits hsingle
        rw [Document.ofValues, List.map_cons, List.map_cons, ih hfits.2 hsingle.2,
          h.build inner value hinner hfits.1 (Bool.not_eq_true _ ▸ hsingle.1)]

end Agrees

/-! ### Records -/

/-- Each slot has its schema among the properties and agrees with it; slots that must be filled are required, and
the properties have no other keys. -/
structure SlotsAgree (required : List String) (properties : List (String × Schema)) (slots : List Slot) : Prop where
  nodup : (properties.map (·.1)).Nodup
  keys : (slots.map (·.key)).Perm (properties.map (·.1))
  required : ∀ slot ∈ slots, slot.required = true → slot.key ∈ required
  fault : ∀ slot ∈ slots, ∃ schema, properties.lookup slot.key = some schema ∧ FaultAgrees schema slot.fault?

/-- Two documents hold the same under every known key, as far as the shapes of its schema can tell. -/
def SameParts (properties : List (String × Schema)) (doc other : Document) : Prop :=
  ∀ {β : Type} {shape : Shape β} {schema : Schema} (key : String) (default : β) (place : Nat),
    properties.lookup key = some schema → BuildAgrees schema shape.build →
      shape.part default doc place key = shape.part default other place key

section Records
variable {required : List String} {properties : List (String × Schema)} {members : List (Document × Document)}
  {values : List (String × Value)}

/-- Under a key that is written once at most a document holds what its value holds there. -/
theorem member?_eq_some_iff (h : Document.toMembers? [] members = some values) {key : String}
    (hkey : (Document.keys members).count key ≤ 1) {value : Value} :
    Json.member? values key = some value ↔
      ∃ doc, (.text (some key), doc) ∈ members ∧ doc.toValue? = some value := by
  rw [Document.member?_of_toMembers? h hkey, show Json.member? ([] : List (String × Value)) key = none from rfl,
    Option.or_none, Option.bind_eq_some_iff]
  simp only [Document.mem_iff_member?_eq_some hkey]

/-- A slot agrees with its schema on a whole object when its key is written once at most. -/
theorem slotRead_iff (h : Document.toMembers? [] members = some values) {key : String}
    (hkey : (Document.keys members).count key ≤ 1) {schema : Schema} {fault? : Document → Option Fault}
    (hagrees : FaultAgrees schema fault?)
    (hfits : ∀ value, Json.member? values key = some value → Fits AnyFormat schema value) :
    (∀ doc, (.text (some key), doc) ∈ members → fault? doc = none) ↔
      (∀ doc, (.text (some key), doc) ∈ members → repeatsKey schema doc = false) ∧
        ∀ value, Json.member? values key = some value → Fits WordFormat schema value := by
  have hheld : ∀ doc, (.text (some key), doc) ∈ members → ∃ value, doc.toValue? = some value ∧
      Json.member? values key = some value := by
    intro doc hmem
    obtain ⟨value, hvalue⟩ := Document.exists_toValue?_of_mem h hmem
    exact ⟨value, hvalue, (member?_eq_some_iff h hkey).2 ⟨doc, hmem, hvalue⟩⟩
  constructor
  · intro hread
    refine ⟨fun doc hmem => ?_, fun value hvalue => ?_⟩
    · obtain ⟨value, hvalue, hmember⟩ := hheld doc hmem
      exact ((hagrees doc value hvalue (hfits value hmember)).1 (hread doc hmem)).1
    · obtain ⟨doc, hmem, hdoc⟩ := (member?_eq_some_iff h hkey).1 hvalue
      exact ((hagrees doc value hdoc (hfits value hvalue)).1 (hread doc hmem)).2
  · rintro ⟨hsingle, hobeys⟩ doc hmem
    obtain ⟨value, hvalue, hmember⟩ := hheld doc hmem
    exact (hagrees doc value hvalue (hfits value hmember)).2 ⟨hsingle doc hmem, hobeys value hmember⟩

/-- What is required of the value is there in the document. -/
theorem mem_keys_of_isSome (h : Document.toMembers? [] members = some values) {key : String}
    (hkey : (Json.member? values key).isSome = true) : key ∈ Document.keys members := by
  by_contra hnot
  have hcount : (Document.keys members).count key = 0 := List.count_eq_zero.2 hnot
  obtain ⟨value, hvalue⟩ := Option.isSome_iff_exists.1 hkey
  obtain ⟨doc, hmem, -⟩ := (member?_eq_some_iff h (by omega)).1 hvalue
  exact hnot (Document.mem_keys hmem)

theorem FaultAgrees.record {α : Type} {notes : SchemaNotes} {slots : List Slot} {build : Document → α}
    (hslots : SlotsAgree required properties slots) :
    FaultAgrees (.record notes required properties) (Shape.record slots build).fault? := by
  rintro doc _ hvalue ⟨values, rfl, hrequired, hfits⟩
  obtain ⟨members, rfl, hmembers⟩ := Document.toValue?_eq_object hvalue
  rw [propertiesFit_iff] at hfits
  have hkeys : Document.keysAmong (slots.map (·.key)) members = Document.keysAmong (properties.map (·.1)) members :=
    Document.keysAmong_congr (fun _ => hslots.keys.mem_iff) members
  have hfilled : SlotsFilled slots [] members := fun slot hslot hmust =>
    .inr (mem_keys_of_isSome hmembers (hrequired slot.key (hslots.required slot hslot hmust)))
  show Shape.membersFault? slots [] true members = none ↔ _
  rw [Shape.membersFault?_eq_none_iff (hslots.keys.nodup_iff.2 hslots.nodup) hmembers, hkeys, repeatsKey_record,
    and_iff_left hfilled, and_iff_left fun key _ => List.not_mem_nil, and_assoc]
  refine and_congr_right fun hsingle => ?_
  -- a property is the property of a slot, and under its key there is one document at most
  have hone : ∀ slot ∈ slots, (Document.keys members).count slot.key ≤ 1 := fun slot hslot =>
    Document.count_keys_le_one hsingle (hslots.keys.mem_iff.1 (List.mem_map_of_mem hslot))
  have hslot : ∀ slot ∈ slots, ∀ schema, (slot.key, schema) ∈ properties →
      ((∀ doc, (.text (some slot.key), doc) ∈ members → slot.fault? doc = none) ↔
        (∀ doc, (.text (some slot.key), doc) ∈ members → repeatsKey schema doc = false) ∧
          ∀ value, Json.member? values slot.key = some value → Fits WordFormat schema value) := by
    intro slot hslot schema hschema
    obtain ⟨own, hown, hagrees⟩ := hslots.fault slot hslot
    have hsame : own = schema := Json.eq_of_lookup hslots.nodup hown hschema
    exact slotRead_iff hmembers (hone slot hslot) (hsame ▸ hagrees) fun value hvalue =>
      hfits slot.key schema hschema value hvalue
  have hproperty : ∀ key schema, (key, schema) ∈ properties → ∃ slot ∈ slots, slot.key = key := by
    intro key schema hmem
    exact List.mem_map.1 (hslots.keys.mem_iff.2 (List.mem_map_of_mem hmem))
  have hfitsRecord : Fits WordFormat (.record notes required properties) (.object values) ↔
      PropertiesFit WordFormat properties values := by
    simp only [Fits, Value.object.injEq, exists_eq_left', and_iff_right hrequired]
  rw [hfitsRecord, propertiesFit_iff]
  constructor
  · intro hread
    refine ⟨fun key schema hmem => ?_, fun key schema hmem => ?_⟩
    all_goals
      obtain ⟨slot, hmemSlot, rfl⟩ := hproperty key schema hmem
      have hboth := (hslot slot hmemSlot schema hmem).1 (hread slot hmemSlot)
    · exact hboth.1
    · exact hboth.2
  · rintro ⟨hrepeats, hobeys⟩ slot hmemSlot
    obtain ⟨schema, hlookup, -⟩ := hslots.fault slot hmemSlot
    have hmem := Json.mem_of_lookup hlookup
    exact (hslot slot hmemSlot schema hmem).2 ⟨hrepeats slot.key schema hmem, hobeys slot.key schema hmem⟩

/-- Under a known key that is not repeated a document and its value hold the same. -/
theorem sameParts_ofValue {notes : SchemaNotes} (hmembers : Document.toMembers? [] members = some values)
    (hfits : PropertiesFit AnyFormat properties values)
    (hsingle : repeatsKey (.record notes required properties) (.object members true) = false) :
    SameParts properties (.object members true) (.ofValue (.object values)) := by
  intro β shape schema key default place hlookup hbuild
  rw [repeatsKey_record] at hsingle
  have hmem := Json.mem_of_lookup hlookup
  have hone := Document.count_keys_le_one hsingle.1 (List.mem_map_of_mem hmem)
  have hvalue : Document.member? key (Document.ofMembers values) = (Json.member? values key).map Document.ofValue :=
    Document.member?_ofMembers
  rw [Shape.part, Shape.part, Document.ofValue, Document.part?, Document.part?, hvalue,
    Document.member?_of_toMembers? hmembers hone]
  cases hheld : Document.member? key members with
  | none => rfl
  | some doc =>
      have hdoc := Document.mem_of_member? hheld
      obtain ⟨value, hvalue⟩ := Document.exists_toValue?_of_mem hmembers hdoc
      rw [Option.bind_some, hvalue]
      have hmember := (member?_eq_some_iff hmembers hone).2 ⟨doc, hdoc, hvalue⟩
      exact hbuild doc value hvalue (propertiesFit_iff.1 hfits key schema hmem value hmember)
        (hsingle.2 key schema hmem doc hdoc)

theorem BuildAgrees.record {α : Type} {notes : SchemaNotes} {build : Document → α}
    (h : ∀ doc other, SameParts properties doc other → build doc = build other) :
    BuildAgrees (.record notes required properties) build := by
  rintro doc _ hvalue ⟨values, rfl, -, hfits⟩ hsingle
  obtain ⟨members, rfl, hmembers⟩ := Document.toValue?_eq_object hvalue
  exact h _ _ (sameParts_ofValue hmembers hfits hsingle)

theorem Agrees.record {α : Type} {notes : SchemaNotes} {slots : List Slot} {build : Document → α}
    (hslots : SlotsAgree required properties slots)
    (hbuild : ∀ doc other, SameParts properties doc other → build doc = build other) :
    Agrees (.record notes required properties) (Shape.record slots build) :=
  ⟨.record hslots, .record hbuild⟩

end Records

end DomainModel.Schema
