import DomainModel.Proofs.RuleNames

/-! What the field rules accept. A list of fields is checked field by field, each against those before
it, and as a whole. Together this says that every field is sound by itself, that no two names are alike,
and for an entity that exactly one field is the key: the whole list is asked for at least one, and each
field for no other one before it. -/

namespace DomainModel

namespace Constraint

theorem missingNameFrom?_eq_none_iff {constraints : List Constraint} {index : Nat} :
    missingNameFrom? index constraints = none ↔ ∀ constraint ∈ constraints, constraint.trimmedName ≠ "" := by
  induction constraints generalizing index with
  | nil => simp [missingNameFrom?]
  | cons constraint rest ih =>
      by_cases h : constraint.trimmedName = ""
      · simp [missingNameFrom?, h]
      · simp [missingNameFrom?, h, ih]

/-- In a list without a fault every constraint has a name. -/
theorem trimmedName_ne_empty {constraints : List Constraint} (h : firstFault? constraints = none) :
    ∀ constraint ∈ constraints, constraint.trimmedName ≠ "" := by
  rw [firstFault?, Option.or_eq_none_iff] at h
  exact missingNameFrom?_eq_none_iff.1 h.1

end Constraint

theorem ConstraintRule.isSome_find?_of_isApplicable {name typeName : String}
    (h : ConstraintRule.isApplicable name typeName = true) : (ConstraintRule.find? name).isSome = true := by
  rw [isApplicable] at h
  cases hfind : find? name with
  | some rule => rfl
  | none => simp [hfind] at h

namespace Rule

open Text (Alike Distinct trim)

/-- A field that is right by itself: it has a name and a type, its length is not zero, and its
constraints are registered, suit the type and have the values they need. -/
structure SoundField (field : Field) : Prop where
  name : Naming.isIdentifier (trim field.name) = true
  typed : trim field.typeName ≠ ""
  length : field.maxLength ≠ some 0
  constraints : Constraint.firstFault? field.constraints = none
  registered : ∀ constraint ∈ field.constraints, (ConstraintRule.find? constraint.trimmedName).isSome = true
  applicable : ∀ constraint ∈ field.constraints,
    ConstraintRule.isApplicable constraint.trimmedName (trim field.typeName) = true

/-- A field that does not clash with the other fields of its owner, by its name or as a second key. -/
structure FieldFits (field : Field) (others : List Field) (owner : FieldOwner) : Prop where
  name : ∀ other ∈ others, ¬ Alike other.name field.name
  key : owner = .entity → ∀ other ∈ others, ¬(other.primaryKey = true ∧ field.primaryKey = true)

theorem errorFree_fieldNameIssues_iff {field : Field} {others : List Field} :
    ErrorFree (fieldNameIssues field others) ↔
      Naming.isIdentifier (trim field.name) = true ∧ ∀ other ∈ others, ¬ Alike other.name field.name := by
  rw [fieldNameIssues]
  by_cases hempty : (trim field.name).isEmpty = true
  · rw [if_pos hempty, String.isEmpty_iff.1 hempty, isIdentifier_empty]
    simp [Issue.isError]
  rw [if_neg hempty]
  by_cases hid : Naming.isIdentifier (trim field.name) = true
  · rw [if_neg (by simp [hid])]
    split
    · next htaken =>
        obtain ⟨other, hmem, halike⟩ := List.any_eq_true.1 htaken
        constructor
        · intro h
          exact absurd h (by simp [Issue.isError])
        · rintro ⟨-, h⟩
          exact absurd halike (h other hmem)
    · next hfree =>
        have hothers : ∀ other ∈ others, ¬ Alike other.name field.name := by
          intro other hmem halike
          exact hfree (List.any_eq_true.2 ⟨other, hmem, halike⟩)
        split <;> simp [hid, Issue.isError] <;> exact hothers
  · simp [hid, Issue.isError]

theorem errorFree_keyIssues_iff {field : Field} {others : List Field} {owner : FieldOwner} :
    ErrorFree (keyIssues field others owner) ↔
      (owner = .entity → ∀ other ∈ others, ¬(other.primaryKey = true ∧ field.primaryKey = true)) := by
  rw [keyIssues]
  split
  · next h =>
      simp only [Bool.and_eq_true, beq_iff_eq, List.any_eq_true] at h
      obtain ⟨⟨howner, hkey⟩, other, hmem, hother⟩ := h
      constructor
      · intro hfree
        exact absurd hfree (by simp [Issue.isError])
      · intro hnone
        exact absurd ⟨hother, hkey⟩ (hnone howner other hmem)
  · next h =>
      simp only [Bool.and_eq_true, beq_iff_eq, List.any_eq_true] at h
      simp only [ErrorFree.nil_iff, true_iff]
      rintro howner other hmem ⟨hother, hkey⟩
      exact h ⟨⟨howner, hkey⟩, other, hmem, hother⟩

theorem errorFree_typeIssues_iff {field : Field} : ErrorFree (typeIssues field) ↔ trim field.typeName ≠ "" := by
  by_cases h : trim field.typeName = "" <;> simp [typeIssues, h, Issue.isError]

theorem errorFree_lengthIssues_iff {field : Field} : ErrorFree (lengthIssues field) ↔ field.maxLength ≠ some 0 := by
  by_cases h : field.maxLength = some 0 <;> simp [lengthIssues, h, Issue.isError]

theorem errorFree_constraintListIssues_iff {field : Field} :
    ErrorFree (constraintListIssues field) ↔ Constraint.firstFault? field.constraints = none := by
  rw [constraintListIssues]
  cases Constraint.firstFault? field.constraints <;> simp [Issue.isError]

/-- On a field with a type, a constraint with a name is accepted when it is applicable. -/
theorem errorFree_constraintIssues_iff {typeName : String} {index : Nat} {constraint : Constraint}
    (hname : constraint.trimmedName ≠ "") (htype : trim typeName ≠ "") :
    ErrorFree (constraintIssues typeName index constraint) ↔
      ConstraintRule.isApplicable constraint.trimmedName (trim typeName) = true := by
  have hname' : constraint.trimmedName.isEmpty = false := by simpa using hname
  have htype' : (trim typeName).isEmpty = false := by simpa using htype
  rw [constraintIssues]
  cases hfind : ConstraintRule.find? constraint.trimmedName with
  | none => simp [hname', hfind, ConstraintRule.isApplicable, Issue.isError]
  | some rule =>
      by_cases happ : ConstraintRule.isApplicable constraint.trimmedName (trim typeName) = true <;>
        simp [hname', htype', happ, Issue.isError]

theorem errorFree_fieldIssues_iff {field : Field} {siblings : List Field} {editing : Option Nat}
    {owner : FieldOwner} :
    ErrorFree (fieldIssues field siblings editing owner) ↔
      SoundField field ∧ FieldFits field (otherFields siblings editing) owner := by
  simp only [fieldIssues, ErrorFree.append_iff, errorFree_fieldNameIssues_iff, errorFree_keyIssues_iff,
    errorFree_typeIssues_iff, errorFree_lengthIssues_iff, errorFree_constraintListIssues_iff,
    ErrorFree.flatten_mapIdx_iff]
  constructor
  · rintro ⟨⟨⟨⟨⟨⟨hname, hfree⟩, hkey⟩, htyped⟩, hlength⟩, hlist⟩, heach⟩
    have happ : ∀ constraint ∈ field.constraints,
        ConstraintRule.isApplicable constraint.trimmedName (trim field.typeName) = true := by
      intro constraint hmem
      obtain ⟨i, hi⟩ := List.mem_iff_getElem?.1 hmem
      exact (errorFree_constraintIssues_iff (Constraint.trimmedName_ne_empty hlist _ hmem) htyped).1
        (heach i constraint hi)
    exact ⟨⟨hname, htyped, hlength, hlist,
      fun constraint hmem => ConstraintRule.isSome_find?_of_isApplicable (happ constraint hmem), happ⟩,
      hfree, hkey⟩
  · rintro ⟨hsound, hfits⟩
    refine ⟨⟨⟨⟨⟨⟨hsound.name, hfits.name⟩, hfits.key⟩, hsound.typed⟩, hsound.length⟩, hsound.constraints⟩, ?_⟩
    intro i constraint hi
    have hmem := List.mem_of_getElem? hi
    exact (errorFree_constraintIssues_iff (Constraint.trimmedName_ne_empty hsound.constraints _ hmem)
      hsound.typed).2 (hsound.applicable constraint hmem)

/-! ### A list of fields -/

/-- A list of fields that is right for its owner. -/
structure SoundFields (fields : List Field) (owner : FieldOwner) : Prop where
  nonempty : fields ≠ []
  each : ∀ field ∈ fields, SoundField field
  distinct : Distinct (fields.map (·.name))
  key : owner = .entity → fields.countP (·.primaryKey) = 1

theorem countP_eq_one_iff {α : Type} {p : α → Bool} {l : List α} :
    l.countP p = 1 ↔ l.any p = true ∧ l.Pairwise fun a b => ¬(p a = true ∧ p b = true) := by
  induction l with
  | nil => simp
  | cons a l ih =>
      by_cases ha : p a = true
      · have hnone : (∀ b ∈ l, ¬p b = true) → l.Pairwise fun a b => ¬(p a = true ∧ p b = true) := by
          intro h
          exact List.pairwise_of_forall_mem_list fun x hx y _ hxy => h x hx hxy.1
        simp only [List.countP_cons_of_pos ha, Nat.add_eq_right, List.countP_eq_zero, List.any_cons, ha,
          Bool.true_or, true_and, List.pairwise_cons]
        exact ⟨fun h => ⟨h, hnone h⟩, fun h => h.1⟩
      · simp [List.countP_cons_of_neg ha, ih, ha]

theorem errorFree_fieldListIssues_iff {fields : List Field} {owner : FieldOwner} :
    ErrorFree (fieldListIssues fields owner) ↔
      fields ≠ [] ∧ (owner = .entity → fields.any (·.primaryKey) = true) := by
  rw [fieldListIssues]
  by_cases hempty : fields = []
  · simp [hempty, Issue.isError]
  · have hne : fields.isEmpty = false := by simpa using hempty
    cases owner <;> cases hkey : fields.any (·.primaryKey) <;> simp [hne, hempty, Issue.isError]

theorem errorFree_fieldsIssues_iff {fields : List Field} {owner : FieldOwner} :
    ErrorFree (fieldsIssues fields owner) ↔ SoundFields fields owner := by
  simp only [fieldsIssues, ErrorFree.append_iff, errorFree_fieldListIssues_iff, ErrorFree.flatten_mapIdx_iff,
    ErrorFree.map_nestAt_iff, errorFree_fieldIssues_iff, otherFields]
  have hnames : Distinct (fields.map (·.name)) ↔
      ∀ i field, fields[i]? = some field → ∀ other ∈ fields.take i, ¬ Alike other.name field.name := by
    rw [Distinct, List.pairwise_map]
    exact pairwise_iff_take
  have hkeys : (fields.Pairwise fun a b => ¬(a.primaryKey = true ∧ b.primaryKey = true)) ↔
      ∀ i field, fields[i]? = some field → ∀ other ∈ fields.take i,
        ¬(other.primaryKey = true ∧ field.primaryKey = true) := pairwise_iff_take
  constructor
  · rintro ⟨⟨hne, hany⟩, heach⟩
    refine ⟨hne, ?_, hnames.2 fun i field hi => (heach i field hi).2.name, ?_⟩
    · intro field hmem
      obtain ⟨i, hi⟩ := List.mem_iff_getElem?.1 hmem
      exact (heach i field hi).1
    · intro howner
      exact countP_eq_one_iff.2 ⟨hany howner, hkeys.2 fun i field hi => (heach i field hi).2.key howner⟩
  · intro h
    refine ⟨⟨h.nonempty, fun howner => (countP_eq_one_iff.1 (h.key howner)).1⟩, fun i field hi => ?_⟩
    exact ⟨h.each field (List.mem_of_getElem? hi), hnames.1 h.distinct i field hi,
      fun howner => hkeys.1 (countP_eq_one_iff.1 (h.key howner)).2 i field hi⟩

end Rule

end DomainModel
