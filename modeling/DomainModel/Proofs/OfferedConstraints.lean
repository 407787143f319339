import DomainModel.Proofs.DeclaredNames
import Mathlib.Data.List.Nodup
import Mathlib.Data.String.Basic

/-! The constraints that a type is offered and those that it accepts. The rules are in the order of their names, no two
of one name, so a rule is found by its name wherever the search for it begins, and what is left of the rules after a
choice is still in order. Both the offer and the check ask whether a rule suits the type, the one of all rules and the
other of the rule that is found; so they agree, and the field rules complain of a constraint exactly where it is not
offered. -/

namespace DomainModel

namespace ConstraintRule

/-! ### Looking up rules -/

/-- The names of the rules are in strict order. -/
theorem sorted_all : all.Pairwise (·.name < ·.name) := by decide +kernel

theorem find?_eq_some_iff {name : String} {rule : ConstraintRule} :
    find? name = some rule ↔ rule ∈ all ∧ rule.name = name := by
  constructor
  · intro h
    rw [find?] at h
    have hname := List.find?_some h
    exact ⟨List.mem_of_find?_eq_some h, beq_iff_eq.1 hname⟩
  · rintro ⟨hmem, rfl⟩
    have hnames : (all.map (·.name)).Nodup := (List.pairwise_map.2 sorted_all).imp ne_of_lt
    have hsome : (all.find? (·.name == rule.name)).isSome = true := List.find?_isSome.2 ⟨rule, hmem, by simp⟩
    obtain ⟨other, hother⟩ := Option.isSome_iff_exists.1 hsome
    have hname := List.find?_some hother
    rw [find?, hother, List.inj_on_of_nodup_map hnames (List.mem_of_find?_eq_some hother) hmem (beq_iff_eq.1 hname)]

/-- The rule of a name among rules in order, found by halving: the name is held against the first rule of the back half,
and the search goes on in the half where it may be. -/
def search? (name : String) (rules : List ConstraintRule) : Option ConstraintRule :=
  if hfew : rules.length ≤ 1 then rules.find? (·.name == name)
  else
    have hhalf : rules.length / 2 < rules.length := by omega
    if name < rules[rules.length / 2].name then search? name (rules.take (rules.length / 2))
    else search? name (rules.drop (rules.length / 2))
termination_by rules.length
decreasing_by
  · rw [List.length_take]
    omega
  · rw [List.length_drop]
    omega

/-- No rule of a list has the name when all of their names come before it or all come behind it. -/
theorem find?_eq_none_of_apart {name : String} {rules : List ConstraintRule}
    (h : ∀ rule ∈ rules, rule.name ≠ name) : rules.find? (·.name == name) = none := by
  rw [List.find?_eq_none]
  intro rule hmem hname
  exact h rule hmem (beq_iff_eq.1 hname)

/-- Among rules in order halving finds what going through them finds. -/
theorem search?_eq_find? {name : String} {rules : List ConstraintRule} (h : rules.Pairwise (·.name < ·.name)) :
    search? name rules = rules.find? (·.name == name) := by
  fun_induction search? name rules with
  | case1 rules hfew => rfl
  | case2 rules hfew hhalf hbefore ih =>
      -- the name comes before the middle rule, and so before the whole back half
      have hback : ∀ rule ∈ rules.drop (rules.length / 2), rule.name ≠ name := by
        intro rule hmem hname
        rw [List.drop_eq_getElem_cons hhalf] at hmem
        have hsorted := h.sublist (List.drop_sublist (rules.length / 2) rules)
        rw [List.drop_eq_getElem_cons hhalf, List.pairwise_cons] at hsorted
        rcases List.mem_cons.1 hmem with rfl | hrest
        · exact absurd hname hbefore.ne'
        · exact absurd hname (hbefore.trans (hsorted.1 rule hrest)).ne'
      rw [ih (h.sublist (List.take_sublist _ _))]
      conv_rhs => rw [← List.take_append_drop (rules.length / 2) rules]
      rw [List.find?_append, find?_eq_none_of_apart hback, Option.or_none]
  | case3 rules hfew hhalf hbehind ih =>
      -- the middle rule does not come behind the name, and so the whole front half comes before it
      have hfront : ∀ rule ∈ rules.take (rules.length / 2), rule.name ≠ name := by
        intro rule hmem hname
        have hsplit := h
        rw [← List.take_append_drop (rules.length / 2) rules, List.pairwise_append] at hsplit
        have hmiddle : rules[rules.length / 2] ∈ rules.drop (rules.length / 2) := by
          rw [List.drop_eq_getElem_cons hhalf]
          exact List.mem_cons_self
        exact hbehind (hname ▸ hsplit.2.2 rule hmem _ hmiddle)
      rw [ih (h.sublist (List.drop_sublist _ _))]
      conv_rhs => rw [← List.take_append_drop (rules.length / 2) rules]
      rw [List.find?_append, find?_eq_none_of_apart hfront, Option.none_or]

/-! ### Offers -/

/-- A rule suits a type when it applies to the group of the type; a type without a group takes every rule. -/
def Suits (rule : ConstraintRule) (typeName : String) : Prop :=
  ∀ group ∈ TypeGroup.ofType? typeName, rule.appliesTo group = true

theorem isApplicable_iff {name typeName : String} :
    isApplicable name typeName = true ↔ ∃ rule, find? name = some rule ∧ rule.Suits typeName := by
  rw [isApplicable]
  cases find? name with
  | none => simp
  | some rule => cases hgroup : TypeGroup.ofType? typeName <;> simp [Suits, hgroup]

theorem mem_optionsFor_iff {name typeName : String} :
    name ∈ optionsFor typeName ↔ ∃ rule ∈ all, rule.Suits typeName ∧ rule.name = name := by
  cases hgroup : TypeGroup.ofType? typeName <;> simp [optionsFor, Suits, hgroup, and_assoc]

/-- What is offered is what is accepted. -/
theorem mem_optionsFor_iff_isApplicable {name typeName : String} :
    name ∈ optionsFor typeName ↔ isApplicable name typeName = true := by
  rw [mem_optionsFor_iff, isApplicable_iff]
  constructor
  · rintro ⟨rule, hmem, hsuits, hname⟩
    exact ⟨rule, find?_eq_some_iff.2 ⟨hmem, hname⟩, hsuits⟩
  · rintro ⟨rule, hfind, hsuits⟩
    obtain ⟨hmem, hname⟩ := find?_eq_some_iff.1 hfind
    exact ⟨rule, hmem, hsuits, hname⟩

theorem sorted_optionsFor (typeName : String) : (optionsFor typeName).Pairwise (· < ·) :=
  List.pairwise_map.2 (sorted_all.sublist List.filter_sublist)

/-- Outer blanks of a type do not matter. -/
theorem isApplicable_trim (name typeName : String) :
    isApplicable name (Text.trim typeName) = isApplicable name typeName := by
  have hgroup : TypeGroup.ofType? (Text.trim typeName) = TypeGroup.ofType? typeName := by
    simp only [TypeGroup.ofType?, Text.toList_trim, Text.trimChars_trimChars]
  rw [isApplicable, isApplicable, hgroup]

end ConstraintRule

namespace Rule

open Text (trim)

/-! ### Complaints about constraints -/

/-- The codes of what is wrong with one constraint of a field. -/
def constraintCodes : List String := ["unknown_constraint", "constraint_not_applicable"]

section Constraints
variable {typeName : String} {i : Nat} {constraint : Constraint}

theorem path_of_mem_constraintIssues {issue : Issue} (h : issue ∈ constraintIssues typeName i constraint) :
    issue.path = "/constraints/" ++ toString i := by
  rw [constraintIssues] at h
  repeat' split at h
  all_goals simp_all

/-- A constraint with a name is complained of, in one way or the other, where its type is not offered it. -/
theorem reportsAt_constraintIssues_iff (hname : constraint.trimmedName ≠ "") (htype : trim typeName ≠ "") :
    (ReportsAt "unknown_constraint" ("/constraints/" ++ toString i) (constraintIssues typeName i constraint) ∨
        ReportsAt "constraint_not_applicable" ("/constraints/" ++ toString i)
          (constraintIssues typeName i constraint)) ↔
      constraint.trimmedName ∉ ConstraintRule.optionsFor typeName := by
  have hname' : constraint.trimmedName.isEmpty = false := by simpa using hname
  have htype' : (trim typeName).isEmpty = false := by simpa using htype
  rw [ConstraintRule.mem_optionsFor_iff_isApplicable]
  simp only [constraintIssues, hname', htype', ConstraintRule.isApplicable_trim]
  cases hfind : ConstraintRule.find? constraint.trimmedName with
  | none => simp [ConstraintRule.isApplicable, hfind]
  | some rule => cases ConstraintRule.isApplicable constraint.trimmedName typeName <;> simp

/-- At the place of a constraint only the rule for single constraints has these codes, and only for the constraint that
is there. -/
theorem reportsAt_fieldIssues_iff {field : Field} {siblings : List Field} {editing : Option Nat} {owner : FieldOwner}
    {code : String} (hcode : code ∈ constraintCodes) (hconstraint : field.constraints[i]? = some constraint) :
    ReportsAt code ("/constraints/" ++ toString i) (fieldIssues field siblings editing owner) ↔
      ReportsAt code ("/constraints/" ++ toString i) (constraintIssues field.typeName i constraint) := by
  have hname : ∀ issue ∈ fieldNameIssues field (otherFields siblings editing), issue.code ∉ constraintCodes := by
    rw [fieldNameIssues]
    repeat' split
    all_goals simp [constraintCodes]
  have hkey : ∀ issue ∈ keyIssues field (otherFields siblings editing) owner, issue.code ∉ constraintCodes := by
    rw [keyIssues]
    split <;> simp [constraintCodes]
  have htype : ∀ issue ∈ typeIssues field, issue.code ∉ constraintCodes := by
    rw [typeIssues]
    split <;> simp [constraintCodes]
  have hlength : ∀ issue ∈ lengthIssues field, issue.code ∉ constraintCodes := by
    rw [lengthIssues]
    split <;> simp [constraintCodes]
  have hlist : ∀ issue ∈ constraintListIssues field, issue.code ∉ constraintCodes := by
    rw [constraintListIssues]
    split <;> simp [constraintCodes]
  have hsilent : ∀ {issues : List Issue} {path : String}, (∀ issue ∈ issues, issue.code ∉ constraintCodes) →
      ¬ ReportsAt code path issues := by
    rintro issues path hissues ⟨issue, hmem, rfl, -⟩
    exact hissues issue hmem hcode
  simp only [fieldIssues, ReportsAt.append_iff, hsilent hname, hsilent hkey, hsilent htype, hsilent hlength,
    hsilent hlist, false_or, ReportsAt.flatten_mapIdx_iff]
  constructor
  · rintro ⟨j, other, hother, issue, hmem, hissue, hpath⟩
    have hplace := (path_of_mem_constraintIssues hmem).symm.trans hpath
    rw [String.append_right_inj, Json.toString_inj] at hplace
    subst hplace
    obtain rfl := Option.some.inj (hother.symm.trans hconstraint)
    exact ⟨issue, hmem, hissue, hpath⟩
  · exact fun hreports => ⟨i, constraint, hconstraint, hreports⟩

end Constraints

/-- What a type is offered is in strict order and is what it accepts, however the rules are looked up. So a constraint
of a field is complained of, at its own place, exactly where the type of the field is not offered it. -/
theorem offered_iff_accepted :
    (∀ typeName, (ConstraintRule.optionsFor typeName).Pairwise (· < ·)) ∧
      (∀ name typeName,
        ConstraintRule.isApplicable name typeName = true ↔ name ∈ ConstraintRule.optionsFor typeName) ∧
      (∀ name, ConstraintRule.search? name ConstraintRule.all = ConstraintRule.find? name) ∧
      ∀ (field : Field) (siblings : List Field) (editing : Option Nat) (owner : FieldOwner) (i : Nat)
        (constraint : Constraint), trim field.typeName ≠ "" → field.constraints[i]? = some constraint →
        constraint.trimmedName ≠ "" →
        ((ReportsAt "unknown_constraint" ("/constraints/" ++ toString i) (fieldIssues field siblings editing owner) ∨
            ReportsAt "constraint_not_applicable" ("/constraints/" ++ toString i)
              (fieldIssues field siblings editing owner)) ↔
          constraint.trimmedName ∉ ConstraintRule.optionsFor field.typeName) := by
  refine ⟨ConstraintRule.sorted_optionsFor, fun name typeName => ?_, fun name => ?_, ?_⟩
  · exact ConstraintRule.mem_optionsFor_iff_isApplicable.symm
  · exact ConstraintRule.search?_eq_find? ConstraintRule.sorted_all
  · intro field siblings editing owner i constraint htype hconstraint hname
    rw [reportsAt_fieldIssues_iff (by decide) hconstraint, reportsAt_fieldIssues_iff (by decide) hconstraint]
    exact reportsAt_constraintIssues_iff hname htype

/-- Numbers in a list: their count may be bounded, the numbers themselves may not, and `Wide` is no constraint. -/
def lengths : Field where
  name := "lengths"
  typeName := " List <Long> "
  constraints := [{ name := "Size", value := some "1" }, { name := " Min ", value := some "0" }, { name := "Wide" }]

theorem offered_iff_accepted_lengths :
    ConstraintRule.optionsFor lengths.typeName = ["NotEmpty", "NotNull", "Null", "Size"] ∧
      trim lengths.typeName ≠ "" ∧ lengths.constraints[1]? = some { name := " Min ", value := some "0" } ∧
      (ReportsAt "unknown_constraint" "/constraints/1" (fieldIssues lengths [lengths] (some 0) .entity) ∨
        ReportsAt "constraint_not_applicable" "/constraints/1" (fieldIssues lengths [lengths] (some 0) .entity)) := by
  refine ⟨by decide +kernel, by decide +kernel, rfl, ?_⟩
  exact (offered_iff_accepted.2.2.2 lengths [lengths] (some 0) .entity 1 { name := " Min ", value := some "0" }
    (by decide +kernel) rfl (by decide +kernel)).2 (by decide +kernel)

end Rule

end DomainModel
