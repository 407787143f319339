import DomainModel.Proofs.RuleDuplicates
import DomainModel.Rule.Relation

/-! When a relation is reported for its ends: because one of them is no entity of the project, or because both are one
entity. The rules for the field that holds the relation and for its type have other codes. -/

namespace DomainModel

open Text (Alike trim)

theorem Report.hasCode_ofIssues_iff {issues : List Issue} {code : String} :
    (Report.ofIssues issues).hasCode code = true ↔ Rule.Reports code issues := by
  simp only [Report.hasCode, Report.ofIssues, List.any_append, List.any_filter, Bool.or_eq_true, List.any_eq_true,
    Bool.and_eq_true, beq_iff_eq, Rule.Reports, ← exists_or, ← and_or_left, ← or_and_right, Bool.not_eq_true']
  refine exists_congr fun issue => and_congr_right fun _ => and_iff_right ?_
  exact Bool.eq_false_or_eq_true _

namespace Rule

/-- The codes of what is wrong with a relation apart from its ends. -/
def holderCodes : List String :=
  ["source_field_required", "invalid_source_field", "unknown_relation_type", "unknown_target_field",
    "incompatible_relation_type", "duplicate_relation_field"]

variable {code : String} {relation : Relation} {project : Project} {allowSelfReference : Bool} {editing : Option Nat}

theorem reports_endIssues_iff {found : Option Entity} {role path name : String} :
    Reports code (endIssues found role path name) ↔ found = none ∧ "unknown_" ++ role ++ "_entity" = code := by
  cases found <;> simp [endIssues]

theorem reports_selfReferenceIssues_iff :
    Reports code (selfReferenceIssues relation allowSelfReference) ↔
      (allowSelfReference = false ∧ Alike relation.sourceEntity relation.targetEntity) ∧ "self_reference" = code := by
  rw [selfReferenceIssues, Alike]
  cases allowSelfReference <;>
    cases Text.equalIgnoringCase (trim relation.sourceEntity) (trim relation.targetEntity) <;> simp

/-- The other codes come from the rules for the ends alone. -/
theorem reports_relationIssues_iff (h : code ∉ holderCodes) :
    Reports code (relationIssues relation project allowSelfReference editing) ↔
      Reports code (endIssues (project.entity? (trim relation.sourceEntity)) "source" "/sourceEntity"
        relation.sourceEntity) ∨
      Reports code (endIssues (project.entity? (trim relation.targetEntity)) "target" "/targetEntity"
        relation.targetEntity) ∨
      Reports code (selfReferenceIssues relation allowSelfReference) := by
  simp only [holderCodes, List.mem_cons, List.not_mem_nil, or_false, not_or, eq_comm (a := code)] at h
  obtain ⟨hmissing, hinvalid, htype, htarget, hkey, hclash⟩ := h
  have hfieldRule : ∀ name, ¬ Reports code (sourceFieldIssues name) := by
    intro name
    rw [sourceFieldIssues]
    repeat' split
    all_goals simp [hmissing, hinvalid]
  have htypeRule : ¬ Reports code (relationTypeIssues relation.relationType) := by
    rw [relationTypeIssues]
    split <;> simp [htype]
  have htargetRule : ∀ target name, ¬ Reports code (targetFieldIssues target name) := by
    intro target name
    unfold targetFieldIssues
    repeat' split
    all_goals simp [htarget]
  have hkeyRule : ∀ name source target, ¬ Reports code (keyTypeIssues relation.relationType name source target) := by
    intro name source target
    unfold keyTypeIssues
    repeat' split
    all_goals simp [hkey]
  have hclashRule : ∀ name others, ¬ Reports code (clashIssues relation name others) := by
    intro name others
    rw [clashIssues]
    split <;> simp [hclash]
  simp only [relationIssues, Reports.append_iff, hfieldRule, htypeRule, htargetRule, hkeyRule, hclashRule, or_false,
    or_assoc]

theorem reports_selfReference_iff :
    Reports "self_reference" (relationIssues relation project allowSelfReference editing) ↔
      allowSelfReference = false ∧ Alike relation.sourceEntity relation.targetEntity := by
  rw [reports_relationIssues_iff (by decide), reports_endIssues_iff, reports_endIssues_iff,
    reports_selfReferenceIssues_iff]
  simp

theorem reports_unknownSource_iff :
    Reports "unknown_source_entity" (relationIssues relation project allowSelfReference editing) ↔
      project.entity? (trim relation.sourceEntity) = none := by
  rw [reports_relationIssues_iff (by decide), reports_endIssues_iff, reports_endIssues_iff,
    reports_selfReferenceIssues_iff]
  simp

theorem reports_unknownTarget_iff :
    Reports "unknown_target_entity" (relationIssues relation project allowSelfReference editing) ↔
      project.entity? (trim relation.targetEntity) = none := by
  rw [reports_relationIssues_iff (by decide), reports_endIssues_iff, reports_endIssues_iff,
    reports_selfReferenceIssues_iff]
  simp

end Rule

end DomainModel
