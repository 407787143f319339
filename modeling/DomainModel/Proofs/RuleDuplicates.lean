import DomainModel.Proofs.RuleErrors
import DomainModel.Proofs.TextFolding

/-! When a duplicate field is reported. Of all rules that an entity goes through, only the one for the name
of a field uses the code, and it does so behind the checks for a missing and for a wrong name. So a report
of a duplicate means two fields, of which the later one has a name that is right by itself and like that of
the earlier one. -/

namespace DomainModel.Rule

open Text (Alike trim)

/-- Some issue of the list has the code. -/
def Reports (code : String) (issues : List Issue) : Prop := ∃ issue ∈ issues, issue.code = code

instance (code : String) (issues : List Issue) : Decidable (Reports code issues) :=
  inferInstanceAs (Decidable (∃ issue ∈ issues, issue.code = code))

namespace Reports
variable {code : String}

@[simp] theorem nil_iff : Reports code [] ↔ False := by simp [Reports]

@[simp] theorem append_iff {left right : List Issue} :
    Reports code (left ++ right) ↔ Reports code left ∨ Reports code right := by
  simp only [Reports, List.mem_append, or_and_right, exists_or]

@[simp] theorem singleton_iff {issue : Issue} : Reports code [issue] ↔ issue.code = code := by
  simp [Reports]

@[simp] theorem map_nestAt_iff {base : String} {issues : List Issue} :
    Reports code (issues.map (·.nestAt base)) ↔ Reports code issues := by
  simp only [Reports, List.mem_map, exists_exists_and_eq_and]
  rfl

theorem flatten_mapIdx_iff {α : Type} {issues : Nat → α → List Issue} {elements : List α} :
    Reports code (elements.mapIdx issues).flatten ↔
      ∃ i element, elements[i]? = some element ∧ Reports code (issues i element) := exists_mem_flatten_mapIdx

end Reports

/-- The codes of the rule for names. -/
def nameCodes : List String := ["name_required", "reserved_keyword", "invalid_identifier", "duplicate_name"]

theorem code_of_mem_nameIssues {name : String} {space : NameSpace} {existing : List String} {former : Option String}
    {issue : Issue} (h : issue ∈ nameIssues name space existing former) : issue.code ∈ nameCodes := by
  rw [nameIssues] at h
  repeat' split at h
  all_goals simp_all [nameCodes]

theorem reports_fieldNameIssues_iff {field : Field} {others : List Field} :
    Reports "duplicate_field" (fieldNameIssues field others) ↔
      Naming.isIdentifier (trim field.name) = true ∧ ∃ other ∈ others, Alike other.name field.name := by
  rw [fieldNameIssues]
  split
  · next hempty =>
      rw [String.isEmpty_iff.1 hempty]
      simp [show Naming.isIdentifier "" = false from rfl]
  split
  · next hwrong =>
      rw [Bool.not_eq_true'] at hwrong
      simp [hwrong]
  · next hright =>
      rw [Bool.not_eq_true', Bool.not_eq_false] at hright
      split
      · next htaken =>
          obtain ⟨other, hother, halike⟩ := List.any_eq_true.1 htaken
          simp only [Reports.singleton_iff, true_iff]
          exact ⟨hright, other, hother, halike⟩
      · next hfree =>
          have hapart : ¬ ∃ other ∈ others, Alike other.name field.name := by
            rintro ⟨other, hother, halike⟩
            exact hfree (List.any_eq_true.2 ⟨other, hother, halike⟩)
          split <;> simp [hapart]

/-- No other rule for a field reports one. -/
theorem reports_fieldIssues_iff {field : Field} {siblings : List Field} {editing : Option Nat} {owner : FieldOwner} :
    Reports "duplicate_field" (fieldIssues field siblings editing owner) ↔
      Naming.isIdentifier (trim field.name) = true ∧
        ∃ other ∈ otherFields siblings editing, Alike other.name field.name := by
  have hkey : ¬ Reports "duplicate_field" (keyIssues field (otherFields siblings editing) owner) := by
    rw [keyIssues]
    split <;> simp
  have htype : ¬ Reports "duplicate_field" (typeIssues field) := by
    rw [typeIssues]
    split <;> simp
  have hlength : ¬ Reports "duplicate_field" (lengthIssues field) := by
    rw [lengthIssues]
    split <;> simp
  have hlist : ¬ Reports "duplicate_field" (constraintListIssues field) := by
    rw [constraintListIssues]
    split <;> simp
  have heach : ¬ Reports "duplicate_field" (field.constraints.mapIdx (constraintIssues field.typeName)).flatten := by
    rw [Reports.flatten_mapIdx_iff]
    rintro ⟨i, constraint, -, hreports⟩
    revert hreports
    rw [constraintIssues]
    repeat' split
    all_goals simp
  simp only [fieldIssues, Reports.append_iff, hkey, htype, hlength, hlist, heach, or_false,
    reports_fieldNameIssues_iff]

/-- No rule for an entity reports one but that for the fields, each held against those before it. -/
theorem reports_entityIssues_iff {entity : Entity} {project : Project} {former : Option String} :
    Reports "duplicate_field" (entityIssues entity project former) ↔
      ∃ i field, entity.fields[i]? = some field ∧ Naming.isIdentifier (trim field.name) = true ∧
        ∃ other ∈ entity.fields.take i, Alike other.name field.name := by
  have hname : ¬ Reports "duplicate_field"
      (nameIssues entity.name .entity (project.entities.map (·.name)) former) := by
    rintro ⟨issue, hissue, hcode⟩
    exact absurd (hcode ▸ code_of_mem_nameIssues hissue) (by decide)
  have hflags : ¬ Reports "duplicate_field" (flagIssues entity) := by
    rw [flagIssues]
    split <;> simp
  have hlist : ¬ Reports "duplicate_field" (fieldListIssues entity.fields .entity) := by
    rw [fieldListIssues]
    repeat' split
    all_goals simp
  simp only [entityIssues, fieldsIssues, Reports.append_iff, hname, hflags, hlist, false_or,
    Reports.flatten_mapIdx_iff, Reports.map_nestAt_iff, reports_fieldIssues_iff, otherFields]

end DomainModel.Rule
