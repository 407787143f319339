import DomainModel.Proofs.RuleElements

/-! Rows of a mapper that say more than once where a field goes. Both the proposal of rows and the rule that asks for a
target of each source field settle on the first row about a field and look at its target afterwards; a later row for
the same field is then not looked at, and a field whose name has outer blanks has no row at all. So a target is kept,
and a complete mapper accepted, exactly where the first row about the field names a target. -/

namespace DomainModel

open Text (Alike Distinct trim equalIgnoringCase)

namespace FieldMapping

/-- The row is about the source field of that name. -/
def IsAbout (row : FieldMapping) (name : String) : Prop := Alike row.sourceField name

instance (row : FieldMapping) (name : String) : Decidable (row.IsAbout name) :=
  inferInstanceAs (Decidable (Alike row.sourceField name))

/-- The row names a target. -/
def NamesTarget (row : FieldMapping) : Prop := trim row.targetField ≠ ""

instance (row : FieldMapping) : Decidable row.NamesTarget := inferInstanceAs (Decidable (trim row.targetField ≠ ""))

end FieldMapping

/-- The target of the first row about a source field that names one. -/
def givenTarget? (rows : List FieldMapping) (name : String) : Option String :=
  (rows.find? fun row => row.IsAbout name ∧ row.NamesTarget).map (·.targetField)

/-- The first of all rows about a source field names a target. -/
def FirstNamesTarget (rows : List FieldMapping) (name : String) : Prop :=
  ∃ row, rows.find? (fun row => row.IsAbout name) = some row ∧ row.NamesTarget

instance (rows : List FieldMapping) (name : String) : Decidable (FirstNamesTarget rows name) :=
  decidable_of_iff (((rows.find? fun row => row.IsAbout name).any fun row => row.NamesTarget) = true) (by
    simp [FirstNamesTarget, Option.any_eq_true])

section Rows
variable {rows : List FieldMapping} {row : FieldMapping} {name text : String}

/-- A name with outer blanks is about no row, as the names in rows are trimmed before they are held against it. -/
theorem mappingFor?_eq (rows : List FieldMapping) (name : String) :
    mappingFor? rows name = if trim name = name then rows.find? (fun row => row.IsAbout name) else none := by
  have hsame (row : FieldMapping) :
      equalIgnoringCase (trim row.sourceField) name = true ↔ row.IsAbout name ∧ trim name = name := by
    rw [Text.equalIgnoringCase_comm, Text.equalIgnoringCase_trim_right_iff]
    exact and_congr_left' ⟨Alike.symm, Alike.symm⟩
  split
  · next htrimmed =>
      apply congrArg (List.find? · rows)
      funext row
      rw [Bool.eq_iff_iff, hsame, decide_eq_true_iff]
      exact and_iff_left htrimmed
  · next hblanks =>
      refine List.find?_eq_none.2 fun row _ habout => ?_
      exact hblanks ((hsame row).1 habout).2

/-- If the first row about a field names a target, it is the first that does. -/
theorem givenTarget?_of_first (hfirst : rows.find? (fun row => row.IsAbout name) = some row)
    (htarget : row.NamesTarget) : givenTarget? rows name = some row.targetField := by
  obtain ⟨habout, before, after, rfl, hbefore⟩ := List.find?_eq_some_iff_append.1 hfirst
  have hgiven : (before ++ row :: after).find? (fun row => decide (row.IsAbout name ∧ row.NamesTarget)) = some row := by
    refine List.find?_eq_some_iff_append.2 ⟨?_, before, after, rfl, fun other hother => ?_⟩
    · exact decide_eq_true ⟨of_decide_eq_true habout, htarget⟩
    · have hother := hbefore other hother
      simp only [Bool.not_eq_true', decide_eq_false_iff_not] at hother ⊢
      exact fun hgiven => hother hgiven.1
  rw [givenTarget?, hgiven, Option.map_some]

theorem explicitTarget?_eq_some_iff :
    explicitTarget? rows name = some text ↔
      (trim name = name ∧ FirstNamesTarget rows name) ∧ givenTarget? rows name = some text := by
  have hkept (row : FieldMapping) :
      (if (trim row.targetField).isEmpty then none else some row.targetField) = some text ↔
        row.NamesTarget ∧ row.targetField = text := by
    by_cases h : trim row.targetField = "" <;> simp [FieldMapping.NamesTarget, h]
  rw [explicitTarget?, mappingFor?_eq, Option.bind_eq_some_iff]
  simp only [hkept]
  constructor
  · rintro ⟨row, hrow, htarget, rfl⟩
    rw [Option.ite_none_right_eq_some] at hrow
    obtain ⟨htrimmed, hfirst⟩ := hrow
    exact ⟨⟨htrimmed, row, hfirst, htarget⟩, givenTarget?_of_first hfirst htarget⟩
  · rintro ⟨⟨htrimmed, row, hfirst, htarget⟩, hgiven⟩
    rw [givenTarget?_of_first hfirst htarget, Option.some.injEq] at hgiven
    exact ⟨row, by rw [if_pos htrimmed, hfirst], htarget, hgiven⟩

theorem isSome_explicitTarget?_iff :
    (explicitTarget? rows name).isSome = true ↔ trim name = name ∧ FirstNamesTarget rows name := by
  rw [Option.isSome_iff_exists]
  simp only [explicitTarget?_eq_some_iff, exists_and_left, and_iff_left_iff_imp]
  rintro ⟨-, row, hfirst, htarget⟩
  exact ⟨row.targetField, givenTarget?_of_first hfirst htarget⟩

end Rows

/-! ### Proposals -/

/-- **A proposal keeps the target of the first row.** There is one row for each source field, in order. For a field that
has been given a target it holds this one if the name of the field has no outer blanks and the first of all rows about
it names a target; if not, it holds what would have been proposed without any rows. -/
theorem autoMap_given (source target : List Field) (existing : List FieldMapping) :
    (autoMap source target existing).map (·.sourceField) = source.map (·.name) ∧
    ∀ (i : Nat) (field : Field) (text : String), source[i]? = some field →
      givenTarget? existing field.name = some text →
      (autoMap source target existing)[i]? = some
        { sourceField := field.name
          targetField :=
            if trim field.name = field.name ∧ FirstNamesTarget existing field.name then text
            else proposedTarget target field } := by
  refine ⟨?_, fun i field text hfield hgiven => ?_⟩
  · rw [autoMap, List.map_map]
    rfl
  · rw [autoMap, List.getElem?_map, hfield, Option.map_some]
    split
    · next hfirst => rw [explicitTarget?_eq_some_iff.2 ⟨hfirst, hgiven⟩, Option.getD_some]
    · next hnot =>
        have hnone : explicitTarget? existing field.name = none := by
          rw [← Option.not_isSome_iff_eq_none, isSome_explicitTarget?_iff]
          exact hnot
        rw [hnone, Option.getD_none]

/-- Two rows for one field, of which one is blank. -/
def blankLast : List FieldMapping := [⟨" ID ", "legacyId"⟩, ⟨"id", " "⟩]

/-- A key, and a target with two fields that it could go to. -/
def legacyFields : List Field := [.syntheticId, { name := "legacyId", typeName := "Long" }]

theorem autoMap_blankLast :
    givenTarget? blankLast "id" = some "legacyId" ∧
      (autoMap [.syntheticId] legacyFields blankLast)[0]? = some ⟨"id", "legacyId"⟩ := by
  have hgiven : givenTarget? blankLast "id" = some "legacyId" := by decide +kernel
  have hrow := (autoMap_given [.syntheticId] legacyFields blankLast).2 0 _ _ rfl hgiven
  rw [if_pos (by decide +kernel)] at hrow
  exact ⟨hgiven, hrow⟩

/-- A proposal can replace a target that a field has been given, where a blank row about the field comes first. -/
theorem not_autoMap_given :
    ¬ ∀ (source target : List Field) (existing : List FieldMapping) (i : Nat) (field : Field) (text : String),
      source[i]? = some field → givenTarget? existing field.name = some text →
      (autoMap source target existing)[i]? = some ⟨field.name, text⟩ := by
  intro hall
  have hkept := hall [.syntheticId] legacyFields blankLast.reverse 0 _ "legacyId" rfl (by decide +kernel)
  exact absurd hkept (by decide +kernel)

namespace Rule

/-! ### The rule -/

/-- A mapper that is complete: it has a name of its own, it leads between two different models of the project whose
fields have distinct names without outer blanks, its rows name fields of compatible types there, and each source field
has a row that names a target. -/
structure IsComplete (project : Project) (former : Option String) (mapper : Mapper)
    (fromFields toFields : List Field) : Prop where
  name : (Report.ofIssues (nameIssues mapper.name .mapper (project.mappers.map (·.name)) former)).isOk = true
  source : endpointFields? (trim mapper.fromModel) project = some fromFields
  target : endpointFields? (trim mapper.toModel) project = some toFields
  different : ¬ Alike mapper.fromModel mapper.toModel
  trimmed : ∀ field ∈ fromFields ++ toFields, field.name ≠ "" ∧ trim field.name = field.name
  distinct : Distinct (fromFields.map (·.name)) ∧ Distinct (toFields.map (·.name))
  sources : ∀ row ∈ mapper.mappings, trim row.sourceField ≠ "" → ∃ field ∈ fromFields, Alike field.name row.sourceField
  targets : ∀ row ∈ mapper.mappings, trim row.targetField ≠ "" → ∃ field ∈ toFields, Alike field.name row.targetField
  types : ∀ row ∈ mapper.mappings, ∀ source ∈ fromFields, ∀ target ∈ toFields, Alike source.name row.sourceField →
    Alike target.name row.targetField → TypeName.compatible source.typeName target.typeName = true
  covered : ∀ field ∈ fromFields, ∃ row ∈ mapper.mappings, row.IsAbout field.name ∧ row.NamesTarget

theorem isSome_findField?_iff {fields : List Field} {name : String} :
    (findField? fields (trim name)).isSome = true ↔
      ∃ field ∈ fields, Alike field.name name ∧ trim field.name = field.name := by
  simp only [findField?, List.find?_isSome, Text.equalIgnoringCase_trim_right_iff]

namespace IsComplete
variable {project : Project} {former : Option String} {mapper : Mapper} {fromFields toFields : List Field}
  (h : IsComplete project former mapper fromFields toFields)
include h

theorem rowFits {row : FieldMapping} (hrow : row ∈ mapper.mappings) : RowFits fromFields toFields row := by
  constructor
  case source =>
    intro hne
    obtain ⟨field, hfield, halike⟩ := h.sources row hrow hne
    exact isSome_findField?_iff.2 ⟨field, hfield, halike, (h.trimmed field (List.mem_append_left _ hfield)).2⟩
  case target =>
    intro hne
    obtain ⟨field, hfield, halike⟩ := h.targets row hrow hne
    exact isSome_findField?_iff.2 ⟨field, hfield, halike, (h.trimmed field (List.mem_append_right _ hfield)).2⟩
  case types =>
    intro source target hsource htarget
    have hsourceName := List.find?_some hsource
    have htargetName := List.find?_some htarget
    exact h.types row hrow source (List.mem_of_find?_eq_some hsource) target (List.mem_of_find?_eq_some htarget)
      (Text.equalIgnoringCase_trim_right_iff.1 hsourceName).1 (Text.equalIgnoringCase_trim_right_iff.1 htargetName).1

theorem rowsFit_iff :
    RowsFit fromFields toFields mapper.mappings ↔
      ∀ field ∈ fromFields, FirstNamesTarget mapper.mappings field.name := by
  have hcovered : ∀ field ∈ fromFields, ((explicitTarget? mapper.mappings field.name).isSome = true ↔
      FirstNamesTarget mapper.mappings field.name) := by
    intro field hfield
    rw [isSome_explicitTarget?_iff]
    exact and_iff_right (h.trimmed field (List.mem_append_left _ hfield)).2
  constructor
  · intro hfits field hfield
    exact (hcovered field hfield).1 (hfits.covered field hfield)
  · intro hfirst
    exact ⟨fun row hrow => h.rowFits hrow, fun field hfield => (hcovered field hfield).2 (hfirst field hfield)⟩

/-- Nothing else is wrong with a complete mapper than that fields lack a target. -/
theorem code_of_isError {issue : Issue} (hissue : issue ∈ mapperIssues mapper project former)
    (herror : issue.isError = true) : issue.code = "all_rows_mapped" := by
  have hfree {issues : List Issue} (hnone : ErrorFree issues) : issue ∉ issues := by
    intro hmem
    rw [hnone issue hmem] at herror
    cases herror
  have hne : trim mapper.fromModel ≠ "" := (endpointFields?_eq_some_iff.1 h.source).1
  simp only [mapperIssues, h.source, h.target, rowsIssues, List.mem_append] at hissue
  rcases hissue with (((hname | hsource) | htarget) | hsame) | hrows | hcoverage
  · exact absurd hname (hfree (Report.isOk_ofIssues.1 h.name))
  · exact absurd hsource (hfree (errorFree_endpointIssues_iff.2 ⟨_, h.source⟩))
  · exact absurd htarget (hfree (errorFree_endpointIssues_iff.2 ⟨_, h.target⟩))
  · exact absurd hsame (hfree ((errorFree_sameModelIssues_iff hne).2 h.different))
  · refine absurd hrows (hfree (ErrorFree.flatten_mapIdx_iff.2 fun i row hi => ?_))
    exact errorFree_rowIssues_iff.2 (h.rowFits (List.mem_of_getElem? hi))
  · simp only [coverageIssues] at hcoverage
    split at hcoverage
    · cases hcoverage
    · rw [List.mem_singleton.1 hcoverage]

end IsComplete

/-- **A complete mapper is accepted if the first row about each field names a target.** If not, it is turned down for
missing targets alone, though no target is missing. -/
theorem isOk_iff_of_isComplete {project : Project} {former : Option String} {mapper : Mapper}
    {fromFields toFields : List Field} (h : IsComplete project former mapper fromFields toFields) :
    ((Report.ofIssues (mapperIssues mapper project former)).isOk = true ↔
      ∀ field ∈ fromFields, FirstNamesTarget mapper.mappings field.name) ∧
    ∀ issue ∈ (Report.ofIssues (mapperIssues mapper project former)).errors, issue.code = "all_rows_mapped" := by
  constructor
  · rw [Report.isOk_ofIssues, errorFree_mapperIssues_iff, ← h.rowsFit_iff]
    have hname := errorFree_nameIssues_iff.1 (Report.isOk_ofIssues.1 h.name)
    constructor
    · rintro ⟨-, _, _, hfrom, hto, -, hrows⟩
      obtain rfl := Option.some.inj (hfrom.symm.trans h.source)
      obtain rfl := Option.some.inj (hto.symm.trans h.target)
      exact hrows
    · intro hrows
      exact ⟨hname, fromFields, toFields, h.source, h.target, h.different, hrows⟩
  · intro issue hissue
    obtain ⟨hmem, herror⟩ := Report.mem_errors_ofIssues_iff.1 hissue
    exact h.code_of_isError hmem herror

def purchaseToInvoice (rows : List FieldMapping) : Mapper where
  name := "InvoiceMapper"
  fromModel := "Purchase"
  toModel := "Invoice"
  mappings := rows

def billing : Project where
  entities := [{ name := "Purchase", fields := [.syntheticId] }, { name := "Invoice", fields := legacyFields }]

theorem isComplete_blankLast :
    IsComplete billing none (purchaseToInvoice blankLast) [.syntheticId] legacyFields := by
  constructor <;> decide +kernel

theorem isOk_blankLast :
    IsComplete billing none (purchaseToInvoice blankLast) [.syntheticId] legacyFields ∧
      (Report.ofIssues (mapperIssues (purchaseToInvoice blankLast) billing none)).isOk = true :=
  ⟨isComplete_blankLast, (isOk_iff_of_isComplete isComplete_blankLast).1.2 (by decide +kernel)⟩

/-- A mapper can be complete and be turned down, where a blank row comes first. -/
theorem not_isOk_of_isComplete :
    ¬ ∀ (project : Project) (mapper : Mapper) (fromFields toFields : List Field),
      IsComplete project none mapper fromFields toFields →
      (Report.ofIssues (mapperIssues mapper project none)).isOk = true := by
  intro hall
  have hcomplete : IsComplete billing none (purchaseToInvoice blankLast.reverse) [.syntheticId] legacyFields := by
    constructor <;> decide +kernel
  exact absurd (hall _ _ _ _ hcomplete) (by decide +kernel)

end Rule

end DomainModel
