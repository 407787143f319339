import DomainModel.Proofs.MapperRows
import DomainModel.Proofs.ProjectSound
import DomainModel.Proofs.RuleDuplicates

/-! Proposed rows, read again. Where the source fields have distinct names, each proposed row is the only one about
its field, so whoever looks a field up among the proposals comes to the row that was made for it. Proposing from
proposals therefore changes nothing. The rule for mappers looks the same rows up and finds the fields that they were
made from: what it can still hold against them is the fields that were left without a target. -/

namespace DomainModel

open Text (Alike Distinct trim)

/-! ### Looking up a proposal -/

/-- The row that is proposed for a source field. -/
def proposedRow (target : List Field) (existing : List FieldMapping) (field : Field) : FieldMapping where
  sourceField := field.name
  targetField := (explicitTarget? existing field.name).getD (proposedTarget target field)

theorem autoMap_eq_map (source target : List Field) (existing : List FieldMapping) :
    autoMap source target existing = source.map (proposedRow target existing) := rfl

/-- A proposed target is the name of a field that suits, or nothing. -/
theorem proposedTarget_cases (target : List Field) (source : Field) :
    (∃ field ∈ target, suits source field = true ∧ proposedTarget target source = field.name) ∨
      proposedTarget target source = "" := by
  rw [proposedTarget]
  cases hfound : target.find? (suits source) with
  | some field => exact .inl ⟨field, List.mem_of_find?_eq_some hfound, List.find?_some hfound, rfl⟩
  | none => exact .inr rfl

theorem proposedRow_nil (target : List Field) (field : Field) :
    proposedRow target [] field = ⟨field.name, proposedTarget target field⟩ := rfl

/-- Types are compatible when they have the same canonical form, whichever comes first. -/
theorem TypeName.compatible_comm (left right : String) : compatible left right = compatible right left := by
  rw [compatible, compatible, Bool.eq_iff_iff, beq_iff_eq, beq_iff_eq, eq_comm]

/-- Of elements with distinct names the first one of a name is the one that bears it. -/
theorem find?_alike_of_mem {α : Type} {name : α → String} {l : List α} (hdistinct : Distinct (l.map name)) {a : α}
    (ha : a ∈ l) {wanted : String} (hname : name a = wanted) :
    l.find? (fun b => Alike (name b) wanted) = some a := by
  subst hname
  have hsome : (l.find? fun b => Alike (name b) (name a)).isSome = true := by
    rw [List.find?_isSome]
    exact ⟨a, ha, decide_eq_true (Alike.refl (name a))⟩
  obtain ⟨b, hb⟩ := Option.isSome_iff_exists.1 hsome
  have halike : Alike (name b) (name a) := by simpa using List.find?_some hb
  rw [hb, Rule.eq_of_alike hdistinct (List.mem_of_find?_eq_some hb) ha halike]

section Proposals
variable {source : List Field} (hdistinct : Distinct (source.map (·.name))) (target : List Field)
  (existing : List FieldMapping) {field : Field} (hfield : field ∈ source)
include hdistinct hfield

/-- The first proposal about a field is the one that was made for it. -/
theorem find?_autoMap :
    (autoMap source target existing).find? (fun row => row.IsAbout field.name) =
      some (proposedRow target existing field) := by
  have hnames : Distinct ((autoMap source target existing).map (·.sourceField)) := by
    rwa [autoMap_eq_map, List.map_map]
  have hrow : proposedRow target existing field ∈ autoMap source target existing := List.mem_map_of_mem hfield
  exact find?_alike_of_mem hnames hrow rfl

/-- A field is given the proposed target, unless that is blank or no row can be found for its name. -/
theorem explicitTarget?_autoMap :
    explicitTarget? (autoMap source target existing) field.name =
      if trim field.name = field.name ∧ (proposedRow target existing field).NamesTarget then
        some (proposedRow target existing field).targetField
      else none := by
  have hfirst := find?_autoMap hdistinct target existing hfield
  split
  · next hnames =>
      refine explicitTarget?_eq_some_iff.2 ⟨⟨hnames.1, _, hfirst, hnames.2⟩, ?_⟩
      exact givenTarget?_of_first hfirst hnames.2
  · next hnot =>
      rw [← Option.not_isSome_iff_eq_none, isSome_explicitTarget?_iff]
      rintro ⟨htrimmed, row, hrow, htarget⟩
      obtain rfl := Option.some.inj (hrow.symm.trans hfirst)
      exact hnot ⟨htrimmed, htarget⟩

/-- A row that was proposed is proposed again where the proposals are what there is. -/
theorem proposedRow_autoMap :
    proposedRow target (autoMap source target existing) field = proposedRow target existing field := by
  have hgiven := explicitTarget?_autoMap hdistinct target existing hfield
  rw [proposedRow, hgiven]
  split
  · rfl
  · next hnot =>
      -- the field had no row that could be kept, so its target was found by name and type, as it is now
      have hnone : explicitTarget? existing field.name = none := by
        rw [Option.eq_none_iff_forall_ne_some]
        intro text htext
        obtain ⟨⟨htrimmed, row, hrow, htarget⟩, hfirst⟩ := explicitTarget?_eq_some_iff.1 htext
        rw [givenTarget?_of_first hrow htarget, Option.some.injEq] at hfirst
        refine hnot ⟨htrimmed, ?_⟩
        rw [FieldMapping.NamesTarget, proposedRow, htext, Option.getD_some, ← hfirst]
        exact htarget
      rw [proposedRow, hnone]

end Proposals

/-- **Proposing from proposals changes nothing**, where the names of the source fields are distinct. -/
theorem autoMap_autoMap {source : List Field} (hdistinct : Distinct (source.map (·.name))) (target : List Field)
    (existing : List FieldMapping) :
    autoMap source target (autoMap source target existing) = autoMap source target existing := by
  rw [autoMap_eq_map, autoMap_eq_map]
  exact List.map_congr_left fun field hfield => proposedRow_autoMap hdistinct target existing hfield

/-- Fields with distinct names, of which one has outer blanks and one is blank. -/
def spacedFields : List Field :=
  [{ name := "id", typeName := "Long" }, { name := " code ", typeName := "Text" }, { name := "", typeName := "Int" }]

/-- Rows that repeat a field in another case and with blanks. -/
def spacedRows : List FieldMapping := [⟨" ID ", "legacyId"⟩, ⟨"code", "label"⟩, ⟨"id", "ID"⟩, ⟨" ", "total"⟩]

theorem autoMap_autoMap_spacedFields :
    Distinct (spacedFields.map (·.name)) ∧
      autoMap spacedFields spacedFields (autoMap spacedFields spacedFields spacedRows) =
        autoMap spacedFields spacedFields spacedRows ∧
      autoMap spacedFields spacedFields spacedRows = [⟨"id", "legacyId"⟩, ⟨" code ", " code "⟩, ⟨"", "total"⟩] := by
  have hdistinct : Distinct (spacedFields.map (·.name)) := by decide
  exact ⟨hdistinct, autoMap_autoMap hdistinct spacedFields spacedRows, by decide +kernel⟩

namespace Rule

/-! ### Proposals under the rule -/

/-- A mapper between two models whose fields have distinct names without outer blanks, with the rows that are proposed
when there are none. -/
structure IsProposed (project : Project) (mapper : Mapper) (fromFields toFields : List Field) : Prop where
  source : endpointFields? (trim mapper.fromModel) project = some fromFields
  target : endpointFields? (trim mapper.toModel) project = some toFields
  trimmed : ∀ field ∈ fromFields ++ toFields, field.name ≠ "" ∧ trim field.name = field.name
  distinct : Distinct (fromFields.map (·.name)) ∧ Distinct (toFields.map (·.name))
  rows : mapper.mappings = autoMap fromFields toFields []

/-- A field with a name of its own, without outer blanks, is found by this name. -/
theorem findField?_of_mem {fields : List Field} (hdistinct : Distinct (fields.map (·.name))) {field : Field}
    (hfield : field ∈ fields) (htrimmed : trim field.name = field.name) :
    findField? fields (trim field.name) = some field := by
  have hsome : (findField? fields (trim field.name)).isSome = true :=
    isSome_findField?_iff.2 ⟨field, hfield, Alike.refl _, htrimmed⟩
  obtain ⟨other, hother⟩ := Option.isSome_iff_exists.1 hsome
  obtain ⟨hmem, hname⟩ := findField?_eq_some hother
  rw [hother, eq_of_alike hdistinct hmem hfield (Text.equalIgnoringCase_trim_right_iff.1 hname).1]

namespace IsProposed
variable {project : Project} {mapper : Mapper} {fromFields toFields : List Field}
  (h : IsProposed project mapper fromFields toFields)
include h

theorem trimmed_source {field : Field} (hfield : field ∈ fromFields) : trim field.name = field.name :=
  (h.trimmed field (List.mem_append_left _ hfield)).2

theorem trimmed_target {field : Field} (hfield : field ∈ toFields) : trim field.name = field.name :=
  (h.trimmed field (List.mem_append_right _ hfield)).2

theorem namesTarget_iff (field : Field) :
    (proposedRow toFields [] field).NamesTarget ↔ proposedTarget toFields field ≠ "" := by
  rw [FieldMapping.NamesTarget, proposedRow_nil]
  rcases proposedTarget_cases toFields field with ⟨target, hmem, -, htarget⟩ | hnone
  · rw [htarget, h.trimmed_target hmem]
  · rw [hnone]
    exact iff_of_false (fun hne => hne rfl) (fun hne => hne rfl)

/-- The rule finds the fields that a row was made from, and they suit each other. -/
theorem rowFits {row : FieldMapping} (hrow : row ∈ mapper.mappings) : RowFits fromFields toFields row := by
  rw [h.rows, autoMap_eq_map] at hrow
  obtain ⟨field, hfield, rfl⟩ := List.mem_map.1 hrow
  rw [proposedRow_nil]
  have hsource : findField? fromFields (trim field.name) = some field :=
    findField?_of_mem h.distinct.1 hfield (h.trimmed_source hfield)
  rcases proposedTarget_cases toFields field with ⟨candidate, hmem, hsuits, htarget⟩ | hnone
  · have hfound : findField? toFields (trim candidate.name) = some candidate :=
      findField?_of_mem h.distinct.2 hmem (h.trimmed_target hmem)
    rw [htarget]
    refine ⟨fun _ => Option.isSome_of_eq_some hsource, fun _ => Option.isSome_of_eq_some hfound, ?_⟩
    rintro first second hfirst hsecond
    obtain rfl := Option.some.inj (hfirst.symm.trans hsource)
    obtain rfl := Option.some.inj (hsecond.symm.trans hfound)
    rw [TypeName.compatible_comm]
    exact (Bool.and_eq_true_iff.1 hsuits).2
  · rw [hnone]
    refine ⟨fun _ => Option.isSome_of_eq_some hsource, fun hne => absurd rfl hne, ?_⟩
    -- no field has a blank name, so none is found for a blank target
    rintro first second - hsecond
    obtain ⟨hmem, hname⟩ := findField?_eq_some hsecond
    rw [Text.equalIgnoringCase_iff, show trim "" = "" from rfl] at hname
    have hempty : second.name = "" := by simpa using hname
    exact absurd hempty (h.trimmed second (List.mem_append_right _ hmem)).1

/-- The fields without a target are those that no field suits. -/
theorem unmappedFields_eq :
    unmappedFields fromFields mapper.mappings =
      (mapper.mappings.filter (·.targetField = "")).map (·.sourceField) := by
  have hblank : ∀ field ∈ fromFields,
      (explicitTarget? (autoMap fromFields toFields []) field.name).isNone =
        decide ((proposedRow toFields [] field).targetField = "") := by
    intro field hfield
    have hnames := h.namesTarget_iff field
    rw [explicitTarget?_autoMap h.distinct.1 toFields [] hfield]
    by_cases hempty : (proposedRow toFields [] field).targetField = ""
    · rw [if_neg fun hkept => hnames.1 hkept.2 hempty, decide_eq_true hempty, Option.isNone_none]
    · rw [if_pos ⟨h.trimmed_source hfield, hnames.2 hempty⟩, decide_eq_false hempty, Option.isNone_some]
  rw [unmappedFields, h.rows, List.filter_congr hblank, autoMap_eq_map, List.filter_map, List.map_map]
  rfl

/-- The errors of the mapper apart from those of its name and from its being one from a model to itself. -/
theorem errors_eq (former : Option String) :
    (Report.ofIssues (mapperIssues mapper project former)).errors =
      (nameIssues mapper.name .mapper (project.mappers.map (·.name)) former ++
          sameModelIssues (trim mapper.fromModel) (trim mapper.toModel)).filter (·.isError) ++
        coverageIssues fromFields mapper.mappings := by
  have hnone {issues : List Issue} (hfree : ErrorFree issues) : issues.filter (·.isError) = [] := by
    rw [List.filter_eq_nil_iff]
    intro issue hissue
    rw [hfree issue hissue]
    exact Bool.false_ne_true
  have hrows : ErrorFree (mapper.mappings.mapIdx (rowIssues (trim mapper.fromModel) (trim mapper.toModel)
      fromFields toFields)).flatten := by
    rw [ErrorFree.flatten_mapIdx_iff]
    exact fun i row hi => errorFree_rowIssues_iff.2 (h.rowFits (List.mem_of_getElem? hi))
  have hcoverage : (coverageIssues fromFields mapper.mappings).filter (·.isError) =
      coverageIssues fromFields mapper.mappings := by
    simp only [coverageIssues]
    split <;> rfl
  rw [Report.ofIssues]
  simp only [mapperIssues, h.source, h.target, rowsIssues, List.filter_append, hcoverage, hnone hrows,
    hnone (errorFree_endpointIssues_iff.2 ⟨_, h.source⟩), hnone (errorFree_endpointIssues_iff.2 ⟨_, h.target⟩),
    List.append_nil, List.nil_append]

end IsProposed

/-- The codes of what can be wrong with a single row. -/
def rowCodes : List String := ["unknown_source_field", "unknown_target_field", "incompatible_types"]

/-- **What is proposed is right, and what is left open is reported.** Between models whose fields have distinct names
without outer blanks, the rule holds nothing against a proposed row by itself; it reports missing targets if and only
if a row has been left blank, and then once, with the source fields of the blank rows in order. -/
theorem errors_of_isProposed {project : Project} {mapper : Mapper} {fromFields toFields : List Field}
    (h : IsProposed project mapper fromFields toFields) (former : Option String) :
    (∀ issue ∈ (Report.ofIssues (mapperIssues mapper project former)).errors, issue.code ∉ rowCodes) ∧
    (Report.ofIssues (mapperIssues mapper project former)).errors.filter (·.code = "all_rows_mapped") =
      if ∃ row ∈ mapper.mappings, row.targetField = "" then
        [{ code := "all_rows_mapped"
           path := "/mappings"
           message := "every source field must be mapped, missing: " ++
             ", ".intercalate ((mapper.mappings.filter (·.targetField = "")).map (·.sourceField))
           hint := some "pick a target field for each row or run auto-mapping" }]
      else [] := by
  have hnames : ∀ issue ∈ (nameIssues mapper.name .mapper (project.mappers.map (·.name)) former ++
      sameModelIssues (trim mapper.fromModel) (trim mapper.toModel)).filter (·.isError),
      issue.code ∈ "same_model" :: nameCodes := by
    intro issue hissue
    rcases List.mem_append.1 (List.mem_of_mem_filter hissue) with hname | hsame
    · exact List.mem_cons_of_mem _ (code_of_mem_nameIssues hname)
    · rw [sameModelIssues] at hsame
      split at hsame
      · rw [List.mem_singleton.1 hsame]
        exact List.mem_cons_self
      · cases hsame
  have hcoverage : ∀ issue ∈ coverageIssues fromFields mapper.mappings, issue.code = "all_rows_mapped" := by
    intro issue hissue
    simp only [coverageIssues] at hissue
    split at hissue
    · cases hissue
    · rw [List.mem_singleton.1 hissue]
  have hapart : ∀ code ∈ "same_model" :: nameCodes, code ∉ rowCodes ∧ code ≠ "all_rows_mapped" := by decide
  rw [h.errors_eq]
  constructor
  · intro issue hissue
    rcases List.mem_append.1 hissue with hother | hmissing
    · exact (hapart _ (hnames issue hother)).1
    · rw [hcoverage issue hmissing]
      decide
  · have hothers : ∀ issue ∈ (nameIssues mapper.name .mapper (project.mappers.map (·.name)) former ++
        sameModelIssues (trim mapper.fromModel) (trim mapper.toModel)).filter (·.isError),
        ¬ decide (issue.code = "all_rows_mapped") = true :=
      fun issue hissue hcode => (hapart _ (hnames issue hissue)).2 (of_decide_eq_true hcode)
    have hmissing : ((mapper.mappings.filter (·.targetField = "")).map (·.sourceField)).isEmpty = true ↔
        ¬ ∃ row ∈ mapper.mappings, row.targetField = "" := by
      simp [List.filter_eq_nil_iff]
    rw [List.filter_append, List.filter_eq_nil_iff.2 hothers, List.nil_append,
      List.filter_eq_self.2 fun issue hissue => decide_eq_true (hcoverage issue hissue)]
    simp only [coverageIssues, h.unmappedFields_eq, hmissing, ite_not]

def staffFields : List Field :=
  [{ name := "id", typeName := "Long" }, { name := "code", typeName := "String" },
    { name := "tags", typeName := "List<Text>" }]

/-- Fields that differ from those of the staff in case and in the spelling of their types, one also in its type. -/
def staffFormFields : List Field :=
  [{ name := "TAGS", typeName := "Collection< String >" }, { name := "Code", typeName := "Int" },
    { name := "ID", typeName := "BigInt" }]

def office : Project where
  entities := [{ name := "Staff", fields := staffFields }]
  dataObjects := [{ name := "StaffForm", direction := .request, fields := staffFormFields }]

def staffMapper : Mapper where
  name := "StaffMapper"
  fromModel := " staff "
  toModel := "StaffForm"
  mappings := autoMap staffFields staffFormFields []

theorem errors_staffMapper :
    IsProposed office staffMapper staffFields staffFormFields ∧
      (Report.ofIssues (mapperIssues staffMapper office none)).errors.filter (·.code = "all_rows_mapped") =
        [{ code := "all_rows_mapped"
           path := "/mappings"
           message := "every source field must be mapped, missing: code"
           hint := some "pick a target field for each row or run auto-mapping" }] := by
  have hproposed : IsProposed office staffMapper staffFields staffFormFields := by
    constructor <;> decide +kernel
  refine ⟨hproposed, ?_⟩
  rw [(errors_of_isProposed hproposed none).2]
  decide +kernel

end Rule

end DomainModel
