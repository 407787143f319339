import DomainModel.Proofs.ExportRereading
import DomainModel.Proofs.ImportMerging
import DomainModel.Proofs.RuleEnds

/-! Self-references in exports. A strict reading leaves out the relations both ends of which are spelled the same; the
strict rule for relations turns down those both ends of which are the same up to case. The two agree on an export
unless one of its relations joins two entities whose names differ in case only, which takes entities that no valid
project has together. -/

namespace DomainModel

open Json (Value)
open Text (Alike trim equalIgnoringCase)

namespace SchemaExport

/-- The relation joins two entities whose names differ in case only. -/
def JoinsVariants (relation : Relation) : Prop :=
  equalIgnoringCase relation.sourceEntity relation.targetEntity = true ∧ relation.sourceEntity ≠ relation.targetEntity

/-- Whether the strict rule reports a self-reference, in a project of these entities. -/
def reportsSelfReference (entities : List Entity) (relation : Relation) : Bool :=
  (Report.ofIssues (Rule.relationIssues relation { entities } false none)).hasCode "self_reference"

theorem relation?_strict (entities : List Entity) (value : Value) :
    relation? false entities value =
      (relation? true entities value).filter fun relation => relation.sourceEntity != relation.targetEntity := by
  cases value with
  | object members =>
      rw [relation?, relation?]
      cases ends? entities members with
      | none => rfl
      | some ends =>
          obtain ⟨source, target⟩ := ends
          have hfilter : (some (relationBetween source target members)).filter
                (fun relation => relation.sourceEntity != relation.targetEntity) =
              if source != target then some (relationBetween source target members) else none := rfl
          dsimp only
          rw [Bool.not_true, Bool.false_and, if_neg Bool.false_ne_true, hfilter, Bool.not_false, Bool.true_and, bne]
          cases source == target <;> rfl
  | _ => rfl

/-- A strict reading differs from a lenient one in that it leaves out relations. -/
theorem read?_strict (root : Value) :
    read? false root = (read? true root).map fun lenient =>
      { lenient with
        relations := lenient.relations.filter fun relation => relation.sourceEntity != relation.targetEntity } := by
  rw [read?, read?, Option.map_map]
  apply congrArg (Option.map · (rawEntities? root))
  funext items
  rw [Function.comp_apply, List.filter_filterMap]
  simp only [← relation?_strict]

/-- The strict rule compares the ends up to case. -/
theorem reportsSelfReference_iff {root : Value} {lenient : ImportedSchema} (h : read? true root = some lenient)
    {relation : Relation} (hrelation : relation ∈ lenient.relations) :
    reportsSelfReference lenient.entities relation = true ↔
      equalIgnoringCase relation.sourceEntity relation.targetEntity = true := by
  obtain ⟨⟨source, -, hsource, hsourceTrim⟩, target, -, htarget, htargetTrim⟩ := ends_of_read? h hrelation
  rw [hsource] at hsourceTrim
  rw [htarget] at htargetTrim
  rw [reportsSelfReference, Report.hasCode_ofIssues_iff, Rule.reports_selfReference_iff, Alike, hsourceTrim, htargetTrim]
  exact and_iff_right rfl

/-- A relation that joins case variants takes two entities that go by one name. -/
theorem not_joinsVariants {root : Value} {lenient : ImportedSchema} (h : read? true root = some lenient)
    (hapart : Entity.NamedApart lenient.entities) : ∀ relation ∈ lenient.relations, ¬ JoinsVariants relation := by
  rintro relation hrelation ⟨hsame, hspelling⟩
  obtain ⟨⟨source, hsource, hsourceName, -⟩, target, htarget, htargetName, -⟩ := ends_of_read? h hrelation
  rw [← hsourceName, ← htargetName] at hsame hspelling
  have hsymm : Std.Symm fun a b : Entity => Entity.goesBy a.name b = false :=
    ⟨fun a b hother => by rwa [Entity.goesBy_comm]⟩
  have hdiffer : source ≠ target := fun heq => hspelling (congrArg Entity.name heq)
  have hother := hapart.forall htarget hsource hdiffer.symm
  rw [Entity.goesBy, hsame] at hother
  cases hother

/-- **Readings and the rule leave out the same relations, unless an export joins case variants.** A strict reading keeps
the entities and leaves out the relations whose ends are spelled the same. These are the ones that the strict rule
reports, and none that is kept is reported later, if and only if no relation joins two entities whose names differ in
case only; where no two entities go by one name, none does. -/
theorem strict_relations_iff {root : Value} {lenient : ImportedSchema} (h : read? true root = some lenient) :
    ∃ strict, read? false root = some strict ∧ strict.entities = lenient.entities ∧
      strict.relations = lenient.relations.filter (fun relation => relation.sourceEntity != relation.targetEntity) ∧
      (strict.relations = lenient.relations.filter (fun relation => !reportsSelfReference lenient.entities relation) ↔
        ∀ relation ∈ lenient.relations, ¬ JoinsVariants relation) ∧
      ((∀ relation ∈ strict.relations, reportsSelfReference lenient.entities relation = false) ↔
        ∀ relation ∈ lenient.relations, ¬ JoinsVariants relation) ∧
      (Entity.NamedApart lenient.entities → ∀ relation ∈ lenient.relations, ¬ JoinsVariants relation) := by
  have hread := read?_strict root
  rw [h, Option.map_some] at hread
  have hvariants : ∀ relation ∈ lenient.relations, JoinsVariants relation ↔
      reportsSelfReference lenient.entities relation = true ∧ (relation.sourceEntity != relation.targetEntity) = true := by
    intro relation hrelation
    rw [reportsSelfReference_iff h hrelation, bne_iff_ne]
    rfl
  refine ⟨_, hread, rfl, rfl, ⟨fun hsame relation hrelation hjoins => ?_, fun hnone => ?_⟩,
    ⟨fun hquiet relation hrelation hjoins => ?_, fun hnone relation hkept => ?_⟩, not_joinsVariants h⟩
  · obtain ⟨hreported, hkept⟩ := (hvariants relation hrelation).1 hjoins
    have haccepted : relation ∈ lenient.relations.filter fun relation =>
        !reportsSelfReference lenient.entities relation := by
      rw [← hsame]
      exact List.mem_filter.2 ⟨hrelation, hkept⟩
    rw [List.mem_filter, hreported] at haccepted
    cases haccepted.2
  · apply List.filter_congr
    intro relation hrelation
    cases hreported : reportsSelfReference lenient.entities relation with
    | true =>
        rw [Bool.not_true, ← Bool.not_eq_true]
        exact fun hkept => hnone relation hrelation ((hvariants relation hrelation).2 ⟨hreported, hkept⟩)
    | false =>
        rw [Bool.not_false, bne_iff_ne]
        intro hself
        have hsame : equalIgnoringCase relation.sourceEntity relation.targetEntity = true := by
          rw [hself]
          exact Text.equalIgnoringCase_refl _
        rw [← reportsSelfReference_iff h hrelation, hreported] at hsame
        cases hsame
  · obtain ⟨hreported, hkept⟩ := (hvariants relation hrelation).1 hjoins
    rw [hquiet relation (List.mem_filter.2 ⟨hrelation, hkept⟩)] at hreported
    cases hreported
  · obtain ⟨hrelation, hkept⟩ := List.mem_filter.1 hkept
    rw [← Bool.not_eq_true]
    exact fun hreported => hnone relation hrelation ((hvariants relation hrelation).2 ⟨hreported, hkept⟩)

/-- An export with a relation from an entity to itself, in two spellings, and one to another entity. -/
def staffExport : Value :=
  .object [
    ("entities", .list [.object [("name", .text "Employee")], .object [("name", .text "Office")]]),
    ("relations", .list [
      .object [("from", .text "Employee"), ("to", .text " EMPLOYEE "), ("fieldName", .text "manager")],
      .object [("from", .text "employee"), ("to", .text "Office")]])]

def staffSchema : ImportedSchema where
  entities := [{ name := "Employee", fields := [Field.syntheticId] }, { name := "Office", fields := [Field.syntheticId] }]
  relations := [
    { sourceEntity := "Employee", targetEntity := "Employee", sourceFieldName := "manager", relationType := .manyToOne },
    { sourceEntity := "Employee", targetEntity := "Office", sourceFieldName := "office", relationType := .manyToOne }]

theorem read?_staffExport : read? true staffExport = some staffSchema := by decide +kernel

theorem strict_relations_staff :
    read? true staffExport = some staffSchema ∧
      ∃ strict, read? false staffExport = some strict ∧
        strict.relations = staffSchema.relations.filter fun relation =>
          !reportsSelfReference staffSchema.entities relation := by
  obtain ⟨strict, hread, -, -, hsame, -, hapart⟩ := strict_relations_iff read?_staffExport
  exact ⟨read?_staffExport, strict, hread, hsame.2 (hapart (by decide +kernel))⟩

/-- Two entities whose names differ in case only, and a relation from one to the other. -/
def variantsExport : Value :=
  .object [
    ("entities", .list [.object [("name", .text "Employee")], .object [("name", .text "employee")]]),
    ("relations", .list [.object [("from", .text "Employee"), ("to", .text "employee")]])]

def variantsSchema : ImportedSchema where
  entities := [
    { name := "Employee", fields := [Field.syntheticId] }, { name := "employee", fields := [Field.syntheticId] }]
  relations := [
    { sourceEntity := "Employee", targetEntity := "employee", sourceFieldName := "employee"
      relationType := .manyToOne }]

/-- A strict reading can keep a relation that the strict rule turns down. -/
theorem not_strict_relations_eq :
    ¬ ∀ (root : Value) (lenient strict : ImportedSchema), read? true root = some lenient → read? false root = some strict →
      strict.relations = lenient.relations.filter fun relation => !reportsSelfReference lenient.entities relation := by
  intro hall
  have hkept := hall variantsExport variantsSchema variantsSchema (by decide +kernel) (by decide +kernel)
  exact absurd hkept (by decide +kernel)

end SchemaExport

end DomainModel
