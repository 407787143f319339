import DomainModel.Import
import DomainModel.Proofs.ExportRereading
import DomainModel.Proofs.ImportMerging
import DomainModel.Proofs.RuleEnds

/-! Imports leave no relation without its ends. An import brings the entities that its own relations join, and a merge
may respell a name that old relations use but loses none: what a name led to is replaced only by an entity that goes by
the name as well. -/

namespace DomainModel

open Text (trim)
open Entity (goesBy lastOf?)

namespace Project

/-- Both ends of the relation are entities of the project. -/
def Links (project : Project) (relation : Relation) : Prop :=
  (project.entity? (trim relation.sourceEntity)).isSome = true ∧
    (project.entity? (trim relation.targetEntity)).isSome = true

/-- Every relation of the project has its ends there. -/
def IsLinked (project : Project) : Prop := ∀ relation ∈ project.relations, project.Links relation

theorem isSome_entity?_iff {project : Project} {name : String} :
    (project.entity? name).isSome = true ↔ ∃ entity ∈ project.entities, goesBy name entity = true := List.find?_isSome

/-- A merge loses no name. -/
theorem isSome_entity?_mergeImported_iff {project : Project} {imported : ImportedSchema} {name : String} :
    ((project.mergeImported imported).entity? name).isSome = true ↔
      (∃ entity ∈ imported.entities, goesBy name entity = true) ∨ (project.entity? name).isSome = true := by
  have hlookup : (project.mergeImported imported).entity? name =
      (lastOf? imported.entities name).or (project.entity? name) := find?_foldl_putEntity _ _ _
  rw [hlookup, Option.isSome_or, Bool.or_eq_true, Entity.isSome_lastOf?_iff]

/-- The rule for relations finds the ends of a relation that has them. -/
theorem Links.unreported {project : Project} {relation : Relation} (h : project.Links relation)
    (allowSelfReference : Bool) (editing : Option Nat) :
    (Report.ofIssues (Rule.relationIssues relation project allowSelfReference editing)).hasCode
        "unknown_source_entity" = false ∧
      (Report.ofIssues (Rule.relationIssues relation project allowSelfReference editing)).hasCode
        "unknown_target_entity" = false := by
  rw [← Bool.not_eq_true, ← Bool.not_eq_true, Report.hasCode_ofIssues_iff, Report.hasCode_ofIssues_iff,
    Rule.reports_unknownSource_iff, Rule.reports_unknownTarget_iff]
  exact h.imp Option.isSome_iff_ne_none.1 Option.isSome_iff_ne_none.1

end Project

/-- The relations that are imported lie between entities that are imported with them. -/
theorem ImportFormat.names_of_read {format : ImportFormat} {allowSelfReference : Bool} {text : String}
    {schema : ImportedSchema} (h : format.read allowSelfReference text = .ok schema) {relation : Relation}
    (hrelation : relation ∈ schema.relations) :
    (∃ entity ∈ schema.entities, goesBy (trim relation.sourceEntity) entity = true) ∧
      ∃ entity ∈ schema.entities, goesBy (trim relation.targetEntity) entity = true := by
  rcases ImportFormat.read_eq_ok h with hnone | ⟨root, hread⟩
  · rw [hnone] at hrelation
    cases hrelation
  · obtain ⟨⟨source, hsource, hsourceName, hsourceTrim⟩, target, htarget, htargetName, htargetTrim⟩ :=
      SchemaExport.ends_of_read? hread hrelation
    rw [← hsourceName, ← htargetName, hsourceTrim, htargetTrim]
    exact ⟨⟨source, hsource, source.goesBy_self⟩, target, htarget, target.goesBy_self⟩

/-- **Imports leave no relation without its ends.** -/
theorem Project.linked_applyImport {project : Project} (hproject : project.IsLinked) {format : ImportFormat}
    {allowSelfReference : Bool} {text : String} {schema : ImportedSchema}
    (hread : format.read allowSelfReference text = .ok schema) (mode : ImportMode) :
    ∀ relation ∈ (project.applyImport schema mode).relations, (project.applyImport schema mode).Links relation ∧
      ∀ (policy : Bool) (editing : Option Nat),
        (Report.ofIssues (Rule.relationIssues relation (project.applyImport schema mode) policy editing)).hasCode
            "unknown_source_entity" = false ∧
          (Report.ofIssues (Rule.relationIssues relation (project.applyImport schema mode) policy editing)).hasCode
            "unknown_target_entity" = false := by
  intro relation hrelation
  have hlinks : (project.applyImport schema mode).Links relation := by
    cases mode with
    | replace =>
        obtain ⟨hsource, htarget⟩ := ImportFormat.names_of_read hread hrelation
        exact ⟨isSome_entity?_iff.2 hsource, isSome_entity?_iff.2 htarget⟩
    | merge =>
        show (project.mergeImported schema).Links relation
        rw [Links, isSome_entity?_mergeImported_iff, isSome_entity?_mergeImported_iff]
        rcases mem_foldl_addRelation_iff.1 hrelation with hold | hnew
        · exact (hproject relation hold).imp .inr .inr
        · exact (ImportFormat.names_of_read hread hnew).imp .inl .inl
  exact ⟨hlinks, fun policy editing => hlinks.unreported policy editing⟩

/-- A project whose relation names its ends in other spellings. -/
def petProject : Project where
  entities := [{ name := "pet" }]
  relations := [{ sourceEntity := "Pet ", targetEntity := " PET", sourceFieldName := "heir", relationType := .oneToOne }]

/-- A text of two entities whose names differ in case only, and a relation between them. -/
def petText : String :=
  "\x7b\"entities\":[\x7b\"name\":\"Pet\"\x7d,\x7b\"name\":\"PET\"\x7d]," ++
    "\"relations\":[\x7b\"from\":\"pet\",\"to\":\"PET\"\x7d]\x7d"

def petExport : Json.Value :=
  .object [
    ("entities", .list [.object [("name", .text "Pet")], .object [("name", .text "PET")]]),
    ("relations", .list [.object [("from", .text "pet"), ("to", .text "PET")]])]

def petSchema : ImportedSchema where
  entities := [{ name := "Pet", fields := [Field.syntheticId] }, { name := "PET", fields := [Field.syntheticId] }]
  relations := [{ sourceEntity := "Pet", targetEntity := "PET", sourceFieldName := "pET", relationType := .manyToOne }]

/-- The merge leaves one entity, and both relations have it at both ends. -/
theorem Project.linked_pets :
    petProject.IsLinked ∧ ImportFormat.json.read true petText = .ok petSchema ∧
      (petProject.applyImport petSchema .merge).entities.map (·.name) = ["PET"] ∧
      ∀ relation ∈ (petProject.applyImport petSchema .merge).relations,
        (petProject.applyImport petSchema .merge).Links relation := by
  have hproject : petProject.IsLinked := by
    intro relation hrelation
    rw [List.mem_singleton.1 hrelation]
    exact ⟨by decide +kernel, by decide +kernel⟩
  have hparse : Json.parse? petText = some petExport := by cbv
  have hschema : SchemaExport.read? true petExport = some petSchema := by decide +kernel
  have hread : ImportFormat.json.read true petText = .ok petSchema := by
    rw [ImportFormat.read, hparse]
    dsimp only
    rw [hschema]
  refine ⟨hproject, hread, by decide +kernel, fun relation hrelation => ?_⟩
  exact (linked_applyImport hproject hread .merge relation hrelation).1

end DomainModel
