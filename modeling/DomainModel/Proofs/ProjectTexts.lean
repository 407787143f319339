import DomainModel.Import
import DomainModel.Model.Import
import DomainModel.Proofs.ExportRereading
import DomainModel.Proofs.ImportMerging
import DomainModel.Proofs.ProjectReaders
import DomainModel.Proofs.WrittenProjects

/-! Project files. The text that is written for a project is read as the project again, but for relations whose tag
was kept although it stands for one of the four types. Whatever way a project is come by, it has no such tags. -/

namespace DomainModel

open Json (Value Document Shape)

/-! ### Tags -/

namespace RelationType

/-- A tag is kept only if it stands for none of the four types. -/
def IsCanonical (relationType : RelationType) : Prop :=
  ∀ tag, relationType = .other tag → (parse tag).isKnown = false

theorem parse_eq_other {tag : String} (h : (parse tag).isKnown = false) : parse tag = .other tag := by
  rw [parse] at h ⊢
  split_ifs at h ⊢
  -- the four known types, and after them the tag
  iterate 4 cases h
  rfl

theorem isCanonical_parse (tag : String) : (parse tag).IsCanonical := by
  intro kept hkept
  have hknown : (parse tag).isKnown = false := by rw [hkept]; rfl
  have hself := parse_eq_other hknown
  rw [hkept, other.injEq] at hself
  rw [hself, hknown]

theorem isCanonical_manyToOne : manyToOne.IsCanonical := nofun

theorem canonical_eq_self_iff {relationType : RelationType} :
    relationType.canonical = relationType ↔ relationType.IsCanonical := by
  constructor
  · intro hself
    rw [← hself]
    exact isCanonical_parse _
  · intro hcanonical
    cases relationType with
    | other tag => exact parse_eq_other (hcanonical tag rfl)
    | oneToOne => decide +kernel
    | oneToMany => decide +kernel
    | manyToOne => decide +kernel
    | manyToMany => decide +kernel

end RelationType

/-- No relation of the project keeps a tag that stands for one of the four types. -/
def Project.HasCanonicalTags (project : Project) : Prop :=
  ∀ relation ∈ project.relations, relation.relationType.IsCanonical

theorem Project.canonical_eq_self_iff {project : Project} : project.canonical = project ↔ project.HasCanonicalTags := by
  have hrelation : ∀ relation : Relation, relation.canonical = relation ↔ relation.relationType.IsCanonical := by
    intro relation
    rw [← RelationType.canonical_eq_self_iff, Relation.canonical]
    cases relation
    simp
  obtain ⟨settings, entities, relations, dataObjects, mappers⟩ := project
  simp only [Project.canonical, Project.HasCanonicalTags, Project.mk.injEq, true_and, and_true]
  have hmap := @List.map_inj_left _ _ relations Relation.canonical id
  rw [List.map_id] at hmap
  rw [hmap]
  exact forall₂_congr fun relation _ => hrelation relation

/-! ### Writing and reading -/

/-- A project file is read as the project, with the types that its tags are read as. -/
theorem Project.read_pretty (project : Project) {ending : String} (hending : ∀ c ∈ ending.toList, Json.isGap c = true) :
    Project.read (project.toJson.pretty ++ ending) = .ok project.canonical := by
  have htext := Document.ofText_pretty project.sound.words hending
  have hvalue := Document.toValue?_ofValue project.toJson project.sound.distinct
  have hfault := (Project.agrees.fault _ _ hvalue project.sound.fits.anyFormat).2
    ⟨Schema.repeatsKey_ofValue _ _ project.sound.distinct, project.sound.fits⟩
  rw [Project.read, Shape.readText_of_ofText htext, Shape.read_of_fault?_eq_none hfault, project.build_toJson]

/-! ### Projects that can be come by -/

/-- A project that was read from a file, was imported, or is one such project applied to another. -/
inductive Project.Obtained : Project → Prop where
  | empty : Obtained {}
  | read {text : String} {project : Project} (h : Project.read text = .ok project) : Obtained project
  | imported {format : ImportFormat} {allowSelfReference : Bool} {text : String} {schema : ImportedSchema}
      (h : format.read allowSelfReference text = .ok schema) :
      Obtained { entities := schema.entities, relations := schema.relations }
  | applied {project other : Project} (h : Obtained project) (hother : Obtained other) (mode : ImportMode) :
      Obtained (project.applyImport { entities := other.entities, relations := other.relations } mode)

theorem Relation.isCanonical_build (doc : Document) : (Relation.shape.build doc).relationType.IsCanonical := by
  show (RelationType.shape.part .manyToOne doc 3 "relationType").IsCanonical
  rw [Shape.part]
  cases doc.part? 3 "relationType" with
  | none => exact RelationType.isCanonical_manyToOne
  | some inner =>
      dsimp only
      rw [RelationType.shape, build_map]
      exact RelationType.isCanonical_parse _

theorem Project.hasCanonicalTags_of_read {text : String} {project : Project} (h : Project.read text = .ok project) :
    project.HasCanonicalTags := by
  obtain ⟨doc, rfl⟩ := Shape.exists_build_of_readText h
  intro relation hrelation
  have hpart : (Project.shape.build doc).relations = Relation.shape.listOf.part [] doc 2 "relations" := rfl
  rw [hpart, Shape.part] at hrelation
  cases hheld : doc.part? 2 "relations" with
  | none =>
      rw [hheld] at hrelation
      cases hrelation
  | some inner =>
      rw [hheld] at hrelation
      cases inner with
      | list items closed =>
          obtain ⟨item, -, rfl⟩ := List.mem_map.1 hrelation
          exact Relation.isCanonical_build item
      | _ => cases hrelation

theorem SchemaExport.isCanonical_of_relation? {allowSelfReference : Bool} {entities : List Entity} {value : Value}
    {relation : Relation} (h : relation? allowSelfReference entities value = some relation) :
    relation.relationType.IsCanonical := by
  cases value with
  | object members =>
      rw [relation?] at h
      split at h
      · cases h
      · split at h
        · cases h
        · cases h
          rw [relationBetween]
          dsimp only
          cases firstUsable name? members relationTypeKeys with
          | none => exact RelationType.isCanonical_manyToOne
          | some tag => exact RelationType.isCanonical_parse tag
  | _ => cases h

theorem ImportFormat.isCanonical_of_read {format : ImportFormat} {allowSelfReference : Bool} {text : String}
    {schema : ImportedSchema} (h : format.read allowSelfReference text = .ok schema) :
    ∀ relation ∈ schema.relations, relation.relationType.IsCanonical := by
  intro relation hrelation
  rcases ImportFormat.read_eq_ok h with hnone | ⟨root, hread⟩
  · rw [hnone] at hrelation
    cases hrelation
  · obtain ⟨_, -, -, hrelations⟩ := SchemaExport.read?_eq_some hread
    obtain ⟨_, -, hvalue⟩ := List.mem_filterMap.1 (hrelations ▸ hrelation)
    exact SchemaExport.isCanonical_of_relation? hvalue

theorem Project.hasCanonicalTags_of_obtained {project : Project} (h : project.Obtained) : project.HasCanonicalTags := by
  induction h with
  | empty => exact nofun
  | read h => exact hasCanonicalTags_of_read h
  | imported h => exact ImportFormat.isCanonical_of_read h
  | @applied project other _ _ mode ih ihother =>
      cases mode with
      | replace => exact ihother
      | merge => exact fun relation hmem => (mem_foldl_addRelation_iff.1 hmem).elim (ih relation) (ihother relation)

theorem Project.read_pretty_of_obtained {project : Project} (h : project.Obtained) :
    Project.read project.toJson.pretty = .ok project := by
  have hread := @read_pretty project "" (by simp)
  rwa [String.append_empty, canonical_eq_self_iff.2 (hasCanonicalTags_of_obtained h)] at hread

/-- **Project files are read again as they were written.** The text that is written for a project is read as exactly
this project, with or without an empty line at its end, if and only if no relation keeps a tag that stands for one of
the four types; and no project that can be come by has such a relation. -/
theorem Project.read_written_iff (project : Project) :
    ((∀ ending : String, (∀ c ∈ ending.toList, Json.isGap c = true) →
        Project.read (project.toJson.pretty ++ ending) = .ok project) ↔ project.HasCanonicalTags) ∧
      (project.Obtained → project.HasCanonicalTags) := by
  refine ⟨⟨fun hall => ?_, fun hcanonical ending hending => ?_⟩, hasCanonicalTags_of_obtained⟩
  · have hnone : ∀ c ∈ "".toList, Json.isGap c = true := by simp
    have hread := hall "" hnone
    rw [project.read_pretty hnone] at hread
    exact canonical_eq_self_iff.1 (Except.ok.inj hread)
  · rw [project.read_pretty hending, canonical_eq_self_iff.2 hcanonical]

/-- A project with an escaped quote, the greatest length, an empty list and a tag that is none of the four types. -/
def linkedProject : Project :=
  { entities := [{ name := "An \"order\""
                   fields := [{ name := "code", typeName := "String", maxLength := some 4294967295 }] }]
    relations := [{ sourceEntity := "A", targetEntity := "B", sourceFieldName := "b"
                    relationType := .other "part of" }] }

theorem Project.read_written_linked :
    linkedProject.Obtained ∧ linkedProject.HasCanonicalTags ∧
      Project.read (linkedProject.toJson.pretty ++ "\n") = .ok linkedProject := by
  obtain ⟨hread, hcanonical⟩ := Project.read_written_iff linkedProject
  have htags : linkedProject.HasCanonicalTags := by
    rintro relation hrelation tag htag
    rw [List.mem_singleton.1 hrelation] at htag
    cases htag
    decide +kernel
  have hobtained : linkedProject.Obtained := .read (hread.2 htags "" (by simp))
  exact ⟨hobtained, hcanonical hobtained, hread.2 htags "\n" (List.forall_mem_singleton.2 rfl)⟩

end DomainModel
