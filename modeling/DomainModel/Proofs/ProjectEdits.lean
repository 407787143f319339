import DomainModel.Proofs.ProjectSound
import Mathlib.Data.List.Perm.Basic

/-! Editing a project. The rule for an element looks only at that element, against the project as it is
before the edit; the verdict on the whole project looks at every element again afterwards. For entities,
relations and mappers the two agree: a rule accepts an edit of a valid project exactly when the edited
project is valid, so projects stay valid along every run of accepted edits. Look-ups take the first match,
and an element that is added comes last, so what resolved before resolves to the same. Data objects are
the exception. Mappers prefer them to entities, and an entity and a data object may share a name, so a new
data object may take the place of an entity at the end of a mapper that was accepted before. -/

namespace DomainModel.Rule

open Text (Alike Distinct trim)

/-! ### Lists in which each element is right and fits every other -/

section Lists
variable {α : Type} {P : α → Prop} {R : α → α → Prop} {l : List α} {x : α}

theorem each_append_iff (h : (∀ y ∈ l, P y) ∧ l.Pairwise R) :
    ((∀ y ∈ l ++ [x], P y) ∧ (l ++ [x]).Pairwise R) ↔ P x ∧ ∀ y ∈ l, R y x := by
  simp only [List.forall_mem_append, List.forall_mem_singleton, List.pairwise_append, List.pairwise_singleton,
    true_and]
  exact ⟨fun hall => ⟨hall.1.2, hall.2.2⟩, fun hx => ⟨⟨h.1, hx.1⟩, h.2, hx.2⟩⟩

theorem each_set_iff (hsymm : ∀ a b, R a b → R b a) (h : (∀ y ∈ l, P y) ∧ l.Pairwise R) {i : Nat}
    (hi : i < l.length) :
    ((∀ y ∈ l.set i x, P y) ∧ (l.set i x).Pairwise R) ↔ P x ∧ ∀ y ∈ l.eraseIdx i, R y x := by
  have hperm := List.set_perm_cons_eraseIdx hi x
  have hrest : ∀ y ∈ l.eraseIdx i, P y := fun y hy => h.1 y (List.mem_of_mem_eraseIdx hy)
  have hpairs : (l.eraseIdx i).Pairwise R := h.2.sublist (List.eraseIdx_sublist l i)
  have hmem : (∀ y ∈ l.set i x, P y) ↔ ∀ y ∈ x :: l.eraseIdx i, P y := by
    simp only [hperm.mem_iff]
  rw [hmem, hperm.pairwise_iff (hsymm _ _), List.forall_mem_cons, List.pairwise_cons]
  constructor
  · rintro ⟨⟨hx, -⟩, hothers, -⟩
    exact ⟨hx, fun y hy => hsymm _ _ (hothers y hy)⟩
  · rintro ⟨hx, hothers⟩
    exact ⟨⟨hx, hrest⟩, fun y hy => hsymm _ _ (hothers y hy), hpairs⟩

end Lists

theorem namesFit_iff_and {names : List String} :
    NamesFit names ↔ (∀ name ∈ names, Usable name) ∧ names.Pairwise fun a b => ¬ Alike a b :=
  ⟨fun h => ⟨h.usable, h.distinct⟩, fun h => ⟨h.1, h.2⟩⟩

/-- The names fit with a new one exactly when the rule accepts it. -/
theorem namesFit_append_iff {names : List String} (h : NamesFit names) (name : String) :
    NamesFit (names ++ [name]) ↔ Usable name ∧ ∀ other ∈ otherNames names none, ¬ Alike other name := by
  rw [namesFit_iff_and]
  exact each_append_iff (namesFit_iff_and.1 h)

/-- The names fit with a changed one exactly when the rule accepts it in place of the former one. -/
theorem namesFit_set_iff {names : List String} (h : NamesFit names) {name former : String} {i : Nat}
    (hi : names[i]? = some former) :
    NamesFit (names.set i name) ↔ Usable name ∧ ∀ other ∈ otherNames names (some former), ¬ Alike other name := by
  obtain ⟨hlt, -⟩ := List.getElem?_eq_some_iff.1 hi
  rw [namesFit_iff_and, each_set_iff (fun _ _ h halike => h halike.symm) (namesFit_iff_and.1 h) hlt]
  simp only [mem_otherNames_own_iff hi]

/-! ### What relations and mappers see of a project -/

/-- Names that lead somewhere in the first project lead to the same in the second. -/
structure Keeps (before after : Project) : Prop where
  entity : ∀ {name : String} {entity : Entity}, before.entity? name = some entity → after.entity? name = some entity
  fields : ∀ {name : String} {fields : List Field},
    before.fieldsOf? name = some fields → after.fieldsOf? name = some fields

theorem SoundRelation.keep {before after : Project} {allowSelfReference : Bool} {relation : Relation}
    (K : Keeps before after) (h : SoundRelation before allowSelfReference relation) :
    SoundRelation after allowSelfReference relation := by
  obtain ⟨source, target, hsource, htarget, hfits⟩ := h
  exact ⟨source, target, K.entity hsource, K.entity htarget, hfits⟩

theorem SoundMapper.keep {before after : Project} {mapper : Mapper} (K : Keeps before after)
    (h : SoundMapper before mapper) : SoundMapper after mapper := by
  obtain ⟨fromFields, toFields, hfrom, hto, hdifferent, hrows⟩ := h
  rw [endpointFields?_eq_some_iff] at hfrom hto
  exact ⟨fromFields, toFields, endpointFields?_eq_some_iff.2 ⟨hfrom.1, K.fields hfrom.2⟩,
    endpointFields?_eq_some_iff.2 ⟨hto.1, K.fields hto.2⟩, hdifferent, hrows⟩

/-- An entity that comes last is found only under names that led nowhere. -/
theorem keeps_addEntity (project : Project) (entity : Entity) :
    Keeps project { project with entities := project.entities ++ [entity] } := by
  have hentity : ∀ {name : String} {found : Entity}, project.entity? name = some found →
      ({ project with entities := project.entities ++ [entity] } : Project).entity? name = some found := by
    intro name found h
    rw [Project.entity?] at h ⊢
    rw [List.find?_append, h, Option.some_or]
  refine ⟨hentity, fun {name fields} h => ?_⟩
  -- data objects are asked first and stay the same, so the entity matters only where there is none
  unfold Project.fieldsOf? at h ⊢
  cases hobject : project.dataObject? name with
  | some object =>
      rw [hobject] at h
      rw [show ({ project with entities := project.entities ++ [entity] } : Project).dataObject? name =
        some object from hobject]
      exact h
  | none =>
      rw [hobject] at h
      rw [show ({ project with entities := project.entities ++ [entity] } : Project).dataObject? name =
        none from hobject]
      obtain ⟨found, hfound, rfl⟩ := Option.map_eq_some_iff.1 h
      exact Option.map_eq_some_iff.2 ⟨found, hentity hfound, rfl⟩

namespace SoundProject
variable {project : Project} {allowSelfReference : Bool}

theorem addEntity_iff (h : SoundProject project allowSelfReference) {entity : Entity} :
    SoundProject { project with entities := project.entities ++ [entity] } allowSelfReference ↔
      ErrorFree (entityIssues entity project none) := by
  have hnames := namesFit_append_iff h.entityNames entity.name
  rw [errorFree_entityIssues_iff, ← hnames]
  constructor
  · intro hafter
    refine ⟨by simpa using hafter.entityNames, hafter.entities entity (by simp)⟩
  · rintro ⟨hfit, hentity⟩
    have K := keeps_addEntity project entity
    exact { h with
      entityNames := by simpa using hfit
      entities := by
        intro other hother
        rcases List.mem_append.1 hother with hold | hnew
        · exact h.entities other hold
        · rwa [List.mem_singleton.1 hnew]
      relations := fun relation hrelation => (h.relations relation hrelation).keep K
      mappers := fun mapper hmapper => (h.mappers mapper hmapper).keep K }

/-- Relations do not lead to relations: a list of them is right when each of them was right before. -/
theorem withRelations_iff (h : SoundProject project allowSelfReference) {relations : List Relation} :
    SoundProject { project with relations } allowSelfReference ↔
      (∀ relation ∈ relations, SoundRelation project allowSelfReference relation) ∧
        relations.Pairwise fun a b => ¬ SameHolder a b :=
  ⟨fun hafter => ⟨hafter.relations, hafter.holders⟩,
    fun hright => { h with relations := hright.1, holders := hright.2 }⟩

theorem addRelation_iff (h : SoundProject project allowSelfReference) {relation : Relation} :
    SoundProject { project with relations := project.relations ++ [relation] } allowSelfReference ↔
      ErrorFree (relationIssues relation project allowSelfReference none) := by
  rw [h.withRelations_iff, errorFree_relationIssues_iff]
  exact each_append_iff ⟨h.relations, h.holders⟩

theorem setRelation_iff (h : SoundProject project allowSelfReference) {relation : Relation} {index : Nat}
    (hindex : index < project.relations.length) :
    SoundProject { project with relations := project.relations.set index relation } allowSelfReference ↔
      ErrorFree (relationIssues relation project allowSelfReference (some index)) := by
  rw [h.withRelations_iff, errorFree_relationIssues_iff]
  exact each_set_iff (fun _ _ h hsame => h hsame.symm) ⟨h.relations, h.holders⟩ hindex

theorem withMappers_iff (h : SoundProject project allowSelfReference) {mappers : List Mapper} :
    SoundProject { project with mappers } allowSelfReference ↔
      NamesFit (mappers.map (·.name)) ∧ ∀ mapper ∈ mappers, SoundMapper project mapper :=
  ⟨fun hafter => ⟨hafter.mapperNames, hafter.mappers⟩,
    fun hright => { h with mapperNames := hright.1, mappers := hright.2 }⟩

theorem addMapper_iff (h : SoundProject project allowSelfReference) {mapper : Mapper} :
    SoundProject { project with mappers := project.mappers ++ [mapper] } allowSelfReference ↔
      ErrorFree (mapperIssues mapper project none) := by
  rw [h.withMappers_iff, errorFree_mapperIssues_iff, List.map_append, List.map_singleton,
    namesFit_append_iff h.mapperNames]
  simp only [List.forall_mem_append, List.forall_mem_singleton, and_congr_right_iff, and_iff_right_iff_imp]
  exact fun _ _ => h.mappers

theorem setMapper_iff (h : SoundProject project allowSelfReference) {mapper : Mapper} {index : Nat} {former : Mapper}
    (hindex : project.mappers[index]? = some former) :
    SoundProject { project with mappers := project.mappers.set index mapper } allowSelfReference ↔
      ErrorFree (mapperIssues mapper project (some former.name)) := by
  have hname : (project.mappers.map (·.name))[index]? = some former.name := by simp [hindex]
  obtain ⟨hlt, -⟩ := List.getElem?_eq_some_iff.1 hindex
  rw [h.withMappers_iff, errorFree_mapperIssues_iff, List.map_set, namesFit_set_iff h.mapperNames hname]
  refine and_congr_right fun _ => ⟨fun hall => hall mapper (List.mem_set hlt mapper), fun hmapper other hother => ?_⟩
  rcases List.mem_or_eq_of_mem_set hother with hold | rfl
  · exact h.mappers other hold
  · exact hmapper

end SoundProject

/-! ### Edits that a rule is asked about -/

/-- An edit of a project. -/
inductive Edit where
  | addEntity (entity : Entity)
  | addRelation (relation : Relation)
  | setRelation (index : Nat) (relation : Relation)
  | addMapper (mapper : Mapper)
  | setMapper (index : Nat) (mapper : Mapper)

namespace Edit
variable (project : Project) (allowSelfReference : Bool)

/-- The edited project. -/
def apply : Edit → Project
  | addEntity entity => { project with entities := project.entities ++ [entity] }
  | addRelation relation => { project with relations := project.relations ++ [relation] }
  | setRelation index relation => { project with relations := project.relations.set index relation }
  | addMapper mapper => { project with mappers := project.mappers ++ [mapper] }
  | setMapper index mapper => { project with mappers := project.mappers.set index mapper }

/-- Whether the edited element exists. -/
def InRange : Edit → Prop
  | setRelation index _ => index < project.relations.length
  | setMapper index _ => index < project.mappers.length
  | _ => True

instance : (edit : Edit) → Decidable (edit.InRange project)
  | setRelation index _ => inferInstanceAs (Decidable (index < project.relations.length))
  | setMapper index _ => inferInstanceAs (Decidable (index < project.mappers.length))
  | addEntity _ | addRelation _ | addMapper _ => isTrue trivial

/-- What the rule for the element says before the edit is made. -/
def issues : Edit → List Issue
  | addEntity entity => entityIssues entity project none
  | addRelation relation => relationIssues relation project allowSelfReference none
  | setRelation index relation => relationIssues relation project allowSelfReference (some index)
  | addMapper mapper => mapperIssues mapper project none
  | setMapper index mapper => mapperIssues mapper project (project.mappers[index]?.map (·.name))

/-- An edit of an existing place in which the rule finds no error. -/
def Accepted (edit : Edit) : Prop :=
  edit.InRange project ∧ (Report.ofIssues (edit.issues project allowSelfReference)).isOk = true

instance (edit : Edit) : Decidable (edit.Accepted project allowSelfReference) :=
  inferInstanceAs (Decidable (_ ∧ _))

/-- Edits one after the other. -/
def run (edits : List Edit) : Project :=
  edits.foldl apply project

/-- Each edit is accepted by the project as the edits before it left it. -/
def AcceptedRun (allowSelfReference : Bool) : Project → List Edit → Prop
  | _, [] => True
  | project, edit :: rest =>
    edit.Accepted project allowSelfReference ∧ AcceptedRun allowSelfReference (edit.apply project) rest

instance decidableAcceptedRun (allowSelfReference : Bool) :
    (project : Project) → (edits : List Edit) → Decidable (AcceptedRun allowSelfReference project edits)
  | _, [] => isTrue trivial
  | project, edit :: rest =>
    have := decidableAcceptedRun allowSelfReference (edit.apply project) rest
    inferInstanceAs (Decidable (edit.Accepted project allowSelfReference ∧ _))

end Edit

/-- On a sound project the verdict on an edit is the verdict on the edited project. -/
theorem SoundProject.apply_iff {project : Project} {allowSelfReference : Bool}
    (h : SoundProject project allowSelfReference) {edit : Edit} (hrange : edit.InRange project) :
    SoundProject (edit.apply project) allowSelfReference ↔ ErrorFree (edit.issues project allowSelfReference) := by
  cases edit with
  | addEntity entity => exact h.addEntity_iff
  | addRelation relation => exact h.addRelation_iff
  | setRelation index relation => exact h.setRelation_iff hrange
  | addMapper mapper => exact h.addMapper_iff
  | setMapper index mapper =>
      have hformer : project.mappers[index]? = some project.mappers[index] := List.getElem?_eq_getElem hrange
      have hname : project.mappers[index]?.map (·.name) = some project.mappers[index].name := by
        rw [hformer, Option.map_some]
      rw [Edit.issues, hname]
      exact h.setMapper_iff hformer

/-- **Soundness is kept by every run of accepted edits.** -/
theorem SoundProject.run {project : Project} {allowSelfReference : Bool} (h : SoundProject project allowSelfReference)
    {edits : List Edit} (haccepted : Edit.AcceptedRun allowSelfReference project edits) :
    SoundProject (Edit.run project edits) allowSelfReference := by
  induction edits generalizing project with
  | nil => exact h
  | cons edit rest ih =>
      obtain ⟨⟨hrange, hok⟩, hrest⟩ := haccepted
      rw [Report.isOk_ofIssues] at hok
      exact ih ((h.apply_iff hrange).2 hok) hrest

/-- A rule accepts an edit of a valid project exactly when the edited project is valid, and a valid
project stays valid along accepted edits. -/
theorem valid_edits_of_valid {project : Project} {allowSelfReference : Bool}
    (h : (validate project allowSelfReference).isOk = true) :
    (∀ edit : Edit, edit.InRange project →
      ((Report.ofIssues (edit.issues project allowSelfReference)).isOk = true ↔
        (validate (edit.apply project) allowSelfReference).isOk = true)) ∧
    ∀ edits : List Edit, Edit.AcceptedRun allowSelfReference project edits →
      (validate (Edit.run project edits) allowSelfReference).isOk = true := by
  have hsound := isOk_validate_iff.1 h
  constructor
  · intro edit hrange
    rw [Report.isOk_ofIssues, isOk_validate_iff]
    exact (hsound.apply_iff hrange).symm
  · intro edits haccepted
    exact isOk_validate_iff.2 (hsound.run haccepted)

/-- A run of edits that ends with the first mapper leading elsewhere. -/
def shopEdits : List Edit :=
  [.addEntity { name := "Invoice", fields := [.syntheticId, { name := "number", typeName := "long" }] },
    .addRelation
      { sourceEntity := "invoice", targetEntity := "Purchase", sourceFieldName := "purchase",
        relationType := .oneToOne },
    .setRelation 0
      { sourceEntity := "Purchase", targetEntity := "Customer", sourceFieldName := "CUSTOMER",
        relationType := .manyToOne },
    .addMapper
      { name := "InvoiceMapper", fromModel := "Invoice", toModel := "Purchase",
        mappings := [⟨"id", "id"⟩, ⟨"number", "customer"⟩] },
    .setMapper 0
      { name := "customermapper", fromModel := "CustomerView", toModel := "Customer",
        mappings := [⟨"email", "email"⟩, ⟨"number", "id"⟩] }]

theorem valid_shopEdits :
    (validate shop false).isOk = true ∧ Edit.AcceptedRun false shop shopEdits ∧
      (validate (Edit.run shop shopEdits) false).isOk = true := by
  have haccepted : Edit.AcceptedRun false shop shopEdits := by decide +kernel
  exact ⟨isOk_validate_shop, haccepted, (valid_edits_of_valid isOk_validate_shop).2 shopEdits haccepted⟩

end DomainModel.Rule
