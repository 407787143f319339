import DomainModel.Proofs.ConstraintFaults
import DomainModel.Proofs.ProjectSound
import Mathlib.Data.List.Perm.Basic

/-! The order of declarations. Rules look up the first of the elements that bear a name, hold a field against
those before it, pass over one name that is the element's own and report the first fault of a list of
constraints; so a report depends on the order in which a project declares things. The verdict does not. In a
sound project names are distinct and each entity has one key, so a look-up finds the only element there is,
in whatever order they stand, and soundness speaks about all elements and all pairs of them. A project that is
rearranged is therefore sound if it was so before; and as rearranging it again leads back, only then. -/

namespace DomainModel

open Text (Distinct)

/-! ### Lists in another order -/

/-- A list with the elements of another one in any order, each in a form related to that of before. -/
def Reordered {α : Type} (R : α → α → Prop) (l m : List α) : Prop := ∃ n, l.Perm n ∧ List.Forall₂ R n m

namespace Reordered
variable {α : Type} {R : α → α → Prop} {l m : List α}

theorem symm (hsymm : ∀ a b, R a b → R b a) (h : Reordered R l m) : Reordered R m l := by
  obtain ⟨n, hperm, hforms⟩ := h
  have hback : List.Forall₂ R m n := hforms.flip.imp fun b a hba => hsymm a b hba
  have hcomp : Relation.Comp (List.Forall₂ R) List.Perm m l := ⟨n, hback, hperm.symm⟩
  rwa [List.forall₂_comp_perm_eq_perm_comp_forall₂] at hcomp

theorem backwards (h : List.Forall₂ R l.reverse m) : Reordered R l m := ⟨l.reverse, l.reverse_perm.symm, h⟩

/-- Each element has a form in the other list. -/
theorem exists_form (h : Reordered R l m) {a : α} (ha : a ∈ l) : ∃ b ∈ m, R a b := by
  obtain ⟨n, hperm, hforms⟩ := h
  have ha : a ∈ n := hperm.subset ha
  clear hperm
  induction hforms with
  | nil => cases ha
  | cons hR _ ih =>
      rcases List.mem_cons.1 ha with rfl | ha
      · exact ⟨_, List.mem_cons_self, hR⟩
      · obtain ⟨b, hb, hab⟩ := ih ha
        exact ⟨b, List.mem_cons_of_mem _ hb, hab⟩

/-- Each element of the other list is a form of an element. -/
theorem exists_of_mem (h : Reordered R l m) {b : α} (hb : b ∈ m) : ∃ a ∈ l, R a b := by
  obtain ⟨n, hperm, hforms⟩ := h
  obtain ⟨a, ha, hba⟩ := exists_form ⟨m, .refl m, hforms.flip⟩ hb
  exact ⟨a, hperm.mem_iff.2 ha, hba⟩

theorem map_perm {β : Type} {f : α → β} (hf : ∀ a b, R a b → f a = f b) (h : Reordered R l m) :
    (l.map f).Perm (m.map f) := by
  obtain ⟨n, hperm, hforms⟩ := h
  have hsame : n.map f = m.map f := by
    clear hperm
    induction hforms with
    | nil => rfl
    | cons hR _ ih => rw [List.map_cons, List.map_cons, hf _ _ hR, ih]
  exact hsame ▸ hperm.map f

/-- What is found by a property that only one element has is found in any order. -/
theorem find?_eq_some {p : α → Bool} (hp : ∀ a b, R a b → p a = p b) (h : Reordered R l m)
    (hunique : ∀ a ∈ l, ∀ b ∈ l, p a = true → p b = true → a = b) {a : α} (ha : l.find? p = some a) :
    ∃ b, m.find? p = some b ∧ R a b := by
  have hmem := List.mem_of_find?_eq_some ha
  have hpa : p a = true := List.find?_some ha
  obtain ⟨form, hform, hR⟩ := h.exists_form hmem
  obtain ⟨b, hb⟩ := Option.isSome_iff_exists.1 (List.find?_isSome.2 ⟨form, hform, hp a form hR ▸ hpa⟩)
  -- what the search in the other order stops at is a form of an element with the property, so of this one
  obtain ⟨origin, horigin, hforms⟩ := h.exists_of_mem (List.mem_of_find?_eq_some hb)
  have hporigin : p origin = true := hp origin b hforms ▸ List.find?_some hb
  have hself : origin = a := hunique origin horigin a hmem hporigin hpa
  exact ⟨b, hb, hself ▸ hforms⟩

/-- Elements with distinct names are found by name in any order. -/
theorem find?_name_eq_some (name : α → String) (hname : ∀ a b, R a b → name a = name b) (h : Reordered R l m)
    (hdistinct : Distinct (l.map name)) {wanted : String} {a : α}
    (ha : l.find? (fun a => Text.equalIgnoringCase (name a) wanted) = some a) :
    ∃ b, m.find? (fun b => Text.equalIgnoringCase (name b) wanted) = some b ∧ R a b := by
  refine h.find?_eq_some (fun a b hR => by rw [hname a b hR]) (fun a ha b hb hwanted hwanted' => ?_) ha
  have hsame := Text.equalIgnoringCase_trans hwanted (Text.equalIgnoringCase_symm hwanted')
  exact Rule.eq_of_alike hdistinct ha hb (Text.equalIgnoringCase_trim hsame)

end Reordered

theorem distinct_of_perm {names others : List String} (h : names.Perm others) (hdistinct : Distinct names) :
    Distinct others := (h.pairwise_iff fun hapart halike => hapart halike.symm).1 hdistinct

/-! ### Projects in another order -/

/-- A field with its constraints in any order. -/
structure Field.Rearranges (field other : Field) : Prop where
  constraints : field.constraints.Perm other.constraints
  rest : other = { field with constraints := other.constraints }

/-- An entity with its fields in any order, and their constraints. -/
structure Entity.Rearranges (entity other : Entity) : Prop where
  fields : Reordered Field.Rearranges entity.fields other.fields
  rest : other = { entity with fields := other.fields }

/-- A data object with its fields in any order, and their constraints. -/
structure DataObject.Rearranges (object other : DataObject) : Prop where
  fields : Reordered Field.Rearranges object.fields other.fields
  rest : other = { object with fields := other.fields }

/-- A project with all that it declares in any order. The rows of a mapper stay where they are. -/
structure Project.Rearranges (project other : Project) : Prop where
  settings : project.settings = other.settings
  entities : Reordered Entity.Rearranges project.entities other.entities
  dataObjects : Reordered DataObject.Rearranges project.dataObjects other.dataObjects
  relations : project.relations.Perm other.relations
  mappers : project.mappers.Perm other.mappers

theorem Field.Rearranges.symm {field other : Field} (h : field.Rearranges other) : other.Rearranges field :=
  ⟨h.constraints.symm, by rw [h.rest]⟩

theorem Entity.Rearranges.symm {entity other : Entity} (h : entity.Rearranges other) : other.Rearranges entity :=
  ⟨h.fields.symm fun _ _ => Field.Rearranges.symm, by rw [h.rest]⟩

theorem DataObject.Rearranges.symm {object other : DataObject} (h : object.Rearranges other) :
    other.Rearranges object :=
  ⟨h.fields.symm fun _ _ => Field.Rearranges.symm, by rw [h.rest]⟩

theorem Project.Rearranges.symm {project other : Project} (h : project.Rearranges other) : other.Rearranges project :=
  ⟨h.settings.symm, h.entities.symm fun _ _ => Entity.Rearranges.symm,
    h.dataObjects.symm fun _ _ => DataObject.Rearranges.symm, h.relations.symm, h.mappers.symm⟩

section Parts
variable {field other : Field}

theorem Field.Rearranges.name (h : field.Rearranges other) : field.name = other.name := by rw [h.rest]

theorem Field.Rearranges.typeName (h : field.Rearranges other) : field.typeName = other.typeName := by rw [h.rest]

theorem Field.Rearranges.maxLength (h : field.Rearranges other) : field.maxLength = other.maxLength := by rw [h.rest]

theorem Field.Rearranges.primaryKey (h : field.Rearranges other) : field.primaryKey = other.primaryKey := by
  rw [h.rest]

end Parts

namespace Rule

/-! ### Elements -/

theorem NamesFit.perm {names others : List String} (h : names.Perm others) (hnames : NamesFit names) :
    NamesFit others :=
  ⟨fun name hname => hnames.usable name (h.mem_iff.2 hname), distinct_of_perm h hnames.distinct⟩

theorem SoundField.rearrange {field other : Field} (h : field.Rearranges other) (hsound : SoundField field) :
    SoundField other := by
  constructor
  case name => exact h.name ▸ hsound.name
  case typed => exact h.typeName ▸ hsound.typed
  case length => exact h.maxLength ▸ hsound.length
  case constraints => exact Constraint.firstFault?_eq_none_of_perm h.constraints hsound.constraints
  case registered => exact fun constraint hmem => hsound.registered constraint (h.constraints.mem_iff.2 hmem)
  case applicable =>
    intro constraint hmem
    rw [← h.typeName]
    exact hsound.applicable constraint (h.constraints.mem_iff.2 hmem)

section Fields
variable {fields others : List Field} (h : Reordered Field.Rearranges fields others)
include h

theorem distinct_rearrange (hdistinct : Distinct (fields.map (·.name))) : Distinct (others.map (·.name)) :=
  distinct_of_perm (h.map_perm fun _ _ => Field.Rearranges.name) hdistinct

theorem countP_primaryKey_rearrange : fields.countP (·.primaryKey) = others.countP (·.primaryKey) := by
  have hkeys := (h.map_perm (f := (·.primaryKey)) fun _ _ => Field.Rearranges.primaryKey).countP_eq id
  simpa only [List.countP_map, Function.id_comp] using hkeys

theorem SoundFields.rearrange {owner : FieldOwner} (hsound : SoundFields fields owner) : SoundFields others owner := by
  constructor
  case nonempty =>
    obtain ⟨field, hfield⟩ := List.exists_mem_of_ne_nil fields hsound.nonempty
    obtain ⟨other, hother, -⟩ := h.exists_form hfield
    exact List.ne_nil_of_mem hother
  case each =>
    intro other hother
    obtain ⟨field, hfield, hform⟩ := h.exists_of_mem hother
    exact (hsound.each field hfield).rearrange hform
  case distinct => exact distinct_rearrange h hsound.distinct
  case key =>
    intro howner
    rw [← countP_primaryKey_rearrange h]
    exact hsound.key howner

theorem findField?_rearrange (hdistinct : Distinct (fields.map (·.name))) {name : String} {field : Field}
    (hfound : findField? fields name = some field) :
    ∃ other, findField? others name = some other ∧ field.Rearranges other :=
  h.find?_name_eq_some Field.name (fun _ _ => Field.Rearranges.name) hdistinct hfound

theorem isSome_findField?_rearrange (hdistinct : Distinct (fields.map (·.name))) {name : String}
    (hfound : (findField? fields name).isSome = true) : (findField? others name).isSome = true := by
  obtain ⟨field, hfield⟩ := Option.isSome_iff_exists.1 hfound
  obtain ⟨other, hother, -⟩ := findField?_rearrange h hdistinct hfield
  exact Option.isSome_iff_exists.2 ⟨other, hother⟩

/-- A list with one key has the same key in any order. -/
theorem findKey_rearrange (hkey : fields.countP (·.primaryKey) = 1) {key : Field}
    (hfound : fields.find? (·.primaryKey) = some key) :
    ∃ other, others.find? (·.primaryKey) = some other ∧ key.Rearranges other := by
  have hunique : ∀ a ∈ fields, ∀ b ∈ fields, a.primaryKey = true → b.primaryKey = true → a = b := by
    intro a ha b hb hkeyed hkeyed'
    have hpairs := (countP_eq_one_iff.1 hkey).2
    exact eq_of_pairwise_not (fun _ _ hboth => hboth.symm) hpairs ha hb ⟨hkeyed, hkeyed'⟩
  exact h.find?_eq_some (p := (·.primaryKey)) (fun _ _ => Field.Rearranges.primaryKey) hunique hfound

end Fields

theorem SoundEntity.rearrange {entity other : Entity} (h : entity.Rearranges other) (hsound : SoundEntity entity) :
    SoundEntity other := by
  have hfields := hsound.fields.rearrange h.fields
  rw [h.rest] at hfields ⊢
  exact ⟨hsound.superclassWithoutEndpoints, hsound.superclassWithoutOperations, hsound.endpointsWithoutOperations,
    hfields⟩

theorem SoundDataObject.rearrange {object other : DataObject} (h : object.Rearranges other)
    (hsound : SoundDataObject object) : SoundDataObject other := by
  have hfields := hsound.fields.rearrange h.fields
  rw [h.rest] at hfields ⊢
  exact ⟨hsound.wrapper, hfields⟩

/-! ### Relations and mappers -/

/-- A relation that fits between two entities fits between them in any order of their fields: the field that it
is held by and the key that it refers to are found there again. -/
theorem RelationFits.rearrange {relation : Relation} {allowSelfReference : Bool}
    {source source' target target' : Entity} (hsource : source.Rearranges source')
    (htarget : target.Rearranges target') (hsourceSound : SoundEntity source) (htargetSound : SoundEntity target)
    (hfits : RelationFits relation allowSelfReference source target) :
    RelationFits relation allowSelfReference source' target' := by
  constructor
  case selfReference => exact hfits.selfReference
  case sourceField => exact hfits.sourceField
  case sourceLetters => exact hfits.sourceLetters
  case targetField =>
    intro name hname
    exact isSome_findField?_rearrange htarget.fields htargetSound.fields.distinct (hfits.targetField name hname)
  case keyType =>
    intro hsingle existing' key' hexisting hkey
    have hsourceSound' := hsourceSound.rearrange hsource
    have htargetSound' := htargetSound.rearrange htarget
    obtain ⟨existing, hfound, hform⟩ :=
      findField?_rearrange hsource.symm.fields hsourceSound'.fields.distinct hexisting
    obtain ⟨key, hfoundKey, hkeyForm⟩ :=
      findKey_rearrange htarget.symm.fields (htargetSound'.fields.key rfl) hkey
    rw [hform.typeName, hkeyForm.typeName]
    exact hfits.keyType hsingle existing key hfound hfoundKey

/-- Rows that fit between two lists of fields fit between them in any order. -/
theorem RowsFit.rearrange {fromFields fromFields' toFields toFields' : List Field} {rows : List FieldMapping}
    (hfrom : Reordered Field.Rearranges fromFields fromFields') (hto : Reordered Field.Rearranges toFields toFields')
    (hfromDistinct : Distinct (fromFields.map (·.name))) (htoDistinct : Distinct (toFields.map (·.name)))
    (hrows : RowsFit fromFields toFields rows) : RowsFit fromFields' toFields' rows := by
  have hback := fun (a b : Field) (hab : a.Rearranges b) => hab.symm
  constructor
  case each =>
    intro row hrow
    have hfits := hrows.each row hrow
    constructor
    case source => exact fun hname => isSome_findField?_rearrange hfrom hfromDistinct (hfits.source hname)
    case target => exact fun hname => isSome_findField?_rearrange hto htoDistinct (hfits.target hname)
    case types =>
      intro source' target' hsource htarget
      obtain ⟨source, hfound, hform⟩ :=
        findField?_rearrange (hfrom.symm hback) (distinct_rearrange hfrom hfromDistinct) hsource
      obtain ⟨target, hfoundTarget, htargetForm⟩ :=
        findField?_rearrange (hto.symm hback) (distinct_rearrange hto htoDistinct) htarget
      rw [hform.typeName, htargetForm.typeName]
      exact hfits.types source target hfound hfoundTarget
  case covered =>
    intro other hother
    obtain ⟨field, hfield, hform⟩ := hfrom.exists_of_mem hother
    exact hform.name ▸ hrows.covered field hfield

section Projects
variable {project other : Project} {allowSelfReference : Bool} (h : project.Rearranges other)
  (hsound : SoundProject project allowSelfReference)
include h hsound

theorem entity?_rearrange {name : String} {entity : Entity} (hfound : project.entity? name = some entity) :
    ∃ entity', other.entity? name = some entity' ∧ entity.Rearranges entity' :=
  h.entities.find?_name_eq_some Entity.name (fun _ _ hform => by rw [hform.rest]) hsound.entityNames.distinct hfound

theorem dataObject?_rearrange {name : String} {object : DataObject} (hfound : project.dataObject? name = some object) :
    ∃ object', other.dataObject? name = some object' ∧ object.Rearranges object' :=
  h.dataObjects.find?_name_eq_some DataObject.name (fun _ _ hform => by rw [hform.rest])
    hsound.dataObjectNames.distinct hfound

/-- A name of a model leads to the same fields in any order: to those of a data object in both projects or to
those of an entity in both. -/
theorem fieldsOf?_rearrange {name : String} {fields : List Field} (hfound : project.fieldsOf? name = some fields) :
    ∃ fields', other.fieldsOf? name = some fields' ∧ Reordered Field.Rearranges fields fields' := by
  rw [Project.fieldsOf?] at hfound
  split at hfound
  · next object hobject =>
      obtain ⟨object', hobject', hform⟩ := dataObject?_rearrange h hsound hobject
      obtain rfl := Option.some.inj hfound
      exact ⟨object'.fields, by rw [Project.fieldsOf?, hobject'], hform.fields⟩
  · next hnone =>
      obtain ⟨entity, hentity, rfl⟩ := Option.map_eq_some_iff.1 hfound
      obtain ⟨entity', hentity', hform⟩ := entity?_rearrange h hsound hentity
      have hnone' : other.dataObject? name = none := by
        rw [Project.dataObject?, List.find?_eq_none] at hnone ⊢
        intro object' hobject' hname
        obtain ⟨object, hobject, hform⟩ := h.dataObjects.exists_of_mem hobject'
        rw [hform.rest] at hname
        exact hnone object hobject hname
      exact ⟨entity'.fields, by rw [Project.fieldsOf?, hnone', hentity', Option.map_some], hform.fields⟩

theorem SoundRelation.rearrange {relation : Relation} (hrelation : SoundRelation project allowSelfReference relation) :
    SoundRelation other allowSelfReference relation := by
  obtain ⟨source, target, hsource, htarget, hfits⟩ := hrelation
  obtain ⟨source', hsource', hsourceForm⟩ := entity?_rearrange h hsound hsource
  obtain ⟨target', htarget', htargetForm⟩ := entity?_rearrange h hsound htarget
  have hsourceSound := hsound.entities source (entity?_eq_some hsource).1
  have htargetSound := hsound.entities target (entity?_eq_some htarget).1
  exact ⟨source', target', hsource', htarget', hfits.rearrange hsourceForm htargetForm hsourceSound htargetSound⟩

theorem SoundMapper.rearrange {mapper : Mapper} (hmapper : SoundMapper project mapper) : SoundMapper other mapper := by
  obtain ⟨fromFields, toFields, hfrom, hto, hdifferent, hrows⟩ := hmapper
  obtain ⟨hfromName, hfrom⟩ := endpointFields?_eq_some_iff.1 hfrom
  obtain ⟨htoName, hto⟩ := endpointFields?_eq_some_iff.1 hto
  obtain ⟨fromFields', hfrom', hfromForm⟩ := fieldsOf?_rearrange h hsound hfrom
  obtain ⟨toFields', hto', htoForm⟩ := fieldsOf?_rearrange h hsound hto
  exact ⟨fromFields', toFields', endpointFields?_eq_some_iff.2 ⟨hfromName, hfrom'⟩,
    endpointFields?_eq_some_iff.2 ⟨htoName, hto'⟩, hdifferent,
    hrows.rearrange hfromForm htoForm (hsound.fieldsOf hfrom) (hsound.fieldsOf hto)⟩

theorem SoundProject.rearrange : SoundProject other allowSelfReference := by
  constructor
  case settings => exact h.settings ▸ hsound.settings
  case entityNames => exact hsound.entityNames.perm (h.entities.map_perm fun _ _ hform => by rw [hform.rest])
  case entities =>
    intro entity' hentity'
    obtain ⟨entity, hentity, hform⟩ := h.entities.exists_of_mem hentity'
    exact (hsound.entities entity hentity).rearrange hform
  case dataObjectNames =>
    exact hsound.dataObjectNames.perm (h.dataObjects.map_perm fun _ _ hform => by rw [hform.rest])
  case dataObjects =>
    intro object' hobject'
    obtain ⟨object, hobject, hform⟩ := h.dataObjects.exists_of_mem hobject'
    exact (hsound.dataObjects object hobject).rearrange hform
  case relations =>
    intro relation hrelation
    exact (hsound.relations relation (h.relations.mem_iff.2 hrelation)).rearrange h hsound
  case holders => exact (h.relations.pairwise_iff fun hapart hsame => hapart hsame.symm).1 hsound.holders
  case mapperNames => exact hsound.mapperNames.perm (h.mappers.map _)
  case mappers =>
    intro mapper hmapper
    exact (hsound.mappers mapper (h.mappers.mem_iff.2 hmapper)).rearrange h hsound

end Projects

/-- The verdict on a project does not depend on the order of what it declares. -/
theorem isOk_validate_rearranges_iff {project other : Project} (h : project.Rearranges other)
    (allowSelfReference : Bool) :
    (validate project allowSelfReference).isOk = true ↔ (validate other allowSelfReference).isOk = true := by
  simp only [isOk_validate_iff]
  exact ⟨SoundProject.rearrange h, SoundProject.rearrange h.symm⟩

/-- The shop, declared from its end to its start. -/
def shopBackwards : Project where
  settings := shop.settings
  entities := [
    { name := "Purchase", fields := [{ name := "customer", typeName := "Long" }, .syntheticId], auditable := true },
    { name := "Customer",
      fields := [
        { name := "email", typeName := "String", maxLength := some 80,
          constraints := [{ name := "Size", value := some "3" }] },
        .syntheticId] }]
  dataObjects := [
    { name := "CustomerView", direction := .response, responseWrapper := some "Page",
      fields := [{ name := "Email", typeName := "Text" }, { name := "number", typeName := "long" }] }]
  relations := shop.relations
  mappers := shop.mappers

theorem rearranges_shopBackwards : shop.Rearranges shopBackwards := by
  have hsame (fields : List Field) : List.Forall₂ Field.Rearranges fields fields :=
    List.forall₂_same.2 fun _ _ => ⟨.refl _, rfl⟩
  constructor
  case settings => rfl
  case entities => exact .backwards (.cons ⟨.backwards (hsame _), rfl⟩ (.cons ⟨.backwards (hsame _), rfl⟩ .nil))
  case dataObjects => exact .backwards (.cons ⟨.backwards (hsame _), rfl⟩ .nil)
  case relations => exact .refl _
  case mappers => exact .refl _

theorem isOk_validate_shopBackwards :
    shop.Rearranges shopBackwards ∧ (validate shopBackwards false).isOk = true :=
  ⟨rearranges_shopBackwards,
    (isOk_validate_rearranges_iff rearranges_shopBackwards false).1 isOk_validate_shop⟩

end Rule

end DomainModel
