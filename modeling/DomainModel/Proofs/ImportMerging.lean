import DomainModel.Model.Import
import DomainModel.Model.Lookup

/-! Merging an import into a project. The first entity of a name holds the place of that name: the last imported
entity of the name is put there, the other entities stay as they are, and each new name gets a place behind them. So
names are led elsewhere as in the update of a map, no name comes to stand twice, and a merge that is done again does
nothing. Names are compared up to the case of ASCII letters; they are not trimmed. -/

namespace DomainModel

/-! ### First occurrences in a list -/

/-- Induction on a list without the elements that its first one turns down. -/
theorem filter_induction {α : Type} {motive : List α → Prop} (keep : α → α → Bool) (nil : motive [])
    (cons : ∀ first rest, motive (rest.filter (keep first)) → motive (first :: rest)) (l : List α) : motive l := by
  induction hlength : l.length using Nat.strongRecOn generalizing l with
  | _ n ih =>
      cases l with
      | nil => exact nil
      | cons first rest =>
          apply cons
          apply ih _ _ _ rfl
          rw [← hlength, List.length_cons, Nat.lt_succ_iff]
          exact List.length_filter_le _ _

theorem eraseDupsBy_sublist {α : Type} (r : α → α → Bool) (l : List α) : (l.eraseDupsBy r).Sublist l := by
  apply filter_induction (fun a b => decide (r b a = false)) _ _ l
  · exact List.Sublist.refl _
  · intro first rest ih
    rw [List.eraseDupsBy_cons]
    exact (ih.trans List.filter_sublist).cons_cons first

theorem nodup_eraseDups {α : Type} [DecidableEq α] (l : List α) : l.eraseDups.Nodup := by
  apply filter_induction (fun a b => !b == a) _ _ l
  · exact List.nodup_nil
  · intro first rest ih
    rw [List.eraseDups_cons, List.nodup_cons]
    refine ⟨fun hmem => ?_, ih⟩
    have hkept := (List.mem_filter.1 (List.mem_eraseDups.1 hmem)).2
    rw [beq_self_eq_true] at hkept
    cases hkept

/-! ### Entities by name -/

namespace Entity

/-- Whether an entity is found under a name. -/
def goesBy (name : String) (entity : Entity) : Bool := Text.equalIgnoringCase entity.name name

theorem goesBy_self (entity : Entity) : goesBy entity.name entity = true := Text.equalIgnoringCase_refl _

theorem goesBy_comm (a b : Entity) : goesBy a.name b = goesBy b.name a := Text.equalIgnoringCase_comm _ _

/-- Two spellings of one name find the same. -/
theorem goesBy_congr {a b : String} (h : Text.equalIgnoringCase a b = true) : goesBy a = goesBy b := by
  funext entity
  rw [Text.equalIgnoringCase_iff] at h
  rw [goesBy, goesBy, Text.equalIgnoringCase, Text.equalIgnoringCase, h]

theorem goesBy_eq {a b : Entity} (h : goesBy a.name b = true) (name : String) : goesBy name b = goesBy name a := by
  rw [goesBy, Text.equalIgnoringCase_iff] at h
  rw [goesBy, goesBy, Text.equalIgnoringCase, Text.equalIgnoringCase, h]

/-- The last of the entities that go by a name. -/
def lastOf? (entities : List Entity) (name : String) : Option Entity := (entities.filter (goesBy name)).getLast?

/-- The last of the entities that go by the name of this one, or else this one. -/
def lastOr (entities : List Entity) (entity : Entity) : Entity := (lastOf? entities entity.name).getD entity

/-- The first entity of each name. -/
def firstsByName (entities : List Entity) : List Entity :=
  entities.eraseDupsBy fun later earlier => goesBy earlier.name later

theorem firstsByName_cons (first : Entity) (rest : List Entity) :
    firstsByName (first :: rest) = first :: firstsByName (rest.filter fun entity => !goesBy first.name entity) := by
  have hkept : ∀ entity ∈ rest, decide (goesBy first.name entity = false) = !goesBy first.name entity :=
    fun entity _ => by cases goesBy first.name entity <;> rfl
  rw [firstsByName, List.eraseDupsBy_cons, List.filter_congr hkept, firstsByName]

theorem mem_of_mem_firstsByName {entities : List Entity} {entity : Entity} (h : entity ∈ firstsByName entities) :
    entity ∈ entities := (eraseDupsBy_sublist _ entities).subset h

theorem lastOf?_cons (entity : Entity) (entities : List Entity) (name : String) :
    lastOf? (entity :: entities) name =
      (lastOf? entities name).or (if goesBy name entity then some entity else none) := by
  rw [lastOf?, List.filter_cons]
  split
  · rw [List.getLast?_cons, lastOf?]
    cases (entities.filter (goesBy name)).getLast? <;> rfl
  · rw [lastOf?, Option.or_none]

theorem lastOf?_eq_some {entities : List Entity} {name : String} {last : Entity} (h : lastOf? entities name = some last) :
    last ∈ entities ∧ goesBy name last = true := List.mem_filter.1 (List.mem_of_getLast? h)

theorem isSome_lastOf?_iff {entities : List Entity} {name : String} :
    (lastOf? entities name).isSome = true ↔ ∃ entity ∈ entities, goesBy name entity = true := by
  rw [lastOf?, List.getLast?_isSome, Ne, List.filter_eq_nil_iff]
  simp

theorem isSome_lastOf?_of_mem {entities : List Entity} {entity : Entity} (h : entity ∈ entities) :
    (lastOf? entities entity.name).isSome = true := isSome_lastOf?_iff.2 ⟨entity, h, goesBy_self entity⟩

theorem lastOf?_filter (entities : List Entity) (left name : String) :
    lastOf? (entities.filter fun entity => !goesBy left entity) name =
      if Text.equalIgnoringCase left name then none else lastOf? entities name := by
  split
  · next hsame =>
      rw [← Option.not_isSome_iff_eq_none, isSome_lastOf?_iff, ← goesBy_congr hsame]
      rintro ⟨entity, hmem, hname⟩
      have hkept := (List.mem_filter.1 hmem).2
      rw [hname] at hkept
      exact Bool.false_ne_true hkept
  · next hother =>
      rw [lastOf?, lastOf?, List.filter_filter]
      congr 1
      refine List.filter_congr fun entity _ => ?_
      by_cases hname : goesBy name entity = true
      · have hleft : goesBy left entity = false := by
          rw [← Bool.not_eq_true]
          exact fun hleft => hother (Text.equalIgnoringCase_trans
            (by rwa [Text.equalIgnoringCase_comm]) hname)
        rw [hname, hleft]
        rfl
      · rw [Bool.not_eq_true] at hname
        rw [hname, Bool.false_and]

theorem lastOr_filter (entities : List Entity) (left entity : Entity) :
    lastOr (entities.filter fun other => !goesBy left.name other) entity =
      if goesBy entity.name left then entity else lastOr entities entity := by
  rw [lastOr, lastOf?_filter, goesBy, lastOr]
  split <;> rfl

theorem map_lastOr_filter {kept : List Entity} (entities : List Entity) {left : Entity}
    (h : ∀ entity ∈ kept, goesBy left.name entity = false) :
    kept.map (lastOr (entities.filter fun other => !goesBy left.name other)) = kept.map (lastOr entities) := by
  apply List.map_congr_left
  intro entity hmem
  rw [lastOr_filter, goesBy_comm, h entity hmem, if_neg Bool.false_ne_true]

end Entity

open Entity (goesBy lastOf? lastOr firstsByName)

/-! ### Entities put one by one -/

theorem putEntity_cons (first entity : Entity) (rest : List Entity) :
    putEntity (first :: rest) entity =
      if goesBy entity.name first then entity :: rest else first :: putEntity rest entity := rfl

theorem find?_putEntity (entities : List Entity) (entity : Entity) (name : String) :
    (putEntity entities entity).find? (goesBy name) =
      (if goesBy name entity then some entity else none).or (entities.find? (goesBy name)) := by
  induction entities with
  | nil => by_cases hname : goesBy name entity = true <;> simp [putEntity, hname]
  | cons first rest ih =>
      rw [putEntity_cons]
      by_cases hplace : goesBy entity.name first = true
      -- the two have one name, so it does not matter which of them is looked at
      · rw [if_pos hplace, List.find?_cons, List.find?_cons, Entity.goesBy_eq hplace]
        cases goesBy name entity <;> rfl
      · rw [if_neg hplace, List.find?_cons, List.find?_cons, ih]
        cases hfirst : goesBy name first with
        | false => rfl
        | true =>
            have hother : ¬ goesBy name entity = true := by
              intro h
              rw [← Entity.goesBy_congr h] at hfirst
              exact hplace hfirst
            rw [if_neg hother]
            rfl

/-- A name leads to the last of the entities put under it. -/
theorem find?_foldl_putEntity (entities imported : List Entity) (name : String) :
    (imported.foldl putEntity entities).find? (goesBy name) =
      (lastOf? imported name).or (entities.find? (goesBy name)) := by
  induction imported generalizing entities with
  | nil => rfl
  | cons entity imported ih =>
      rw [List.foldl_cons, ih, find?_putEntity, Entity.lastOf?_cons, Option.or_assoc]

/-- The first entity keeps its place for all that goes by its name, and the rest is merged among the others. -/
theorem foldl_putEntity_cons (first : Entity) (rest imported : List Entity) :
    imported.foldl putEntity (first :: rest) =
      lastOr imported first :: (imported.filter fun entity => !goesBy first.name entity).foldl putEntity rest := by
  induction imported generalizing first rest with
  | nil => rfl
  | cons entity imported ih =>
      rw [List.foldl_cons, putEntity_cons, List.filter_cons, lastOr, Entity.lastOf?_cons, Entity.goesBy_comm first entity]
      cases hplace : goesBy entity.name first with
      | true =>
          have hlast : lastOf? imported entity.name = lastOf? imported first.name := by
            rw [lastOf?, lastOf?, Entity.goesBy_congr hplace]
          rw [if_pos rfl, ih, ← Entity.goesBy_congr hplace, lastOr, hlast]
          cases lastOf? imported first.name <;> rfl
      | false =>
          rw [if_neg Bool.false_ne_true, ih, if_neg Bool.false_ne_true, Option.or_none, lastOr]
          rfl

/-- **Each place of the old list is kept.** It changes hands only if it is the first of its name. -/
theorem getElem?_foldl_putEntity {entities : List Entity} {k : Nat} {entity : Entity} (h : entities[k]? = some entity)
    (imported : List Entity) :
    (imported.foldl putEntity entities)[k]? =
      some (if (entities.take k).any (goesBy entity.name) then entity else lastOr imported entity) := by
  induction entities generalizing k imported with
  | nil => cases h
  | cons first rest ih =>
      rw [foldl_putEntity_cons]
      cases k with
      | zero =>
          rw [List.getElem?_cons_zero, Option.some.injEq] at h
          rw [List.getElem?_cons_zero, List.take_zero, h]
          rfl
      | succ k =>
          rw [List.getElem?_cons_succ] at h
          rw [List.getElem?_cons_succ, ih h, List.take_succ_cons, List.any_cons, Entity.lastOr_filter]
          cases goesBy entity.name first with
          | true => rw [if_pos rfl, ite_self, Bool.true_or, if_pos rfl]
          | false => rw [if_neg Bool.false_ne_true, Bool.false_or]

/-- Among entities that are all new, each name gets a place where it comes up first. -/
theorem foldl_putEntity_nil (imported : List Entity) :
    imported.foldl putEntity [] = (firstsByName imported).map (lastOr imported) := by
  -- the first entity takes all of its name to its own place, and the rest is merged behind it
  apply filter_induction (fun first other => !goesBy first.name other) _ _ imported
  · rfl
  · intro first rest ih
    have hfirst : lastOr rest first = lastOr (first :: rest) first := by
      rw [lastOr, lastOr, Entity.lastOf?_cons, Entity.goesBy_self]
      cases lastOf? rest first.name <;> rfl
    have hothers : rest.filter (fun other => !goesBy first.name other) =
        (first :: rest).filter fun other => !goesBy first.name other := by
      rw [List.filter_cons, Entity.goesBy_self]
      rfl
    calc (first :: rest).foldl putEntity []
        = lastOr rest first :: (rest.filter fun other => !goesBy first.name other).foldl putEntity [] :=
          foldl_putEntity_cons first [] rest
      _ = lastOr (first :: rest) first ::
            (firstsByName (rest.filter fun other => !goesBy first.name other)).map
              (lastOr ((first :: rest).filter fun other => !goesBy first.name other)) := by
          rw [ih, hfirst, ← hothers]
      _ = lastOr (first :: rest) first ::
            (firstsByName (rest.filter fun other => !goesBy first.name other)).map (lastOr (first :: rest)) := by
          rw [Entity.map_lastOr_filter]
          intro entity hmem
          have hkept := (List.mem_filter.1 (Entity.mem_of_mem_firstsByName hmem)).2
          rwa [Bool.not_eq_true'] at hkept
      _ = (firstsByName (first :: rest)).map (lastOr (first :: rest)) := by
          rw [Entity.firstsByName_cons, List.map_cons]

/-- Behind the old list there is one place for each new name, in the order in which the names come up. -/
theorem drop_foldl_putEntity (entities imported : List Entity) :
    (imported.foldl putEntity entities).drop entities.length =
      (firstsByName (imported.filter fun entity => (entities.find? (goesBy entity.name)).isNone)).map
        (lastOr imported) := by
  induction entities generalizing imported with
  | nil =>
      have hall : imported.filter (fun entity => (List.find? (goesBy entity.name) []).isNone) = imported :=
        List.filter_eq_self.2 fun _ _ => rfl
      rw [hall, List.length_nil, List.drop_zero, foldl_putEntity_nil]
  | cons first rest ih =>
      have hnone : ∀ entity : Entity, ((first :: rest).find? (goesBy entity.name)).isNone =
          ((rest.find? (goesBy entity.name)).isNone && !goesBy first.name entity) := by
        intro entity
        rw [List.find?_cons, Entity.goesBy_comm]
        cases goesBy first.name entity with
        | true => rw [Bool.not_true, Bool.and_false, Option.isNone_some]
        | false => rw [Bool.not_false, Bool.and_true]
      rw [foldl_putEntity_cons, List.length_cons, List.drop_succ_cons, ih, List.filter_filter,
        ← List.filter_congr fun entity _ => hnone entity, Entity.map_lastOr_filter]
      intro entity hmem
      have hkept := (List.mem_filter.1 (Entity.mem_of_mem_firstsByName hmem)).2
      rw [hnone, Bool.and_eq_true, Bool.not_eq_true'] at hkept
      exact hkept.2

theorem mem_putEntity {entities : List Entity} {entity other : Entity} (h : other ∈ putEntity entities entity) :
    other = entity ∨ other ∈ entities := by
  induction entities with
  | nil => exact .inl (List.mem_singleton.1 h)
  | cons first rest ih =>
      rw [putEntity_cons] at h
      split at h
      · exact (List.mem_cons.1 h).imp_right (List.mem_cons_of_mem first)
      · rcases List.mem_cons.1 h with rfl | hmem
        · exact .inr List.mem_cons_self
        · exact (ih hmem).imp_right (List.mem_cons_of_mem first)

/-- No two of the entities go by one name. -/
def Entity.NamedApart (entities : List Entity) : Prop := entities.Pairwise fun a b => goesBy a.name b = false

instance (entities : List Entity) : Decidable (Entity.NamedApart entities) :=
  inferInstanceAs (Decidable (entities.Pairwise fun a b => goesBy a.name b = false))

theorem namedApart_putEntity {entities : List Entity} (h : Entity.NamedApart entities) (entity : Entity) :
    Entity.NamedApart (putEntity entities entity) := by
  induction entities with
  | nil => exact List.pairwise_singleton _ _
  | cons first rest ih =>
      obtain ⟨hfirst, hrest⟩ := List.pairwise_cons.1 h
      rw [putEntity_cons]
      cases hplace : goesBy entity.name first with
      | true =>
          rw [if_pos rfl]
          refine List.pairwise_cons.2 ⟨fun other hmem => ?_, hrest⟩
          rw [← Entity.goesBy_congr hplace]
          exact hfirst other hmem
      | false =>
          rw [if_neg Bool.false_ne_true]
          refine List.pairwise_cons.2 ⟨fun other hmem => ?_, ih hrest⟩
          rcases mem_putEntity hmem with rfl | hold
          · rwa [Entity.goesBy_comm]
          · exact hfirst other hold

theorem namedApart_foldl_putEntity {entities : List Entity} (h : Entity.NamedApart entities) (imported : List Entity) :
    Entity.NamedApart (imported.foldl putEntity entities) := by
  induction imported generalizing entities with
  | nil => exact h
  | cons entity imported ih => exact ih (namedApart_putEntity h entity)

theorem find?_of_getElem? {entities : List Entity} {k : Nat} {entity : Entity} (h : entities[k]? = some entity)
    (hfirst : (entities.take k).any (goesBy entity.name) = false) :
    entities.find? (goesBy entity.name) = some entity := by
  induction entities generalizing k with
  | nil => cases h
  | cons first rest ih =>
      cases k with
      | zero =>
          rw [List.getElem?_cons_zero, Option.some.injEq] at h
          rw [List.find?_cons, h, Entity.goesBy_self]
      | succ k =>
          rw [List.take_succ_cons, List.any_cons, Bool.or_eq_false_iff] at hfirst
          rw [List.getElem?_cons_succ] at h
          rw [List.find?_cons, hfirst.1]
          exact ih h hfirst.2

/-- **A merge that changes no entity.** Each imported name leads to the last imported entity of that name already. -/
theorem foldl_putEntity_eq_self_iff {entities imported : List Entity} :
    imported.foldl putEntity entities = entities ↔
      ∀ entity ∈ imported, entities.find? (goesBy entity.name) = lastOf? imported entity.name := by
  constructor
  · intro hself entity hmem
    have hfind := find?_foldl_putEntity entities imported entity.name
    rwa [hself, Option.or_of_isSome (Entity.isSome_lastOf?_of_mem hmem)] at hfind
  · intro hsettled
    have hnew : (imported.foldl putEntity entities).drop entities.length = [] := by
      have hnone : imported.filter (fun entity => (entities.find? (goesBy entity.name)).isNone) = [] := by
        rw [List.filter_eq_nil_iff]
        intro entity hmem hlost
        have hlast := Entity.isSome_lastOf?_of_mem hmem
        rw [hsettled entity hmem, Option.isNone_iff_eq_none] at hlost
        rw [hlost] at hlast
        cases hlast
      rw [drop_foldl_putEntity, hnone]
      rfl
    apply List.ext_getElem?
    intro k
    cases hold : entities[k]? with
    | none =>
        obtain ⟨j, rfl⟩ := Nat.exists_eq_add_of_le (List.getElem?_eq_none_iff.1 hold)
        rw [← List.getElem?_drop, hnew]
        rfl
    | some entity =>
        rw [getElem?_foldl_putEntity hold]
        split
        · rfl
        · next hfirst =>
            rw [Bool.not_eq_true] at hfirst
            rw [lastOr]
            cases hlast : lastOf? imported entity.name with
            | none => rfl
            | some last =>
                -- the place holds what its name leads to, and that is the last imported entity already
                obtain ⟨hmem, hname⟩ := Entity.lastOf?_eq_some hlast
                have hfind := hsettled last hmem
                rw [lastOf?, Entity.goesBy_congr hname, ← lastOf?, hlast, find?_of_getElem? hold hfirst] at hfind
                rw [Option.getD_some, Option.some.inj hfind]

/-! ### Relations -/

/-- Relations that are new are added where they come up first. -/
theorem foldl_addRelation (relations imported : List Relation) :
    imported.foldl addRelation relations = relations ++ (imported.filter (· ∉ relations)).eraseDups := by
  induction imported generalizing relations with
  | nil => rw [List.filter_nil, List.eraseDups_nil, List.append_nil, List.foldl_nil]
  | cons relation imported ih =>
      rw [List.foldl_cons, ih, addRelation]
      by_cases hmem : relation ∈ relations
      · rw [if_pos hmem, List.filter_cons_of_neg]
        simpa using hmem
      · have hothers : (imported.filter (· ∉ relations)).filter (fun other => !other == relation) =
            imported.filter (· ∉ relations ++ [relation]) := by
          rw [List.filter_filter]
          apply List.filter_congr
          intro other _
          rw [Bool.eq_iff_iff]
          simp [and_comm]
        rw [if_neg hmem, List.filter_cons_of_pos, List.eraseDups_cons, hothers, List.append_assoc, List.singleton_append]
        simpa using hmem

theorem mem_foldl_addRelation_iff {relations imported : List Relation} {relation : Relation} :
    relation ∈ imported.foldl addRelation relations ↔ relation ∈ relations ∨ relation ∈ imported := by
  rw [foldl_addRelation, List.mem_append, List.mem_eraseDups, List.mem_filter, decide_eq_true_eq]
  by_cases hold : relation ∈ relations <;> simp [hold]

theorem foldl_addRelation_eq_self_iff {relations imported : List Relation} :
    imported.foldl addRelation relations = relations ↔ ∀ relation ∈ imported, relation ∈ relations := by
  constructor
  · intro hself relation hmem
    rw [← hself, mem_foldl_addRelation_iff]
    exact .inr hmem
  · intro hknown
    have hnew : imported.filter (· ∉ relations) = [] := by
      rw [List.filter_eq_nil_iff]
      intro relation hmem hnew
      exact of_decide_eq_true hnew (hknown relation hmem)
    rw [foldl_addRelation, hnew, List.eraseDups_nil, List.append_nil]

/-! ### Projects -/

namespace Project

/-- How a project comes out of a merge: as a map from names to entities and as a list of relations it is updated by
what is imported, and the rest is as it was. -/
structure UpdatedBy (project : Project) (imported : ImportedSchema) (merged : Project) : Prop where
  /-- A name leads to the last imported entity of that name, or else to where it led before. -/
  lookup : ∀ name, merged.entity? name = (lastOf? imported.entities name).or (project.entity? name)
  /-- An entity stays in its place as it was, unless it is the first of its name and the name is imported. -/
  kept : ∀ k entity, project.entities[k]? = some entity →
    ¬((∀ earlier ∈ project.entities.take k, goesBy entity.name earlier = false) ∧
      ∃ other ∈ imported.entities, goesBy entity.name other = true) →
    merged.entities[k]? = some entity
  /-- If so, the last imported entity of the name takes its place. -/
  replaced : ∀ k entity last, project.entities[k]? = some entity →
    (∀ earlier ∈ project.entities.take k, goesBy entity.name earlier = false) →
    lastOf? imported.entities entity.name = some last → merged.entities[k]? = some last
  /-- Names that led nowhere follow in the order in which they come up first. -/
  appended : merged.entities.drop project.entities.length =
    (firstsByName (imported.entities.filter fun entity => (project.entity? entity.name).isNone)).map
      (lastOr imported.entities)
  namedApart : Entity.NamedApart project.entities → Entity.NamedApart merged.entities
  /-- Relations that are new follow in the order in which they come up first. -/
  relations : merged.relations =
    project.relations ++ (imported.relations.filter (· ∉ project.relations)).eraseDups
  relationsOnce : (merged.relations.drop project.relations.length).Nodup
  relationsIncluded : ∀ relation ∈ imported.relations, relation ∈ merged.relations
  settings : merged.settings = project.settings
  dataObjects : merged.dataObjects = project.dataObjects
  mappers : merged.mappers = project.mappers

/-- **A merge updates a map from names to entities**, with names up to case. -/
theorem updatedBy_mergeImported (project : Project) (imported : ImportedSchema) :
    project.UpdatedBy imported (project.mergeImported imported) where
  lookup name := find?_foldl_putEntity project.entities imported.entities name
  kept k entity hold hstays := by
    apply (getElem?_foldl_putEntity hold imported.entities).trans
    split
    · rfl
    · next hfirst =>
        rw [List.any_eq_true, not_exists] at hfirst
        have hnone : lastOf? imported.entities entity.name = none := by
          rw [← Option.not_isSome_iff_eq_none, Entity.isSome_lastOf?_iff]
          intro himported
          refine hstays ⟨fun earlier hmem => ?_, himported⟩
          rw [← Bool.not_eq_true]
          exact fun hname => hfirst earlier ⟨hmem, hname⟩
        rw [lastOr, hnone, Option.getD_none]
  replaced k entity last hold hfirst hlast := by
    apply (getElem?_foldl_putEntity hold imported.entities).trans
    rw [if_neg, lastOr, hlast, Option.getD_some]
    rw [Bool.not_eq_true, List.any_eq_false]
    intro earlier hmem hname
    rw [hfirst earlier hmem] at hname
    cases hname
  appended := drop_foldl_putEntity project.entities imported.entities
  namedApart hapart := namedApart_foldl_putEntity hapart imported.entities
  relations := foldl_addRelation project.relations imported.relations
  relationsOnce := by
    rw [show (project.mergeImported imported).relations = _ from foldl_addRelation _ _, List.drop_left]
    exact nodup_eraseDups _
  relationsIncluded relation hmem := mem_foldl_addRelation_iff.2 (.inr hmem)
  settings := rfl
  dataObjects := rfl
  mappers := rfl

example :
    let project : Project := { entities := [{ name := "Customer" }, { name := "Order" }] }
    let merged := project.mergeImported { entities := [{ name := "customer" }, { name := "Bill" }, { name := "CUSTOMER" }] }
    merged.entities.map (·.name) = ["CUSTOMER", "Order", "Bill"] := by decide +kernel

/-- A merge changes nothing if each imported name leads to its last imported entity already and all imported relations
are there. -/
theorem mergeImported_eq_self_iff {project : Project} {imported : ImportedSchema} :
    project.mergeImported imported = project ↔
      (∀ entity ∈ imported.entities, project.entity? entity.name = lastOf? imported.entities entity.name) ∧
        ∀ relation ∈ imported.relations, relation ∈ project.relations := by
  have hentities := @foldl_putEntity_eq_self_iff project.entities imported.entities
  have hrelations := @foldl_addRelation_eq_self_iff project.relations imported.relations
  obtain ⟨settings, entities, relations, dataObjects, mappers⟩ := project
  rw [mergeImported, Project.mk.injEq]
  simp only [true_and, and_true]
  exact and_congr hentities hrelations

/-- **A merge that is done again does nothing.** -/
theorem mergeImported_mergeImported (project : Project) (imported : ImportedSchema) :
    (project.mergeImported imported).mergeImported imported = project.mergeImported imported := by
  rw [mergeImported_eq_self_iff]
  constructor
  · intro entity hmem
    calc (project.mergeImported imported).entity? entity.name
        = (lastOf? imported.entities entity.name).or (project.entity? entity.name) :=
          find?_foldl_putEntity _ _ _
      _ = lastOf? imported.entities entity.name := Option.or_of_isSome (Entity.isSome_lastOf?_of_mem hmem)
  · exact fun relation hmem => mem_foldl_addRelation_iff.2 (.inr hmem)

end Project

end DomainModel
