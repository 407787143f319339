import DomainModel.Proofs.NameCase
import DomainModel.Proofs.RuleDuplicates
import DomainModel.Sql.Table
import Mathlib.Data.List.Nodup

/-! The names of the fields that a table gives. Columns whose names agree in lower case are kept once, so
their fields have different names, and the names consist of word characters. A table without a key gets the
field `id`, unless a column is called exactly that. Names of fields may contain capitals: `i_d` becomes
`iD`, which agrees with `id` in lower case but is not looked for. No other name does so, and therefore the
fields of an entity that was read have different names except when a table without a key has such a
column. -/

namespace DomainModel.Sql

open Text (Alike lower trim)

/-! ### The fields of the columns -/

/-- The name of a column as the name of a field. -/
def IsColumnName (name : String) : Prop :=
  ∃ word : List Char, (∀ c ∈ word, Text.isWordChar c = true) ∧ name = Naming.identifierCase (String.ofList word)

theorem IsColumnName.trim_eq {name : String} (h : IsColumnName name) : trim name = name := by
  obtain ⟨word, hword, rfl⟩ := h
  apply Naming.trim_identifierCase
  intro c hc
  rw [String.toList_ofList] at hc
  exact Text.isBlank_of_isWordChar (hword c hc)

theorem IsColumnName.eq_of_lower {name : String} (h : IsColumnName name) (hid : lower name = "id") :
    name = "id" ∨ name = "iD" := by
  obtain ⟨word, -, rfl⟩ := h
  exact Naming.identifierCase_of_lower_eq_id hid

/-- The name of a column that was read is a word. -/
theorem isWordChar_of_mem_name {definition : List Char} {column : Column} (h : column? definition = some column) :
    ∀ c ∈ column.name, Text.isWordChar c = true := by
  rw [column?] at h
  obtain ⟨rest, -, h⟩ := Option.bind_eq_some_iff.1 h
  dsimp only at h
  split at h
  · cases h
  · cases h
    intro c hc
    exact List.mem_takeWhile_imp hc

theorem isColumnName_of_mem_bodyFields {body : List Char} {field : Field} (h : field ∈ bodyFields body) :
    IsColumnName field.name := by
  obtain ⟨definition, -, hfield⟩ := List.mem_filterMap.1 h
  obtain ⟨column, hcolumn, rfl⟩ := Option.map_eq_some_iff.1 hfield
  exact ⟨column.name, isWordChar_of_mem_name hcolumn, rfl⟩

/-- Fields that agree in lower case with one before them are dropped, as are those that were seen. -/
theorem nodup_keepFirsts (seen : List String) (fields : List Field) :
    ((keepFirsts seen fields).map (lower ·.name)).Nodup ∧ ∀ field ∈ keepFirsts seen fields, lower field.name ∉ seen := by
  induction fields generalizing seen with
  | nil => exact ⟨List.nodup_nil, fun field hfield => absurd hfield List.not_mem_nil⟩
  | cons field rest ih =>
      rw [keepFirsts]
      split
      · exact ih seen
      · next hnew =>
          rw [List.contains_iff_mem] at hnew
          obtain ⟨hnodup, hseen⟩ := ih (lower field.name :: seen)
          rw [List.map_cons, List.nodup_cons, List.forall_mem_cons]
          refine ⟨⟨?_, hnodup⟩, hnew, fun other hother hmem => hseen other hother (List.mem_cons_of_mem _ hmem)⟩
          intro hmem
          obtain ⟨other, hother, hname⟩ := List.mem_map.1 hmem
          exact hseen other hother (hname ▸ List.mem_cons_self)

theorem keepFirsts_sublist (seen : List String) (fields : List Field) : (keepFirsts seen fields).Sublist fields := by
  induction fields generalizing seen with
  | nil => exact List.Sublist.refl []
  | cons field rest ih =>
      rw [keepFirsts]
      split
      · exact (ih seen).cons field
      · exact (ih _).cons_cons field

theorem map_name_keepFirstKey (found : Bool) (fields : List Field) :
    (keepFirstKey found fields).map (·.name) = fields.map (·.name) := by
  induction fields generalizing found with
  | nil => rfl
  | cons field rest ih => rw [keepFirstKey, List.map_cons, ih, List.map_cons]

theorem map_name_markId (fields : List Field) : (markId fields).map (·.name) = fields.map (·.name) := by
  induction fields with
  | nil => rfl
  | cons field rest ih =>
      rw [markId]
      split
      · rfl
      · rw [List.map_cons, ih, List.map_cons]

/-! ### The fields of an entity -/

/-- The names of the columns that a table keeps. -/
structure KeptNames (names : List String) : Prop where
  distinct : (names.map lower).Nodup
  each : ∀ name ∈ names, IsColumnName name

theorem keptNames_keepFirsts (body : List Char) : KeptNames ((keepFirsts [] (bodyFields body)).map (·.name)) := by
  constructor
  · rw [List.map_map]
    exact (nodup_keepFirsts [] (bodyFields body)).1
  · rw [List.forall_mem_map]
    intro column hcolumn
    exact isColumnName_of_mem_bodyFields ((keepFirsts_sublist [] (bodyFields body)).subset hcolumn)

/-- No column is marked as key or found under its name. -/
def Keyless (columns : List Field) : Prop :=
  ∀ column ∈ columns, column.primaryKey = false ∧ column.name ≠ "id"

theorem keyless_iff {columns : List Field} :
    Keyless columns ↔ columns.any (·.primaryKey) = false ∧ columns.any (·.name == "id") = false := by
  simp only [Keyless, List.any_eq_false, Bool.not_eq_true, beq_eq_false_iff_ne, forall_and]

theorem map_name_ensureKey {columns : List Field} (h : ¬ Keyless columns) :
    (ensureKey columns).map (·.name) = columns.map (·.name) := by
  rw [ensureKey]
  split
  · rfl
  · next hkey =>
      split
      · exact map_name_markId columns
      · next hid => exact absurd (keyless_iff.2 ⟨Bool.eq_false_iff.2 hkey, Bool.eq_false_iff.2 hid⟩) h

theorem ensureKey_of_keyless {columns : List Field} (h : Keyless columns) :
    ensureKey columns = Field.syntheticId :: columns := by
  obtain ⟨hkey, hid⟩ := keyless_iff.1 h
  rw [ensureKey, if_neg (Bool.eq_false_iff.1 hkey), if_neg (Bool.eq_false_iff.1 hid)]

/-- No column is marked as key, and one has the name that agrees with `id` in lower case alone. -/
def MissesId (columns : List Field) : Prop :=
  (∀ column ∈ columns, column.primaryKey = false) ∧ "iD" ∈ columns.map (·.name)

/-- Of the marks for a key the first one stays. -/
theorem keyless_keepFirstKey_iff {columns : List Field} :
    (∀ column ∈ keepFirstKey false columns, column.primaryKey = false) ↔
      ∀ column ∈ columns, column.primaryKey = false := by
  induction columns with
  | nil => rfl
  | cons column rest ih =>
      rw [keepFirstKey, List.forall_mem_cons, List.forall_mem_cons]
      cases hkey : column.primaryKey with
      | true => simp
      | false => simpa using ih

theorem missesId_keepFirstKey_iff {columns : List Field} : MissesId (keepFirstKey false columns) ↔ MissesId columns := by
  rw [MissesId, MissesId, keyless_keepFirstKey_iff, map_name_keepFirstKey]

/-- Where a column is missed no other one is found. -/
theorem MissesId.keyless {columns : List Field} (hmisses : MissesId columns) (h : KeptNames (columns.map (·.name))) :
    Keyless columns := by
  refine fun column hcolumn => ⟨hmisses.1 column hcolumn, fun hid => ?_⟩
  have hown : "id" ∈ columns.map (·.name) := List.mem_map.2 ⟨column, hcolumn, hid⟩
  have hsame : lower "id" = lower "iD" := by decide +kernel
  exact absurd (List.inj_on_of_nodup_map h.distinct hown hmisses.2 hsame) (by decide)

/-- Beside a new key the only name that agrees with it in lower case is that of a missed column. -/
theorem Keyless.mem_lower_iff {columns : List Field} (hkeyless : Keyless columns)
    (h : KeptNames (columns.map (·.name))) :
    lower "id" ∈ (columns.map (·.name)).map lower ↔ "iD" ∈ columns.map (·.name) := by
  constructor
  · intro hmem
    obtain ⟨name, hname, hlower⟩ := List.mem_map.1 hmem
    rw [show lower "id" = "id" by decide +kernel] at hlower
    rcases (h.each name hname).eq_of_lower hlower with rfl | rfl
    · obtain ⟨column, hcolumn, hid⟩ := List.mem_map.1 hname
      exact absurd hid (hkeyless column hcolumn).2
    · exact hname
  · intro hmem
    exact List.mem_map.2 ⟨"iD", hmem, by decide +kernel⟩

/-- **The new key clashes exactly with a column that was missed.** -/
theorem nodup_ensureKey_iff {columns : List Field} (h : KeptNames (columns.map (·.name))) :
    (((ensureKey columns).map (·.name)).map lower).Nodup ↔ ¬ MissesId columns := by
  by_cases hkeyless : Keyless columns
  · have hmisses : MissesId columns ↔ "iD" ∈ columns.map (·.name) :=
      and_iff_right fun column hcolumn => (hkeyless column hcolumn).1
    rw [ensureKey_of_keyless hkeyless, List.map_cons, List.map_cons, List.nodup_cons, hmisses]
    rw [show Field.syntheticId.name = "id" from rfl, hkeyless.mem_lower_iff h, and_iff_left h.distinct]
  · rw [map_name_ensureKey hkeyless, iff_true_left h.distinct]
    exact fun hmisses => hkeyless (hmisses.keyless h)

theorem trim_name_of_mem_ensureKey {columns : List Field} (h : KeptNames (columns.map (·.name))) {field : Field}
    (hfield : field ∈ ensureKey columns) : trim field.name = field.name := by
  have hname : field.name ∈ (ensureKey columns).map (·.name) := List.mem_map_of_mem hfield
  by_cases hkeyless : Keyless columns
  · rw [ensureKey_of_keyless hkeyless, List.map_cons, List.mem_cons] at hname
    rcases hname with hid | hcolumn
    · rw [hid]
      decide
    · exact (h.each field.name hcolumn).trim_eq
  · rw [map_name_ensureKey hkeyless] at hname
    exact (h.each field.name hname).trim_eq

/-- The rule reports a duplicate exactly when a column was missed. It compares names in ASCII only, but a
name that it compares is an identifier, and there the two ways of comparing agree. -/
theorem reports_iff_missesId {entity : Entity} {columns : List Field} (h : KeptNames (columns.map (·.name)))
    (hfields : entity.fields = ensureKey columns) (project : Project) (former : Option String) :
    Rule.Reports "duplicate_field" (Rule.entityIssues entity project former) ↔ MissesId columns := by
  rw [Rule.reports_entityIssues_iff, hfields]
  constructor
  · rintro ⟨i, field, hi, hidentifier, other, hother, halike⟩
    by_contra hmisses
    have hdistinct := (nodup_ensureKey_iff h).2 hmisses
    have hfield := trim_name_of_mem_ensureKey h (List.mem_of_getElem? hi)
    rw [hfield] at hidentifier
    rw [Alike, hfield, trim_name_of_mem_ensureKey h (List.mem_of_mem_take hother)] at halike
    have hascii := Naming.ascii_of_isIdentifier hidentifier
    have hlower := (Text.lower_eq_of_ascii (Text.ascii_of_equalIgnoringCase hascii halike) hascii).2 halike
    rw [List.map_map] at hdistinct
    exact pairwise_iff_take.1 (List.pairwise_map.1 hdistinct) i field hi other hother hlower
  · intro hmisses
    obtain ⟨column, hcolumn, hname⟩ := List.mem_map.1 hmisses.2
    obtain ⟨i, hi⟩ := List.mem_iff_getElem?.1 hcolumn
    rw [ensureKey_of_keyless (hmisses.keyless h)]
    -- the new key stands in front, so the clash is reported at the missed column
    refine ⟨i + 1, column, hi, ?_, Field.syntheticId, ?_, ?_⟩
    · rw [hname]
      decide
    · rw [List.take_succ_cons]
      exact List.mem_cons_self
    · rw [hname]
      decide

/-! ### Scripts -/

theorem entity?_eq_some {statement : List Char} {entity : Entity} (h : entity? statement = some entity) :
    ∃ table body, nameAndBody? statement = some (table, body) ∧
      entity.fields = ensureKey (keepFirstKey false (keepFirsts [] (bodyFields body))) := by
  rw [entity?] at h
  split at h
  · cases h
  · next table body hparts =>
      dsimp only at h
      split at h
      · cases h
      · refine ⟨table, body, hparts, ?_⟩
        rw [← Option.some.inj h]

theorem read_eq_ok {script : String} {entities : List Entity} (h : read script = .ok entities) {entity : Entity}
    (hentity : entity ∈ entities) : ∃ statement ∈ statements script.toList, entity? statement = some entity := by
  rw [read] at h
  split at h
  · cases h
  · cases h
    exact List.mem_filterMap.1 hentity

/-- The fields of an entity that was read have different names in lower case, and no duplicate is reported
among them, exactly when its table does not miss a column. -/
theorem distinct_names_iff_of_read {script : String} {entities : List Entity} (h : read script = .ok entities) :
    ∀ entity ∈ entities, ∃ statement ∈ statements script.toList, entity? statement = some entity ∧
      ∃ table body, nameAndBody? statement = some (table, body) ∧
        ((entity.fields.map (lower ·.name)).Nodup ↔ ¬ MissesId (keepFirsts [] (bodyFields body))) ∧
        ∀ project former, Rule.Reports "duplicate_field" (Rule.entityIssues entity project former) ↔
          MissesId (keepFirsts [] (bodyFields body)) := by
  intro entity hentity
  obtain ⟨statement, hstatement, hread⟩ := read_eq_ok h hentity
  obtain ⟨table, body, hparts, hfields⟩ := entity?_eq_some hread
  have hnames : KeptNames ((keepFirstKey false (keepFirsts [] (bodyFields body))).map (·.name)) := by
    rw [map_name_keepFirstKey]
    exact keptNames_keepFirsts body
  refine ⟨statement, hstatement, hread, table, body, hparts, ?_, fun project former => ?_⟩
  · rw [hfields, ← missesId_keepFirstKey_iff, ← nodup_ensureKey_iff hnames, List.map_map]
    rfl
  · rw [← missesId_keepFirstKey_iff]
    exact reports_iff_missesId hnames hfields project former

/-- What is read from a table whose only column becomes `iD`. -/
def missedEntity : Entity where
  name := "T"
  fields := [.syntheticId, { name := "iD", typeName := "Integer" }]

theorem read_missedEntity : read "CREATE TABLE t (i_d INT)" = .ok [missedEntity] := by decide +kernel

theorem distinct_names_iff_missedEntity :
    read "CREATE TABLE t (i_d INT)" = .ok [missedEntity] ∧
      ∃ statement ∈ statements "CREATE TABLE t (i_d INT)".toList, entity? statement = some missedEntity ∧
        ∃ table body, nameAndBody? statement = some (table, body) ∧
          ((missedEntity.fields.map (lower ·.name)).Nodup ↔ ¬ MissesId (keepFirsts [] (bodyFields body))) ∧
          ∀ project former, Rule.Reports "duplicate_field" (Rule.entityIssues missedEntity project former) ↔
            MissesId (keepFirsts [] (bodyFields body)) :=
  ⟨read_missedEntity, distinct_names_iff_of_read read_missedEntity missedEntity (List.mem_singleton_self _)⟩

/-- A script can give an entity with two fields whose names agree in lower case. -/
theorem not_distinct_names_of_read :
    ¬ ∀ (script : String) (entities : List Entity), read script = .ok entities →
      ∀ entity ∈ entities, (entity.fields.map (lower ·.name)).Nodup := by
  intro hall
  have hdistinct := hall _ _ read_missedEntity missedEntity (List.mem_singleton_self _)
  exact absurd hdistinct (by decide +kernel)

end DomainModel.Sql
