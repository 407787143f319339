import DomainModel.Proofs.SqlFieldNames

/-! The key of a table. A definition declares a key column by saying so itself, or because a clause of the
table lists its name. The first column that is declared keeps its mark and the marks of later ones are
cleared; where none is declared the field that is called `id` becomes the key, and where there is no such
field a new one is put in front. All other fields are those of the columns that the table keeps, in their
order, so that every entity has exactly one key and no column is lost. -/

namespace DomainModel.Sql

open Text (lower)

/-- What becomes of the columns of a table, some of them marked as key: the first mark stays alone, or a
field is promoted, or a new one is put in front. -/
inductive Keyed (columns : List Field) : List Field → Prop where
  | declared {before key after} (hcolumns : columns = before ++ key :: after) (hkey : key.primaryKey = true)
      (hfirst : ∀ column ∈ before, column.primaryKey = false) :
      Keyed columns (before ++ key :: after.map ({ · with primaryKey := false }))
  | promoted {before key after} (hnone : ∀ column ∈ columns, column.primaryKey = false)
      (hcolumns : columns = before ++ key :: after) (hid : key.name = "id")
      (hfirst : ∀ column ∈ before, column.name ≠ "id") :
      Keyed columns (before ++ { key with primaryKey := true, required := true } :: after)
  | added (hnone : ∀ column ∈ columns, column.primaryKey = false) (hid : ∀ column ∈ columns, column.name ≠ "id") :
      Keyed columns (Field.syntheticId :: columns)

/-! ### One key -/

theorem keepFirstKey_of_found (fields : List Field) :
    keepFirstKey true fields = fields.map ({ · with primaryKey := false }) := by
  induction fields with
  | nil => rfl
  | cons field rest ih => rw [keepFirstKey, Bool.true_or, ih, List.map_cons, Bool.not_true, Bool.and_false]

/-- Unmarked columns in front are left alone. -/
theorem keepFirstKey_append {before : List Field} (h : ∀ field ∈ before, field.primaryKey = false)
    (after : List Field) : keepFirstKey false (before ++ after) = before ++ keepFirstKey false after := by
  induction before with
  | nil => rfl
  | cons field rest ih =>
      rw [List.forall_mem_cons] at h
      have hsame : { field with primaryKey := false } = field := by rw [← h.1]
      rw [List.cons_append, keepFirstKey, h.1, Bool.false_and, Bool.false_or, ih h.2, hsame, List.cons_append]

theorem markId_append {before : List Field} (h : ∀ field ∈ before, field.name ≠ "id") {key : Field}
    (hid : key.name = "id") (after : List Field) :
    markId (before ++ key :: after) = before ++ { key with primaryKey := true, required := true } :: after := by
  induction before with
  | nil => rw [List.nil_append, markId, if_pos (beq_iff_eq.2 hid), List.nil_append]
  | cons field rest ih =>
      rw [List.forall_mem_cons] at h
      rw [List.cons_append, markId, if_neg (fun heq => h.1 (beq_iff_eq.1 heq)), ih h.2, List.cons_append]

/-- The first element with a property, and what stands before and after it. -/
theorem exists_first {p : Field → Bool} {fields : List Field} (h : ∃ field ∈ fields, p field = true) :
    ∃ before first after, fields = before ++ first :: after ∧ p first = true ∧ ∀ field ∈ before, p field = false := by
  obtain ⟨first, hfirst⟩ := Option.isSome_iff_exists.1 (List.find?_isSome.2 h)
  obtain ⟨hp, before, after, hsplit, hbefore⟩ := List.find?_eq_some_iff_append.1 hfirst
  exact ⟨before, first, after, hsplit, hp, fun field hfield => by simpa using hbefore field hfield⟩

/-- **The two passes over the columns of a table together give it one key.** -/
theorem keyed_ensureKey (columns : List Field) : Keyed columns (ensureKey (keepFirstKey false columns)) := by
  by_cases hmarked : ∃ column ∈ columns, column.primaryKey = true
  · obtain ⟨before, key, after, hcolumns, hkey, hfirst⟩ := exists_first hmarked
    have hkept : keepFirstKey false columns = before ++ key :: after.map ({ · with primaryKey := false }) := by
      have hsame : { key with primaryKey := true } = key := by rw [← hkey]
      rw [hcolumns, keepFirstKey_append hfirst, keepFirstKey, hkey, Bool.false_or, keepFirstKey_of_found,
        Bool.not_false, Bool.and_true, hsame]
    have hany : (before ++ key :: after.map ({ · with primaryKey := false })).any (·.primaryKey) = true :=
      List.any_eq_true.2 ⟨key, by simp, hkey⟩
    rw [hkept, ensureKey, if_pos hany]
    exact .declared hcolumns hkey hfirst
  · have hnone : ∀ column ∈ columns, column.primaryKey = false := by
      intro column hcolumn
      rw [← Bool.not_eq_true]
      exact fun hkey => hmarked ⟨column, hcolumn, hkey⟩
    have hkept : keepFirstKey false columns = columns := by
      have happend := keepFirstKey_append hnone []
      rwa [List.append_nil, keepFirstKey, List.append_nil] at happend
    have hany : ¬ columns.any (·.primaryKey) = true := by
      rw [List.any_eq_true]
      exact hmarked
    rw [hkept, ensureKey, if_neg hany]
    by_cases hnamed : ∃ column ∈ columns, (column.name == "id") = true
    · rw [if_pos (List.any_eq_true.2 hnamed)]
      obtain ⟨before, key, after, hcolumns, hid, hfirst⟩ := exists_first hnamed
      have hid : key.name = "id" := beq_iff_eq.1 hid
      have hfirst : ∀ column ∈ before, column.name ≠ "id" := fun column hcolumn =>
        beq_eq_false_iff_ne.1 (hfirst column hcolumn)
      have hmarks := markId_append hfirst hid after
      rw [← hcolumns] at hmarks
      rw [hmarks]
      exact .promoted hnone hcolumns hid hfirst
    · rw [if_neg (fun hsome => hnamed (List.any_eq_true.1 hsome))]
      exact .added hnone fun column hcolumn hid => hnamed ⟨column, hcolumn, beq_iff_eq.2 hid⟩

/-! ### The columns that stay -/

end DomainModel.Sql
