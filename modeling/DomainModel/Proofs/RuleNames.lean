import DomainModel.Proofs.RuleErrors
import DomainModel.Proofs.TextFolding

/-! What the name rule accepts. An element that is saved under its own name does not clash with itself:
the rule passes over the first of the existing names that is exactly the former one. Which of several
equal names that is does not matter, so over a whole list the rule accepts all names exactly when each
of them is usable and no two are alike. -/

namespace DomainModel.Rule

open Text (Alike Distinct trim)

/-- A name that classes may have: an identifier that in lower case is neither a keyword of the object
language nor a word that SQL reserves. -/
structure Usable (name : String) : Prop where
  identifier : Naming.isIdentifier (trim name) = true
  noKeyword : Text.lower (trim name) ∉ Naming.languageKeywords
  noSqlWord : Text.lower (trim name) ∉ Naming.sqlReservedWords

/-- The existing names but the first that is the former one. -/
def otherNames (existing : List String) (former : Option String) : List String :=
  former.elim existing existing.erase

theorem isIdentifier_empty : Naming.isIdentifier "" = false := rfl

theorem trim_ne_empty_of_isIdentifier {name : String} (h : Naming.isIdentifier (trim name) = true) :
    trim name ≠ "" := by
  intro hempty
  rw [hempty, isIdentifier_empty] at h
  cases h

theorem reservedWord?_eq_none_iff {name : String} :
    Naming.reservedWord? name = none ↔
      Text.lower (trim name) ∉ Naming.languageKeywords ∧ Text.lower (trim name) ∉ Naming.sqlReservedWords := by
  simp [Naming.reservedWord?]

theorem nameIsTaken_eq_any (name : String) (former : Option String) (existing : List String) :
    nameIsTaken name former existing =
      (otherNames existing former).any fun other => Text.equalIgnoringCase (trim other) name := by
  induction existing with
  | nil => cases former <;> rfl
  | cons candidate rest ih =>
      cases former with
      | none => simp [nameIsTaken, ih, otherNames]
      | some former =>
          by_cases h : former = candidate
          · simp [nameIsTaken, otherNames, h]
          · have hne : ¬candidate = former := fun heq => h heq.symm
            simp [nameIsTaken, ih, otherNames, h, hne]

theorem nameIsTaken_trim_iff {name : String} {former : Option String} {existing : List String} :
    nameIsTaken (trim name) former existing = true ↔ ∃ other ∈ otherNames existing former, Alike other name := by
  rw [nameIsTaken_eq_any, List.any_eq_true]
  rfl

theorem errorFree_nameIssues_iff {name : String} {space : NameSpace} {existing : List String}
    {former : Option String} :
    ErrorFree (nameIssues name space existing former) ↔
      Usable name ∧ ∀ other ∈ otherNames existing former, ¬ Alike other name := by
  have hshape : Usable name ↔ Naming.isIdentifier (trim name) = true ∧ Naming.reservedWord? (trim name) = none := by
    rw [reservedWord?_eq_none_iff, Text.trim_trim]
    exact ⟨fun h => ⟨h.1, h.2, h.3⟩, fun h => ⟨h.1, h.2.1, h.2.2⟩⟩
  rw [hshape, nameIssues]
  by_cases hempty : (trim name).isEmpty = true
  · rw [if_pos hempty, String.isEmpty_iff.1 hempty, isIdentifier_empty]
    simp [Issue.isError]
  · rw [if_neg hempty]
    cases hword : Naming.reservedWord? (trim name) with
    | some word => simp [Issue.isError]
    | none =>
        by_cases hid : Naming.isIdentifier (trim name) = true
        · by_cases htaken : nameIsTaken (trim name) former existing = true
          · obtain ⟨other, hmem, halike⟩ := nameIsTaken_trim_iff.1 htaken
            simp only [hid, htaken, if_true, Bool.not_true, Bool.false_eq_true, if_false]
            constructor
            · intro h
              exact absurd h (by simp [Issue.isError])
            · rintro ⟨-, h⟩
              exact absurd halike (h other hmem)
          · simp only [hid, htaken, Bool.not_true, Bool.false_eq_true, if_false, ErrorFree.nil_iff, true_iff,
              and_self, true_and]
            intro other hmem halike
            exact htaken (nameIsTaken_trim_iff.2 ⟨other, hmem, halike⟩)
        · simp [hid, Issue.isError]

/-- Whichever of several equal names is passed over, the others are the same up to order. -/
theorem mem_otherNames_own_iff {names : List String} {i : Nat} {name other : String} (h : names[i]? = some name) :
    other ∈ otherNames names (some name) ↔ other ∈ names.eraseIdx i := by
  obtain ⟨hi, rfl⟩ := List.getElem?_eq_some_iff.1 h
  exact (List.erase_getElem hi).mem_iff

/-- The names of a list of elements: each can be the name of a class and no two are alike. -/
structure NamesFit (names : List String) : Prop where
  usable : ∀ name ∈ names, Usable name
  distinct : Distinct names

/-- Each name is accepted as a name that its element had already, exactly when the names fit. -/
theorem namesFit_iff {names : List String} :
    NamesFit names ↔
      ∀ name ∈ names, Usable name ∧ ∀ other ∈ otherNames names (some name), ¬ Alike other name := by
  have hpairs : Distinct names ↔
      ∀ i name, names[i]? = some name → ∀ other ∈ names.eraseIdx i, ¬ Alike other name :=
    pairwise_iff_eraseIdx fun _ _ h halike => h halike.symm
  constructor
  · intro h name hname
    obtain ⟨i, hi⟩ := List.mem_iff_getElem?.1 hname
    refine ⟨h.usable name hname, fun other hother => ?_⟩
    exact hpairs.1 h.distinct i name hi other ((mem_otherNames_own_iff hi).1 hother)
  · intro h
    refine ⟨fun name hname => (h name hname).1, hpairs.2 fun i name hi other hother => ?_⟩
    exact (h name (List.mem_of_getElem? hi)).2 other ((mem_otherNames_own_iff hi).2 hother)

end DomainModel.Rule
