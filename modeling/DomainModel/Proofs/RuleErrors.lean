import DomainModel.Rule.Project
import Mathlib.Data.List.Pairwise

/-! Lists of issues without errors. A report is fine when no issue of its list is an error; warnings do
not count. Every rule appends the lists of its parts, so the question is always settled part by part.
The last section turns "each against those before it" and "each against all others" into one statement
about pairs. -/

namespace DomainModel

/-- What is in the lists that belong to the elements of a list. -/
theorem mem_flatten_mapIdx {α β : Type} {f : Nat → α → List β} {l : List α} {b : β} :
    b ∈ (l.mapIdx f).flatten ↔ ∃ i a, l[i]? = some a ∧ b ∈ f i a := by
  simp only [List.mem_flatten, List.mem_mapIdx]
  constructor
  · rintro ⟨_, ⟨i, hi, rfl⟩, hb⟩
    exact ⟨i, l[i], List.getElem?_eq_getElem hi, hb⟩
  · rintro ⟨i, a, ha, hb⟩
    obtain ⟨hi, rfl⟩ := List.getElem?_eq_some_iff.1 ha
    exact ⟨_, ⟨i, hi, rfl⟩, hb⟩

theorem exists_mem_flatten_mapIdx {α β : Type} {f : Nat → α → List β} {l : List α} {P : β → Prop} :
    (∃ b ∈ (l.mapIdx f).flatten, P b) ↔ ∃ i a, l[i]? = some a ∧ ∃ b ∈ f i a, P b := by
  simp only [mem_flatten_mapIdx]
  constructor
  · rintro ⟨b, ⟨i, a, ha, hb⟩, hP⟩
    exact ⟨i, a, ha, b, hb, hP⟩
  · rintro ⟨i, a, ha, b, hb, hP⟩
    exact ⟨b, ⟨i, a, ha, hb⟩, hP⟩

/-- No issue of the list is an error. -/
def ErrorFree (issues : List Issue) : Prop := ∀ issue ∈ issues, issue.isError = false

namespace ErrorFree

@[simp] theorem nil_iff : ErrorFree [] ↔ True := by simp [ErrorFree]

@[simp] theorem append_iff {left right : List Issue} :
    ErrorFree (left ++ right) ↔ ErrorFree left ∧ ErrorFree right := by
  simp only [ErrorFree, List.forall_mem_append]

@[simp] theorem singleton_iff {issue : Issue} : ErrorFree [issue] ↔ issue.isError = false := by
  simp [ErrorFree]

/-- Moving issues below a path makes none of them an error. -/
@[simp] theorem map_nestAt_iff {base : String} {issues : List Issue} :
    ErrorFree (issues.map (·.nestAt base)) ↔ ErrorFree issues := by
  simp only [ErrorFree, List.forall_mem_map]
  rfl

theorem flatten_mapIdx_iff {α : Type} {issues : Nat → α → List Issue} {elements : List α} :
    ErrorFree (elements.mapIdx issues).flatten ↔
      ∀ i element, elements[i]? = some element → ErrorFree (issues i element) := by
  simp only [ErrorFree, mem_flatten_mapIdx]
  constructor
  · intro h i element helement issue hissue
    exact h issue ⟨i, element, helement, hissue⟩
  · rintro h issue ⟨i, element, helement, hissue⟩
    exact h i element helement issue hissue

theorem issuesOfEach_iff {α : Type} {path : String} {issues : Nat → α → List Issue} {elements : List α} :
    ErrorFree (Rule.issuesOfEach path issues elements) ↔
      ∀ i element, elements[i]? = some element → ErrorFree (issues i element) := by
  rw [Rule.issuesOfEach, flatten_mapIdx_iff]
  simp only [map_nestAt_iff]

end ErrorFree

theorem Report.isOk_ofIssues {issues : List Issue} : (Report.ofIssues issues).isOk = true ↔ ErrorFree issues := by
  simp [Report.isOk, Report.ofIssues, ErrorFree]

theorem Report.mem_errors_ofIssues_iff {issues : List Issue} {issue : Issue} :
    issue ∈ (Report.ofIssues issues).errors ↔ issue ∈ issues ∧ issue.isError = true := List.mem_filter

/-! ### Each against the others -/

section Pairs
variable {α : Type} {R : α → α → Prop} {l : List α}

/-- Each element against those before it: these are all pairs. -/
theorem pairwise_iff_take : l.Pairwise R ↔ ∀ i x, l[i]? = some x → ∀ y ∈ l.take i, R y x := by
  rw [List.pairwise_iff_getElem]
  constructor
  · intro h i x hx y hy
    obtain ⟨hi, rfl⟩ := List.getElem?_eq_some_iff.1 hx
    obtain ⟨j, hj, rfl⟩ := List.mem_take_iff_getElem.1 hy
    exact h j i _ hi (by omega)
  · intro h i j hi hj hij
    exact h j l[j] (List.getElem?_eq_getElem hj) l[i] (List.mem_take_iff_getElem.2 ⟨i, by omega, rfl⟩)

/-- Each element against all others: for a symmetric relation these are all pairs. -/
theorem pairwise_iff_eraseIdx (hsymm : ∀ a b, R a b → R b a) :
    l.Pairwise R ↔ ∀ i x, l[i]? = some x → ∀ y ∈ l.eraseIdx i, R y x := by
  rw [List.pairwise_iff_getElem]
  constructor
  · intro h i x hx y hy
    obtain ⟨hi, rfl⟩ := List.getElem?_eq_some_iff.1 hx
    obtain ⟨j, hj, hne, rfl⟩ := List.mem_eraseIdx_iff_getElem.1 hy
    rcases Nat.lt_or_gt_of_ne hne with hlt | hgt
    · exact h j i hj hi hlt
    · exact hsymm _ _ (h i j hi hj hgt)
  · intro h i j hi hj hij
    exact h j l[j] (List.getElem?_eq_getElem hj) l[i]
      (List.mem_eraseIdx_iff_getElem.2 ⟨i, hi, by omega, rfl⟩)

/-- Two elements of a list that no pair of elements can be are one element. -/
theorem eq_of_pairwise_not (hsymm : ∀ a b, R a b → R b a) (hpairs : l.Pairwise fun a b => ¬ R a b) {a b : α}
    (ha : a ∈ l) (hb : b ∈ l) (h : R a b) : a = b := by
  by_contra hne
  have : Std.Symm fun a b => ¬ R a b := ⟨fun a b hnot hR => hnot (hsymm b a hR)⟩
  exact hpairs.forall ha hb hne h

end Pairs

end DomainModel
