import DomainModel.Proofs.Numerals
import DomainModel.Proofs.RuleFields
import Mathlib.Data.List.Perm.Basic

/-! The first fault of a list of constraints. The list is gone through four times, and each pass stops at the first
place where it finds a fault of its kind; so what is reported is a fault of the lowest kind that there is anywhere in
the list, at the first place that has one. What the faults are is said here place by place, apart from the passes:
a constraint without a name, one whose name stands before it already, one that lacks a value that is demanded, and
one with a value of the wrong form. A list without any of them is acceptable. Where the faults are depends on the
order of the list, of which kinds they are does not: a name that stands twice does so in any order. -/

namespace DomainModel

/-- The kinds of faults, in the order of the passes that look for them. -/
inductive FaultKind where
  | missingName
  | duplicate
  | missingValue
  | invalidValue
  deriving DecidableEq, Repr

/-- The number of passes before the one that looks for the kind. -/
def FaultKind.pass : FaultKind → Nat
  | .missingName => 0
  | .duplicate => 1
  | .missingValue => 2
  | .invalidValue => 3

def ConstraintFault.kind : ConstraintFault → FaultKind
  | .missingName _ => .missingName
  | .duplicate _ => .duplicate
  | .missingValue _ _ => .missingValue
  | .invalidValue _ _ => .invalidValue

namespace Constraint

/-! ### The faults of one constraint -/

/-- The values that are demanded are there. -/
def Meets (constraint : Constraint) : NeededValues → Prop
  | .nothing => True
  | .first => constraint.first? ≠ none
  | .both => constraint.first? ≠ none ∧ constraint.second? ≠ none
  | .anyOne => constraint.first? ≠ none ∨ constraint.second? ≠ none

/-- The wording of a demand that is not met. -/
def wording : NeededValues → String
  | .nothing => ""
  | .first => "a value"
  | .both => "both values"
  | .anyOne => "at least one value"

/-- The constraint is registered and lacks a value that its rule demands. -/
inductive Lacks (constraint : Constraint) : String → Prop where
  | unmet {rule : ConstraintRule} (hrule : ConstraintRule.find? constraint.trimmedName = some rule)
      (hunmet : ¬ constraint.Meets rule.need) : Lacks constraint (wording rule.need)

/-- A text is the truth value of an inclusive bound. -/
def IsTruthValue (text : String) : Prop :=
  Text.equalIgnoringCase text "true" = true ∨ Text.equalIgnoringCase text "false" = true

/-- The values that are there have the form that the name of the constraint asks for. -/
structure WellFormed (constraint : Constraint) : Prop where
  whole : constraint.trimmedName ∈ ["Size", "Digits"] →
    ∀ text, constraint.first? = some text ∨ constraint.second? = some text → Numeral.IsInteger64 text
  number : constraint.trimmedName ∈ ["Min", "Max", "DecimalMin", "DecimalMax"] →
    ∀ text, constraint.first? = some text → Numeral.IsNumeric text
  inclusive : constraint.trimmedName ∈ ["DecimalMin", "DecimalMax"] →
    ∀ text, constraint.second? = some text → IsTruthValue text

/-- What is said of a value of the wrong form. -/
def mustBe (text form : String) : String := "'" ++ text ++ "' must be " ++ form

/-- What is said of the first value of the wrong form. -/
inductive Refuses (constraint : Constraint) : String → Prop where
  | firstWhole {text : String} (hname : constraint.trimmedName ∈ ["Size", "Digits"])
      (hfirst : constraint.first? = some text) (hwrong : ¬ Numeral.IsInteger64 text) :
      Refuses constraint (mustBe text "an integer")
  | secondWhole {text : String} (hname : constraint.trimmedName ∈ ["Size", "Digits"])
      (hfirst : ∀ first, constraint.first? = some first → Numeral.IsInteger64 first)
      (hsecond : constraint.second? = some text) (hwrong : ¬ Numeral.IsInteger64 text) :
      Refuses constraint (mustBe text "an integer")
  | number {text : String} (hname : constraint.trimmedName ∈ ["Min", "Max", "DecimalMin", "DecimalMax"])
      (hfirst : constraint.first? = some text) (hwrong : ¬ Numeral.IsNumeric text) :
      Refuses constraint (mustBe text "numeric")
  | inclusive {text : String} (hname : constraint.trimmedName ∈ ["DecimalMin", "DecimalMax"])
      (hfirst : ∀ first, constraint.first? = some first → Numeral.IsNumeric first)
      (hsecond : constraint.second? = some text) (hwrong : ¬ IsTruthValue text) :
      Refuses constraint (mustBe text "true or false")

theorem isTruthValue_iff {text : String} : isTruthValue text = true ↔ IsTruthValue text := by
  rw [isTruthValue, Bool.or_eq_true, IsTruthValue]

theorem unmet?_eq_some_iff {constraint : Constraint} {need : NeededValues} {requirement : String} :
    unmet? need constraint.first?.isSome constraint.second?.isSome = some requirement ↔
      ¬ constraint.Meets need ∧ requirement = wording need := by
  cases hfirst : constraint.first? <;> cases hsecond : constraint.second? <;> cases need <;>
    simp [unmet?, Meets, wording, hfirst, hsecond, eq_comm]

theorem missingValue?_eq_some_iff {constraint : Constraint} {fault : ConstraintFault} :
    constraint.missingValue? = some fault ↔
      ∃ requirement, constraint.Lacks requirement ∧ fault = .missingValue constraint.trimmedName requirement := by
  rw [missingValue?]
  cases hrule : ConstraintRule.find? constraint.trimmedName with
  | none =>
      refine iff_of_false nofun ?_
      rintro ⟨_, ⟨hfound, -⟩, -⟩
      rw [hrule] at hfound
      cases hfound
  | some rule =>
      have hname : rule.name = constraint.trimmedName := by
        have hfound := List.find?_some hrule
        exact eq_of_beq hfound
      dsimp only
      rw [Option.map_eq_some_iff, hname]
      simp only [unmet?_eq_some_iff]
      constructor
      · rintro ⟨_, ⟨hunmet, rfl⟩, rfl⟩
        exact ⟨_, .unmet hrule hunmet, rfl⟩
      · rintro ⟨_, ⟨hfound, hunmet⟩, rfl⟩
        obtain rfl := Option.some.inj (hrule.symm.trans hfound)
        exact ⟨_, ⟨hunmet, rfl⟩, rfl⟩

theorem refuse?_eq_some_iff {test : String → Bool} {complaint problem : String} {value : Option String} :
    refuse? test complaint value = some problem ↔
      ∃ text, value = some text ∧ test text = false ∧ mustBe text complaint = problem := by
  cases value with
  | none => simp [refuse?]
  | some text => cases htest : test text <;> simp [refuse?, htest, mustBe]

theorem refuse?_eq_none_iff {test : String → Bool} {complaint : String} {value : Option String} :
    refuse? test complaint value = none ↔ ∀ text, value = some text → test text = true := by
  cases value with
  | none => simp [refuse?]
  | some text => cases htest : test text <;> simp [refuse?, htest]

theorem isInteger64_eq_false_iff {text : String} : Numeral.isInteger64 text = false ↔ ¬ Numeral.IsInteger64 text := by
  rw [← Numeral.isInteger64_iff, Bool.not_eq_true]

theorem isNumeric_eq_false_iff {text : String} : Numeral.isNumeric text = false ↔ ¬ Numeral.IsNumeric text := by
  rw [← Numeral.isNumeric_iff, Bool.not_eq_true]

theorem isTruthValue_eq_false_iff {text : String} : isTruthValue text = false ↔ ¬ IsTruthValue text := by
  rw [← isTruthValue_iff, Bool.not_eq_true]

theorem not_whole_of_number {name : String} (h : name ∈ ["Min", "Max", "DecimalMin", "DecimalMax"]) :
    name ∉ ["Size", "Digits"] := by
  simp only [List.mem_cons, List.not_mem_nil, or_false] at h
  rcases h with rfl | rfl | rfl | rfl <;> decide

theorem number_of_inclusive {name : String} (h : name ∈ ["DecimalMin", "DecimalMax"]) :
    name ∈ ["Min", "Max", "DecimalMin", "DecimalMax"] := by
  simp only [List.mem_cons, List.not_mem_nil, or_false] at h ⊢
  exact .inr (.inr h)

theorem not_inclusive_of_plain {name : String} (h : name ∈ ["Min", "Max"]) : name ∉ ["DecimalMin", "DecimalMax"] := by
  simp only [List.mem_cons, List.not_mem_nil, or_false] at h
  rcases h with rfl | rfl <;> decide

theorem refuses_whole_iff {constraint : Constraint} (hname : constraint.trimmedName ∈ ["Size", "Digits"])
    {problem : String} :
    (refuse? Numeral.isInteger64 "an integer" constraint.first?).or
        (refuse? Numeral.isInteger64 "an integer" constraint.second?) = some problem ↔ constraint.Refuses problem := by
  simp only [Option.or_eq_some_iff, refuse?_eq_some_iff, refuse?_eq_none_iff, isInteger64_eq_false_iff,
    Numeral.isInteger64_iff]
  constructor
  · rintro (⟨text, hfirst, hwrong, rfl⟩ | ⟨hfirst, text, hsecond, hwrong, rfl⟩)
    · exact .firstWhole hname hfirst hwrong
    · exact .secondWhole hname hfirst hsecond hwrong
  · intro h
    cases h with
    | firstWhole _ hfirst hwrong => exact .inl ⟨_, hfirst, hwrong, rfl⟩
    | secondWhole _ hfirst hsecond hwrong => exact .inr ⟨hfirst, _, hsecond, hwrong, rfl⟩
    | number hother => exact absurd hname (not_whole_of_number hother)
    | inclusive hother => exact absurd hname (not_whole_of_number (number_of_inclusive hother))

theorem refuses_plain_iff {constraint : Constraint} (hname : constraint.trimmedName ∈ ["Min", "Max"])
    {problem : String} :
    refuse? Numeral.isNumeric "numeric" constraint.first? = some problem ↔ constraint.Refuses problem := by
  have hnumber : constraint.trimmedName ∈ ["Min", "Max", "DecimalMin", "DecimalMax"] :=
    List.mem_append_left ["DecimalMin", "DecimalMax"] hname
  simp only [refuse?_eq_some_iff, isNumeric_eq_false_iff]
  constructor
  · rintro ⟨text, hfirst, hwrong, rfl⟩
    exact .number hnumber hfirst hwrong
  · intro h
    cases h with
    | firstWhole hother => exact absurd hother (not_whole_of_number hnumber)
    | secondWhole hother => exact absurd hother (not_whole_of_number hnumber)
    | number _ hfirst hwrong => exact ⟨_, hfirst, hwrong, rfl⟩
    | inclusive hother => exact absurd hother (not_inclusive_of_plain hname)

theorem refuses_inclusive_iff {constraint : Constraint} (hname : constraint.trimmedName ∈ ["DecimalMin", "DecimalMax"])
    {problem : String} :
    (refuse? Numeral.isNumeric "numeric" constraint.first?).or
        (refuse? isTruthValue "true or false" constraint.second?) = some problem ↔ constraint.Refuses problem := by
  have hnumber := number_of_inclusive hname
  simp only [Option.or_eq_some_iff, refuse?_eq_some_iff, refuse?_eq_none_iff, isNumeric_eq_false_iff,
    Numeral.isNumeric_iff, isTruthValue_eq_false_iff]
  constructor
  · rintro (⟨text, hfirst, hwrong, rfl⟩ | ⟨hfirst, text, hsecond, hwrong, rfl⟩)
    · exact .number hnumber hfirst hwrong
    · exact .inclusive hname hfirst hsecond hwrong
  · intro h
    cases h with
    | firstWhole hother => exact absurd hother (not_whole_of_number hnumber)
    | secondWhole hother => exact absurd hother (not_whole_of_number hnumber)
    | number _ hfirst hwrong => exact .inl ⟨_, hfirst, hwrong, rfl⟩
    | inclusive _ hfirst hsecond hwrong => exact .inr ⟨hfirst, _, hsecond, hwrong, rfl⟩

/-- The values of any other constraint are not looked at. -/
theorem not_refuses {constraint : Constraint} (hwhole : constraint.trimmedName ∉ ["Size", "Digits"])
    (hplain : constraint.trimmedName ∉ ["Min", "Max"]) (hinclusive : constraint.trimmedName ∉ ["DecimalMin", "DecimalMax"])
    (problem : String) : ¬ constraint.Refuses problem := by
  intro h
  cases h with
  | firstWhole hname => exact hwhole hname
  | secondWhole hname => exact hwhole hname
  | number hname => exact (List.mem_append (s := ["Min", "Max"])).1 hname |>.elim hplain hinclusive
  | inclusive hname => exact hinclusive hname

theorem invalidValue?_eq_some_iff {constraint : Constraint} {fault : ConstraintFault} :
    constraint.invalidValue? = some fault ↔
      ∃ problem, constraint.Refuses problem ∧ fault = .invalidValue constraint.trimmedName problem := by
  rw [invalidValue?, Option.map_eq_some_iff]
  refine exists_congr fun problem => and_congr ?_ eq_comm
  simp only [List.contains_iff_mem]
  split
  · next hwhole => exact refuses_whole_iff hwhole
  split
  · next hplain => exact refuses_plain_iff hplain
  split
  · next hinclusive => exact refuses_inclusive_iff hinclusive
  · next hwhole hplain hinclusive => exact iff_of_false nofun (not_refuses hwhole hplain hinclusive problem)

/-- The values are well formed when none is refused. -/
theorem wellFormed_iff {constraint : Constraint} :
    constraint.WellFormed ↔ ∀ problem, ¬ constraint.Refuses problem := by
  constructor
  · intro h problem hrefused
    cases hrefused with
    | firstWhole hname hfirst hwrong => exact hwrong (h.whole hname _ (.inl hfirst))
    | secondWhole hname _ hsecond hwrong => exact hwrong (h.whole hname _ (.inr hsecond))
    | number hname hfirst hwrong => exact hwrong (h.number hname _ hfirst)
    | inclusive hname _ hsecond hwrong => exact hwrong (h.inclusive hname _ hsecond)
  · intro h
    constructor
    case whole =>
      intro hname
      have hfirst : ∀ text, constraint.first? = some text → Numeral.IsInteger64 text := by
        intro text htext
        by_contra hwrong
        exact h _ (.firstWhole hname htext hwrong)
      rintro text (htext | htext)
      · exact hfirst text htext
      · by_contra hwrong
        exact h _ (.secondWhole hname hfirst htext hwrong)
    case number =>
      intro hname text htext
      by_contra hwrong
      exact h _ (.number hname htext hwrong)
    case inclusive =>
      intro hname text htext
      by_contra hwrong
      refine h _ (.inclusive hname (fun first hfirst => ?_) htext hwrong)
      by_contra hwrong
      exact h _ (.number (number_of_inclusive hname) hfirst hwrong)

/-! ### Passes -/

/-- A search over places: what the first place shows that shows anything. -/
def Settles {β : Type} (see : Nat → Option β) (found : Option β) : Prop :=
  ∀ b, found = some b ↔ ∃ i, see i = some b ∧ ∀ j < i, see j = none

namespace Settles
variable {β : Type} {see : Nat → Option β} {found : Option β}

theorem nil (h : ∀ i, see i = none) : Settles see none := by
  refine fun b => iff_of_false nofun ?_
  rintro ⟨i, hi, -⟩
  rw [h i] at hi
  cases hi

/-- The first place comes first, and then the others. -/
theorem cons {rest : Nat → Option β} {whole : Option β} (h : Settles rest found) (hrest : ∀ i, see (i + 1) = rest i)
    (hwhole : whole = (see 0).or found) : Settles see whole := by
  intro b
  rw [hwhole]
  cases hzero : see 0 with
  | some first =>
      rw [Option.some_or]
      constructor
      · intro hfirst
        exact ⟨0, hzero.trans hfirst, fun j hj => absurd hj (Nat.not_lt_zero j)⟩
      · rintro ⟨i, hi, hbefore⟩
        cases i with
        | zero => exact hzero.symm.trans hi
        | succ i =>
            have hnone := hbefore 0 (Nat.succ_pos i)
            rw [hzero] at hnone
            cases hnone
  | none =>
      rw [Option.none_or, h b]
      constructor
      · rintro ⟨i, hi, hbefore⟩
        refine ⟨i + 1, (hrest i).trans hi, fun j hj => ?_⟩
        cases j with
        | zero => exact hzero
        | succ j => exact (hrest j).trans (hbefore j (by omega))
      · rintro ⟨i, hi, hbefore⟩
        cases i with
        | zero =>
            rw [hzero] at hi
            cases hi
        | succ i => exact ⟨i, (hrest i).symm.trans hi, fun j hj => (hrest j).symm.trans (hbefore (j + 1) (by omega))⟩

/-- A search that finds nothing has seen nothing: of the places that show anything one would be the first. -/
theorem eq_none_iff (h : Settles see found) : found = none ↔ ∀ i, see i = none := by
  constructor
  · intro hnone
    by_contra hsome
    simp only [not_forall] at hsome
    classical
    have hfirst := Nat.find_spec hsome
    obtain ⟨b, hb⟩ := Option.ne_none_iff_exists'.1 hfirst
    have hfound : found = some b := by
      refine (h b).2 ⟨Nat.find hsome, hb, fun j hj => ?_⟩
      by_contra hj'
      exact Nat.find_min hsome hj hj'
    rw [hnone] at hfound
    cases hfound
  · intro hnone
    rw [Option.eq_none_iff_forall_ne_some]
    intro b hb
    obtain ⟨i, hi, -⟩ := (h b).1 hb
    rw [hnone i] at hi
    cases hi

end Settles

section Passes
variable {constraints : List Constraint}

theorem settles_missingNameFrom? (index : Nat) :
    Settles (fun i => constraints[i]?.bind fun constraint =>
      if constraint.trimmedName = "" then some (.missingName (index + i)) else none)
      (missingNameFrom? index constraints) := by
  induction constraints generalizing index with
  | nil => exact .nil fun i => rfl
  | cons constraint rest ih =>
      refine (ih (index + 1)).cons (fun i => ?_) ?_
      · rw [List.getElem?_cons_succ, Nat.add_right_comm, Nat.add_assoc]
      · rw [missingNameFrom?]
        by_cases hname : constraint.trimmedName = "" <;> simp [hname]

theorem settles_duplicateAmong? (seen : List String) :
    Settles (fun i => constraints[i]?.bind fun constraint =>
      if constraint.trimmedName ∈ seen ∨ constraint.trimmedName ∈ (constraints.take i).map trimmedName then
        some (.duplicate constraint.trimmedName) else none)
      (duplicateAmong? seen constraints) := by
  induction constraints generalizing seen with
  | nil => exact .nil fun i => rfl
  | cons constraint rest ih =>
      refine (ih (constraint.trimmedName :: seen)).cons (fun i => ?_) ?_
      · simp only [List.getElem?_cons_succ, List.take_succ_cons, List.map_cons, List.mem_cons, or_assoc, or_left_comm]
      · rw [duplicateAmong?]
        by_cases hname : constraint.trimmedName ∈ seen <;> simp [hname]

theorem settles_findSome? (see : Constraint → Option ConstraintFault) :
    Settles (fun i => constraints[i]?.bind see) (constraints.findSome? see) := by
  induction constraints with
  | nil => exact .nil fun i => rfl
  | cons constraint rest ih =>
      refine ih.cons (fun i => ?_) ?_
      · rw [List.getElem?_cons_succ]
      · rw [List.findSome?_cons]
        cases hsee : see constraint <;> simp [hsee]

/-! ### Places -/

/-- The fault is there at a place of the list. -/
def FoundAt (constraints : List Constraint) (i : Nat) : ConstraintFault → Prop
  | .missingName index => index = i ∧ ∃ constraint, constraints[i]? = some constraint ∧ constraint.trimmedName = ""
  | .duplicate name =>
    ∃ constraint, constraints[i]? = some constraint ∧ constraint.trimmedName = name ∧
      name ∈ (constraints.take i).map trimmedName
  | .missingValue name requirement =>
    ∃ constraint, constraints[i]? = some constraint ∧ constraint.trimmedName = name ∧ constraint.Lacks requirement
  | .invalidValue name problem =>
    ∃ constraint, constraints[i]? = some constraint ∧ constraint.trimmedName = name ∧ constraint.Refuses problem

/-- The fault is at the first place that has one of its kind. -/
def IsEarliest (constraints : List Constraint) (fault : ConstraintFault) : Prop :=
  ∃ i, FoundAt constraints i fault ∧ ∀ j < i, ∀ other, FoundAt constraints j other → other.kind ≠ fault.kind

/-- What the pass for a kind finds. -/
def pass? (constraints : List Constraint) : FaultKind → Option ConstraintFault
  | .missingName => missingNameFrom? 0 constraints
  | .duplicate => duplicateAmong? [] constraints
  | .missingValue => constraints.findSome? missingValue?
  | .invalidValue => constraints.findSome? invalidValue?

/-- Every pass finds the faults of its kind, place by place. -/
theorem exists_settles_pass? (constraints : List Constraint) (kind : FaultKind) :
    ∃ see, Settles see (pass? constraints kind) ∧
      ∀ i fault, see i = some fault ↔ FoundAt constraints i fault ∧ fault.kind = kind := by
  cases kind with
  | missingName =>
      refine ⟨_, settles_missingNameFrom? 0, fun i fault => ?_⟩
      simp only [Option.bind_eq_some_iff, Option.ite_none_right_eq_some, Nat.zero_add, Option.some.injEq]
      constructor
      · rintro ⟨constraint, hi, hname, rfl⟩
        exact ⟨⟨rfl, constraint, hi, hname⟩, rfl⟩
      · rintro ⟨hfound, hkind⟩
        cases fault with
        | missingName index =>
            obtain ⟨rfl, constraint, hi, hname⟩ := hfound
            exact ⟨constraint, hi, hname, rfl⟩
        | _ => cases hkind
  | duplicate =>
      refine ⟨_, settles_duplicateAmong? [], fun i fault => ?_⟩
      simp only [Option.bind_eq_some_iff, Option.ite_none_right_eq_some, List.not_mem_nil, false_or, Option.some.injEq]
      constructor
      · rintro ⟨constraint, hi, hname, rfl⟩
        exact ⟨⟨constraint, hi, rfl, hname⟩, rfl⟩
      · rintro ⟨hfound, hkind⟩
        cases fault with
        | duplicate name =>
            obtain ⟨constraint, hi, rfl, hname⟩ := hfound
            exact ⟨constraint, hi, hname, rfl⟩
        | _ => cases hkind
  | missingValue =>
      refine ⟨_, settles_findSome? missingValue?, fun i fault => ?_⟩
      simp only [Option.bind_eq_some_iff, missingValue?_eq_some_iff]
      constructor
      · rintro ⟨constraint, hi, requirement, hlacks, rfl⟩
        exact ⟨⟨constraint, hi, rfl, hlacks⟩, rfl⟩
      · rintro ⟨hfound, hkind⟩
        cases fault with
        | missingValue name requirement =>
            obtain ⟨constraint, hi, rfl, hlacks⟩ := hfound
            exact ⟨constraint, hi, requirement, hlacks, rfl⟩
        | _ => cases hkind
  | invalidValue =>
      refine ⟨_, settles_findSome? invalidValue?, fun i fault => ?_⟩
      simp only [Option.bind_eq_some_iff, invalidValue?_eq_some_iff]
      constructor
      · rintro ⟨constraint, hi, problem, hrefused, rfl⟩
        exact ⟨⟨constraint, hi, rfl, hrefused⟩, rfl⟩
      · rintro ⟨hfound, hkind⟩
        cases fault with
        | invalidValue name problem =>
            obtain ⟨constraint, hi, rfl, hrefused⟩ := hfound
            exact ⟨constraint, hi, problem, hrefused, rfl⟩
        | _ => cases hkind

/-- A pass finds the earliest fault of its kind. -/
theorem pass?_eq_some_iff {kind : FaultKind} {fault : ConstraintFault} :
    pass? constraints kind = some fault ↔ fault.kind = kind ∧ IsEarliest constraints fault := by
  obtain ⟨see, hsettles, hsee⟩ := exists_settles_pass? constraints kind
  rw [hsettles fault]
  constructor
  · rintro ⟨i, hi, hbefore⟩
    obtain ⟨hfound, rfl⟩ := (hsee i fault).1 hi
    refine ⟨rfl, i, hfound, fun j hj other hother hkind => ?_⟩
    have hsome := (hsee j other).2 ⟨hother, hkind⟩
    rw [hbefore j hj] at hsome
    cases hsome
  · rintro ⟨rfl, i, hfound, hbefore⟩
    refine ⟨i, (hsee i fault).2 ⟨hfound, rfl⟩, fun j hj => ?_⟩
    rw [Option.eq_none_iff_forall_ne_some]
    intro other hother
    obtain ⟨hthere, hkind⟩ := (hsee j other).1 hother
    exact hbefore j hj other hthere hkind

/-- A pass finds nothing when there is no fault of its kind. -/
theorem pass?_eq_none_iff {kind : FaultKind} :
    pass? constraints kind = none ↔ ∀ i fault, FoundAt constraints i fault → fault.kind ≠ kind := by
  obtain ⟨see, hsettles, hsee⟩ := exists_settles_pass? constraints kind
  rw [hsettles.eq_none_iff]
  simp only [Option.eq_none_iff_forall_ne_some, ne_eq, hsee, not_and]

/-- The passes one after the other. -/
theorem firstFault?_eq (constraints : List Constraint) :
    firstFault? constraints =
      (pass? constraints .missingName).or ((pass? constraints .duplicate).or
        ((pass? constraints .missingValue).or (pass? constraints .invalidValue))) := rfl

/-- The fault that is reported is what its pass finds, where the passes before find nothing. -/
theorem firstFault?_eq_some_iff {fault : ConstraintFault} :
    firstFault? constraints = some fault ↔
      pass? constraints fault.kind = some fault ∧
        ∀ kind, kind.pass < fault.kind.pass → pass? constraints kind = none := by
  rw [firstFault?_eq]
  constructor
  · intro h
    simp only [Option.or_eq_some_iff] at h
    rcases h with h | ⟨hnames, h | ⟨hrepeats, h | ⟨hvalues, h⟩⟩⟩
    all_goals
      rw [(pass?_eq_some_iff.1 h).1]
      refine ⟨h, fun kind hlower => ?_⟩
    · exact absurd hlower (Nat.not_lt_zero _)
    · cases kind with
      | missingName => exact hnames
      | _ => exact absurd hlower (by decide)
    · cases kind with
      | missingName => exact hnames
      | duplicate => exact hrepeats
      | _ => exact absurd hlower (by decide)
    · cases kind with
      | missingName => exact hnames
      | duplicate => exact hrepeats
      | missingValue => exact hvalues
      | invalidValue => exact absurd hlower (by decide)
  · rintro ⟨h, hbefore⟩
    cases hkind : fault.kind with
    | missingName =>
        rw [hkind] at h
        rw [h, Option.some_or]
    | duplicate =>
        rw [hkind] at h hbefore
        rw [hbefore .missingName (by decide), h, Option.none_or, Option.some_or]
    | missingValue =>
        rw [hkind] at h hbefore
        rw [hbefore .missingName (by decide), hbefore .duplicate (by decide), h, Option.none_or, Option.none_or,
          Option.some_or]
    | invalidValue =>
        rw [hkind] at h hbefore
        rw [hbefore .missingName (by decide), hbefore .duplicate (by decide), hbefore .missingValue (by decide), h,
          Option.none_or, Option.none_or, Option.none_or]

end Passes

/-! ### Lists without a fault -/

/-- A list in which every constraint has a name of its own, the values that are demanded and values of the right form. -/
structure Acceptable (constraints : List Constraint) : Prop where
  named : ∀ constraint ∈ constraints, constraint.trimmedName ≠ ""
  distinct : (constraints.map trimmedName).Nodup
  supplied : ∀ constraint ∈ constraints, ∀ rule,
    ConstraintRule.find? constraint.trimmedName = some rule → constraint.Meets rule.need
  wellFormed : ∀ constraint ∈ constraints, constraint.WellFormed

section Acceptable
variable {constraints others : List Constraint}

theorem duplicateAmong?_eq_none_iff {seen : List String} :
    duplicateAmong? seen constraints = none ↔
      (constraints.map trimmedName).Nodup ∧ ∀ constraint ∈ constraints, constraint.trimmedName ∉ seen := by
  induction constraints generalizing seen with
  | nil => simp [duplicateAmong?]
  | cons constraint rest ih =>
      rw [duplicateAmong?, List.map_cons, List.nodup_cons, List.forall_mem_cons]
      split
      · next hseen => simp [List.contains_iff_mem.1 hseen]
      · next hnew =>
          rw [List.contains_iff_mem] at hnew
          simp only [ih, List.mem_cons, not_or, List.mem_map, not_exists, not_and]
          constructor
          · rintro ⟨hnodup, hrest⟩
            exact ⟨⟨fun other hother => (hrest other hother).1, hnodup⟩, hnew,
              fun other hother => (hrest other hother).2⟩
          · rintro ⟨⟨hfirst, hnodup⟩, -, hrest⟩
            exact ⟨hnodup, fun other hother => ⟨hfirst other hother, hrest other hother⟩⟩

theorem missingValue?_eq_none_iff {constraint : Constraint} :
    constraint.missingValue? = none ↔
      ∀ rule, ConstraintRule.find? constraint.trimmedName = some rule → constraint.Meets rule.need := by
  simp only [Option.eq_none_iff_forall_ne_some, ne_eq, missingValue?_eq_some_iff, not_exists, not_and]
  constructor
  · intro h rule hrule
    by_contra hunmet
    exact h _ _ (.unmet hrule hunmet) rfl
  · rintro h _ _ ⟨hrule, hunmet⟩ -
    exact hunmet (h _ hrule)

theorem invalidValue?_eq_none_iff {constraint : Constraint} :
    constraint.invalidValue? = none ↔ constraint.WellFormed := by
  simp only [wellFormed_iff, Option.eq_none_iff_forall_ne_some, ne_eq, invalidValue?_eq_some_iff, not_exists, not_and]
  constructor
  · intro h problem hrefused
    exact h _ problem hrefused rfl
  · intro h _ problem hrefused _
    exact h problem hrefused

/-- No pass over the list finds a fault: each constraint is right by itself, and no two have one name. -/
theorem firstFault?_eq_none_iff : firstFault? constraints = none ↔ Acceptable constraints := by
  simp only [firstFault?, Option.or_eq_none_iff, missingNameFrom?_eq_none_iff, duplicateAmong?_eq_none_iff,
    List.findSome?_eq_none_iff, missingValue?_eq_none_iff, invalidValue?_eq_none_iff, List.not_mem_nil,
    not_false_eq_true, implies_true, and_true]
  exact ⟨fun h => ⟨h.1, h.2.1, h.2.2.1, h.2.2.2⟩, fun h => ⟨h.named, h.distinct, h.supplied, h.wellFormed⟩⟩

/-- Whether there is a fault of a kind does not depend on the order. -/
theorem pass?_eq_none_of_perm (h : constraints.Perm others) {kind : FaultKind} (hnone : pass? constraints kind = none) :
    pass? others kind = none := by
  cases kind with
  | missingName =>
      rw [pass?, missingNameFrom?_eq_none_iff] at hnone ⊢
      exact fun constraint hmem => hnone constraint (h.mem_iff.2 hmem)
  | duplicate =>
      rw [pass?, duplicateAmong?_eq_none_iff] at hnone ⊢
      exact ⟨(h.map trimmedName).nodup_iff.1 hnone.1, fun _ _ => List.not_mem_nil⟩
  | missingValue =>
      rw [pass?, List.findSome?_eq_none_iff] at hnone ⊢
      exact fun constraint hmem => hnone constraint (h.mem_iff.2 hmem)
  | invalidValue =>
      rw [pass?, List.findSome?_eq_none_iff] at hnone ⊢
      exact fun constraint hmem => hnone constraint (h.mem_iff.2 hmem)

theorem map_kind_pass?_of_perm (h : constraints.Perm others) (kind : FaultKind) :
    (pass? others kind).map (·.kind) = (pass? constraints kind).map (·.kind) := by
  cases hpass : pass? constraints kind with
  | none => rw [pass?_eq_none_of_perm h hpass]
  | some fault =>
      cases hother : pass? others kind with
      | none =>
          rw [pass?_eq_none_of_perm h.symm hother] at hpass
          cases hpass
      | some other =>
          rw [Option.map_some, Option.map_some, (pass?_eq_some_iff.1 hpass).1, (pass?_eq_some_iff.1 hother).1]

theorem map_kind_firstFault?_of_perm (h : constraints.Perm others) :
    (firstFault? others).map (·.kind) = (firstFault? constraints).map (·.kind) := by
  simp only [firstFault?_eq, Option.map_or, map_kind_pass?_of_perm h]

theorem firstFault?_eq_none_of_perm (h : constraints.Perm others) (hnone : firstFault? constraints = none) :
    firstFault? others = none := by
  have hkind := map_kind_firstFault?_of_perm h
  rwa [hnone, Option.map_none, Option.map_eq_none_iff] at hkind

end Acceptable

/-- **The verdict on a list of constraints.** There is no fault exactly when the list is acceptable. Else the reported
fault is the earliest of its kind, and no fault anywhere in the list is of a lower kind. So the kind of what is
reported is the same for the list in any order. -/
theorem firstFault?_verdict (constraints : List Constraint) :
    (firstFault? constraints = none ↔ Acceptable constraints) ∧
      (∀ fault, firstFault? constraints = some fault ↔
        IsEarliest constraints fault ∧
          ∀ i other, FoundAt constraints i other → fault.kind.pass ≤ other.kind.pass) ∧
      ∀ others, constraints.Perm others → (firstFault? others).map (·.kind) = (firstFault? constraints).map (·.kind) := by
  refine ⟨firstFault?_eq_none_iff, fun fault => ?_, fun others => map_kind_firstFault?_of_perm⟩
  rw [firstFault?_eq_some_iff, pass?_eq_some_iff, and_iff_right rfl]
  refine and_congr_right fun _ => ?_
  simp only [pass?_eq_none_iff]
  constructor
  · intro h i other hfound
    by_contra hlower
    exact h other.kind (Nat.lt_of_not_le hlower) i other hfound rfl
  · rintro h kind hlower i other hfound rfl
    exact absurd (h i other hfound) (Nat.not_le_of_lt hlower)

/-- A list with a fault of each kind but the first: a value of the wrong form, a missing value and two repeated names. -/
def faultyConstraints : List Constraint := [
  { name := "Max", value := some "ten" },
  { name := "Pattern" },
  { name := "NotNull" },
  { name := " NotNull " },
  { name := "Max", value := some "9e9" }]

/-- Values that do: one of the two of a size, both counts of digits, and the bound of a decimal number. -/
def enoughValues : List Constraint := [
  { name := "Size", value2 := some "3" },
  { name := "Digits", value := some "4", value2 := some "2" },
  { name := "DecimalMin", value := some "0.5" }]

/-- Backwards the list has another first repeat, and the kind of its first fault is the same. A constraint without
the values that do is at fault for what it needs. -/
theorem firstFault?_verdict_backwards :
    (faultyConstraints.Perm faultyConstraints.reverse ∧ IsEarliest faultyConstraints (.duplicate "NotNull") ∧
      IsEarliest faultyConstraints.reverse (.duplicate "NotNull") ∧
      (firstFault? faultyConstraints.reverse).map (·.kind) = some .duplicate) ∧
    Acceptable enoughValues ∧
      IsEarliest [{ name := "Size" }] (.missingValue "Size" "at least one value") ∧
      IsEarliest [{ name := "Digits", value := some "4" }] (.missingValue "Digits" "both values") ∧
      IsEarliest [{ name := "DecimalMin" }] (.missingValue "DecimalMin" "a value") := by
  have hperm : faultyConstraints.Perm faultyConstraints.reverse := (List.reverse_perm _).symm
  have hfirst : firstFault? faultyConstraints = some (.duplicate "NotNull") := by decide +kernel
  have hlast : firstFault? faultyConstraints.reverse = some (.duplicate "NotNull") := by decide +kernel
  obtain ⟨-, hverdict, hsame⟩ := firstFault?_verdict faultyConstraints
  have hearliest (constraints : List Constraint) (fault : ConstraintFault) (h : firstFault? constraints = some fault) :
      IsEarliest constraints fault := (((firstFault?_verdict constraints).2.1 fault).1 h).1
  refine ⟨⟨hperm, ((hverdict _).1 hfirst).1, hearliest _ _ hlast, ?_⟩, (firstFault?_verdict _).1.1 (by decide +kernel),
    hearliest _ _ (by decide +kernel), hearliest _ _ (by decide +kernel), hearliest _ _ (by decide +kernel)⟩
  rw [hsame _ hperm, hfirst]
  rfl

end Constraint

end DomainModel
