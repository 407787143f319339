import DomainModel.Proofs.RuleErrors
import DomainModel.Schema.Check

/-! When a document fits a schema, said without issues and paths. The check passes over formats, so fitting is
said for any meaning of them. With formats that mean nothing, the check finds nothing exactly where the document
fits, so everything else about the check can be asked of the fitting: it goes down the schema and the document
together. -/

namespace DomainModel.Schema

open Json (Value)

section Fits
variable (obeys : String → Value → Prop)

mutual

/-- A value fits a schema; where that states a format, the value `obeys` it. -/
def Fits : Schema → Value → Prop
  | .scalar _ kinds, value => kinds.any (·.accepts value) = true
  | .choice _ options, value => ∃ text ∈ options, value = .text text
  | .count kinds format, value =>
    kinds.any (·.accepts value) = true ∧ (∀ n, value = .number n → n.isBelowZero = false) ∧ obeys format value
  | .list _ item, value => ∃ items, value = .list items ∧ ∀ inner ∈ items, Fits item inner
  | .record _ required properties, value =>
    ∃ members, value = .object members ∧ (∀ key ∈ required, (Json.member? members key).isSome = true) ∧
      PropertiesFit properties members
  | .named _ schema, value => Fits schema value
  | .anyOf options, value => FitsAny options value

/-- The known members of an object fit. -/
def PropertiesFit : List (String × Schema) → List (String × Value) → Prop
  | [], _ => True
  | (key, schema) :: rest, members =>
    (∀ value, Json.member? members key = some value → Fits schema value) ∧ PropertiesFit rest members

/-- A value fits one of several schemas. -/
def FitsAny : List Schema → Value → Prop
  | [], _ => False
  | schema :: rest, value => Fits schema value ∨ FitsAny rest value

end

variable {obeys}

theorem propertiesFit_iff {properties : List (String × Schema)} {members : List (String × Value)} :
    PropertiesFit obeys properties members ↔
      ∀ key schema, (key, schema) ∈ properties → ∀ value, Json.member? members key = some value →
        Fits obeys schema value := by
  induction properties with
  | nil => simp [PropertiesFit]
  | cons property rest ih =>
      obtain ⟨key, schema⟩ := property
      rw [PropertiesFit, ih]
      constructor
      · rintro ⟨hfirst, hrest⟩ other inner hmem
        rcases List.mem_cons.1 hmem with heq | hmem
        · cases heq
          exact hfirst
        · exact hrest other inner hmem
      · exact fun h => ⟨h key schema List.mem_cons_self,
          fun other inner hmem => h other inner (List.mem_cons_of_mem _ hmem)⟩

end Fits

/-- Formats that nothing is asked for. -/
def AnyFormat (_ : String) (_ : Value) : Prop := True

section Mono
variable {obeys other : String → Value → Prop}

mutual

theorem Fits.mono (h : ∀ format value, obeys format value → other format value) : ∀ (schema : Schema) {value : Value},
    Fits obeys schema value → Fits other schema value
  | .scalar _ _, _, hfits => hfits
  | .choice _ _, _, hfits => hfits
  | .count _ format, value, ⟨haccepts, hbound, hobeys⟩ => ⟨haccepts, hbound, h format value hobeys⟩
  | .list _ item, _, ⟨items, heq, hitems⟩ => ⟨items, heq, fun inner hinner => Fits.mono h item (hitems inner hinner)⟩
  | .record _ _ properties, _, ⟨members, heq, hrequired, hfits⟩ =>
    ⟨members, heq, hrequired, PropertiesFit.mono h properties hfits⟩
  | .named _ schema, _, hfits => by
      rw [Fits] at hfits ⊢
      exact Fits.mono h schema hfits
  | .anyOf options, _, hfits => by
      rw [Fits] at hfits ⊢
      exact FitsAny.mono h options hfits

theorem PropertiesFit.mono (h : ∀ format value, obeys format value → other format value) :
    ∀ (properties : List (String × Schema)) {members : List (String × Value)},
      PropertiesFit obeys properties members → PropertiesFit other properties members
  | [], _, _ => trivial
  | (_, schema) :: rest, _, ⟨hfirst, hrest⟩ =>
    ⟨fun value hvalue => Fits.mono h schema (hfirst value hvalue), PropertiesFit.mono h rest hrest⟩

theorem FitsAny.mono (h : ∀ format value, obeys format value → other format value) :
    ∀ (options : List Schema) {value : Value}, FitsAny obeys options value → FitsAny other options value
  | [], _, hfits => hfits
  | schema :: rest, _, hfits => hfits.imp (Fits.mono h schema) (FitsAny.mono h rest)

end

theorem Fits.anyFormat {schema : Schema} {value : Value} (h : Fits obeys schema value) : Fits AnyFormat schema value :=
  Fits.mono (fun _ _ _ => trivial) schema h

end Mono

/-! ### Where formats count -/

mutual

/-- Whether the schema states a format, itself or further down. -/
def statesFormat : Schema → Bool
  | .scalar _ _ => false
  | .choice _ _ => false
  | .count _ _ => true
  | .list _ item => statesFormat item
  | .record _ _ properties => propertiesStateFormat properties
  | .named _ schema => statesFormat schema
  | .anyOf options => optionsStateFormat options

/-- Whether one of the properties states a format. -/
def propertiesStateFormat : List (String × Schema) → Bool
  | [] => false
  | (_, schema) :: rest => statesFormat schema || propertiesStateFormat rest

/-- Whether one of the schemas states a format. -/
def optionsStateFormat : List Schema → Bool
  | [] => false
  | schema :: rest => statesFormat schema || optionsStateFormat rest

end

section Formats
variable {obeys other : String → Value → Prop}

mutual

/-- Without formats, fitting does not hang on what they mean. -/
theorem fits_congr : ∀ (schema : Schema), statesFormat schema = false → ∀ value,
    (Fits obeys schema value ↔ Fits other schema value)
  | .scalar _ _, _, value => by rw [Fits, Fits]
  | .choice _ _, _, value => by rw [Fits, Fits]
  | .count _ _, h, _ => by cases h
  | .list _ item, h, value => by
      rw [statesFormat] at h
      simp only [Fits, fits_congr item h]
  | .record _ _ properties, h, value => by
      rw [statesFormat] at h
      simp only [Fits, propertiesFit_congr properties h]
  | .named _ schema, h, value => by
      rw [statesFormat] at h
      rw [Fits, Fits, fits_congr schema h value]
  | .anyOf options, h, value => by
      rw [statesFormat] at h
      rw [Fits, Fits, fitsAny_congr options h value]

theorem propertiesFit_congr : ∀ (properties : List (String × Schema)), propertiesStateFormat properties = false →
    ∀ members, (PropertiesFit obeys properties members ↔ PropertiesFit other properties members)
  | [], _, members => by rw [PropertiesFit, PropertiesFit]
  | (_, schema) :: rest, h, members => by
      rw [propertiesStateFormat, Bool.or_eq_false_iff] at h
      simp only [PropertiesFit, fits_congr schema h.1, propertiesFit_congr rest h.2]

theorem fitsAny_congr : ∀ (options : List Schema), optionsStateFormat options = false → ∀ value,
    (FitsAny obeys options value ↔ FitsAny other options value)
  | [], _, value => by rw [FitsAny, FitsAny]
  | schema :: rest, h, value => by
      rw [optionsStateFormat, Bool.or_eq_false_iff] at h
      rw [FitsAny, FitsAny, fits_congr schema h.1 value, fitsAny_congr rest h.2 value]

end

/-- In a record that fits but for its formats, formats count where the properties state them. -/
theorem fits_record_iff {notes : SchemaNotes} {required : List String} {properties : List (String × Schema)}
    {value : Value} (h : Fits other (.record notes required properties) value) :
    Fits obeys (.record notes required properties) value ↔
      ∀ property ∈ properties.filter (statesFormat ·.2), ∀ inner, value.get? property.1 = some inner →
        Fits obeys property.2 inner := by
  obtain ⟨members, rfl, hrequired, hfits⟩ := h
  have hrecord : Fits obeys (.record notes required properties) (.object members) ↔
      PropertiesFit obeys properties members := by
    simp only [Fits, Value.object.injEq, exists_eq_left', and_iff_right hrequired]
  rw [propertiesFit_iff] at hfits
  rw [hrecord, propertiesFit_iff]
  constructor
  · rintro hall ⟨key, schema⟩ hmem inner hinner
    exact hall key schema (List.mem_filter.1 hmem).1 inner hinner
  · intro hstated key schema hmem inner hinner
    cases hformat : statesFormat schema with
    -- without a format, what fits but for its formats fits
    | false => exact (fits_congr schema hformat inner).1 (hfits key schema hmem inner hinner)
    | true => exact hstated (key, schema) (List.mem_filter.2 ⟨hmem, hformat⟩) inner hinner

end Formats

/-! ### The check -/

theorem kindIssues_eq_nil_iff {kinds : List ValueKind} {path : String} {value : Value} :
    kindIssues kinds path value = [] ↔ kinds.any (·.accepts value) = true := by
  rw [kindIssues]
  split <;> simp_all

theorem choiceIssues_eq_nil_iff {options : List String} {path : String} {value : Value} :
    choiceIssues options path value = [] ↔ ∃ text ∈ options, value = .text text := by
  cases value with
  | text text =>
      rw [choiceIssues]
      split <;> simp_all
  | _ => simp [choiceIssues]

theorem minimumIssues_eq_nil_iff {path : String} {value : Value} :
    minimumIssues path value = [] ↔ ∀ n, value = .number n → n.isBelowZero = false := by
  cases value with
  | number n =>
      rw [minimumIssues]
      split <;> simp_all
  | _ => simp [minimumIssues]

theorem missingIssues_eq_nil_iff {required : List String} {path : String} {members : List (String × Value)} :
    missingIssues required path members = [] ↔ ∀ key ∈ required, (Json.member? members key).isSome = true := by
  simp [missingIssues, Option.isSome_iff_ne_none]

theorem itemIssues_eq_nil_iff {item : Schema} {path : String} {items : List Value}
    (hitem : ∀ path value, issues item path value = [] ↔ Fits AnyFormat item value) :
    (items.mapIdx fun i value => issues item (path ++ "/" ++ toString i) value).flatten = [] ↔
      ∀ inner ∈ items, Fits AnyFormat item inner := by
  rw [List.flatten_eq_nil_iff]
  simp only [List.mem_mapIdx]
  constructor
  · intro h inner hinner
    obtain ⟨i, hi, rfl⟩ := List.mem_iff_getElem.1 hinner
    exact (hitem _ _).1 (h _ ⟨i, hi, rfl⟩)
  · rintro h _ ⟨i, hi, rfl⟩
    exact (hitem _ _).2 (h _ (List.getElem_mem hi))

mutual

/-- **The check finds nothing exactly where the value fits.** -/
theorem issues_eq_nil_iff : ∀ (schema : Schema) (path : String) (value : Value),
    issues schema path value = [] ↔ Fits AnyFormat schema value
  | .scalar _ kinds, path, value => by rw [issues, Fits, kindIssues_eq_nil_iff]
  | .choice _ options, path, value => by
      rw [issues, Fits, List.append_eq_nil_iff, choiceIssues_eq_nil_iff, and_iff_right_iff_imp]
      rintro ⟨text, -, rfl⟩
      rw [kindIssues_eq_nil_iff]
      rfl
  | .count kinds _, path, value => by
      rw [issues, Fits, List.append_eq_nil_iff, kindIssues_eq_nil_iff, minimumIssues_eq_nil_iff, AnyFormat, and_true]
  | .list _ item, path, value => by
      cases value with
      | list items =>
          rw [issues, Fits, List.append_eq_nil_iff, kindIssues_eq_nil_iff, itemIssues_eq_nil_iff (issues_eq_nil_iff item)]
          simp [ValueKind.accepts]
      | _ => simp [issues, Fits, kindIssues_eq_nil_iff, ValueKind.accepts]
  | .record _ required properties, path, value => by
      cases value with
      | object members =>
          rw [issues, Fits, List.append_eq_nil_iff, List.append_eq_nil_iff, kindIssues_eq_nil_iff,
            missingIssues_eq_nil_iff, propertiesIssues_eq_nil_iff properties]
          simp [ValueKind.accepts]
      | _ => simp [issues, Fits, kindIssues_eq_nil_iff, ValueKind.accepts]
  | .named _ schema, path, value => by rw [issues, Fits, issues_eq_nil_iff schema]
  | .anyOf options, path, value => by
      rw [issues, Fits, ← fitsOne_iff options path]
      split <;> simp_all

theorem propertiesIssues_eq_nil_iff : ∀ (properties : List (String × Schema)) (path : String)
    (members : List (String × Value)),
    propertiesIssues properties path members = [] ↔ PropertiesFit AnyFormat properties members
  | [], path, members => by simp [propertiesIssues, PropertiesFit]
  | (key, schema) :: rest, path, members => by
      rw [propertiesIssues, PropertiesFit, List.append_eq_nil_iff, propertiesIssues_eq_nil_iff rest]
      refine and_congr_left fun _ => ?_
      cases Json.member? members key with
      | none => simp
      | some value => simp [issues_eq_nil_iff schema]

theorem fitsOne_iff : ∀ (options : List Schema) (path : String) (value : Value),
    fitsOne options path value = true ↔ FitsAny AnyFormat options value
  | [], path, value => by simp [fitsOne, FitsAny]
  | schema :: rest, path, value => by
      rw [fitsOne, FitsAny, Bool.or_eq_true, List.isEmpty_iff, issues_eq_nil_iff schema, fitsOne_iff rest]

end

/-! ### The report -/

@[simp] theorem isError_violation (path message : String) : (violation path message).isError = true := rfl

theorem isError_of_mem_kindIssues {kinds : List ValueKind} {path : String} {value : Value} {issue : Issue}
    (h : issue ∈ kindIssues kinds path value) : issue.isError = true := by
  rw [kindIssues] at h
  split at h
  · cases h
  · rw [List.mem_singleton.1 h, isError_violation]

theorem isError_of_mem_choiceIssues {options : List String} {path : String} {value : Value} {issue : Issue}
    (h : issue ∈ choiceIssues options path value) : issue.isError = true := by
  cases value with
  | text text =>
      rw [choiceIssues] at h
      split at h
      · cases h
      · rw [List.mem_singleton.1 h, isError_violation]
  | _ => rw [List.mem_singleton.1 h, isError_violation]

theorem isError_of_mem_minimumIssues {path : String} {value : Value} {issue : Issue}
    (h : issue ∈ minimumIssues path value) : issue.isError = true := by
  cases value with
  | number n =>
      rw [minimumIssues] at h
      split at h
      · rw [List.mem_singleton.1 h, isError_violation]
      · cases h
  | _ => cases h

theorem isError_of_mem_missingIssues {required : List String} {path : String} {members : List (String × Value)}
    {issue : Issue} (h : issue ∈ missingIssues required path members) : issue.isError = true := by
  obtain ⟨key, -, rfl⟩ := List.mem_map.1 h
  exact isError_violation _ _

mutual

/-- The check knows no warnings. -/
theorem isError_of_mem_issues : ∀ (schema : Schema) (path : String) (value : Value) {issue : Issue},
    issue ∈ issues schema path value → issue.isError = true
  | .scalar _ kinds, path, value, issue, h => by
      rw [issues] at h
      exact isError_of_mem_kindIssues h
  | .choice _ options, path, value, issue, h => by
      rw [issues, List.mem_append] at h
      exact h.elim isError_of_mem_kindIssues isError_of_mem_choiceIssues
  | .count kinds _, path, value, issue, h => by
      rw [issues, List.mem_append] at h
      exact h.elim isError_of_mem_kindIssues isError_of_mem_minimumIssues
  | .list _ item, path, value, issue, h => by
      rw [issues.eq_def, List.mem_append] at h
      rcases h with h | h
      · exact isError_of_mem_kindIssues h
      · cases value with
        | list items =>
            simp only [List.mem_flatten, List.mem_mapIdx] at h
            obtain ⟨_, ⟨i, hi, rfl⟩, h⟩ := h
            exact isError_of_mem_issues item _ _ h
        | _ => cases h
  | .record _ required properties, path, value, issue, h => by
      rw [issues.eq_def, List.mem_append] at h
      rcases h with h | h
      · exact isError_of_mem_kindIssues h
      · cases value with
        | object members =>
            rcases List.mem_append.1 h with h | h
            · exact isError_of_mem_missingIssues h
            · exact isError_of_mem_propertiesIssues properties _ _ h
        | _ => cases h
  | .named _ schema, path, value, issue, h => by
      rw [issues] at h
      exact isError_of_mem_issues schema _ _ h
  | .anyOf options, path, value, issue, h => by
      rw [issues] at h
      split at h
      · cases h
      · rw [List.mem_singleton.1 h, isError_violation]

theorem isError_of_mem_propertiesIssues : ∀ (properties : List (String × Schema)) (path : String)
    (members : List (String × Value)) {issue : Issue}, issue ∈ propertiesIssues properties path members →
      issue.isError = true
  | [], path, members, issue, h => by cases h
  | (key, schema) :: rest, path, members, issue, h => by
      rw [propertiesIssues, List.mem_append] at h
      rcases h with h | h
      · cases hvalue : Json.member? members key with
        | none =>
            rw [hvalue] at h
            cases h
        | some value =>
            rw [hvalue] at h
            exact isError_of_mem_issues schema _ _ h
      · exact isError_of_mem_propertiesIssues rest _ _ h

end

theorem isOk_check_iff {schema : Schema} {value : Value} :
    (check schema value).isOk = true ↔ Fits AnyFormat schema value := by
  rw [check, Report.isOk_ofIssues, ← issues_eq_nil_iff schema ""]
  constructor
  · intro hfree
    rw [List.eq_nil_iff_forall_not_mem]
    intro issue hissue
    have herror := isError_of_mem_issues schema "" value hissue
    rw [hfree issue hissue] at herror
    cases herror
  · intro hnil
    rw [hnil, ErrorFree.nil_iff]
    trivial

end DomainModel.Schema
