import DomainModel.Proofs.DeclaredNames

/-! Saving what is there already. A field that is edited in its slot, and an element that is saved under the name it
had, must not be held against itself; the rules see to that in two ways. A field is held against all others but the
one at its own place, where the check of a whole list holds each field against those before it only. A name is held
against all existing ones but the first that is exactly the former one, wherever that stands. Both come down to pairs
of different places: no two fields of a list clash, and no other place has a name alike. For the names the argument
is an exchange: which of several equal names is left out makes no difference to what is left. -/

namespace DomainModel.Rule

open Text (Alike trim)

/-! ### Fields in their slots -/

/-- Two fields that one owner cannot have together: their names are alike, or both are the key of an entity. -/
def Clash (owner : FieldOwner) (a b : Field) : Prop :=
  Alike a.name b.name ∨ owner = .entity ∧ a.primaryKey = true ∧ b.primaryKey = true

theorem Clash.symm {owner : FieldOwner} {a b : Field} (h : Clash owner a b) : Clash owner b a := by
  rcases h with hname | ⟨howner, ha, hb⟩
  · exact .inl hname.symm
  · exact .inr ⟨howner, hb, ha⟩

theorem fieldFits_iff {field : Field} {others : List Field} {owner : FieldOwner} :
    FieldFits field others owner ↔ ∀ other ∈ others, ¬ Clash owner other field := by
  constructor
  · rintro hfits other hother (hname | ⟨howner, hkeys⟩)
    · exact hfits.name other hother hname
    · exact hfits.key howner other hother hkeys
  · intro h
    refine ⟨fun other hother hname => h other hother (.inl hname), fun howner other hother hkeys => ?_⟩
    exact h other hother (.inr ⟨howner, hkeys⟩)

/-- Held against those before it or against all others: each field fits when no two of the list clash. -/
theorem each_fits_iff {fields : List Field} {owner : FieldOwner} :
    (∀ i field, fields[i]? = some field → FieldFits field (fields.take i) owner) ↔
      ∀ i field, fields[i]? = some field → FieldFits field (fields.eraseIdx i) owner := by
  simp only [fieldFits_iff]
  rw [← pairwise_iff_take, ← pairwise_iff_eraseIdx fun _ _ hapart hclash => hapart hclash.symm]

/-- **A list of fields is right when each field could be saved in place.** The check of the fields of an entity or a
data object finds no error if and only if the list as a whole has none and no field has one when it is edited in its
own slot among all the others. -/
theorem isOk_fieldsIssues_iff_inPlace (fields : List Field) (owner : FieldOwner) :
    (Report.ofIssues (fieldsIssues fields owner)).isOk = true ↔
      (Report.ofIssues (fieldListIssues fields owner)).isOk = true ∧
        ∀ i field, fields[i]? = some field →
          (Report.ofIssues (fieldIssues field fields (some i) owner)).isOk = true := by
  simp only [Report.isOk_ofIssues, fieldsIssues, ErrorFree.append_iff, ErrorFree.flatten_mapIdx_iff,
    ErrorFree.map_nestAt_iff, errorFree_fieldIssues_iff, otherFields]
  refine and_congr_right fun _ => ?_
  constructor
  · intro h i field hi
    exact ⟨(h i field hi).1, each_fits_iff.1 (fun i field hi => (h i field hi).2) i field hi⟩
  · intro h i field hi
    exact ⟨(h i field hi).1, each_fits_iff.2 (fun i field hi => (h i field hi).2) i field hi⟩

/-- The verdicts agree and the codes need not: in its slot `Class` clashes with the field behind it, while the check
of the list turns down that field alone, which is no identifier. -/
example :
    let fields : List Field := [{ name := "Class", typeName := "String" }, { name := "class", typeName := "String" }]
    (fieldsIssues fields .dataObject).map (·.code) = ["invalid_identifier"] ∧
      (fieldIssues fields[0] fields (some 0) .dataObject).map (·.code) = ["duplicate_field"] := by
  decide +kernel

/-! ### Names that are taken -/

/-- The issue about a name that is taken. -/
def takenIssue (space : NameSpace) (name : String) : Issue where
  code := "duplicate_name"
  path := "/name"
  message := "a " ++ space.label ++ " named '" ++ trim name ++ "' already exists"

/-- Of the issues with a name only the last is about other names, and it is found when the name is right by itself. -/
theorem mem_nameIssues_iff {issue : Issue} (hcode : issue.code = "duplicate_name") {name : String} {space : NameSpace}
    {existing : List String} {former : Option String} :
    issue ∈ nameIssues name space existing former ↔
      (Usable name ∧ ∃ other ∈ otherNames existing former, Alike other name) ∧ issue = takenIssue space name := by
  have hother {found : Issue} (hfound : found.code ≠ "duplicate_name") : ¬ issue ∈ [found] := by
    intro hmem
    rw [← List.mem_singleton.1 hmem] at hfound
    exact hfound hcode
  rw [nameIssues]
  split
  · next hempty =>
      refine iff_of_false (hother (by simp)) fun h => ?_
      exact trim_ne_empty_of_isIdentifier h.1.1.identifier (String.isEmpty_iff.1 hempty)
  split
  · next word hword =>
      refine iff_of_false (hother (by simp)) fun h => ?_
      have hnone : Naming.reservedWord? (trim name) = none := by
        rw [reservedWord?_eq_none_iff, Text.trim_trim]
        exact ⟨h.1.1.noKeyword, h.1.1.noSqlWord⟩
      rw [hnone] at hword
      cases hword
  · next hword =>
      rw [reservedWord?_eq_none_iff, Text.trim_trim] at hword
      split
      · next hwrong =>
          refine iff_of_false (hother (by simp)) fun h => ?_
          rw [h.1.1.identifier] at hwrong
          cases hwrong
      · next hright =>
          rw [Bool.not_eq_true', Bool.not_eq_false] at hright
          have husable : Usable name := ⟨hright, hword.1, hword.2⟩
          rw [← nameIsTaken_trim_iff, and_iff_right husable]
          split
          · next htaken =>
              rw [List.mem_singleton, and_iff_right htaken]
              rfl
          · next hfree => exact iff_of_false List.not_mem_nil fun h => hfree h.1

theorem reports_nameIssues_iff {name : String} {space : NameSpace} {existing : List String} {former : Option String} :
    Reports "duplicate_name" (nameIssues name space existing former) ↔
      Usable name ∧ ∃ other ∈ otherNames existing former, Alike other name := by
  constructor
  · rintro ⟨issue, hissue, hcode⟩
    exact ((mem_nameIssues_iff hcode).1 hissue).1
  · intro h
    exact ⟨takenIssue space name, (mem_nameIssues_iff rfl).2 ⟨h, rfl⟩, rfl⟩

/-- What is left without one of the names that are exactly the former one is what stands at the other places. -/
theorem exists_otherNames_own_iff {names : List String} {i : Nat} {own : String} (hown : names[i]? = some own)
    {P : String → Prop} :
    (∃ other ∈ otherNames names (some own), P other) ↔ ∃ j other, j ≠ i ∧ names[j]? = some other ∧ P other := by
  simp only [mem_otherNames_own_iff hown, List.mem_eraseIdx_iff_getElem?]
  constructor
  · rintro ⟨other, ⟨j, hne, hj⟩, hP⟩
    exact ⟨j, other, hne, hj, hP⟩
  · rintro ⟨j, other, hne, hj, hP⟩
    exact ⟨other, ⟨j, hne, hj⟩, hP⟩

/-! ### Projects -/

/-- The names of the elements of one kind. -/
def namesOf (project : Project) : NameSpace → List String
  | .entity => project.entities.map (·.name)
  | .dataObject => project.dataObjects.map (·.name)
  | .mapper => project.mappers.map (·.name)

/-- The path of the list of the elements of one kind. -/
def NameSpace.place : NameSpace → String
  | .entity => "/entities"
  | .dataObject => "/dataObjects"
  | .mapper => "/mappers"

/-- The path of the name of an element. -/
def NameSpace.namePath (space : NameSpace) (i : Nat) : String := space.place ++ "/" ++ toString i ++ "/name"

theorem namePath_inj {space other : NameSpace} {i j : Nat} :
    space.namePath i = other.namePath j ↔ space = other ∧ i = j := by
  constructor
  · intro h
    have hspace : space = other := by
      -- the paths differ within their first two characters
      have hfront : (space.namePath i).toList.take 2 = (other.namePath j).toList.take 2 := by rw [h]
      cases space <;> cases other <;> first | rfl | (simp [NameSpace.namePath, NameSpace.place] at hfront)
    subst hspace
    rw [NameSpace.namePath, NameSpace.namePath, String.append_left_inj, String.append_right_inj, Json.toString_inj] at h
    exact ⟨rfl, h⟩
  · rintro ⟨rfl, rfl⟩
    rfl

section Silent
variable {issue : Issue} (hcode : issue.code = "duplicate_name")
include hcode

theorem not_mem_of_not_reports {issues : List Issue} (h : ¬ Reports "duplicate_name" issues) : issue ∉ issues :=
  fun hmem => h ⟨issue, hmem, hcode⟩

theorem not_mem_fieldsIssues (fields : List Field) (owner : FieldOwner) : issue ∉ fieldsIssues fields owner := by
  have hlist : ¬ Reports "duplicate_name" (fieldListIssues fields owner) := by
    rw [fieldListIssues]
    repeat' split
    all_goals simp
  have hname (field : Field) (others : List Field) : ¬ Reports "duplicate_name" (fieldNameIssues field others) := by
    rw [fieldNameIssues]
    repeat' split
    all_goals simp
  have hkey (field : Field) (others : List Field) : ¬ Reports "duplicate_name" (keyIssues field others owner) := by
    rw [keyIssues]
    split <;> simp
  have htype (field : Field) : ¬ Reports "duplicate_name" (typeIssues field) := by
    rw [typeIssues]
    split <;> simp
  have hlength (field : Field) : ¬ Reports "duplicate_name" (lengthIssues field) := by
    rw [lengthIssues]
    split <;> simp
  have hfault (field : Field) : ¬ Reports "duplicate_name" (constraintListIssues field) := by
    rw [constraintListIssues]
    split <;> simp
  have heach (typeName : String) (i : Nat) (constraint : Constraint) :
      ¬ Reports "duplicate_name" (constraintIssues typeName i constraint) := by
    rw [constraintIssues]
    repeat' split
    all_goals simp
  apply not_mem_of_not_reports hcode
  simp only [fieldsIssues, fieldIssues, Reports.append_iff, Reports.flatten_mapIdx_iff, Reports.map_nestAt_iff, hlist,
    hname, hkey, htype, hlength, hfault, heach, and_false, exists_false, or_self, not_false_eq_true]

theorem not_mem_rowsIssues (fromName toName : String) (fromFields toFields : List Field) (rows : List FieldMapping) :
    issue ∉ rowsIssues fromName toName fromFields toFields rows := by
  have hsource (found : Option Field) (path model name : String) :
      ¬ Reports "duplicate_name" (rowNameIssues found "source" path model name) := by
    rw [rowNameIssues]
    split <;> simp
  have htarget (found : Option Field) (path model name : String) :
      ¬ Reports "duplicate_name" (rowNameIssues found "target" path model name) := by
    rw [rowNameIssues]
    split <;> simp
  have htypes (source target : Option Field) (path : String) :
      ¬ Reports "duplicate_name" (rowTypeIssues source target path) := by
    unfold rowTypeIssues
    repeat' split
    all_goals simp
  have hcoverage : ¬ Reports "duplicate_name" (coverageIssues fromFields rows) := by
    simp only [coverageIssues]
    split <;> simp
  apply not_mem_of_not_reports hcode
  simp only [rowsIssues, rowIssues, Reports.append_iff, Reports.flatten_mapIdx_iff, hsource, htarget, htypes,
    hcoverage, and_false, exists_false, or_self, not_false_eq_true]

theorem mem_entityIssues_iff {entity : Entity} {project : Project} {former : Option String} :
    issue ∈ entityIssues entity project former ↔
      issue ∈ nameIssues entity.name .entity (namesOf project .entity) former := by
  have hflags : issue ∉ flagIssues entity := by
    apply not_mem_of_not_reports hcode
    rw [flagIssues]
    split <;> simp
  simp only [entityIssues, List.mem_append, hflags, not_mem_fieldsIssues hcode, or_false]
  rfl

theorem mem_dataObjectIssues_iff {object : DataObject} {project : Project} {former : Option String} :
    issue ∈ dataObjectIssues object project former ↔
      issue ∈ nameIssues object.name .dataObject (namesOf project .dataObject) former := by
  have hwrapper : issue ∉ wrapperIssues object := by
    apply not_mem_of_not_reports hcode
    rw [wrapperIssues]
    repeat' split
    all_goals simp
  simp only [dataObjectIssues, List.mem_append, hwrapper, not_mem_fieldsIssues hcode, or_false]
  rfl

theorem mem_mapperIssues_iff {mapper : Mapper} {project : Project} {former : Option String} :
    issue ∈ mapperIssues mapper project former ↔
      issue ∈ nameIssues mapper.name .mapper (namesOf project .mapper) former := by
  have hsource (name : String) : issue ∉ endpointIssues name "source" "/fromModel" project := by
    apply not_mem_of_not_reports hcode
    rw [endpointIssues]
    repeat' split
    all_goals simp
  have htarget (name : String) : issue ∉ endpointIssues name "target" "/toModel" project := by
    apply not_mem_of_not_reports hcode
    rw [endpointIssues]
    repeat' split
    all_goals simp
  have hsame (fromName toName : String) : issue ∉ sameModelIssues fromName toName := by
    apply not_mem_of_not_reports hcode
    rw [sameModelIssues]
    split <;> simp
  simp only [mapperIssues, List.mem_append, hsource, htarget, hsame, or_false]
  split
  · simp only [not_mem_rowsIssues hcode, or_false]
    rfl
  · simp only [List.not_mem_nil, or_false]
    rfl

theorem not_mem_relationIssues (relation : Relation) (project : Project) (allowSelfReference : Bool)
    (editing : Option Nat) : issue ∉ relationIssues relation project allowSelfReference editing := by
  apply not_mem_of_not_reports hcode
  rw [reports_relationIssues_iff (by decide), reports_endIssues_iff, reports_endIssues_iff,
    reports_selfReferenceIssues_iff]
  simp

theorem not_mem_coordinatesIssues (settings : Coordinates) : issue ∉ coordinatesIssues settings := by
  apply not_mem_of_not_reports hcode
  rw [coordinatesIssues, Reports.append_iff]
  split <;> split <;> simp

end Silent

/-- The name at a place of a list is right by itself, and one at another place is alike. -/
structure TakenAt (names : List String) (i : Nat) (name : String) : Prop where
  own : names[i]? = some name
  usable : Usable name
  elsewhere : ∃ j other, j ≠ i ∧ names[j]? = some other ∧ Alike other name

theorem reports_own_name_iff {names : List String} {i : Nat} {name : String} (hi : names[i]? = some name)
    {issue : Issue} (hcode : issue.code = "duplicate_name") {space : NameSpace} :
    issue ∈ nameIssues name space names (some name) ↔ TakenAt names i name ∧ issue = takenIssue space name := by
  rw [mem_nameIssues_iff hcode, exists_otherNames_own_iff hi]
  exact and_congr_left' ⟨fun h => ⟨hi, h.1, h.2⟩, fun h => ⟨h.usable, h.elsewhere⟩⟩

/-- The issues of the elements of one kind, each saved under its own name. -/
theorem mem_issuesOfEach_iff {issue : Issue} (hcode : issue.code = "duplicate_name") {α : Type} (space : NameSpace)
    {name : α → String} {elements : List α} {issues : Nat → α → List Issue}
    (hissues : ∀ {own : Issue}, own.code = "duplicate_name" → ∀ i element,
      own ∈ issues i element ↔ own ∈ nameIssues (name element) space (elements.map name) (some (name element))) :
    issue ∈ issuesOfEach space.place issues elements ↔
      ∃ i name', TakenAt (elements.map name) i name' ∧
        issue = (takenIssue space name').nestAt (space.place ++ "/" ++ toString i) := by
  rw [issuesOfEach, mem_flatten_mapIdx]
  constructor
  · rintro ⟨i, element, hi, hmem⟩
    obtain ⟨own, hown, rfl⟩ := List.mem_map.1 hmem
    have hcode : own.code = "duplicate_name" := hcode
    have hname : (elements.map name)[i]? = some (name element) := by rw [List.getElem?_map, hi, Option.map_some]
    obtain ⟨htaken, rfl⟩ := (reports_own_name_iff hname hcode).1 ((hissues hcode i element).1 hown)
    exact ⟨i, name element, htaken, rfl⟩
  · rintro ⟨i, text, htaken, rfl⟩
    have hname := htaken.own
    rw [List.getElem?_map] at hname
    obtain ⟨element, helement, rfl⟩ := Option.map_eq_some_iff.1 hname
    refine ⟨i, element, helement, List.mem_map.2 ⟨_, (hissues rfl i element).2 ?_, rfl⟩⟩
    exact (reports_own_name_iff htaken.own rfl).2 ⟨htaken, rfl⟩

/-- The issues of a whole project that are about a name that is taken. -/
theorem mem_projectIssues_iff {issue : Issue} (hcode : issue.code = "duplicate_name") {project : Project}
    {allowSelfReference : Bool} :
    issue ∈ projectIssues project allowSelfReference ↔
      ∃ space i name, TakenAt (namesOf project space) i name ∧
        issue = (takenIssue space name).nestAt (space.place ++ "/" ++ toString i) := by
  have hsettings : issue ∉ (project.settings.map coordinatesIssues).getD [] := by
    cases project.settings with
    | none => exact List.not_mem_nil
    | some settings => exact not_mem_coordinatesIssues hcode settings
  have hrelations : issue ∉ issuesOfEach "/relations"
      (fun i relation => relationIssues relation project allowSelfReference (some i)) project.relations := by
    rw [issuesOfEach, mem_flatten_mapIdx]
    rintro ⟨i, relation, -, hmem⟩
    obtain ⟨own, hown, rfl⟩ := List.mem_map.1 hmem
    have hcode : own.code = "duplicate_name" := hcode
    exact not_mem_relationIssues hcode relation project allowSelfReference (some i) hown
  have hentities : issue ∈ issuesOfEach "/entities"
      (fun _ entity => entityIssues entity project (some entity.name)) project.entities ↔ _ :=
    mem_issuesOfEach_iff hcode .entity fun hown _ _ => mem_entityIssues_iff hown
  have hobjects : issue ∈ issuesOfEach "/dataObjects"
      (fun _ object => dataObjectIssues object project (some object.name)) project.dataObjects ↔ _ :=
    mem_issuesOfEach_iff hcode .dataObject fun hown _ _ => mem_dataObjectIssues_iff hown
  have hmappers : issue ∈ issuesOfEach "/mappers"
      (fun _ mapper => mapperIssues mapper project (some mapper.name)) project.mappers ↔ _ :=
    mem_issuesOfEach_iff hcode .mapper fun hown _ _ => mem_mapperIssues_iff hown
  simp only [projectIssues, List.mem_append, hsettings, hrelations, hentities, hobjects, hmappers, false_or, or_false]
  constructor
  · rintro ((h | h) | h)
    · exact ⟨.entity, h⟩
    · exact ⟨.dataObject, h⟩
    · exact ⟨.mapper, h⟩
  · rintro ⟨space, h⟩
    cases space with
    | entity => exact .inl (.inl h)
    | dataObject => exact .inl (.inr h)
    | mapper => exact .inr h

theorem path_nestAt_takenIssue (space : NameSpace) (name : String) (i : Nat) :
    ((takenIssue space name).nestAt (space.place ++ "/" ++ toString i)).path = space.namePath i := by
  simp [Issue.nestAt, takenIssue, NameSpace.namePath]

/-- **An element that is saved is a duplicate exactly when another one has its name.** A usable name that an element is
saved under is reported as taken if and only if a name at another place of the existing ones is alike, in whatever
spellings and how often these repeat the name that the element had. So a project reports the name of an element as
taken if and only if it is usable and another element of the kind has a name alike. -/
theorem reports_duplicateName_iff :
    (∀ (existing : List String) (i : Nat) (own name : String) (space : NameSpace),
      existing[i]? = some own → Usable name →
        ((Report.ofIssues (nameIssues name space existing (some own))).hasCode "duplicate_name" = true ↔
          ∃ j other, j ≠ i ∧ existing[j]? = some other ∧ Alike other name)) ∧
    ∀ (project : Project) (allowSelfReference : Bool) (space : NameSpace) (i : Nat),
      ReportsAt "duplicate_name" (space.namePath i) (validate project allowSelfReference).errors ↔
        ∃ name, TakenAt (namesOf project space) i name := by
  constructor
  · intro existing i own name space hown husable
    rw [Report.hasCode_ofIssues_iff, reports_nameIssues_iff, and_iff_right husable, exists_otherNames_own_iff hown]
  · intro project allowSelfReference space i
    constructor
    · rintro ⟨issue, hissue, hcode, hpath⟩
      obtain ⟨hmem, -⟩ := Report.mem_errors_ofIssues_iff.1 hissue
      obtain ⟨found, j, name, htaken, rfl⟩ := (mem_projectIssues_iff hcode).1 hmem
      rw [path_nestAt_takenIssue, namePath_inj] at hpath
      obtain ⟨rfl, rfl⟩ := hpath
      exact ⟨name, htaken⟩
    · rintro ⟨name, htaken⟩
      refine ⟨_, Report.mem_errors_ofIssues_iff.2 ⟨?_, ?_⟩, ?_, path_nestAt_takenIssue space name i⟩
      · exact (mem_projectIssues_iff rfl).2 ⟨space, i, name, htaken, rfl⟩
      · rfl
      · rfl

/-- Two entities of one name in two spellings, and an entity that has a name to itself. -/
def orders : Project where
  entities := [
    { name := "Order", fields := [.syntheticId] },
    { name := "Purchase", fields := [.syntheticId] },
    { name := "ORDER ", fields := [.syntheticId] }]

/-- Three mappers whose names differ in case and blanks only, and a project in which two entities do so. -/
theorem reports_duplicateName_orders :
    (["Order", " order", "Order"][2]? = some "Order" ∧ Usable "ORDER" ∧
      (Report.ofIssues (nameIssues "ORDER" .mapper ["Order", " order", "Order"] (some "Order"))).hasCode
        "duplicate_name" = true) ∧
      ReportsAt "duplicate_name" "/entities/2/name" (validate orders false).errors ∧
      ¬ ReportsAt "duplicate_name" "/entities/1/name" (validate orders false).errors := by
  have husable : Usable "ORDER" := ⟨by decide +kernel, by decide +kernel, by decide +kernel⟩
  have hpurchase : ¬ ∃ name, TakenAt (namesOf orders .entity) 1 name := by
    rintro ⟨name, hown, -, j, other, hne, hother, halike⟩
    obtain rfl : "Purchase" = name := Option.some.inj hown
    have hapart : ∀ k < 3, k ≠ 1 → ∀ other ∈ (namesOf orders .entity)[k]?, ¬ Alike other "Purchase" := by decide +kernel
    exact hapart j (List.getElem?_eq_some_iff.1 hother).1 hne other hother halike
  refine ⟨⟨rfl, husable, ?_⟩, ?_, ?_⟩
  · exact (reports_duplicateName_iff.1 _ 2 _ _ _ rfl husable).2 ⟨0, "Order", by decide, rfl, by decide +kernel⟩
  · have husableName : Usable "ORDER " := ⟨by decide +kernel, by decide +kernel, by decide +kernel⟩
    exact (reports_duplicateName_iff.2 orders false .entity 2).2
      ⟨"ORDER ", rfl, husableName, 0, "Order", by decide, rfl, by decide +kernel⟩
  · exact fun h => hpurchase ((reports_duplicateName_iff.2 orders false .entity 1).1 h)

end DomainModel.Rule
