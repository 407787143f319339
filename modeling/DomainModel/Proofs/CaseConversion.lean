import DomainModel.Proofs.NameCase
import DomainModel.Sql.Table
import Mathlib.Data.Bool.AllAny

/-! What is left of a name that is turned into the name of a type or a field. Underscores and spaces vanish, every other
letter stays, in one case or the other, and the two conversions differ in the first letter alone: before it the
separators ask for a capital or for none, and behind it for a capital in both. In ASCII the lower case of the outcome
is therefore the lower case of the letters, so two columns of a table clash when their letters are the same. -/

namespace DomainModel.Naming

open Text (lower lowerChars trimChars upperChar)

/-- What vanishes between words. -/
def isSeparator (c : Char) : Bool := c == '_' || c == ' '

/-- Puts the first letter into upper case, which may be several letters, and keeps the rest. -/
def capitalize (name : String) : String :=
  match name.toList with
  | [] => ""
  | c :: rest => String.ofList (upperChar c ++ rest)

/-- The lower case of a name without outer blanks, without the separators. -/
def letters (name : String) : String := String.ofList ((lower (Text.trim name)).toList.filter (!isSeparator ·))

/-! ### Words -/

section Words
variable {raiseFirst raise started : Bool} {c : Char} {rest s : List Char}

theorem joinWords_separator (h : isSeparator c = true) :
    joinWords raiseFirst raise started (c :: rest) = joinWords raiseFirst (started || raiseFirst) started rest :=
  if_pos h

theorem joinWords_letter (h : isSeparator c = false) :
    joinWords raiseFirst raise started (c :: rest) =
      (if raise then upperChar c else [c]) ++ joinWords raiseFirst false true rest :=
  if_neg (Bool.eq_false_iff.1 h)

/-- Once a letter is written, both conversions raise the same letters. -/
theorem joinWords_started (raiseFirst other raise : Bool) (s : List Char) :
    joinWords raiseFirst raise true s = joinWords other raise true s := by
  induction s generalizing raise with
  | nil => rfl
  | cons c rest ih =>
      cases hc : isSeparator c with
      | true => rw [joinWords_separator hc, joinWords_separator hc, Bool.true_or, Bool.true_or, ih]
      | false => rw [joinWords_letter hc, joinWords_letter hc, ih]

/-- Until a letter is written, the next one is raised exactly if the first one is to be. -/
theorem joinWords_start (raiseFirst : Bool) (s : List Char) :
    joinWords raiseFirst raiseFirst false s =
      match s.dropWhile isSeparator with
      | [] => []
      | c :: rest => (if raiseFirst then upperChar c else [c]) ++ joinWords true false true rest := by
  induction s with
  | nil => rfl
  | cons c rest ih =>
      cases hc : isSeparator c with
      | true => rw [joinWords_separator hc, Bool.false_or, ih, List.dropWhile_cons_of_pos hc]
      | false =>
          rw [joinWords_letter hc, List.dropWhile_cons_of_neg (Bool.eq_false_iff.1 hc),
            joinWords_started raiseFirst true]

end Words

theorem toList_typeNameCase (name : String) :
    (typeNameCase name).toList = joinWords true true false (lowerChars (trimChars name.toList)) := by
  rw [typeNameCase, String.toList_ofList]

theorem typeNameCase_eq_capitalize (name : String) : typeNameCase name = capitalize (identifierCase name) := by
  rw [← String.toList_inj, capitalize, toList_typeNameCase, toList_identifierCase, joinWords_start, joinWords_start]
  cases (lowerChars (trimChars name.toList)).dropWhile isSeparator with
  | nil => rfl
  | cons c rest => simp

theorem upperChar_ne_nil (c : Char) : upperChar c ≠ [] := by
  have hrows : ∀ row ∈ Text.upperSequences, row.2 ≠ [] := by decide
  rw [upperChar]
  split
  · exact List.cons_ne_nil _ _
  · rcases Text.mapCase_cases Text.upperRuns Text.upperSequences c with ⟨row, hrow, heq⟩ | ⟨run, -, n, -, -, heq⟩ | heq
    · rw [heq, ne_eq, List.map_eq_nil_iff]
      exact hrows row hrow
    · rw [heq]
      exact List.cons_ne_nil _ _
    · rw [heq]
      exact List.cons_ne_nil _ _

theorem capitalize_eq_empty_iff {name : String} : capitalize name = "" ↔ name = "" := by
  rw [← String.toList_eq_nil_iff, ← String.toList_eq_nil_iff, capitalize]
  cases hname : name.toList with
  | nil => simp
  | cons c rest => simp [upperChar_ne_nil]

/-! ### Separators -/

/-- No letter becomes a separator. -/
theorem isSeparator_of_mem_upperChar {c d : Char} (hc : isSeparator c = false) (h : d ∈ upperChar c) :
    isSeparator d = false := by
  have hranges : ∀ c : Char, isSeparator c = Text.inRanges [(0x20, 0x20), (0x5F, 0x5F)] c := by
    intro c
    rw [Bool.eq_iff_iff, Text.inRanges_iff, isSeparator, Bool.or_eq_true, beq_iff_eq, beq_iff_eq, ← Char.toNat_inj,
      ← Char.toNat_inj]
    simp
    omega
  rw [upperChar] at h
  split at h
  · next hascii =>
      have hupper : isSeparator c = false → isSeparator c.toUpper = false :=
        Text.forall_ascii (P := fun c => isSeparator c = false → isSeparator c.toUpper = false) (by decide +kernel) hascii
      rw [List.mem_singleton.1 h, hupper hc]
  · rw [hranges] at hc ⊢
    exact Text.inRanges_mapCase (by decide) (by decide +kernel) (by decide +kernel) hc h

theorem isSeparator_of_mem_joinWords {raiseFirst raise started : Bool} {s : List Char} {d : Char}
    (h : d ∈ joinWords raiseFirst raise started s) : isSeparator d = false := by
  induction s generalizing raise started with
  | nil => cases h
  | cons c rest ih =>
      cases hc : isSeparator c with
      | true =>
          rw [joinWords_separator hc] at h
          exact ih h
      | false =>
          rw [joinWords_letter hc] at h
          rcases List.mem_append.1 h with hfront | hrest
          · split at hfront
            · exact isSeparator_of_mem_upperChar hc hfront
            · rwa [List.mem_singleton.1 hfront]
          · exact ih hrest

/-! ### Letters in ASCII -/

section Ascii
variable {raiseFirst raise started : Bool} {s : List Char}

theorem upperChar_of_ascii {c : Char} (h : c.toNat < 0x80) : upperChar c = [c.toUpper] := if_pos h

theorem ascii_joinWords (h : ∀ c ∈ s, c.toNat < 0x80) :
    ∀ d ∈ joinWords raiseFirst raise started s, d.toNat < 0x80 := by
  intro d hd
  obtain ⟨c, hc, rfl | hupper⟩ := mem_joinWords hd
  · exact h d hc
  · rw [upperChar_of_ascii (h c hc), List.mem_singleton] at hupper
    have hascii := h c hc
    rw [hupper, Text.toNat_toUpper]
    split <;> omega

/-- Up to case exactly the separators are lost. -/
theorem map_toLower_joinWords (h : ∀ c ∈ s, c.toNat < 0x80) :
    (joinWords raiseFirst raise started s).map Char.toLower = (s.filter (!isSeparator ·)).map Char.toLower := by
  induction s generalizing raise started with
  | nil => rfl
  | cons c rest ih =>
      obtain ⟨hc, hrest⟩ := List.forall_mem_cons.1 h
      cases hsep : isSeparator c with
      | true => rw [joinWords_separator hsep, ih hrest, List.filter_cons_of_neg (by simp [hsep])]
      | false =>
          have hfirst : (if raise then upperChar c else [c]).map Char.toLower = [c.toLower] := by
            cases raise with
            | false => rfl
            | true => rw [if_pos rfl, upperChar_of_ascii hc, List.map_singleton, Text.toLower_toUpper]
          rw [joinWords_letter hsep, List.map_append, hfirst, ih hrest, List.filter_cons_of_pos (by simp [hsep]),
            List.map_cons, List.singleton_append]

/-- The lower case of a converted name is the lower case of its letters, whether the first one is raised or not. -/
theorem lower_joinWords {name : String} (h : ∀ c ∈ name.toList, c.toNat < 0x80) (raiseFirst : Bool) :
    lower (String.ofList (joinWords raiseFirst raiseFirst false (lowerChars (trimChars name.toList)))) =
      letters name := by
  have htrimmed : ∀ c ∈ trimChars name.toList, c.toNat < 0x80 :=
    fun c hc => h c ((Text.trimChars_sublist name.toList).subset hc)
  have hlower : ∀ c ∈ (trimChars name.toList).map Char.toLower, c.toNat < 0x80 := by
    rw [List.forall_mem_map]
    intro c hc
    have hascii := htrimmed c hc
    rw [Text.toNat_toLower]
    split <;> omega
  have hfixed : (((trimChars name.toList).map Char.toLower).filter (!isSeparator ·)).map Char.toLower =
      ((trimChars name.toList).map Char.toLower).filter (!isSeparator ·) := by
    conv_rhs => rw [← List.map_id (List.filter _ _)]
    refine List.map_congr_left fun c hc => ?_
    obtain ⟨d, -, rfl⟩ := List.mem_map.1 (List.mem_of_mem_filter hc)
    exact Text.toLower_toLower d
  rw [lower, String.toList_ofList, Text.lowerChars_of_ascii htrimmed, Text.lowerChars_of_ascii (ascii_joinWords hlower),
    map_toLower_joinWords hlower, hfixed, letters, lower, String.toList_ofList, Text.toList_trim,
    Text.lowerChars_of_ascii htrimmed]

theorem lower_identifierCase {name : String} (h : ∀ c ∈ name.toList, c.toNat < 0x80) :
    lower (identifierCase name) = letters name :=
  lower_joinWords h false

end Ascii

/-! ### Names of types -/

/-- No keyword begins with a capital letter. -/
theorem not_mem_languageKeywords {name : String} (h : name.toList.head?.any Char.isUpper = true) :
    languageKeywords.contains name = false := by
  have hsmall : ∀ word ∈ languageKeywords, word.toList.head?.any Char.isUpper = false := by decide +kernel
  rw [List.contains_eq_mem, decide_eq_false_iff_not]
  intro hmem
  rw [hsmall name hmem] at h
  cases h

/-- The characters of a plain name: letters, digits and separators. -/
def IsPlain (c : Char) : Prop := c.isAlphanum = true ∨ isSeparator c = true

instance (c : Char) : Decidable (IsPlain c) := inferInstanceAs (Decidable (_ ∨ _))

namespace IsPlain
variable {c : Char}

theorem ascii (h : IsPlain c) : c.toNat < 0x80 := by
  rcases h with halphanum | hsep
  · have hbounds := Text.toNat_of_isAlphanum halphanum
    omega
  · rw [isSeparator, Bool.or_eq_true, beq_iff_eq, beq_iff_eq] at hsep
    rcases hsep with rfl | rfl <;> decide

theorem toLower (h : IsPlain c) : IsPlain c.toLower :=
  Text.forall_ascii (P := fun c => IsPlain c → IsPlain c.toLower) (by decide +kernel) h.ascii h

theorem toUpper (h : IsPlain c) : IsPlain c.toUpper :=
  Text.forall_ascii (P := fun c => IsPlain c → IsPlain c.toUpper) (by decide +kernel) h.ascii h

end IsPlain

/-- Converting a plain name leaves letters and digits. -/
theorem isAlphanum_of_mem_joinWords {raiseFirst raise started : Bool} {s : List Char} (hplain : ∀ c ∈ s, IsPlain c)
    {d : Char} (h : d ∈ joinWords raiseFirst raise started s) : d.isAlphanum = true := by
  have hletter := isSeparator_of_mem_joinWords h
  have hd : IsPlain d := by
    obtain ⟨c, hc, rfl | hupper⟩ := mem_joinWords h
    · exact hplain d hc
    · rw [upperChar_of_ascii (hplain c hc).ascii, List.mem_singleton] at hupper
      rw [hupper]
      exact (hplain c hc).toUpper
  exact hd.resolve_right (Bool.eq_false_iff.1 hletter)

/-- A capital letter with letters and digits behind it is the name of a type. -/
theorem isTypeName_of_letters {name : String} {first : Char} {rest : List Char} (hname : name.toList = first :: rest)
    (hupper : first.isUpper = true) (hrest : ∀ c ∈ rest, c.isAlphanum = true) : isTypeName name = true := by
  have hhead : name.toList.head?.any Char.isUpper = true := by rwa [hname, List.head?_cons, Option.any_some]
  have hshape : hasIdentifierShape name.toList = true := by
    have halpha : first.isAlpha = true := Bool.or_eq_true_iff.2 (.inl hupper)
    rw [hname, hasIdentifierShape, isIdentifierStart, halpha, Bool.true_or, Bool.true_or, Bool.true_and,
      List.all_eq_true]
    intro c hc
    rw [isIdentifierPart, hrest c hc, Bool.true_or, Bool.true_or]
  rw [isTypeName, isIdentifier, hshape, not_mem_languageKeywords hhead, hhead]
  rfl

theorem isSeparator_toLower (c : Char) : isSeparator c.toLower = isSeparator c := by
  rw [Bool.eq_iff_iff, isSeparator, isSeparator, Bool.or_eq_true, Bool.or_eq_true, beq_iff_eq, beq_iff_eq, beq_iff_eq,
    beq_iff_eq, ← Char.toNat_inj, ← Char.toNat_inj, ← Char.toNat_inj, ← Char.toNat_inj, Text.toNat_toLower]
  simp only [Char.reduceToNat]
  split <;> omega

/-- A plain name whose first letter or digit is a letter becomes the name of a type. -/
theorem isTypeName_typeNameCase {name : String} (hplain : ∀ c ∈ trimChars name.toList, IsPlain c)
    (hfirst : ((trimChars name.toList).dropWhile isSeparator).head?.any Char.isAlpha = true) :
    isTypeName (typeNameCase name) = true := by
  have hlower : lowerChars (trimChars name.toList) = (trimChars name.toList).map Char.toLower :=
    Text.lowerChars_of_ascii fun c hc => (hplain c hc).ascii
  have hlowered : ∀ c ∈ (trimChars name.toList).map Char.toLower, IsPlain c :=
    List.forall_mem_map.2 fun c hc => (hplain c hc).toLower
  cases hwords : (trimChars name.toList).dropWhile isSeparator with
  | nil =>
      rw [hwords] at hfirst
      cases hfirst
  | cons first rest =>
      have halpha : first.isAlpha = true := by rwa [hwords, List.head?_cons, Option.any_some] at hfirst
      have hmem : first ∈ trimChars name.toList :=
        (List.dropWhile_sublist isSeparator).subset (hwords ▸ List.mem_cons_self)
      have hname : (typeNameCase name).toList =
          first.toLower.toUpper :: joinWords true false true (rest.map Char.toLower) := by
        rw [toList_typeNameCase, joinWords_start, hlower, List.dropWhile_map,
          show isSeparator ∘ Char.toLower = isSeparator from funext isSeparator_toLower, hwords, List.map_cons]
        dsimp only
        rw [if_pos rfl, upperChar_of_ascii (hplain first hmem).toLower.ascii, List.singleton_append]
      have hupper : first.toLower.toUpper.isUpper = true :=
        Text.forall_ascii (P := fun c => c.isAlpha = true → c.toLower.toUpper.isUpper = true) (by decide +kernel)
          (hplain first hmem).ascii halpha
      refine isTypeName_of_letters hname hupper fun d hd => ?_
      have hmem : d ∈ (typeNameCase name).toList := hname ▸ List.mem_cons_of_mem _ hd
      rw [toList_typeNameCase, hlower] at hmem
      exact isAlphanum_of_mem_joinWords hlowered hmem

end DomainModel.Naming

namespace DomainModel.Sql

open Text (lower)

/-! ### Columns that clash -/

/-- Whether a column is kept depends on those before it alone: it is dropped where its lower case has been seen. -/
theorem keepFirsts_concat (seen : List String) (front : List Field) (field : Field) :
    keepFirsts seen (front ++ [field]) =
      keepFirsts seen front ++ if lower field.name ∈ front.map (lower ·.name) ++ seen then [] else [field] := by
  induction front generalizing seen with
  | nil => simp [keepFirsts]
  | cons first rest ih =>
      rw [List.cons_append, keepFirsts, keepFirsts]
      split
      · next hseen =>
          rw [List.contains_iff_mem] at hseen
          rw [ih seen]
          refine congrArg _ (if_congr ?_ rfl rfl)
          rw [List.map_cons, List.cons_append, List.mem_cons, List.mem_append]
          constructor
          · exact .inr
          · rintro (hsame | hmem)
            · exact .inr (hsame ▸ hseen)
            · exact hmem
      · rw [ih (lower first.name :: seen), List.cons_append]
        refine congrArg _ (congrArg _ (if_congr ?_ rfl rfl))
        rw [List.map_cons, List.cons_append]
        exact List.perm_middle.mem_iff

/-- The last of several columns is dropped exactly where an earlier one has its letters. -/
theorem keepFirsts_concat_of_letters {front : List Field} {field : Field} {names : List String} {name : String}
    (hfront : front.map (·.name) = names.map Naming.identifierCase) (hfield : field.name = Naming.identifierCase name)
    (hnames : ∀ other ∈ names, ∀ c ∈ other.toList, c.toNat < 0x80) (hname : ∀ c ∈ name.toList, c.toNat < 0x80) :
    keepFirsts [] (front ++ [field]) =
      keepFirsts [] front ++ if Naming.letters name ∈ names.map Naming.letters then [] else [field] := by
  have hseen : front.map (lower ·.name) = names.map Naming.letters := by
    calc front.map (lower ·.name) = (front.map (·.name)).map lower := by rw [List.map_map]; rfl
      _ = names.map fun other => lower (Naming.identifierCase other) := by rw [hfront, List.map_map]; rfl
      _ = names.map Naming.letters :=
        List.map_congr_left fun other hother => Naming.lower_identifierCase (hnames other hother)
  rw [keepFirsts_concat, List.append_nil, hseen, hfield, Naming.lower_identifierCase hname]

end DomainModel.Sql

namespace DomainModel.Naming

open Text (lower)

/-- **What case conversion keeps.** A converted name has no separators; as the name of a type it is the name of a field
with the first letter raised. In ASCII both are the letters of the name up to case, so two columns clash exactly where
their letters are the same, and of several columns one is dropped exactly where an earlier one has its letters; and a
plain name that begins with a letter becomes the name of a type. -/
theorem case_conversion :
    (∀ name : String, (∀ c ∈ (identifierCase name).toList, c ≠ '_' ∧ c ≠ ' ') ∧
      (∀ c ∈ (typeNameCase name).toList, c ≠ '_' ∧ c ≠ ' ') ∧
      typeNameCase name = capitalize (identifierCase name) ∧ (typeNameCase name = "" ↔ identifierCase name = "")) ∧
    (∀ name : String, (∀ c ∈ name.toList, c.toNat < 0x80) →
      lower (identifierCase name) = letters name ∧ lower (typeNameCase name) = letters name) ∧
    (∀ name other : String, (∀ c ∈ name.toList, c.toNat < 0x80) → (∀ c ∈ other.toList, c.toNat < 0x80) →
      (lower (identifierCase name) = lower (identifierCase other) ↔ letters name = letters other)) ∧
    (∀ (front : List Field) (field : Field) (names : List String) (name : String),
      front.map (·.name) = names.map identifierCase → field.name = identifierCase name →
      (∀ other ∈ names, ∀ c ∈ other.toList, c.toNat < 0x80) → (∀ c ∈ name.toList, c.toNat < 0x80) →
      Sql.keepFirsts [] (front ++ [field]) =
        Sql.keepFirsts [] front ++ if letters name ∈ names.map letters then [] else [field]) ∧
    ∀ name : String, (∀ c ∈ Text.trimChars name.toList, IsPlain c) →
      ((Text.trimChars name.toList).dropWhile isSeparator).head?.any Char.isAlpha = true →
      isTypeName (typeNameCase name) = true := by
  have hseparators : ∀ {c : Char}, isSeparator c = false → c ≠ '_' ∧ c ≠ ' ' := by
    intro c hc
    rw [isSeparator, Bool.or_eq_false_iff, beq_eq_false_iff_ne, beq_eq_false_iff_ne] at hc
    exact hc
  refine ⟨fun name => ⟨?_, ?_, typeNameCase_eq_capitalize name, ?_⟩, fun name hascii => ⟨?_, ?_⟩, ?_, ?_, ?_⟩
  · intro c hc
    rw [toList_identifierCase] at hc
    exact hseparators (isSeparator_of_mem_joinWords hc)
  · intro c hc
    rw [toList_typeNameCase] at hc
    exact hseparators (isSeparator_of_mem_joinWords hc)
  · rw [typeNameCase_eq_capitalize, capitalize_eq_empty_iff]
  · exact lower_identifierCase hascii
  · exact lower_joinWords hascii true
  · intro name other hname hother
    rw [lower_identifierCase hname, lower_identifierCase hother]
  · exact fun front field names name => Sql.keepFirsts_concat_of_letters
  · exact fun name => isTypeName_typeNameCase

def idColumn : Field := { name := "userId", typeName := "Long" }

def otherIdColumn : Field := { name := "userid", typeName := "String" }

theorem case_conversion_userId :
    lower (typeNameCase "USER_ID") = "userid" ∧
      lower (identifierCase "USER_ID") = lower (identifierCase "userid") ∧
      Sql.keepFirsts [] [idColumn, otherIdColumn] = [idColumn] ∧ isTypeName (typeNameCase "\t_user id_2 ") = true := by
  obtain ⟨-, hlower, hclash, hcolumns, hnames⟩ := case_conversion
  have hword : ∀ c ∈ "USER_ID".toList, c.toNat < 0x80 := List.all_iff_forall_prop.1 (by decide)
  have hother : ∀ c ∈ "userid".toList, c.toNat < 0x80 := List.all_iff_forall_prop.1 (by decide)
  refine ⟨?_, ?_, ?_, hnames "\t_user id_2 " (List.all_iff_forall_prop.1 (by decide +kernel)) (by decide +kernel)⟩
  · exact (hlower "USER_ID" hword).2.trans (by decide +kernel)
  · exact (hclash "USER_ID" "userid" hword hother).2 (by decide +kernel)
  · exact (hcolumns [idColumn] otherIdColumn ["USER_ID"] "userid" (by decide +kernel) (by decide +kernel)
      (List.forall_mem_singleton.2 hword) hother).trans (by decide +kernel)

end DomainModel.Naming
