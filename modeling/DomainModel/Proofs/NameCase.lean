import DomainModel.Naming.Basic
import DomainModel.Naming.Case
import DomainModel.Proofs.TextCase

/-! Names turned into identifiers. The letters of an identifier come from the lower case of the name, as
they are or raised, and the first one is never raised. So an identifier has no blanks when the name has
none, and where its lower case is known its first letter is known too: only `id` and `iD` are `id` in lower
case. -/

namespace DomainModel.Naming

/-- Identifiers are ASCII. -/
theorem ascii_of_isIdentifier {name : String} (h : isIdentifier name = true) : ∀ c ∈ name.toList, c.toNat < 0x80 := by
  have hpart : ∀ c, isIdentifierPart c = true → c.toNat < 0x80 := by
    intro c hc
    rw [isIdentifierPart, Bool.or_eq_true, Bool.or_eq_true, beq_iff_eq, beq_iff_eq] at hc
    rcases hc with (halpha | rfl) | rfl
    · have hbounds := Text.toNat_of_isAlphanum halpha
      omega
    · decide
    · decide
  have hstart : ∀ c, isIdentifierStart c = true → isIdentifierPart c = true := by
    intro c hc
    rw [isIdentifierStart, Bool.or_assoc] at hc
    rw [isIdentifierPart, Char.isAlphanum, Bool.or_assoc, Bool.or_right_comm, hc, Bool.true_or]
  rw [isIdentifier, Bool.and_eq_true] at h
  cases hname : name.toList with
  | nil => exact fun c hc => absurd hc List.not_mem_nil
  | cons first rest =>
      rw [hname, hasIdentifierShape, Bool.and_eq_true, List.all_eq_true] at h
      rw [List.forall_mem_cons]
      exact ⟨hpart first (hstart first h.1.1), fun c hc => hpart c (h.1.2 c hc)⟩

theorem mem_joinWords {raiseFirst raise started : Bool} {s : List Char} {d : Char}
    (h : d ∈ joinWords raiseFirst raise started s) : ∃ c ∈ s, d = c ∨ d ∈ Text.upperChar c := by
  induction s generalizing raise started with
  | nil => exact absurd h List.not_mem_nil
  | cons c rest ih =>
      rw [joinWords] at h
      split at h
      · obtain ⟨e, he, hd⟩ := ih h
        exact ⟨e, List.mem_cons_of_mem c he, hd⟩
      · rcases List.mem_append.1 h with hfront | hrest
        · refine ⟨c, List.mem_cons_self, ?_⟩
          split at hfront
          · exact .inr hfront
          · exact .inl (List.mem_singleton.1 hfront)
        · obtain ⟨e, he, hd⟩ := ih hrest
          exact ⟨e, List.mem_cons_of_mem c he, hd⟩

/-- The first letter of an identifier is not raised. -/
theorem head_joinWords {s : List Char} {d : Char} (h : d ∈ (joinWords false false false s).head?) : d ∈ s := by
  induction s with
  | nil => cases h
  | cons c rest ih =>
      rw [joinWords] at h
      split at h
      · exact List.mem_cons_of_mem c (ih h)
      · rw [if_neg Bool.false_ne_true, List.singleton_append, List.head?_cons, Option.mem_some] at h
        rw [h]
        exact List.mem_cons_self

theorem toList_identifierCase (name : String) :
    (identifierCase name).toList = joinWords false false false (Text.lowerChars (Text.trimChars name.toList)) := by
  rw [identifierCase, String.toList_ofList]

/-- Turning a name without blanks into an identifier makes no blanks. -/
theorem trim_identifierCase {name : String} (hname : ∀ c ∈ name.toList, Text.isBlank c = false) :
    Text.trim (identifierCase name) = identifierCase name := by
  have hblank : ∀ d ∈ (identifierCase name).toList, Text.isBlank d = false := by
    intro d hd
    rw [toList_identifierCase, Text.trimChars_eq_self (fun c hc => hname c (List.mem_of_mem_head? hc))
      (fun c hc => hname c (List.mem_of_getLast? hc))] at hd
    obtain ⟨c, hc, hcase⟩ := mem_joinWords hd
    have hlower : Text.isBlank c = false := by
      rcases Text.mem_lowerChars hc with rfl | rfl | ⟨e, he, hlow⟩
      · decide
      · decide
      · exact Text.isBlank_of_mem_lowerChar (hname e he) hlow
    rcases hcase with rfl | hupper
    · exact hlower
    · exact Text.isBlank_of_mem_upperChar hlower hupper
  rw [Text.trim, Text.trimChars_eq_self (fun c hc => hblank c (List.mem_of_mem_head? hc))
    (fun c hc => hblank c (List.mem_of_getLast? hc)), String.ofList_toList]

/-- Two identifiers are `id` in lower case: as an identifier begins with a small letter, only its second
letter is free. -/
theorem identifierCase_of_lower_eq_id {name : String} (h : Text.lower (identifierCase name) = "id") :
    identifierCase name = "id" ∨ identifierCase name = "iD" := by
  have hchars : Text.lowerChars (identifierCase name).toList = ['i', 'd'] := by
    have hlists := congrArg String.toList h
    rwa [Text.lower, String.toList_ofList, show "id".toList = ['i', 'd'] by decide] at hlists
  have hascii : ∀ c ∈ (identifierCase name).toList, c.toNat < 0x80 := by
    have hletters : ∀ d ∈ Text.lowerChars (identifierCase name).toList, d.toNat < 0x80 ∧ d ≠ 'k' := by
      rw [hchars, List.forall_mem_cons, List.forall_mem_singleton]
      decide
    exact Text.ascii_of_lowerChars hletters
  have hplain : (identifierCase name).toList.map Char.toLower = ['i', 'd'] := by
    rw [← hchars, Text.lowerChars_of_ascii hascii]
  obtain ⟨a, rest, hname, ha, hrest⟩ := List.map_eq_cons_iff.1 hplain
  obtain ⟨b, last, rfl, hb, hlast⟩ := List.map_eq_cons_iff.1 hrest
  rw [List.map_eq_nil_iff.1 hlast] at hname
  rw [hname, List.forall_mem_cons, List.forall_mem_singleton] at hascii
  have hi : a = 'i' := by
    have hcases : a = 'i' ∨ a = 'I' :=
      Text.forall_ascii (P := fun c => c.toLower = 'i' → c = 'i' ∨ c = 'I') (by decide +kernel) hascii.1 ha
    refine hcases.resolve_right fun hcapital => ?_
    -- the first letter is not raised, so a capital would have to come out of the lower case
    have hhead := head_joinWords (d := a) (by rw [← toList_identifierCase, hname]; rfl)
    subst hcapital
    rcases Text.mem_lowerChars hhead with hsigma | hsigma | ⟨c, -, hlow⟩
    · exact absurd hsigma (by decide)
    · exact absurd hsigma (by decide)
    · exact absurd (Text.isUpper_of_mem_lowerChar hlow) (by decide)
  have hd : b = 'd' ∨ b = 'D' :=
    Text.forall_ascii (P := fun c => c.toLower = 'd' → c = 'd' ∨ c = 'D') (by decide +kernel) hascii.2 hb
  rw [← String.toList_inj, ← String.toList_inj, hname, hi]
  rcases hd with rfl | rfl
  · left
    decide
  · right
    decide

end DomainModel.Naming
