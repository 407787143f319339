import DomainModel.Proofs.SqlGrammar

/-! What the recognisers of keywords make of a text that spells tokens. A word is recognised in whole: what
follows it in the text begins with no word character, as it is a gap or punctuation. So a phrase is found where
its keywords are tokens, and a text that begins with any other token does not begin with the phrase. A search
passes over every token other than the first keyword of its phrase, and this is why no name and no type can be
taken for a flag or for the beginning of a clause. -/

namespace DomainModel.Sql.Grammar

open Text (isBlank isWordChar atWordEnd)

/-! ### Characters -/

theorem IsPlain.ascii {c : Char} (h : IsPlain c) : c.toNat < 0x80 := by
  rcases h with halpha | rfl
  · have hbounds := Text.toNat_of_isAlphanum halpha
    omega
  · decide

theorem IsPlain.isWordChar {c : Char} (h : IsPlain c) : isWordChar c = true := by
  rw [Text.isWordChar, if_pos h.ascii, Bool.or_eq_true, beq_iff_eq]
  exact h

theorem IsPlain.of_isDigit {c : Char} (h : c.isDigit = true) : IsPlain c := by
  left
  rw [Char.isAlphanum, h, Bool.or_true]

/-- A character that becomes a small letter of ASCII is a letter of ASCII. -/
theorem IsPlain.of_toLower {c : Char} (h : c.toLower.isLower = true) : IsPlain c := by
  have hlower : IsPlain c.toLower := by
    left
    change (c.toLower.isUpper || c.toLower.isLower || c.toLower.isDigit) = true
    rw [h, Bool.or_true, Bool.true_or]
  have hascii := hlower.ascii
  rw [Text.toNat_toLower] at hascii
  refine Text.forall_ascii (P := fun c => c.toLower.isLower = true → IsPlain c) (by decide +kernel) ?_ h
  split at hascii <;> omega

/-- What may stand for a letter of a keyword is a word character. -/
theorem isWordChar_of_isLetter {letter c : Char} (hletter : letter.isLower = true) (h : isLetter letter c = true) :
    isWordChar c = true := by
  simp only [isLetter, Bool.or_eq_true, Bool.and_eq_true, beq_iff_eq] at h
  rcases h with (hcase | ⟨-, rfl⟩) | ⟨-, hkelvin⟩
  · exact (IsPlain.of_toLower (by rw [hcase, hletter])).isWordChar
  · decide +kernel
  · rw [← Char.ofNat_toNat c, hkelvin]
    decide +kernel

theorem isWordChar_eq_false {c : Char} (h : isBlank c = true) : isWordChar c = false := by
  rw [Bool.eq_false_iff]
  intro hword
  rw [Text.isBlank_of_isWordChar hword] at h
  cases h

theorem Mark.isBlank_char (mark : Mark) : isBlank mark.char = false := by cases mark <;> decide

theorem Mark.isWordChar_char (mark : Mark) : isWordChar mark.char = false := by cases mark <;> decide

theorem Keyword.ne_nil (keyword : Keyword) : keyword.letters.toList ≠ [] := by cases keyword <;> decide

theorem Keyword.isLower (keyword : Keyword) : ∀ c ∈ keyword.letters.toList, c.isLower = true := by
  rw [← List.all_eq_true]
  cases keyword <;> decide

theorem Keyword.letters_injective {keyword other : Keyword}
    (h : keyword.letters.toList = other.letters.toList) : keyword = other := by
  rw [String.toList_inj] at h
  revert h
  cases keyword <;> cases other <;> decide

theorem isQuote_of_mem_quotes {quote : Char × Char} (h : quote ∈ quotes) :
    isQuote quote.1 = true ∧ isQuote quote.2 = true := by
  revert quote
  decide

theorem isWordChar_of_isQuote {c : Char} (h : isQuote c = true) : isWordChar c = false := by
  simp only [isQuote, Bool.or_eq_true, beq_iff_eq] at h
  rcases h with ((rfl | rfl) | rfl) | rfl <;> decide

theorem isBlank_of_isQuote {c : Char} (h : isQuote c = true) : isBlank c = false := by
  simp only [isQuote, Bool.or_eq_true, beq_iff_eq] at h
  rcases h with ((rfl | rfl) | rfl) | rfl <;> decide

/-! ### Words and spellings -/

/-- A text of plain characters. -/
structure IsWord (text : List Char) : Prop where
  ne_nil : text ≠ []
  plain : ∀ c ∈ text, IsPlain c

theorem Name.isWord (name : Name) : IsWord name.word := by
  constructor
  · intro hnil
    have hfirst := name.first
    rw [hnil] at hfirst
    cases hfirst
  · intro c hc
    exact of_decide_eq_true (List.all_eq_true.1 name.plain c hc)

theorem Number.isDigit (number : Number) : ∀ c ∈ number.digits, c.isDigit = true := List.all_eq_true.1 number.plain

theorem Number.isWord (number : Number) : IsWord number.digits :=
  ⟨number.some_digit, fun c hc => .of_isDigit (number.isDigit c hc)⟩

theorem isWord_of_keyword {keyword : Keyword} {text : List Char} (h : text.map Char.toLower = keyword.letters.toList) :
    IsWord text := by
  constructor
  · rintro rfl
    exact keyword.ne_nil h.symm
  · intro c hc
    apply IsPlain.of_toLower
    apply keyword.isLower
    rw [← h]
    exact List.mem_map_of_mem hc

theorem Quoted.mem {name : Name} {text : List Char} (h : Quoted name.word text) {c : Char} (hc : c ∈ text) :
    IsPlain c ∨ isQuote c = true := by
  cases h with
  | bare => exact .inl (name.isWord.plain c hc)
  | between hquote =>
      rw [List.mem_cons, List.mem_append, List.mem_singleton] at hc
      rcases hc with rfl | hword | rfl
      · exact .inr (isQuote_of_mem_quotes hquote).1
      · exact .inl (name.isWord.plain c hword)
      · exact .inr (isQuote_of_mem_quotes hquote).2

/-- The characters that spell a token. -/
theorem Token.Spells.mem {token : Token} {text : List Char} (h : token.Spells text) {c : Char} (hc : c ∈ text) :
    IsPlain c ∨ isQuote c = true ∨ c = '.' ∨ ∃ mark, token = .mark mark ∧ c = mark.char := by
  cases h with
  | keyword hcase => exact .inl ((isWord_of_keyword hcase).plain c hc)
  | name hname => exact (hname.mem hc).imp_right .inl
  | sqlType => exact .inl ((Name.isWord _).plain c hc)
  | number => exact .inl ((Number.isWord _).plain c hc)
  | tableName hname => exact (hname.mem hc).imp_right .inl
  | qualified hschema hname =>
      rw [List.mem_append, List.mem_cons] at hc
      rcases hc with hfirst | rfl | hsecond
      · exact (hschema.mem hfirst).imp_right .inl
      · exact .inr (.inr (.inl rfl))
      · exact (hname.mem hsecond).imp_right .inl
  | @mark mark => exact .inr (.inr (.inr ⟨mark, rfl, List.mem_singleton.1 hc⟩))

theorem Token.Spells.isBlank {token : Token} {text : List Char} (h : token.Spells text) :
    ∀ c ∈ text, isBlank c = false := by
  intro c hc
  rcases h.mem hc with hplain | hquote | rfl | ⟨mark, -, rfl⟩
  · exact Text.isBlank_of_isWordChar hplain.isWordChar
  · exact isBlank_of_isQuote hquote
  · decide
  · exact mark.isBlank_char

theorem Quoted.ne_nil {name : Name} {text : List Char} (h : Quoted name.word text) : text ≠ [] := by
  cases h with
  | bare => exact name.isWord.ne_nil
  | between hquote => exact List.cons_ne_nil _ _

theorem Token.Spells.ne_nil {token : Token} {text : List Char} (h : token.Spells text) : text ≠ [] := by
  cases h with
  | keyword hcase => exact (isWord_of_keyword hcase).ne_nil
  | name hname => exact hname.ne_nil
  | sqlType => exact (Name.isWord _).ne_nil
  | number => exact (Number.isWord _).ne_nil
  | tableName hname => exact hname.ne_nil
  | qualified => exact List.append_ne_nil_of_right_ne_nil _ (List.cons_ne_nil _ _)
  | mark => exact List.cons_ne_nil _ _

/-! ### Gaps -/

/-- The text spells the tokens and begins with the first of them. -/
inductive Begun : List Token → List Char → Prop where
  | intro {token text tokens rest} (htoken : token.Spells text) (hrest : Written token.isWord tokens rest) :
      Begun (token :: tokens) (text ++ rest)

theorem Begun.ne_nil {tokens : List Token} {s : List Char} (h : Begun tokens s) : s ≠ [] := by
  cases h with
  | intro htoken => exact List.append_ne_nil_of_left_ne_nil htoken.ne_nil _

theorem Begun.written {tokens : List Token} {s : List Char} (h : Begun tokens s) : Written false tokens s := by
  cases h with
  | intro htoken hrest => exact .token (fun c hc => absurd hc List.not_mem_nil) nofun htoken hrest

theorem skipBlanks_of_spells {token : Token} {text : List Char} (h : token.Spells text) (rest : List Char) :
    Text.skipBlanks (text ++ rest) = text ++ rest := by
  obtain ⟨c, more, rfl⟩ := List.exists_cons_of_ne_nil h.ne_nil
  have hblank := h.isBlank c List.mem_cons_self
  exact List.dropWhile_cons_of_neg (Bool.eq_false_iff.1 hblank)

theorem Written.skipBlanks {afterWord : Bool} {token : Token} {tokens : List Token} {s : List Char}
    (h : Written afterWord (token :: tokens) s) : Begun (token :: tokens) (Text.skipBlanks s) := by
  cases h with
  | token hgap _ htoken hrest =>
      rw [Text.skipBlanks, List.dropWhile_append_of_pos hgap, ← Text.skipBlanks, skipBlanks_of_spells htoken]
      exact .intro htoken hrest

theorem skipBlanks_gap {gap : List Char} (h : IsGap gap) : Text.skipBlanks gap = [] :=
  List.dropWhile_eq_nil_iff.2 h

/-- Between two words there is a gap. -/
theorem Written.gap {token : Token} {tokens : List Token} {s : List Char} (h : Written true (token :: tokens) s)
    (hword : token.isWord = true) : ∃ rest, gap? s = some rest ∧ Begun (token :: tokens) rest := by
  have hbegun := h.skipBlanks
  cases h with
  | token hgap hneeded htoken hrest =>
      obtain ⟨c, more, rfl⟩ := List.exists_cons_of_ne_nil (hneeded rfl hword)
      have hblank := hgap c List.mem_cons_self
      refine ⟨_, ?_, hbegun⟩
      rw [List.cons_append, gap?, if_pos hblank, Text.skipBlanks, Text.skipBlanks, List.dropWhile_cons_of_pos hblank]

theorem gap?_eq_some {s rest : List Char} (h : gap? s = some rest) :
    (∀ c ∈ s.head?, isBlank c = true) ∧ Text.skipBlanks s = rest := by
  cases s with
  | nil => cases h
  | cons c more =>
      rw [gap?] at h
      split at h
      · next hblank =>
          cases h
          exact ⟨fun d hd => Option.some.inj hd ▸ hblank, List.dropWhile_cons_of_pos hblank⟩
      · cases h

theorem atWordEnd_cons {c : Char} (h : isWordChar c = false) (s : List Char) : Text.atWordEnd (c :: s) = true := by
  rw [Text.atWordEnd, h, Bool.not_false]

theorem atWordEnd_of_gap {gap : List Char} (hgap : IsGap gap) (hsome : gap ≠ []) (rest : List Char) :
    atWordEnd (gap ++ rest) = true := by
  obtain ⟨c, more, rfl⟩ := List.exists_cons_of_ne_nil hsome
  exact atWordEnd_cons (isWordChar_eq_false (hgap c List.mem_cons_self)) (more ++ rest)

/-- A word ends where it ends. -/
theorem Written.atWordEnd {tokens : List Token} {s : List Char} (h : Written true tokens s) : atWordEnd s = true := by
  cases h with
  | done hgap =>
      by_cases hsome : s = []
      · rw [hsome]
        rfl
      · have hend := atWordEnd_of_gap hgap hsome []
        rwa [List.append_nil] at hend
  | @token _ gap token text tokens rest hgap hneeded htoken hrest =>
      by_cases hsome : gap = []
      · have hmark : token.isWord = false := by
          rw [Bool.eq_false_iff]
          exact fun hword => hneeded rfl hword hsome
        cases htoken with
        | mark =>
            rw [hsome]
            exact atWordEnd_cons (Mark.isWordChar_char _) rest
        | _ => cases hmark
      · exact atWordEnd_of_gap hgap hsome _

theorem head_of_atWordEnd {s : List Char} (h : Text.atWordEnd s = true) : ∀ c ∈ s.head?, isWordChar c = false := by
  intro c hc
  cases s with
  | nil => cases hc
  | cons d rest =>
      cases hc
      rwa [Text.atWordEnd, Bool.not_eq_true'] at h

theorem rdropWhile_append {p : Char → Bool} {front : List Char} (h : ∀ c ∈ front.getLast?, p c = false)
    (back : List Char) : (front ++ back).rdropWhile p = front ++ back.rdropWhile p := by
  induction back using List.reverseRecOn with
  | nil =>
      rw [List.append_nil, List.rdropWhile_nil, List.append_nil, List.rdropWhile_eq_self_iff]
      intro hfront
      exact Bool.eq_false_iff.1 (h _ (List.getLast_mem_getLast? hfront))
  | append_singleton back c ih =>
      rw [← List.append_assoc, List.rdropWhile_concat, List.rdropWhile_concat]
      split
      · exact ih
      · rw [List.append_assoc]

theorem Token.Spells.rdropWhile {token : Token} {text : List Char} (h : token.Spells text) (front rest : List Char) :
    (front ++ (text ++ rest)).rdropWhile Text.isBlank = front ++ (text ++ rest.rdropWhile Text.isBlank) := by
  rw [← List.append_assoc, rdropWhile_append, List.append_assoc]
  intro c hc
  rw [List.getLast?_append_of_ne_nil _ h.ne_nil] at hc
  exact h.isBlank c (List.mem_of_getLast? hc)

theorem Written.rdropWhile {afterWord : Bool} {tokens : List Token} {s : List Char} (h : Written afterWord tokens s) :
    Written afterWord tokens (s.rdropWhile Text.isBlank) := by
  induction h with
  | done hgap =>
      rw [List.rdropWhile_eq_nil_iff.2 hgap]
      exact .done fun c hc => absurd hc List.not_mem_nil
  | token hgap hneeded htoken hrest ih =>
      rw [htoken.rdropWhile]
      exact .token hgap hneeded htoken ih

theorem Begun.rdropWhile {tokens : List Token} {s : List Char} (h : Begun tokens s) :
    Begun tokens (s.rdropWhile Text.isBlank) := by
  cases h with
  | @intro _ text _ rest htoken hrest =>
      have htrimmed : (text ++ rest).rdropWhile Text.isBlank = text ++ rest.rdropWhile Text.isBlank :=
        htoken.rdropWhile [] rest
      rw [htrimmed]
      exact .intro htoken hrest.rdropWhile

/-- Without its outer blanks a text begins with its first token. -/
theorem Written.trim {afterWord : Bool} {token : Token} {tokens : List Token} {s : List Char}
    (h : Written afterWord (token :: tokens) s) : Begun (token :: tokens) (Text.trimChars s) := by
  rw [Text.trimChars_eq_rdropWhile]
  exact h.skipBlanks.rdropWhile

/-- Without its outer blanks the text of one token is a spelling of it. -/
theorem Written.trim_singleton {token : Token} {afterWord : Bool} {s : List Char} (h : Written afterWord [token] s) :
    token.Spells (Text.trimChars s) := by
  have hbegun := h.skipBlanks
  rw [Text.trimChars_eq_rdropWhile]
  rw [Text.skipBlanks] at hbegun
  generalize s.dropWhile isBlank = text at hbegun
  cases hbegun with
  | @intro _ text _ rest htoken hrest =>
      cases hrest with
      | done hgap =>
          have htrimmed : (text ++ rest).rdropWhile Text.isBlank = text ++ rest.rdropWhile Text.isBlank :=
            htoken.rdropWhile [] rest
          rw [htrimmed, List.rdropWhile_eq_nil_iff.2 hgap, List.append_nil]
          exact htoken

/-! ### Punctuation -/

/-- A mark cuts a text in two. -/
theorem Written.cut {mark : Mark} {before after : List Token} {afterWord : Bool} {s : List Char}
    (h : Written afterWord (before ++ .mark mark :: after) s) :
    ∃ front back, s = front ++ mark.char :: back ∧ Written afterWord before front ∧ Written false after back := by
  induction before generalizing afterWord s with
  | nil =>
      cases h with
      | @token _ gap _ _ _ rest hgap _ htoken hrest =>
          cases htoken
          exact ⟨gap, rest, rfl, .done hgap, hrest⟩
  | cons token before ih =>
      cases h with
      | @token _ gap _ text _ rest hgap hneeded htoken hrest =>
          obtain ⟨front, back, rfl, hfront, hback⟩ := ih hrest
          refine ⟨gap ++ (text ++ front), back, ?_, .token hgap hneeded htoken hfront, hback⟩
          simp only [List.append_assoc]

theorem Written.opening {tokens : List Token} {afterWord : Bool} {s : List Char}
    (h : Written afterWord (.mark .opening :: tokens) s) :
    ∃ inner, parenthesis? s = some inner ∧ Written false tokens inner := by
  have hbegun := h.skipBlanks
  generalize htext : Text.skipBlanks s = text at hbegun
  cases hbegun with
  | @intro _ text _ rest htoken hrest =>
      cases htoken
      refine ⟨rest, ?_, hrest⟩
      rw [parenthesis?, htext]
      rfl

/-- Part of no gap, no word and no quoted name. -/
def StandsAlone (c : Char) : Prop := isBlank c = false ∧ ¬ IsPlain c ∧ isQuote c = false ∧ c ≠ '.'

instance : DecidablePred StandsAlone := fun c =>
  inferInstanceAs (Decidable (isBlank c = false ∧ ¬ IsPlain c ∧ isQuote c = false ∧ c ≠ '.'))

theorem Mark.standsAlone (mark : Mark) : StandsAlone mark.char := by cases mark <;> decide

theorem Mark.char_injective {mark other : Mark} (h : mark.char = other.char) : mark = other := by
  revert h
  cases mark <;> cases other <;> decide

theorem StandsAlone.mark_of_spells {c : Char} (hc : StandsAlone c) {token : Token} {text : List Char}
    (h : token.Spells text) (hmem : c ∈ text) : ∃ mark, token = .mark mark ∧ c = mark.char := by
  rcases h.mem hmem with hplain | hquote | hdot | hmark
  · exact absurd hplain hc.2.1
  · exact absurd hquote (Bool.eq_false_iff.1 hc.2.2.1)
  · exact absurd hdot hc.2.2.2
  · exact hmark

/-- A character that stands alone in a text is one of its marks. -/
theorem StandsAlone.mark_of_written {c : Char} (hc : StandsAlone c) {tokens : List Token} {afterWord : Bool}
    {s : List Char} (h : Written afterWord tokens s) (hmem : c ∈ s) :
    ∃ mark, Token.mark mark ∈ tokens ∧ c = mark.char := by
  induction h with
  | done hgap => exact absurd (hgap c hmem) (Bool.eq_false_iff.1 hc.1)
  | token hgap _ htoken _ ih =>
      rw [List.mem_append, List.mem_append] at hmem
      rcases hmem with hblank | htext | hrest
      · exact absurd (hgap c hblank) (Bool.eq_false_iff.1 hc.1)
      · obtain ⟨mark, rfl, hmark⟩ := hc.mark_of_spells htoken htext
        exact ⟨mark, List.mem_cons_self, hmark⟩
      · obtain ⟨mark, hmark, hsame⟩ := ih hrest
        exact ⟨mark, List.mem_cons_of_mem _ hmark, hsame⟩

theorem Written.not_mem {mark : Mark} {tokens : List Token} {afterWord : Bool} {s : List Char}
    (h : Written afterWord tokens s) (hmark : Token.mark mark ∉ tokens) : mark.char ∉ s := by
  intro hmem
  obtain ⟨other, hother, hsame⟩ := mark.standsAlone.mark_of_written h hmem
  exact hmark (Mark.char_injective hsame ▸ hother)

/-! ### Keywords -/

/-- The text does not begin with the keyword as a whole word. -/
def Avoids (keyword : Keyword) (s : List Char) : Prop :=
  ∀ rest, keyword? keyword.letters.toList s = some rest → Text.atWordEnd rest = false

theorem keyword?_of_head {letters s : List Char} (hletters : ∀ c ∈ letters, c.isLower = true) (hsome : letters ≠ [])
    (hhead : ∀ c ∈ s.head?, isWordChar c = false) : keyword? letters s = none := by
  obtain ⟨letter, more, rfl⟩ := List.exists_cons_of_ne_nil hsome
  cases s with
  | nil => rfl
  | cons c rest =>
      rw [keyword?, if_neg]
      intro hletter
      have hword := isWordChar_of_isLetter (hletters letter List.mem_cons_self) hletter
      rw [hhead c (Option.mem_some_self c)] at hword
      cases hword

theorem avoids_of_head {keyword : Keyword} {s : List Char} (h : ∀ c ∈ s.head?, isWordChar c = false) :
    Avoids keyword s := by
  intro rest hrest
  rw [keyword?_of_head keyword.isLower keyword.ne_nil h] at hrest
  cases hrest

theorem isLetter_of_ascii {letter c : Char} (h : c.toNat < 0x80) : isLetter letter c = true ↔ c.toLower = letter := by
  have hlong : c ≠ 'ſ' := by
    rintro rfl
    exact absurd h (by decide)
  have hkelvin : c.toNat ≠ 0x212A := by omega
  simp [isLetter, hlong, hkelvin]

/-- A word that is not the keyword may begin like it, but then the word goes on. -/
theorem atWordEnd_of_keyword? {letters word s rest : List Char} (hletters : ∀ c ∈ letters, c.isLower = true)
    (hplain : ∀ c ∈ word, IsPlain c) (hend : Text.atWordEnd s = true) (hne : word.map Char.toLower ≠ letters)
    (h : keyword? letters (word ++ s) = some rest) : Text.atWordEnd rest = false := by
  -- the keyword and the word are read together; where one of them ends first the texts part
  induction letters generalizing word with
  | nil =>
      cases word with
      | nil => exact absurd rfl hne
      | cons c word =>
          cases h
          exact congrArg Bool.not (hplain c List.mem_cons_self).isWordChar
  | cons letter letters ih =>
      cases word with
      | nil =>
          rw [List.nil_append, keyword?_of_head hletters (List.cons_ne_nil _ _) (head_of_atWordEnd hend)] at h
          cases h
      | cons c word =>
          rw [List.forall_mem_cons] at hletters hplain
          rw [List.cons_append, keyword?] at h
          split at h
          · next hletter =>
              rw [isLetter_of_ascii hplain.1.ascii] at hletter
              refine ih hletters.2 hplain.2 (fun hsame => hne ?_) h
              rw [List.map_cons, hletter, hsame]
          · cases h

theorem avoids_word {keyword : Keyword} {word s : List Char} (hword : IsWord word) (hend : Text.atWordEnd s = true)
    (hne : word.map Char.toLower ≠ keyword.letters.toList) : Avoids keyword (word ++ s) :=
  fun _ => atWordEnd_of_keyword? keyword.isLower hword.plain hend hne

theorem keyword?_word {letters word s : List Char} (h : word.map Char.toLower = letters) :
    keyword? letters (word ++ s) = some s := by
  subst h
  induction word with
  | nil => rfl
  | cons c word ih =>
      rw [List.map_cons, List.cons_append, keyword?, if_pos, ih]
      simp [isLetter]

theorem Begun.keyword {keyword : Keyword} {tokens : List Token} {s : List Char}
    (h : Begun (.keyword keyword :: tokens) s) :
    ∃ rest, keyword? keyword.letters.toList s = some rest ∧ Written true tokens rest := by
  cases h with
  | @intro _ text _ rest htoken hrest =>
      cases htoken with
      | keyword hcase => exact ⟨rest, keyword?_word hcase, hrest⟩

/-- A number is no keyword, as it begins with a digit. -/
theorem Number.not_keyword (number : Number) (keyword : Keyword) :
    number.digits.map Char.toLower ≠ keyword.letters.toList := by
  intro hsame
  obtain ⟨c, more, hdigits⟩ := List.exists_cons_of_ne_nil number.some_digit
  have hdigit := number.isDigit c (by rw [hdigits]; exact List.mem_cons_self)
  have hlower := keyword.isLower c.toLower (by rw [← hsame, hdigits]; exact List.mem_cons_self)
  exact absurd hlower (Text.forall_ascii (P := fun c => c.isDigit = true → ¬ c.toLower.isLower = true)
    (by decide +kernel) (IsPlain.of_isDigit hdigit).ascii hdigit)

section Phrase

variable {keyword : Keyword} {tokens : List Token} {s : List Char} (hreserved : keyword ∈ reserved)
include hreserved

theorem Quoted.avoids {name : Name} {text : List Char} (h : Quoted name.word text) (hend : Text.atWordEnd s = true) :
    Avoids keyword (text ++ s) := by
  cases h with
  | bare => exact avoids_word name.isWord hend (name.free keyword hreserved)
  | between hquote =>
      apply avoids_of_head
      intro c hc
      cases hc
      exact isWordChar_of_isQuote (isQuote_of_mem_quotes hquote).1

/-- A text that begins with another token does not begin with the keyword. -/
theorem Begun.avoids {token : Token} (h : Begun (token :: tokens) s) (hother : token ≠ .keyword keyword) :
    Avoids keyword s := by
  cases h with
  | @intro _ text _ rest htoken hrest =>
      cases htoken with
      | keyword hcase =>
          refine avoids_word (isWord_of_keyword hcase) hrest.atWordEnd fun hsame => hother ?_
          rw [Keyword.letters_injective (hcase.symm.trans hsame)]
      | name hname => exact hname.avoids hreserved hrest.atWordEnd
      | @sqlType name => exact avoids_word name.isWord hrest.atWordEnd (name.free keyword hreserved)
      | @number number => exact avoids_word number.isWord hrest.atWordEnd (number.not_keyword keyword)
      | tableName hname => exact hname.avoids hreserved hrest.atWordEnd
      | qualified hschema hname =>
          rw [List.append_assoc]
          exact hschema.avoids hreserved rfl
      | @mark mark =>
          apply avoids_of_head
          intro c hc
          cases hc
          exact mark.isWordChar_char

end Phrase

/-! ### Phrases -/

theorem Begun.phrase {tokens : List Token} {s : List Char} (keyword : Keyword) (more : List Keyword)
    (h : Begun (keywords (keyword :: more) ++ tokens) s) :
    ∃ rest, phrase? ((keyword :: more).map Keyword.letters) s = some rest ∧ Written true tokens rest := by
  induction more generalizing keyword s with
  | nil => exact h.keyword
  | cons next more ih =>
      obtain ⟨after, hafter, hwritten⟩ := h.keyword
      obtain ⟨text, htext, hbegun⟩ := hwritten.gap rfl
      obtain ⟨rest, hrest, htokens⟩ := ih next hbegun
      refine ⟨rest, ?_, htokens⟩
      rw [List.map_cons, List.map_cons, phrase?, hafter, Option.bind_some, htext, Option.bind_some]
      · exact hrest
      · exact List.cons_ne_nil _ _

theorem Begun.beginsWith {tokens : List Token} {s : List Char} (keyword : Keyword) (more : List Keyword)
    (h : Begun (keywords (keyword :: more) ++ tokens) s) :
    beginsWith ((keyword :: more).map Keyword.letters) s = true := by
  obtain ⟨rest, hrest, hwritten⟩ := h.phrase keyword more
  rw [Sql.beginsWith, hrest, Option.any_some, hwritten.atWordEnd]

theorem gap?_of_not_atWordEnd {s : List Char} (h : Text.atWordEnd s = false) : gap? s = none := by
  cases s with
  | nil => rfl
  | cons c rest =>
      rw [Text.atWordEnd, Bool.not_eq_false'] at h
      rw [gap?, Text.isBlank_of_isWordChar h, if_neg Bool.false_ne_true]

theorem parenthesis?_of_not_atWordEnd {s : List Char} (h : Text.atWordEnd s = false) : parenthesis? s = none := by
  cases s with
  | nil => rfl
  | cons c rest =>
      rw [Text.atWordEnd, Bool.not_eq_false'] at h
      have hblank := Bool.eq_false_iff.1 (Text.isBlank_of_isWordChar h)
      rw [parenthesis?, Text.skipBlanks, List.dropWhile_cons_of_neg hblank]
      split
      · next heq =>
          cases heq
          exact absurd h (by decide)
      · rfl

theorem Avoids.phrase {keyword : Keyword} {s : List Char} (h : Avoids keyword s) (next : String) (more : List String) :
    phrase? (keyword.letters :: next :: more) s = none := by
  rw [phrase?]
  · cases hrest : keyword? keyword.letters.toList s with
    | none => rfl
    | some rest => rw [Option.bind_some, gap?_of_not_atWordEnd (h rest hrest), Option.bind_none]
  · exact List.cons_ne_nil _ _

theorem Avoids.phrase_atWordEnd {keyword : Keyword} {s : List Char} (h : Avoids keyword s) (more : List String) :
    (phrase? (keyword.letters :: more) s).filter Text.atWordEnd = none := by
  cases more with
  | nil =>
      rw [phrase?, Option.filter_eq_none_iff]
      intro rest hrest
      rw [h rest hrest]
      exact Bool.false_ne_true
  | cons next more => rw [h.phrase, Option.filter_none]

theorem Avoids.beginsWith {keyword : Keyword} {s : List Char} (h : Avoids keyword s) (more : List String) :
    beginsWith (keyword.letters :: more) s = false := by
  rw [Sql.beginsWith, ← Option.isSome_filter, h.phrase_atWordEnd, Option.isSome_none]

/-! ### Searches -/

/-- The reader reads nothing that does not begin with the keyword. -/
def Heeds {α : Type} (keyword : Keyword) (reader : List Char → Option α) : Prop :=
  ∀ s, Avoids keyword s → reader s = none

theorem search_wordChars {α : Type} {reader : List Char → Option α} {word : List Char}
    (hword : ∀ c ∈ word, isWordChar c = true) (s : List Char) :
    search reader true (word ++ s) = search reader true s := by
  induction word with
  | nil => rfl
  | cons c word ih =>
      rw [List.forall_mem_cons] at hword
      rw [List.cons_append, search, if_pos rfl, Option.none_or, hword.1, ih hword.2]

section Search

variable {α : Type} {keyword : Keyword} {reader : List Char → Option α} (hreader : Heeds keyword reader) {s : List Char}
include hreader

theorem search_of_head (hhead : ∀ c ∈ s.head?, isWordChar c = false) (inWord : Bool) :
    search reader inWord s = search reader false s := by
  cases s with
  | nil => rfl
  | cons c rest => rw [search, search, hreader _ (avoids_of_head hhead), ite_self, ite_self]

theorem search_cons {c : Char} (hc : isWordChar c = false) (inWord : Bool) :
    search reader inWord (c :: s) = search reader false s := by
  rw [search_of_head hreader (by simpa using hc), search, if_neg Bool.false_ne_true, hc,
    hreader _ (avoids_of_head (by simpa using hc)), Option.none_or]

theorem search_gap {gap : List Char} (hgap : IsGap gap) : search reader false (gap ++ s) = search reader false s := by
  induction gap with
  | nil => rfl
  | cons c gap ih =>
      rw [IsGap, List.forall_mem_cons] at hgap
      rw [List.cons_append, search_cons hreader (isWordChar_eq_false hgap.1), ih hgap.2]

theorem search_word {word : List Char} (hword : IsWord word) (hend : Text.atWordEnd s = true)
    (hne : word.map Char.toLower ≠ keyword.letters.toList) :
    search reader false (word ++ s) = search reader false s := by
  have hnone := hreader _ (avoids_word hword hend hne)
  obtain ⟨c, more, rfl⟩ := List.exists_cons_of_ne_nil hword.ne_nil
  have hplain := hword.plain
  rw [List.forall_mem_cons] at hplain
  rw [List.cons_append] at hnone ⊢
  rw [search, if_neg Bool.false_ne_true, hnone, Option.none_or, hplain.1.isWordChar,
    search_wordChars fun c hc => (hplain.2 c hc).isWordChar, search_of_head hreader (head_of_atWordEnd hend)]

variable (hreserved : keyword ∈ reserved)
include hreserved

theorem Quoted.search {name : Name} {text : List Char} (h : Quoted name.word text) (hend : Text.atWordEnd s = true) :
    search reader false (text ++ s) = search reader false s := by
  cases h with
  | bare => exact search_word hreader name.isWord hend (name.free keyword hreserved)
  | @between quote hquote =>
      -- the quotes are no word characters, so the name between them is met as a word of its own
      obtain ⟨hfirst, hlast⟩ := isQuote_of_mem_quotes hquote
      have hinner : Text.atWordEnd (quote.2 :: s) = true := atWordEnd_cons (isWordChar_of_isQuote hlast) s
      rw [List.cons_append, List.append_assoc, search_cons hreader (isWordChar_of_isQuote hfirst),
        List.singleton_append, search_word hreader name.isWord hinner (name.free keyword hreserved),
        search_cons hreader (isWordChar_of_isQuote hlast)]

/-- A search passes over every other token. -/
theorem Token.Spells.search {token : Token} {text : List Char} {tokens : List Token} (h : token.Spells text)
    (hother : token ≠ .keyword keyword) (hrest : Written token.isWord tokens s) :
    Sql.search reader false (text ++ s) = Sql.search reader false s := by
  cases h with
  | keyword hcase =>
      refine search_word hreader (isWord_of_keyword hcase) hrest.atWordEnd fun hsame => hother ?_
      rw [Keyword.letters_injective (hcase.symm.trans hsame)]
  | name hname => exact hname.search hreader hreserved hrest.atWordEnd
  | @sqlType name => exact search_word hreader name.isWord hrest.atWordEnd (name.free keyword hreserved)
  | @number number => exact search_word hreader number.isWord hrest.atWordEnd (number.not_keyword keyword)
  | tableName hname => exact hname.search hreader hreserved hrest.atWordEnd
  | qualified hschema hname =>
      rw [List.append_assoc, List.cons_append, hschema.search hreader hreserved rfl, search_cons hreader (by decide),
        hname.search hreader hreserved hrest.atWordEnd]
  | @mark mark => exact search_cons hreader mark.isWordChar_char false

theorem Written.search_append {skipped tokens : List Token} (hskipped : Token.keyword keyword ∉ skipped)
    {afterWord : Bool} (h : Written afterWord (skipped ++ tokens) s) :
    ∃ afterWord rest, Written afterWord tokens rest ∧ Sql.search reader false s = Sql.search reader false rest := by
  induction skipped generalizing afterWord s with
  | nil => exact ⟨afterWord, s, h, rfl⟩
  | cons token skipped ih =>
      rw [List.mem_cons, not_or] at hskipped
      cases h with
      | token hgap _ htoken hrest =>
          obtain ⟨after, rest, hwritten, hsearch⟩ := ih hskipped.2 hrest
          refine ⟨after, rest, hwritten, ?_⟩
          rw [search_gap hreader hgap, htoken.search hreader hreserved (Ne.symm hskipped.1) hrest, hsearch]

theorem Written.search_eq_none {tokens : List Token} (hother : Token.keyword keyword ∉ tokens) {afterWord : Bool}
    (h : Written afterWord tokens s) : Sql.search reader false s = none := by
  rw [← List.append_nil tokens] at h
  obtain ⟨after, rest, hwritten, hsearch⟩ := h.search_append hreader hreserved hother
  cases hwritten with
  | done hgap => rw [hsearch, ← List.append_nil rest, search_gap hreader hgap, search]

omit hreserved in
theorem Written.search_eq_some {token : Token} {tokens : List Token} {afterWord : Bool}
    (h : Written afterWord (token :: tokens) s) {value : α} (hvalue : reader (Text.skipBlanks s) = some value) :
    Sql.search reader false s = some value := by
  cases h with
  | @token _ gap _ text _ rest hgap _ htoken hrest =>
      rw [Text.skipBlanks, List.dropWhile_append_of_pos hgap, ← Text.skipBlanks, skipBlanks_of_spells htoken] at hvalue
      obtain ⟨c, more, rfl⟩ := List.exists_cons_of_ne_nil htoken.ne_nil
      rw [search_gap hreader hgap]
      rw [List.cons_append] at hvalue ⊢
      rw [Sql.search, if_neg Bool.false_ne_true, hvalue, Option.some_or]

end Search

end DomainModel.Sql.Grammar
