import DomainModel.Proofs.SqlTokens
import DomainModel.Proofs.TextNesting
import Mathlib.Data.List.Forall2

/-! The definitions in the body of a table. The commas between them are those outside parentheses, as the
tokens of a column or clause close every parenthesis that they open. A definition is told apart as a clause by
its first word, which is never the name of a column. A column is then read word by word, and its flags are
searched for behind its name, its type and its numbers; the key of a clause is the first list after `PRIMARY
KEY`. -/

namespace DomainModel.Sql.Grammar

open Text (isBlank isWordChar)

/-! ### Parts between commas -/

/-- How deep a token leads into parentheses; none if it is a comma outside, or closes nothing. -/
def nest (depth : Nat) : Token → Option Nat
  | .mark .opening => some (depth + 1)
  | .mark .closing => if depth = 0 then none else some (depth - 1)
  | .mark .comma => if depth = 0 then none else some depth
  | _ => some depth

theorem nest_of_isWord {token : Token} (h : token.isWord = true) (depth : Nat) : nest depth token = some depth := by
  cases token with
  | mark => cases h
  | _ => rfl

theorem nest_mark {mark : Mark} {depth deeper : Nat} (h : nest depth (.mark mark) = some deeper) :
    (mark.char == ',' && depth == 0) = false ∧ Text.depthAfter '(' ')' depth mark.char = deeper := by
  cases mark with
  | opening => exact ⟨rfl, Option.some.inj h⟩
  | closing =>
      rw [nest] at h
      split at h
      · cases h
      · exact ⟨rfl, Option.some.inj h⟩
  | comma =>
      rw [nest] at h
      split at h
      · cases h
      · next hdepth =>
          refine ⟨?_, Option.some.inj h⟩
          rw [beq_eq_false_iff_ne.2 hdepth, Bool.and_false]

/-- What stays on one level stays there among other marks, too. -/
theorem foldlM_nest {tokens : List Token} (hopening : Token.mark .opening ∉ tokens)
    (hclosing : Token.mark .closing ∉ tokens) {depth : Nat} (hcomma : Token.mark .comma ∈ tokens → depth ≠ 0) :
    tokens.foldlM nest depth = some depth := by
  induction tokens with
  | nil => rfl
  | cons token tokens ih =>
      rw [List.mem_cons, not_or] at hopening hclosing
      have hrest := ih hopening.2 hclosing.2 fun hmem => hcomma (List.mem_cons_of_mem _ hmem)
      have hfirst : nest depth token = some depth := by
        cases token with
        | mark mark =>
            cases mark with
            | opening => exact absurd rfl hopening.1
            | closing => exact absurd rfl hclosing.1
            | comma => exact if_neg (hcomma List.mem_cons_self)
        | _ => rfl
      rw [List.foldlM_cons, hfirst]
      exact hrest

theorem foldlM_nest_inParentheses {tokens : List Token} (hopening : Token.mark .opening ∉ tokens)
    (hclosing : Token.mark .closing ∉ tokens) (depth : Nat) :
    (inParentheses tokens).foldlM nest depth = some depth := by
  change (tokens ++ [Token.mark .closing]).foldlM nest (depth + 1) = some depth
  rw [List.foldlM_append, foldlM_nest hopening hclosing fun _ => Nat.succ_ne_zero depth]
  rfl

theorem passedOver_of_plain {front : List Char} (h : ∀ c ∈ front, ∀ mark : Mark, c ≠ mark.char) (depth : Nat) :
    Text.PassedOver '(' ')' depth front :=
  .plain (fun c hc => ⟨h c hc .opening, h c hc .closing, h c hc .comma⟩) depth

/-- A text whose tokens close all that they open is not split. -/
theorem Written.splitOutside {tokens : List Token} {afterWord : Bool} {text : List Char}
    (h : Written afterWord tokens text) {depth deeper : Nat} (hdepth : tokens.foldlM nest depth = some deeper)
    (s : List Char) :
    Text.splitOutside '(' ')' depth (text ++ s) =
      text.foldr Text.prependToFirst (Text.splitOutside '(' ')' deeper s) := by
  induction h generalizing depth with
  | done hgap =>
      cases hdepth
      exact Text.PassedOver.blanks rfl rfl hgap _ s
  | @token _ gap token text tokens rest hgap _ htoken _ ih =>
      rw [List.foldlM_cons] at hdepth
      obtain ⟨next, hnext, hrest⟩ := Option.bind_eq_some_iff.1 hdepth
      rw [List.append_assoc, List.append_assoc, Text.PassedOver.blanks rfl rfl hgap, List.foldr_append,
        List.foldr_append]
      congr 1
      -- only marks lead into parentheses or out of them
      by_cases hword : token.isWord = true
      · have hplain : ∀ c ∈ text, ∀ mark : Mark, c ≠ mark.char := by
          rintro c hc mark rfl
          obtain ⟨other, rfl, -⟩ := mark.standsAlone.mark_of_spells htoken hc
          cases hword
        rw [nest_of_isWord hword] at hnext
        cases hnext
        rw [passedOver_of_plain hplain, ih hrest]
      · cases htoken with
        | @mark mark =>
            obtain ⟨hsplit, hafter⟩ := nest_mark hnext
            rw [List.singleton_append, Text.splitOutside, hsplit, hafter, if_neg Bool.false_ne_true, ih hrest]
            rfl
        | _ => exact absurd rfl hword

theorem Written.splitOutside_parts {parts : List (List Token)} (hsome : parts ≠ [])
    (hclosed : ∀ part ∈ parts, part.foldlM nest 0 = some 0) {s : List Char} (h : Written false (withCommas parts) s) :
    List.Forall₂ (Written false) parts (Text.splitOutside '(' ')' 0 s) := by
  induction parts generalizing s with
  | nil => exact absurd rfl hsome
  | cons part parts ih =>
      rw [List.forall_mem_cons] at hclosed
      cases parts with
      | nil =>
          rw [Text.PassedOver.splitOutside_self (h.splitOutside hclosed.1)]
          exact .cons h .nil
      | cons next parts =>
          obtain ⟨front, back, rfl, hfront, hback⟩ := Written.cut h
          rw [Mark.char, Text.PassedOver.splitOutside_comma (hfront.splitOutside hclosed.1)]
          exact .cons hfront (ih (List.cons_ne_nil _ _) hclosed.2 hback)

theorem Written.splitAt_parts {parts : List (List Token)} (hsome : parts ≠ [])
    (hcomma : ∀ part ∈ parts, Token.mark .comma ∉ part) {s : List Char} (h : Written false (withCommas parts) s) :
    List.Forall₂ (Written false) parts (Text.splitAt ',' s) := by
  induction parts generalizing s with
  | nil => exact absurd rfl hsome
  | cons part parts ih =>
      rw [List.forall_mem_cons] at hcomma
      cases parts with
      | nil =>
          have hfree : ',' ∉ s := Written.not_mem h hcomma.1
          rw [Text.splitAt_of_not_mem hfree]
          exact .cons h .nil
      | cons next parts =>
          obtain ⟨front, back, rfl, hfront, hback⟩ := Written.cut h
          have hfree : ',' ∉ front := Written.not_mem hfront hcomma.1
          rw [show Mark.comma.char = ',' from rfl, Text.splitAt_append hfree]
          exact .cons hfront (ih (List.cons_ne_nil _ _) hcomma.2 hback)

theorem mem_withCommas {parts : List (List Token)} {token : Token} (h : token ∈ withCommas parts) :
    token = .mark .comma ∨ ∃ part ∈ parts, token ∈ part := by
  induction parts with
  | nil => cases h
  | cons part parts ih =>
      cases parts with
      | nil => exact .inr ⟨part, List.mem_cons_self, h⟩
      | cons next parts =>
          rw [withCommas, List.mem_append, List.mem_cons] at h
          · rcases h with hpart | hcomma | hrest
            · exact .inr ⟨part, List.mem_cons_self, hpart⟩
            · exact .inl hcomma
            · refine (ih hrest).imp_right ?_
              rintro ⟨other, hother, htoken⟩
              exact ⟨other, List.mem_cons_of_mem part hother, htoken⟩
          · exact List.cons_ne_nil _ _

/-! ### Columns and clauses as parts -/

theorem foldlM_nest_append {before after : List Token} {depth : Nat} (hbefore : before.foldlM nest depth = some depth)
    (hafter : after.foldlM nest depth = some depth) : (before ++ after).foldlM nest depth = some depth := by
  rw [List.foldlM_append, hbefore]
  exact hafter

theorem mem_names {names : List Name} {token : Token} (h : token ∈ withCommas (names.map fun name => [.name name])) :
    token = .mark .comma ∨ ∃ name, token = .name name := by
  refine (mem_withCommas h).imp_right ?_
  rintro ⟨part, hpart, htoken⟩
  obtain ⟨name, -, rfl⟩ := List.mem_map.1 hpart
  exact ⟨name, List.mem_singleton.1 htoken⟩

theorem not_mem_names (mark : Mark) (h : mark ≠ .comma) (names : List Name) :
    Token.mark mark ∉ withCommas (names.map fun name => [.name name]) := by
  intro hmem
  rcases mem_names hmem with hcomma | ⟨name, hname⟩
  · cases hcomma
    exact h rfl
  · cases hname

theorem keyword_not_mem_nameList (keyword : Keyword) (names : List Name) :
    Token.keyword keyword ∉ nameList names := by
  intro hmem
  rw [nameList, inParentheses, List.mem_cons, List.mem_append, List.mem_singleton] at hmem
  rcases hmem with hopening | hnames | hclosing
  · cases hopening
  · rcases mem_names hnames with hcomma | ⟨name, hname⟩
    · cases hcomma
    · cases hname
  · cases hclosing

theorem foldlM_nest_nameList (names : List Name) : (nameList names).foldlM nest 0 = some 0 :=
  foldlM_nest_inParentheses (not_mem_names .opening (by decide) names) (not_mem_names .closing (by decide) names) 0

theorem Arguments.foldlM_nest (arguments : Arguments) : arguments.tokens.foldlM nest 0 = some 0 := by
  cases arguments <;> rfl

theorem Clause.foldlM_nest (clause : Clause) : clause.tokens.foldlM nest 0 = some 0 := by
  cases clause with
  | primaryKey constraint names =>
      have hlist : (keywords [.primary, .key] ++ nameList names).foldlM nest 0 = some 0 :=
        foldlM_nest_append rfl (foldlM_nest_nameList names)
      cases constraint with
      | none => exact hlist
      | some constraint => exact foldlM_nest_append rfl hlist
  | unique names => exact foldlM_nest_append rfl (foldlM_nest_nameList names)
  | foreignKey names table referenced =>
      refine foldlM_nest_append rfl (foldlM_nest_append (foldlM_nest_nameList names) ?_)
      exact foldlM_nest_nameList referenced

theorem flags_isWord (flags : List Flag) :
    ∀ token ∈ flags.flatMap fun flag => keywords flag.words, token.isWord = true := by
  intro token htoken
  obtain ⟨flag, -, hflag⟩ := List.mem_flatMap.1 htoken
  obtain ⟨keyword, -, rfl⟩ := List.mem_map.1 hflag
  rfl

theorem Column.foldlM_nest (column : Column) : column.tokens.foldlM nest 0 = some 0 := by
  have hmark (mark : Mark) : Token.mark mark ∉ column.flags.flatMap fun flag => keywords flag.words := by
    intro hmem
    cases flags_isWord column.flags _ hmem
  change (column.arguments.tokens ++ _).foldlM nest 0 = some 0
  refine foldlM_nest_append column.arguments.foldlM_nest ?_
  exact Grammar.foldlM_nest (hmark .opening) (hmark .closing) fun hmem => absurd hmem (hmark .comma)

theorem Item.exists_cons (item : Item) : ∃ token tokens, item.tokens = token :: tokens := by
  cases item with
  | column => exact ⟨_, _, rfl⟩
  | clause part =>
      cases part with
      | primaryKey constraint => cases constraint <;> exact ⟨_, _, rfl⟩
      | unique => exact ⟨_, _, rfl⟩
      | foreignKey => exact ⟨_, _, rfl⟩

/-- **The definitions of a body are its columns and clauses.** -/
theorem definitions_of_written {items : List Item} (hsome : items ≠ []) {body : List Char}
    (h : Written false (withCommas (items.map Item.tokens)) body) :
    List.Forall₂ (fun item part => Begun item.tokens part) items (definitions body) := by
  have hclosed : ∀ part ∈ items.map Item.tokens, part.foldlM nest 0 = some 0 := by
    rw [List.forall_mem_map]
    intro item _
    cases item with
    | column part => exact part.foldlM_nest
    | clause part => exact part.foldlM_nest
  have hpieces := h.splitOutside_parts (by simpa using hsome) hclosed
  rw [List.forall₂_map_left_iff] at hpieces
  rw [definitions]
  generalize Text.splitOutside '(' ')' 0 body = pieces at hpieces
  clear hsome h hclosed
  induction hpieces with
  | nil => exact .nil
  | @cons item piece items pieces hpiece _ ih =>
      obtain ⟨token, tokens, htokens⟩ := item.exists_cons
      have hbegun : Begun item.tokens (Text.trimChars piece) := by
        rw [htokens] at hpiece ⊢
        exact hpiece.trim
      rw [List.map_cons, List.filter_cons_of_pos]
      · exact .cons hbegun ih
      · simpa using hbegun.ne_nil

/-! ### Reading a column -/

/-- A text goes on as long as a character does not come up. -/
theorem bne_of_not_mem {c : Char} {s : List Char} (h : c ∉ s) : ∀ d ∈ s, (d != c) = true := by
  intro d hd
  rw [bne_iff_ne]
  rintro rfl
  exact h hd

theorem IsWord.takeWhile {word s : List Char} (hword : IsWord word) (hend : Text.atWordEnd s = true) :
    (word ++ s).takeWhile isWordChar = word ∧ (word ++ s).dropWhile isWordChar = s :=
  Text.takeWhile_append_run (fun c hc => (hword.plain c hc).isWordChar) (head_of_atWordEnd hend)

theorem Written.parenthesis_eq_none {tokens : List Token} {afterWord : Bool} {s : List Char}
    (h : Written afterWord tokens s) (hwords : ∀ token ∈ tokens, token.isWord = true) : parenthesis? s = none := by
  rw [parenthesis?]
  split
  · next rest hopening =>
      have hmem : Mark.opening.char ∈ s := by
        apply (List.dropWhile_suffix isBlank).subset
        rw [show s.dropWhile isBlank = '(' :: rest from hopening]
        exact List.mem_cons_self
      exact absurd hmem (h.not_mem fun hmark => Bool.false_ne_true (hwords _ hmark))
  · rfl

/-- The number after a type, when it is the only one. -/
def Arguments.digits? : Arguments → Option (List Char)
  | .one number => some number.digits
  | _ => none

theorem Arguments.digits?_bind_word32? (arguments : Arguments) :
    arguments.digits?.bind word32? = arguments.length? := by
  cases arguments <;> rfl

theorem isDigit_of_head {s : List Char} (h : Text.atWordEnd s = true) : ∀ c ∈ s.head?, c.isDigit = false := by
  intro c hc
  rw [Bool.eq_false_iff]
  intro hdigit
  have hword := (IsPlain.of_isDigit hdigit).isWordChar
  rw [head_of_atWordEnd h c hc] at hword
  cases hword

/-- What follows a number in parentheses decides whether it is a length. -/
theorem lengthDigits?_of_number {number : Number} {mark : Mark} {tokens : List Token} {afterWord : Bool} {s : List Char}
    (h : Written afterWord (.mark .opening :: .number number :: .mark mark :: tokens) s) :
    lengthDigits? s = if mark = .closing then some number.digits else none := by
  obtain ⟨inner, hinner, hwritten⟩ := h.opening
  have hbegun := hwritten.skipBlanks
  rw [lengthDigits?, hinner]
  simp only [Option.bind_eq_bind, Option.bind_some]
  generalize Text.skipBlanks inner = text at hbegun
  cases hbegun with
  | @intro _ _ _ rest htoken hrest =>
      cases htoken
      obtain ⟨htake, hdrop⟩ := Text.takeWhile_append_run number.isDigit (isDigit_of_head hrest.atWordEnd)
      have hnext := hrest.skipBlanks
      rw [htake, hdrop]
      generalize Text.skipBlanks rest = next at hnext
      cases hnext with
      | intro hmark =>
          cases hmark
          obtain ⟨c, more, hdigits⟩ := List.exists_cons_of_ne_nil number.some_digit
          rw [hdigits]
          cases mark <;> rfl

theorem Written.lengthDigits {arguments : Arguments} {tokens : List Token} {afterWord : Bool} {s : List Char}
    (h : Written afterWord (arguments.tokens ++ tokens) s) (hwords : ∀ token ∈ tokens, token.isWord = true) :
    lengthDigits? s = arguments.digits? := by
  cases arguments with
  | absent =>
      rw [lengthDigits?, h.parenthesis_eq_none hwords]
      rfl
  | one number => exact lengthDigits?_of_number h
  | two number more => exact lengthDigits?_of_number h

theorem skipOne_of_head {characters s : List Char} (hquotes : characters.all isQuote = true)
    (h : ∀ c ∈ s.head?, isQuote c = false) : skipOne characters s = s := by
  cases s with
  | nil => rfl
  | cons c rest =>
      rw [skipOne, if_neg]
      intro hmem
      have hquote := List.all_eq_true.1 hquotes c (List.contains_iff_mem.1 hmem)
      rw [h c rfl] at hquote
      cases hquote

theorem isQuote_eq_false {c : Char} (h : isBlank c = true ∨ IsPlain c) : isQuote c = false := by
  rw [Bool.eq_false_iff]
  intro hquote
  rcases h with hblank | hplain
  · rw [isBlank_of_isQuote hquote] at hblank
    cases hblank
  · have hword := hplain.isWordChar
    rw [isWordChar_of_isQuote hquote] at hword
    cases hword

/-- The name at the front of a column, quoted or not, and the gap behind it. -/
theorem Quoted.column {name : Name} {text s rest : List Char} (h : Quoted name.word text) (hgap : gap? s = some rest) :
    (skipOne ['`', '"', '['] (text ++ s)).takeWhile isWordChar = name.word ∧
      gap? (skipOne ['`', '"', ']'] ((skipOne ['`', '"', '['] (text ++ s)).dropWhile isWordChar)) = some rest := by
  obtain ⟨hblank, -⟩ := gap?_eq_some hgap
  have hclosing : skipOne ['`', '"', ']'] s = s :=
    skipOne_of_head (by decide) fun c hc => isQuote_eq_false (.inl (hblank c hc))
  have hend : ∀ c ∈ s.head?, isWordChar c = false := fun c hc => isWordChar_eq_false (hblank c hc)
  have hword : ∀ c ∈ name.word, isWordChar c = true := fun c hc => (name.isWord.plain c hc).isWordChar
  cases h with
  | bare =>
      have hopening : skipOne ['`', '"', '['] (name.word ++ s) = name.word ++ s := by
        apply skipOne_of_head (by decide)
        intro c hc
        rw [List.head?_append_of_ne_nil _ name.isWord.ne_nil] at hc
        exact isQuote_eq_false (.inr (name.isWord.plain c (List.mem_of_mem_head? hc)))
      obtain ⟨htake, hdrop⟩ := Text.takeWhile_append_run hword hend
      rw [hopening, htake, hdrop, hclosing]
      exact ⟨rfl, hgap⟩
  | @between quote hquote =>
      have hquotes : ['`', '"', '['].contains quote.1 = true ∧ ['`', '"', ']'].contains quote.2 = true := by
        revert quote
        decide
      have hinner : ∀ c ∈ (quote.2 :: s).head?, isWordChar c = false := by
        rintro c ⟨⟩
        exact isWordChar_of_isQuote (isQuote_of_mem_quotes hquote).2
      obtain ⟨htake, hdrop⟩ := Text.takeWhile_append_run hword hinner
      rw [List.cons_append, List.append_assoc, List.singleton_append, skipOne, if_pos hquotes.1, htake, hdrop, skipOne,
        if_pos hquotes.2]
      exact ⟨rfl, hgap⟩

theorem Begun.column {column : Column} {s : List Char} (h : Begun column.tokens s) :
    column? s = some
      { name := column.name.word, sqlType := column.sqlType.word, length := column.arguments.digits? } := by
  cases h with
  | @intro _ text _ after htoken hafter =>
      cases htoken with
      | name hname =>
          obtain ⟨rest, hgap, hrest⟩ := hafter.gap rfl
          obtain ⟨hword, hnext⟩ := hname.column hgap
          rw [column?]
          dsimp only
          rw [hword, hnext]
          cases hrest with
          | @intro _ _ _ behind htype hbehind =>
              cases htype
              obtain ⟨htake, hdrop⟩ := column.sqlType.isWord.takeWhile hbehind.atWordEnd
              have hlength := hbehind.lengthDigits (flags_isWord column.flags)
              simp only [Option.bind_eq_bind, Option.bind_some]
              rw [htake, hdrop, hlength, if_neg]
              · rfl
              · simp [column.name.isWord.ne_nil, column.sqlType.isWord.ne_nil]

/-! ### Flags -/

theorem Flag.exists_words (flag : Flag) : ∃ keyword more, flag.words = keyword :: more ∧ keyword ∈ reserved := by
  cases flag with
  | notNull => exact ⟨.not, [.null], rfl, by decide⟩
  | unique => exact ⟨.unique, [], rfl, by decide⟩
  | primaryKey => exact ⟨.primary, [.key], rfl, by decide⟩

/-- Two flags have no word in common. -/
theorem Flag.eq_of_mem {flag other : Flag} {keyword : Keyword} (h : keyword ∈ flag.words)
    (hother : keyword ∈ other.words) : other = flag := by
  revert h hother
  cases flag <;> cases other <;> cases keyword <;> decide

theorem not_mem_keywords {keyword : Keyword} {words : List Keyword} (h : keyword ∉ words) :
    Token.keyword keyword ∉ keywords words := by
  intro hmem
  obtain ⟨word, hword, hsame⟩ := List.mem_map.1 hmem
  cases hsame
  exact h hword

theorem Flag.heeds {flag : Flag} {keyword : Keyword} {more : List Keyword} (h : flag.words = keyword :: more) :
    Heeds keyword fun s => (phrase? (flag.words.map Keyword.letters) s).filter Text.atWordEnd := by
  rw [h]
  exact fun s hs => hs.phrase_atWordEnd _

theorem Written.mentions {flags : List Flag} {afterWord : Bool} {s : List Char}
    (h : Written afterWord (flags.flatMap fun flag => keywords flag.words) s) (flag : Flag) :
    Sql.mentions (flag.words.map Keyword.letters) s = flags.contains flag := by
  obtain ⟨keyword, more, hwords, hreserved⟩ := flag.exists_words
  have hreader := Flag.heeds hwords
  have hown : keyword ∈ flag.words := by
    rw [hwords]
    exact List.mem_cons_self
  induction flags generalizing afterWord s with
  | nil =>
      rw [Sql.mentions, h.search_eq_none hreader hreserved List.not_mem_nil]
      rfl
  | cons first flags ih =>
      rw [List.flatMap_cons] at h
      by_cases hfirst : first = flag
      · rw [hfirst, hwords] at h
        obtain ⟨rest, hphrase, hrest⟩ := h.skipBlanks.phrase keyword more
        have hfound : (phrase? (flag.words.map Keyword.letters) (Text.skipBlanks s)).filter Text.atWordEnd =
            some rest := by
          rw [hwords, hphrase, Option.filter_some, if_pos hrest.atWordEnd]
        rw [Sql.mentions, h.search_eq_some hreader hfound, hfirst]
        simp
      · have hskipped := not_mem_keywords fun hmem => hfirst (Flag.eq_of_mem hown hmem)
        obtain ⟨after, rest, hrest, hsearch⟩ := h.search_append hreader hreserved hskipped
        have hfound := ih hrest
        rw [Sql.mentions] at hfound ⊢
        rw [hsearch, hfound, List.contains_cons, beq_eq_false_iff_ne.2 (Ne.symm hfirst), Bool.false_or]

/-- **Exactly the flags of a column are found in it.** -/
theorem Begun.mentions {column : Column} {s : List Char} (h : Begun column.tokens s) (flag : Flag) :
    Sql.mentions (flag.words.map Keyword.letters) s = column.flags.contains flag := by
  obtain ⟨keyword, more, hwords, hreserved⟩ := flag.exists_words
  have hskipped : Token.keyword keyword ∉ .name column.name :: .sqlType column.sqlType :: column.arguments.tokens := by
    cases column.arguments <;> simp [Arguments.tokens, inParentheses]
  obtain ⟨after, rest, hrest, hsearch⟩ := h.written.search_append (Flag.heeds hwords) hreserved hskipped
  rw [← hrest.mentions flag, Sql.mentions, hsearch, ← Sql.mentions]

theorem Name.lowerChars (name : Name) : Text.lowerChars name.word = name.word.map Char.toLower :=
  Text.lowerChars_of_ascii fun c hc => (name.isWord.plain c hc).ascii

/-- **A column gives its field.** -/
theorem Begun.field {column : Column} {s : List Char} (h : Begun column.tokens s) (keys : List (List Char)) :
    field? keys s = some (column.field keys) := by
  have hkey : Sql.mentions ["primary", "key"] s = column.flags.contains .primaryKey := h.mentions .primaryKey
  have hrequired : Sql.mentions ["not", "null"] s = column.flags.contains .notNull := h.mentions .notNull
  have hunique : Sql.mentions ["unique"] s = column.flags.contains .unique := h.mentions .unique
  rw [field?, h.column, Option.map_some, hkey, hrequired, hunique, column.name.lowerChars,
    column.arguments.digits?_bind_word32?]
  simp only [beq_iff_eq]
  rfl

/-! ### Clauses -/

theorem Avoids.parenthesis {keyword : Keyword} {s : List Char} (h : Avoids keyword s) :
    (keyword? keyword.letters.toList s).bind parenthesis? = none := by
  rw [Option.bind_eq_none_iff]
  intro rest hrest
  exact parenthesis?_of_not_atWordEnd (h rest hrest)

theorem Avoids.goesOnAsIndex {keyword : Keyword} {s : List Char} (h : Avoids keyword s) :
    (keyword? keyword.letters.toList s).any goesOnAsIndex = false := by
  rw [Option.any_eq_false]
  intro rest hrest
  rw [Sql.goesOnAsIndex, parenthesis?_of_not_atWordEnd (h rest hrest), gap?_of_not_atWordEnd (h rest hrest)]

/-- A column is no clause, as its name is none of the words that begin one. -/
theorem Begun.isTableClause_column {column : Column} {s : List Char} (h : Begun column.tokens s) :
    isTableClause s = false := by
  have havoids (keyword : Keyword) (hreserved : keyword ∈ reserved) : Avoids keyword s :=
    h.avoids hreserved nofun
  have hconstraint : Sql.beginsWith ["constraint"] s = false := (havoids .constraint (by decide)).beginsWith []
  have hprimary : Sql.beginsWith ["primary", "key"] s = false := (havoids .primary (by decide)).beginsWith ["key"]
  have hunique : Sql.beginsWith ["unique"] s = false := (havoids .unique (by decide)).beginsWith []
  have hforeign : Sql.beginsWith ["foreign", "key"] s = false := (havoids .foreign (by decide)).beginsWith ["key"]
  have hcheck : (keyword? "check".toList s).bind parenthesis? = none := (havoids .check (by decide)).parenthesis
  have hkey : (keyword? "key".toList s).any goesOnAsIndex = false := (havoids .key (by decide)).goesOnAsIndex
  have hindex : (keyword? "index".toList s).any goesOnAsIndex = false := (havoids .index (by decide)).goesOnAsIndex
  rw [isTableClause, hconstraint, hprimary, hunique, hforeign, hcheck, hkey, hindex]
  rfl

theorem Begun.isTableClause_clause {clause : Clause} {s : List Char} (h : Begun clause.tokens s) :
    isTableClause s = true := by
  rw [isTableClause]
  simp only [Bool.or_eq_true]
  refine .inl (.inl (.inl ?_))
  cases clause with
  | primaryKey constraint names =>
      cases constraint with
      | none => exact .inl (.inl (.inr (h.beginsWith .primary [.key])))
      | some constraint => exact .inl (.inl (.inl (h.beginsWith .constraint [])))
  | unique names => exact .inl (.inr (h.beginsWith .unique []))
  | foreignKey names table referenced => exact .inr (h.beginsWith .foreign [.key])

theorem unquote_append (name : Name) {front back : List Char} (hfront : ∀ c ∈ front, isQuote c = true)
    (hback : ∀ c ∈ back, isQuote c = true) : unquote (front ++ (name.word ++ back)) = name.word := by
  have hplain : ∀ c ∈ name.word, isQuote c = false := fun c hc => isQuote_eq_false (.inr (name.isWord.plain c hc))
  have hleft : (name.word ++ back).dropWhile isQuote = name.word ++ back := by
    obtain ⟨c, more, hword⟩ := List.exists_cons_of_ne_nil name.isWord.ne_nil
    have hc := hplain c (by rw [hword]; exact List.mem_cons_self)
    rw [hword, List.cons_append, List.dropWhile_cons_of_neg (Bool.eq_false_iff.1 hc)]
  change ((front ++ (name.word ++ back)).dropWhile isQuote).rdropWhile isQuote = name.word
  rw [List.dropWhile_append_of_pos hfront, hleft, rdropWhile_append, List.rdropWhile_eq_nil_iff.2 hback,
    List.append_nil]
  exact fun c hc => hplain c (List.mem_of_getLast? hc)

theorem Quoted.unquote {name : Name} {text : List Char} (h : Quoted name.word text) : unquote text = name.word := by
  cases h with
  | bare =>
      have hnone : ∀ c ∈ ([] : List Char), isQuote c = true := nofun
      have hbare := unquote_append name hnone hnone
      rwa [List.nil_append, List.append_nil] at hbare
  | @between quote hquote =>
      obtain ⟨hfirst, hlast⟩ := isQuote_of_mem_quotes hquote
      have hfront : ∀ c ∈ [quote.1], isQuote c = true := List.forall_mem_singleton.2 hfirst
      exact unquote_append name hfront (List.forall_mem_singleton.2 hlast)

theorem Written.names {names : List Name} {s : List Char}
    (h : Written false (withCommas (names.map fun name => [.name name])) s) :
    ((Text.splitAt ',' s).map fun part => Text.lowerChars (unquote (Text.trimChars part))).filter (!·.isEmpty) =
      names.map (·.word.map Char.toLower) := by
  by_cases hsome : names = []
  · subst hsome
    cases h with
    | done hgap =>
        have hfree : ',' ∉ s := fun hmem => absurd (hgap _ hmem) (by decide)
        have htrim : Text.trimChars s = [] := by rw [Text.trimChars, skipBlanks_gap hgap]; rfl
        rw [Text.splitAt_of_not_mem hfree, List.map_singleton, htrim]
        rfl
  · have hpieces := h.splitAt_parts (by simpa using hsome) (by simp)
    rw [List.forall₂_map_left_iff] at hpieces
    generalize Text.splitAt ',' s = pieces at hpieces
    clear h hsome
    induction hpieces with
    | nil => rfl
    | @cons name piece names pieces hpiece _ ih =>
        have hlower : Text.lowerChars (unquote (Text.trimChars piece)) = name.word.map Char.toLower := by
          cases hpiece.trim_singleton with
          | name hname => rw [hname.unquote, name.lowerChars]
        rw [List.map_cons, hlower, List.filter_cons_of_pos, ih, List.map_cons]
        simpa using name.isWord.ne_nil

theorem heeds_keyListHere? : Heeds .primary keyListHere? := by
  intro s hs
  rw [keyListHere?]
  have hphrase : phrase? ["primary", "key"] s = none := hs.phrase "key" []
  rw [hphrase]
  rfl

/-- A search finds the key that a clause lists. -/
theorem Written.keyList {names : List Name} {afterWord : Bool} {s : List Char}
    (h : Written afterWord (keywords [.primary, .key] ++ nameList names) s) :
    ∃ list, search keyListHere? false s = some list ∧
      Written false (withCommas (names.map fun name => [.name name])) list := by
  obtain ⟨rest, hphrase, hrest⟩ := h.skipBlanks.phrase .primary [.key]
  obtain ⟨inner, hinner, hwritten⟩ := hrest.opening
  obtain ⟨list, back, rfl, hlist, -⟩ := hwritten.cut
  refine ⟨list, h.search_eq_some heeds_keyListHere? ?_, hlist⟩
  have hphrase : phrase? ["primary", "key"] (Text.skipBlanks s) = some rest := hphrase
  have hclosing : (list ++ Mark.closing.char :: back).contains ')' = true := by
    rw [List.contains_iff_mem]
    exact List.mem_append_right _ List.mem_cons_self
  have hfree : ')' ∉ list := hlist.not_mem (not_mem_names .closing (by decide) names)
  have hend : ∀ c ∈ (Mark.closing.char :: back).head?, (c != ')') = false := by
    rintro c ⟨⟩
    rfl
  obtain ⟨htake, -⟩ := Text.takeWhile_append_run (bne_of_not_mem hfree) hend
  rw [keyListHere?, hphrase, Option.bind_some, hinner]
  simp only [Option.bind_eq_bind, Option.bind_some]
  rw [if_pos hclosing, htake]

/-- **A clause lists its key.** -/
theorem Begun.listedKeys {clause : Clause} {s : List Char} (h : Begun clause.tokens s) :
    listedKeys s = (Item.clause clause).keys := by
  have hreserved : Keyword.primary ∈ reserved := by decide
  have hlist {names : List Name} {list : List Char} (hfound : search keyListHere? false s = some list)
      (hlist : Written false (withCommas (names.map fun name => [.name name])) list) :
      Sql.listedKeys s = names.map (·.word.map Char.toLower) := by
    rw [Sql.listedKeys, hfound]
    exact hlist.names
  have hnone (hother : Token.keyword .primary ∉ clause.tokens) : Sql.listedKeys s = [] := by
    rw [Sql.listedKeys, h.written.search_eq_none heeds_keyListHere? hreserved hother]
  cases clause with
  | primaryKey constraint names =>
      cases constraint with
      | none =>
          obtain ⟨list, hfound, hwritten⟩ := Written.keyList h.written
          exact hlist hfound hwritten
      | some constraint =>
          have hskipped : Token.keyword .primary ∉ [.keyword .constraint, .name constraint] := by simp
          obtain ⟨after, rest, hrest, hsearch⟩ := h.written.search_append heeds_keyListHere? hreserved hskipped
          obtain ⟨list, hfound, hwritten⟩ := Written.keyList hrest
          exact hlist (hsearch.trans hfound) hwritten
  | unique names => exact hnone (by simp [Clause.tokens, keywords, keyword_not_mem_nameList])
  | foreignKey names table referenced => exact hnone (by simp [Clause.tokens, keywords, keyword_not_mem_nameList])

end DomainModel.Sql.Grammar
