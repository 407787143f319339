import DomainModel.Json.Document
import DomainModel.Proofs.JsonLexemes
import Mathlib.Data.List.Forall2
import Mathlib.Data.List.TakeWhile

/-! Texts of values. A value over several lines is read as the document that it is, whatever gaps stand before and
behind. The layout is taken apart first: its lexemes give the tokens of the value. Then the tokens are put together
again, the frames that are open around a value being what they were before it. -/

namespace DomainModel.Json

/-! ### Tokens -/

/-- Parts with commas between them. -/
def commaJoined : List (List Token) → List Token
  | [] => []
  | [part] => part
  | part :: parts => part ++ .comma :: commaJoined parts

theorem commaJoined_cons {part : List Token} {parts : List (List Token)} (h : parts ≠ []) :
    commaJoined (part :: parts) = part ++ .comma :: commaJoined parts := by
  cases parts with
  | nil => exact absurd rfl h
  | cons next rest => rfl

namespace Value

mutual

/-- The tokens that a value is written with. -/
def tokensOf : Value → List Token
  | .null => [.null]
  | .bool value => [.bool value]
  | .number value => [.number (some value)]
  | .text value => [.text (some value)]
  | .list items => .listOpen :: commaJoined (tokensOfItems items) ++ [.listClose]
  | .object members => .objectOpen :: commaJoined (tokensOfMembers members) ++ [.objectClose]

/-- The tokens of each item. -/
def tokensOfItems : List Value → List (List Token)
  | [] => []
  | value :: rest => tokensOf value :: tokensOfItems rest

/-- The tokens of each member. -/
def tokensOfMembers : List (String × Value) → List (List Token)
  | [] => []
  | (key, value) :: rest => (.text (some key) :: .colon :: tokensOf value) :: tokensOfMembers rest

end

end Value

/-! ### Whole numbers -/

namespace Value

mutual

/-- Every number in the value is whole and fits 64 bits. -/
def hasWords : Value → Bool
  | .number (.integer n) => decide (FitsWord n)
  | .number (.float _) => false
  | .list items => allHaveWords items
  | .object members => membersHaveWords members
  | _ => true

/-- Every number in the items is whole and fits 64 bits. -/
def allHaveWords : List Value → Bool
  | [] => true
  | value :: rest => hasWords value && allHaveWords rest

/-- Every number below the members is whole and fits 64 bits. -/
def membersHaveWords : List (String × Value) → Bool
  | [] => true
  | (_, value) :: rest => hasWords value && membersHaveWords rest

end

theorem hasWords_list {items : List Value} : (list items).hasWords = true ↔ ∀ value ∈ items, value.hasWords = true := by
  rw [hasWords]
  induction items with
  | nil => simp [allHaveWords]
  | cons value rest ih => rw [allHaveWords, Bool.and_eq_true, ih, List.forall_mem_cons]

theorem hasWords_object {members : List (String × Value)} :
    (object members).hasWords = true ↔ ∀ member ∈ members, member.2.hasWords = true := by
  rw [hasWords]
  induction members with
  | nil => simp [membersHaveWords]
  | cons member rest ih => rw [membersHaveWords, Bool.and_eq_true, ih, List.forall_mem_cons]

end Value

/-! ### From the text to its tokens -/

/-- Reading the characters yields the tokens and goes on with `after`. -/
def Yields (chars : List Char) (tokens : List Token) (after : List Char) : Prop :=
  ∀ steps, chars.length ≤ steps →
    ∃ left, after.length ≤ left ∧ tokensWithin steps chars = tokens ++ tokensWithin left after

theorem Yields.append {chars between after : List Char} {tokens later : List Token} (h : Yields chars tokens between)
    (hlater : Yields between later after) : Yields chars (tokens ++ later) after := by
  intro steps hsteps
  obtain ⟨left, hleft, htokens⟩ := h steps hsteps
  obtain ⟨rest, hrest, hmore⟩ := hlater left hleft
  exact ⟨rest, hrest, by rw [htokens, hmore, List.append_assoc]⟩

theorem yields_single {gap : List Char} (hgap : ∀ c ∈ gap, isGap c = true) {c : Char} (hc : isGap c = false)
    {lexeme after : List Char} {token : Token} (h : nextToken (c :: (lexeme ++ after)) = (token, after)) :
    Yields (gap ++ c :: (lexeme ++ after)) [token] after := by
  intro steps hsteps
  have hskip : (gap ++ c :: (lexeme ++ after)).dropWhile isGap = c :: (lexeme ++ after) := by
    rw [List.dropWhile_append_of_pos hgap, List.dropWhile_cons_of_neg (Bool.not_eq_true _ ▸ hc)]
  simp only [List.length_append, List.length_cons] at hsteps
  cases steps with
  | zero => omega
  | succ left =>
      refine ⟨left, by omega, ?_⟩
      rw [tokensWithin, hskip]
      dsimp only
      rw [h]
      rfl

/-- Behind a gap the characters are read as the tokens, where what follows does not go on with a number. -/
def Lexes (chars : List Char) (tokens : List Token) : Prop :=
  ∀ gap after, (∀ c ∈ gap, isGap c = true) → EndsNumber after → Yields (gap ++ (chars ++ after)) tokens after

theorem endsNumber_cons {c : Char} (hc : ¬ ContinuesNumber c) (rest : List Char) :
    EndsNumber (c :: rest) := by
  rintro _ ⟨⟩
  exact hc

theorem endsNumber_of_isGap {gap : List Char} (h : ∀ c ∈ gap, isGap c = true) : EndsNumber gap := by
  have hgaps : ∀ c ∈ gaps, ¬ ContinuesNumber c := by simp [gaps, ContinuesNumber]
  exact fun c hc => hgaps c (isGap_iff_mem.1 (h c (List.mem_of_mem_head? hc)))

/-- A character that is a token by itself. -/
structure IsSign (c : Char) (token : Token) : Prop where
  notGap : isGap c = false
  next : ∀ after, nextToken (c :: after) = (token, after)
  ends : ¬ ContinuesNumber c

theorem isSign_comma : IsSign ',' .comma := ⟨rfl, fun _ => rfl, by decide⟩
theorem isSign_colon : IsSign ':' .colon := ⟨rfl, fun _ => rfl, by decide⟩
theorem isSign_listOpen : IsSign '[' .listOpen := ⟨rfl, fun _ => rfl, by decide⟩
theorem isSign_listClose : IsSign ']' .listClose := ⟨rfl, fun _ => rfl, by decide⟩
theorem isSign_objectOpen : IsSign '{' .objectOpen := ⟨rfl, fun _ => rfl, by decide⟩
theorem isSign_objectClose : IsSign '}' .objectClose := ⟨rfl, fun _ => rfl, by decide⟩

namespace Lexes

variable {chars more : List Char} {tokens later : List Token}

theorem behindGap {gap : List Char} (hgap : ∀ c ∈ gap, isGap c = true) (h : Lexes chars tokens) :
    Lexes (gap ++ chars) tokens := by
  intro before after hbefore hafter
  have hyields := h (before ++ gap) after (List.forall_mem_append.2 ⟨hbefore, hgap⟩) hafter
  rwa [List.append_assoc before, ← List.append_assoc gap] at hyields

theorem append (h : Lexes chars tokens) (hends : ∀ after, EndsNumber (more ++ after)) (hmore : Lexes more later) :
    Lexes (chars ++ more) (tokens ++ later) := by
  intro gap after hgap hafter
  rw [List.append_assoc]
  exact (h gap (more ++ after) hgap (hends after)).append (hmore [] after nofun hafter)

/-- One lexeme. -/
theorem single {c : Char} {lexeme : List Char} {token : Token} (hc : isGap c = false)
    (h : ∀ after, EndsNumber after → nextToken (c :: (lexeme ++ after)) = (token, after)) : Lexes (c :: lexeme) [token] :=
  fun _ after hgap hafter => yields_single hgap hc (h after hafter)

theorem sign {c : Char} {token : Token} (hc : IsSign c token) : Lexes [c] [token] :=
  single hc.notGap fun after _ => hc.next after

theorem sign_cons {c : Char} {token : Token} (hc : IsSign c token) (hmore : Lexes more later) :
    Lexes (c :: more) (token :: later) := by
  intro gap after hgap hafter
  have hfirst : Yields (gap ++ c :: (more ++ after)) [token] (more ++ after) :=
    @yields_single gap hgap c hc.notGap [] (more ++ after) token (hc.next _)
  exact hfirst.append (hmore [] after nofun hafter)

/-- Parts with commas and gaps between them. -/
theorem joinWith {gap : List Char} (hgap : ∀ c ∈ gap, isGap c = true) {parts : List (List Char)}
    {tokens : List (List Token)} (h : List.Forall₂ Lexes parts tokens) (hsome : parts ≠ []) :
    Lexes (Text.joinWith (',' :: gap) parts) (commaJoined tokens) := by
  induction h with
  | nil => exact absurd rfl hsome
  | @cons part own parts tokens hpart hparts ih =>
      cases hparts with
      | nil => exact hpart
      | @cons next later parts tokens hnext hrest =>
          -- the gap belongs to the part behind it, so that each part ends at a comma or at the end
          have hlater := sign_cons isSign_comma ((ih (List.cons_ne_nil _ _)).behindGap hgap)
          have hjoined : Text.joinWith (',' :: gap) (part :: next :: parts) =
              part ++ ',' :: (gap ++ Text.joinWith (',' :: gap) (next :: parts)) :=
            List.append_assoc part (',' :: gap) _
          rw [hjoined, commaJoined_cons (List.cons_ne_nil _ _)]
          exact hpart.append (fun after => endsNumber_cons isSign_comma.ends _) hlater

/-- The layout of a list or an object. -/
theorem block {opening closing : Char} {first last : Token} (hopening : IsSign opening first)
    (hclosing : IsSign closing last) (level : Nat) {parts : List (List Char)} {tokens : List (List Token)}
    (h : List.Forall₂ Lexes parts tokens) :
    Lexes (Value.block level opening closing parts) (first :: commaJoined tokens ++ [last]) := by
  have hgap : ∀ level, ∀ c ∈ Value.newLine level, isGap c = true := by
    intro level c hc
    rcases List.mem_cons.1 hc with rfl | hc
    · rfl
    · rw [List.eq_of_mem_replicate hc]
      rfl
  rw [Value.block]
  split
  · next hnone =>
      rw [List.isEmpty_iff] at hnone
      subst hnone
      cases h
      exact sign_cons hopening (sign hclosing)
  · next hsome =>
      rw [List.isEmpty_iff] at hsome
      have hbody := (joinWith (hgap (level + 1)) h hsome).behindGap (hgap (level + 1))
      have hend := (sign hclosing).behindGap (hgap level)
      have hall := sign_cons hopening (hbody.append (fun after => endsNumber_cons (by decide) _) hend)
      simpa only [List.cons_append, List.append_assoc] using hall

theorem quote (text : String) : Lexes (Json.quote text) [.text (some text)] :=
  single rfl fun after _ => nextToken_quote text after

theorem integer {n : Int} (h : FitsWord n) :
    Lexes (Number.integer n).toText.toList [.number (some (.integer n))] := by
  obtain ⟨c, lexeme, hchars, hc, -⟩ := toText_integer_eq_cons n
  have hnext := fun after hafter => @nextToken_integer n h after hafter
  rw [hchars] at hnext ⊢
  exact single (isGap_eq_false_of_number hc) hnext

end Lexes

mutual

/-- The tokens of a value are read from the value as it is written. -/
theorem lexes_prettyChars : ∀ (level : Nat) (value : Value), value.hasWords = true →
    Lexes (value.prettyChars level) value.tokensOf
  | level, .null, _ => .single rfl fun _ _ => rfl
  | level, .bool true, _ => .single rfl fun _ _ => rfl
  | level, .bool false, _ => .single rfl fun _ _ => rfl
  | level, .number (.integer n), h => .integer (of_decide_eq_true h)
  | level, .number (.float _), h => by cases h
  | level, .text text, _ => .quote text
  | level, .list items, h => by
      rw [Value.hasWords] at h
      rw [Value.prettyChars, Value.tokensOf]
      exact .block isSign_listOpen isSign_listClose level (lexes_prettyItems (level + 1) items h)
  | level, .object members, h => by
      rw [Value.hasWords] at h
      rw [Value.prettyChars, Value.tokensOf]
      exact .block isSign_objectOpen isSign_objectClose level (lexes_prettyMembers (level + 1) members h)

theorem lexes_prettyItems : ∀ (level : Nat) (items : List Value), Value.allHaveWords items = true →
    List.Forall₂ Lexes (Value.prettyItems level items) (Value.tokensOfItems items)
  | _, [], _ => .nil
  | level, value :: rest, h => by
      rw [Value.allHaveWords, Bool.and_eq_true] at h
      exact .cons (lexes_prettyChars level value h.1) (lexes_prettyItems level rest h.2)

theorem lexes_prettyMembers : ∀ (level : Nat) (members : List (String × Value)), Value.membersHaveWords members = true →
    List.Forall₂ Lexes (Value.prettyMembers level members) (Value.tokensOfMembers members)
  | _, [], _ => .nil
  | level, (key, value) :: rest, h => by
      rw [Value.membersHaveWords, Bool.and_eq_true] at h
      have hblank : ∀ c ∈ [' '], isGap c = true := List.forall_mem_singleton.2 rfl
      have hvalue : Lexes (' ' :: value.prettyChars level) value.tokensOf :=
        (lexes_prettyChars level value h.1).behindGap hblank
      refine .cons ?_ (lexes_prettyMembers level rest h.2)
      exact (Lexes.quote key).append (fun _ => endsNumber_cons isSign_colon.ends _) (.sign_cons isSign_colon hvalue)

end

/-- The tokens of a text of a value, with a gap behind it. -/
theorem tokens_pretty {value : Value} (h : value.hasWords = true) {ending : String}
    (hending : ∀ c ∈ ending.toList, isGap c = true) : tokens (value.pretty ++ ending).toList = value.tokensOf := by
  have hyields := lexes_prettyChars 0 value h [] ending.toList nofun (endsNumber_of_isGap hending)
  obtain ⟨left, -, htokens⟩ := hyields _ (Nat.le_refl _)
  have hnone : tokensWithin left ending.toList = [] := by
    cases left with
    | zero => rfl
    | succ left =>
        rw [tokensWithin, List.dropWhile_eq_nil_iff.2 hending]
  rw [tokens, String.toList_append, Value.pretty, String.toList_ofList]
  rw [List.nil_append] at htokens
  rw [htokens, hnone, List.append_nil]

/-! ### From the tokens to the document -/

namespace Document

theorem step_key {expect : Expectation} (hexpect : expect = .key ∨ expect = .firstKey)
    (before : List (Document × Document)) (key : String) (frames : List Frame) :
    step (.reading expect (.object before :: frames)) (.text (some key)) =
      .reading .colon (.pair before (.text (some key)) :: frames) := by
  rcases hexpect with rfl | rfl <;> rfl

mutual

/-- Where a value may stand, its tokens add it to the open frames. -/
theorem foldl_tokensOf : ∀ (value : Value) {expect : Expectation} (_ : expect = .value ∨ expect = .item)
    (frames : List Frame), value.tokensOf.foldl step (.reading expect frames) = complete (ofValue value) frames
  | .null, _, hexpect, _ => by rcases hexpect with rfl | rfl <;> rfl
  | .bool _, _, hexpect, _ => by rcases hexpect with rfl | rfl <;> rfl
  | .number _, _, hexpect, _ => by rcases hexpect with rfl | rfl <;> rfl
  | .text _, _, hexpect, _ => by rcases hexpect with rfl | rfl <;> rfl
  | .list items, expect, hexpect, frames => by
      have hopen : step (.reading expect frames) .listOpen = .reading .item (.list [] :: frames) := by
        rcases hexpect with rfl | rfl <;> rfl
      rw [Value.tokensOf, List.cons_append, List.foldl_cons, hopen, ofValue]
      cases items with
      | nil => rfl
      | cons value rest => exact foldl_tokensOfItems (value :: rest) (List.cons_ne_nil _ _) [] (.inr rfl) frames
  | .object members, expect, hexpect, frames => by
      have hopen : step (.reading expect frames) .objectOpen = .reading .firstKey (.object [] :: frames) := by
        rcases hexpect with rfl | rfl <;> rfl
      rw [Value.tokensOf, List.cons_append, List.foldl_cons, hopen, ofValue]
      cases members with
      | nil => rfl
      | cons member rest => exact foldl_tokensOfMembers (member :: rest) (List.cons_ne_nil _ _) [] (.inr rfl) frames

/-- Behind the items before them, the tokens of further items add these and close the list. -/
theorem foldl_tokensOfItems : ∀ (items : List Value) (_ : items ≠ []) (before : List Document) {expect : Expectation}
    (_ : expect = .value ∨ expect = .item) (frames : List Frame),
    (commaJoined (Value.tokensOfItems items) ++ [Token.listClose]).foldl step (.reading expect (.list before :: frames)) =
      complete (.list (before.reverse ++ ofValues items) true) frames
  | [], hsome, _, _, _, _ => absurd rfl hsome
  | [value], _, before, _, hexpect, frames => by
      rw [Value.tokensOfItems, Value.tokensOfItems, commaJoined, List.foldl_append, foldl_tokensOf value hexpect]
      show complete (.list (ofValue value :: before).reverse true) frames = _
      rw [List.reverse_cons, ofValues, ofValues]
  | value :: next :: rest, _, before, _, hexpect, frames => by
      -- the first item joins those before it, and the others are read behind them
      have hrest := foldl_tokensOfItems (next :: rest) (List.cons_ne_nil _ _) (ofValue value :: before) (.inl rfl) frames
      have hlater : Value.tokensOfItems (next :: rest) ≠ [] := List.cons_ne_nil _ _
      rw [Value.tokensOfItems, commaJoined_cons hlater, List.append_assoc, List.foldl_append,
        foldl_tokensOf value hexpect, List.cons_append, List.foldl_cons]
      refine hrest.trans ?_
      rw [List.reverse_cons, List.append_assoc, List.singleton_append]
      rfl

/-- Behind the members before them, the tokens of further members add these and close the object. -/
theorem foldl_tokensOfMembers : ∀ (members : List (String × Value)) (_ : members ≠ [])
    (before : List (Document × Document)) {expect : Expectation} (_ : expect = .key ∨ expect = .firstKey)
    (frames : List Frame),
    (commaJoined (Value.tokensOfMembers members) ++ [Token.objectClose]).foldl step
        (.reading expect (.object before :: frames)) =
      complete (.object (before.reverse ++ ofMembers members) true) frames
  | [], hsome, _, _, _, _ => absurd rfl hsome
  | [(key, value)], _, before, _, hexpect, frames => by
      rw [Value.tokensOfMembers, Value.tokensOfMembers, commaJoined, List.cons_append, List.cons_append, List.foldl_cons,
        step_key hexpect, List.foldl_cons, step, List.foldl_append, foldl_tokensOf value (.inl rfl)]
      show complete (.object ((.text (some key), ofValue value) :: before).reverse true) frames = _
      rw [List.reverse_cons, ofMembers, ofMembers]
  | (key, value) :: next :: rest, _, before, _, hexpect, frames => by
      have hrest := foldl_tokensOfMembers (next :: rest) (List.cons_ne_nil _ _)
        ((.text (some key), ofValue value) :: before) (.inl rfl) frames
      have hlater : Value.tokensOfMembers (next :: rest) ≠ [] := List.cons_ne_nil _ _
      rw [Value.tokensOfMembers, commaJoined_cons hlater, List.append_assoc, List.cons_append, List.cons_append,
        List.foldl_cons, step_key hexpect, List.foldl_cons, step, List.foldl_append, foldl_tokensOf value (.inl rfl),
        List.cons_append, List.foldl_cons]
      refine hrest.trans ?_
      rw [List.reverse_cons, List.append_assoc, List.singleton_append]
      rfl

end

/-- **A value that is written over several lines is read as itself**, also with a gap behind it. -/
theorem ofText_pretty {value : Value} (h : value.hasWords = true) {ending : String}
    (hending : ∀ c ∈ ending.toList, isGap c = true) : ofText (value.pretty ++ ending) = (ofValue value, true) := by
  rw [ofText, tokens_pretty h hending, ofTokens, foldl_tokensOf value (.inl rfl)]
  rfl

end Document

end DomainModel.Json
