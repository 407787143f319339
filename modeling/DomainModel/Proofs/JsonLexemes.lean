import DomainModel.Json.Printer
import DomainModel.Json.Token
import DomainModel.Proofs.TextFolding
import Mathlib.Data.List.Basic

/-! Lexemes as they are written: a string with its escapes and a whole number of 64 bits are read as the tokens they
were written for. A string ends at its closing quote, whatever follows; a number only ends where no character follows
that could belong to it. -/

namespace DomainModel.Json

/-- The characters that may stand between tokens. -/
def gaps : List Char := [' ', '\t', '\n', '\r']

theorem isGap_iff_mem {c : Char} : isGap c = true ↔ c ∈ gaps := by
  simp [isGap, gaps, or_assoc]

/-! ### Strings -/

/-- What an escape of a character is scanned as: control characters without an escape of their own become units. -/
def pieceOf (c : Char) : TextPiece :=
  if c.toNat < 0x20 ∧ c ∉ ['\x08', '\x0c', '\n', '\r', '\t'] then .unit c.toNat else .char c

theorem hexUnit?_hexDigit : ∀ n < 0x20, hexUnit? '0' '0' (hexDigit (n / 16)) (hexDigit (n % 16)) = some n := by
  decide

section Scan
variable (rest : List Char)

theorem scanText_unit {a b c d : Char} {code : Nat} (h : hexUnit? a b c d = some code) :
    scanText ('\\' :: 'u' :: a :: b :: c :: d :: rest) =
      (scanText rest).map fun scanned => (.unit code :: scanned.1, scanned.2) := by
  rw [scanText, h]
  cases scanText rest with
  | none => rfl
  | some scanned => rfl

theorem scanText_escape {e c : Char} (hunit : e ≠ 'u') (h : escaped? e = some c) :
    scanText ('\\' :: e :: rest) = (scanText rest).map fun scanned => (.char c :: scanned.1, scanned.2) := by
  rw [scanText, h]
  · cases scanText rest with
    | none => rfl
    | some scanned => rfl
  · exact fun _ _ _ _ _ he _ => hunit he

theorem scanText_plain {c : Char} (hquote : c ≠ '"') (hescape : c ≠ '\\') (hcontrol : ¬ c.toNat < 0x20) :
    scanText (c :: rest) = (scanText rest).map fun scanned => (.char c :: scanned.1, scanned.2) := by
  rw [scanText.eq_def]
  split
  · next heq => cases heq
  · next heq => exact absurd (List.cons.inj heq).1 hquote
  · next heq => exact absurd (List.cons.inj heq).1 hescape
  · next heq => exact absurd (List.cons.inj heq).1 hescape
  · next heq =>
      cases heq
      rw [if_neg hcontrol]
      cases scanText rest with
      | none => rfl
      | some scanned => rfl

/-- A character is scanned from what it is written as. -/
theorem scanText_escapeChar (c : Char) :
    scanText (escapeChar c ++ rest) = (scanText rest).map fun scanned => (pieceOf c :: scanned.1, scanned.2) := by
  by_cases hnamed : c ∈ ['"', '\\', '\x08', '\x0c', '\n', '\r', '\t']
  · have hescapes : ∀ c ∈ ['"', '\\', '\x08', '\x0c', '\n', '\r', '\t'], pieceOf c = .char c ∧
        ∃ e ∈ ['"', '\\', 'b', 'f', 'n', 'r', 't'], escapeChar c = ['\\', e] ∧ e ≠ 'u' ∧ escaped? e = some c := by
      simp [pieceOf, escapeChar, escaped?]
    obtain ⟨hpiece, e, -, hwritten, hunit, hread⟩ := hescapes c hnamed
    rw [hwritten, hpiece]
    exact scanText_escape rest hunit hread
  · simp only [List.mem_cons, List.not_mem_nil, or_false, not_or] at hnamed
    obtain ⟨hquote, hescape, hb, hf, hn, hr, ht⟩ := hnamed
    have hwritten : escapeChar c = if c.toNat < 0x20 then
        ['\\', 'u', '0', '0', hexDigit (c.toNat / 16), hexDigit (c.toNat % 16)] else [c] := by
      simp [escapeChar, hquote, hescape, hb, hf, hn, hr, ht]
    have hpiece : pieceOf c = if c.toNat < 0x20 then .unit c.toNat else .char c := by
      simp [pieceOf, hb, hf, hn, hr, ht]
    rw [hwritten, hpiece]
    split
    · next hcontrol => exact scanText_unit rest (hexUnit?_hexDigit c.toNat hcontrol)
    · next hcontrol => exact scanText_plain rest hquote hescape hcontrol

end Scan

theorem assemble_unit {code : Nat} (h : code < 0x20) (pieces : List TextPiece) :
    assemble (.unit code :: pieces) = (assemble pieces).map (Char.ofNat code :: ·) := by
  have hhigh : isHighSurrogate code = false := by rw [isHighSurrogate, Bool.and_eq_false_iff]; left; simp; omega
  have hlow : isLowSurrogate code = false := by rw [isLowSurrogate, Bool.and_eq_false_iff]; left; simp; omega
  cases pieces with
  | nil => simp [assemble, hhigh, hlow]
  | cons piece rest =>
      cases piece with
      | char c => simp [assemble, hhigh, hlow]
      | unit low => simp [assemble, hhigh, hlow]

theorem assemble_pieceOf (c : Char) (pieces : List TextPiece) :
    assemble (pieceOf c :: pieces) = (assemble pieces).map (c :: ·) := by
  rw [pieceOf]
  split
  · next hcontrol => rw [assemble_unit hcontrol.1, Char.ofNat_toNat]
  · rw [assemble]

theorem scanText_escaped (chars rest : List Char) :
    scanText (chars.flatMap escapeChar ++ '"' :: rest) = some (chars.map pieceOf, rest) := by
  induction chars with
  | nil => rfl
  | cons c chars ih => rw [List.flatMap_cons, List.append_assoc, scanText_escapeChar, ih, Option.map_some, List.map_cons]

theorem assemble_map_pieceOf (chars : List Char) : assemble (chars.map pieceOf) = some chars := by
  induction chars with
  | nil => rfl
  | cons c chars ih => rw [List.map_cons, assemble_pieceOf, ih, Option.map_some]

/-- A string that is written is read as its text. -/
theorem nextToken_quote (text : String) (rest : List Char) :
    nextToken (quote text ++ rest) = (.text (some text), rest) := by
  have hscan : scanText (text.toList.flatMap escapeChar ++ '"' :: rest) = some (text.toList.map pieceOf, rest) :=
    scanText_escaped text.toList rest
  have hquote : quote text ++ rest = '"' :: (text.toList.flatMap escapeChar ++ '"' :: rest) := by
    rw [quote, List.cons_append, List.cons_append, List.append_assoc, List.singleton_append]
  rw [hquote, nextToken, hscan]
  dsimp only
  rw [assemble_map_pieceOf, Option.map_some, String.ofList_toList]

/-! ### Numbers -/

/-- A character that a number begins with. -/
def BeginsNumber (c : Char) : Prop := c = '-' ∨ c.isDigit = true

/-- A character that may come next in a number. -/
def ContinuesNumber (c : Char) : Prop := c.isDigit = true ∨ c = '.' ∨ c = 'e' ∨ c = 'E'

instance : DecidablePred BeginsNumber := fun c => inferInstanceAs (Decidable (c = '-' ∨ c.isDigit = true))

instance : DecidablePred ContinuesNumber := fun c =>
  inferInstanceAs (Decidable (c.isDigit = true ∨ c = '.' ∨ c = 'e' ∨ c = 'E'))

/-- What follows a number does not go on with it. -/
def EndsNumber (rest : List Char) : Prop := ∀ c ∈ rest.head?, ¬ ContinuesNumber c

theorem spanDigits_append {digits rest : List Char} (hdigits : ∀ c ∈ digits, c.isDigit = true) (hrest : EndsNumber rest) :
    spanDigits (digits ++ rest) = (digits, rest) := by
  have hend : ∀ c ∈ rest.head?, c.isDigit = false := by
    intro c hc
    rw [← Bool.not_eq_true]
    exact fun hdigit => hrest c hc (.inl hdigit)
  obtain ⟨htake, hdrop⟩ := Text.takeWhile_append_run hdigits hend
  rw [spanDigits, htake, hdrop]

theorem isDigit_of_mem_digitChars {n : Nat} {c : Char} (h : c ∈ Text.digitChars n) : c.isDigit = true :=
  Nat.isDigit_of_mem_toDigits (by decide) (by decide) h

theorem digitsValue_digitChars (n : Nat) : Text.digitsValue (Text.digitChars n) = n := by
  have hvalue := Nat.ofDigitChars_ten_toDigits (n := n)
  rwa [Nat.ofDigitChars_eq_foldl] at hvalue

/-- No zero leads another digit. -/
theorem head?_digitChars_ne_zero {n : Nat} (hn : n ≠ 0) : (Text.digitChars n).head? ≠ some '0' := by
  induction n using Nat.strongRecOn with
  | _ n ih =>
      by_cases hsmall : n < 10
      · have hdigit : ∀ k < 10, k ≠ 0 → [Nat.digitChar k].head? ≠ some '0' := by decide
        rw [Text.digitChars, Nat.toDigits_of_lt_base hsmall]
        exact hdigit n hsmall hn
      · rw [Text.digitChars, Nat.toDigits_of_base_le (by decide) (by omega),
            List.head?_append_of_ne_nil _ Nat.toDigits_ne_nil]
        exact ih (n / 10) (by omega) (by omega)

theorem scanWhole?_digitChars (n : Nat) {rest : List Char} (hrest : EndsNumber rest) :
    scanWhole? (Text.digitChars n ++ rest) = some (Text.digitChars n, rest) := by
  rw [scanWhole?, spanDigits_append (fun _ => isDigit_of_mem_digitChars) hrest]
  by_cases hn : n = 0
  · subst hn
    rfl
  · have hhead := head?_digitChars_ne_zero hn
    cases hdigits : Text.digitChars n with
    | nil => exact absurd hdigits Nat.toDigits_ne_nil
    | cons c digits =>
        rw [hdigits] at hhead
        split
        · next heq => cases heq
        · next heq =>
            cases heq
            exact absurd rfl hhead
        · rfl

theorem scanUnsigned?_digitChars (negative : Bool) (n : Nat) {rest : List Char} (hrest : EndsNumber rest) :
    scanUnsigned? negative (Text.digitChars n ++ rest) = some (⟨negative, Text.digitChars n, none, none⟩, rest) := by
  have hfraction : scanFraction? rest = some (none, rest) := by
    rw [scanFraction?.eq_def]
    split
    · exact absurd (.inr (.inl rfl)) (hrest '.' rfl)
    · rfl
  have hexponent : scanExponent? rest = some (none, rest) := by
    cases rest with
    | nil => rfl
    | cons c rest =>
        have hnot := hrest c rfl
        rw [scanExponent?.eq_def]
        dsimp only
        rw [if_neg]
        rw [Bool.or_eq_true, beq_iff_eq, beq_iff_eq]
        exact fun hc => hnot (.inr (.inr hc))
  rw [scanUnsigned?, scanWhole?_digitChars n hrest, Option.bind_eq_bind, Option.bind_some]
  dsimp only
  rw [hfraction, Option.bind_eq_bind, Option.bind_some]
  dsimp only
  rw [hexponent]
  rfl

/-- A whole number that fits 64 bits, with a sign or without. -/
def FitsWord (k : Int) : Prop := -0x8000000000000000 ≤ k ∧ k < 0x10000000000000000

instance : DecidablePred FitsWord := fun k =>
  inferInstanceAs (Decidable (-0x8000000000000000 ≤ k ∧ k < 0x10000000000000000))

theorem ofLiteral?_digitChars {k : Int} (h : FitsWord k) :
    Number.ofLiteral? ⟨decide (k < 0), Text.digitChars k.natAbs, none, none⟩ = some (.integer k) := by
  have hfits : (if decide (k < 0) = true then decide (0 < k.natAbs) && decide (k.natAbs ≤ Nat.pow 2 63)
      else decide (k.natAbs < Number.wordBound)) = true := by
    have hgreatest : Number.wordBound = 0x10000000000000000 := rfl
    have hleast : Nat.pow 2 63 = 0x8000000000000000 := rfl
    obtain ⟨hlower, hupper⟩ := h
    split
    · next hneg =>
        rw [decide_eq_true_iff] at hneg
        rw [Bool.and_eq_true, decide_eq_true_iff, decide_eq_true_iff, hleast]
        omega
    · next hnonneg =>
        rw [decide_eq_true_iff] at hnonneg
        rw [decide_eq_true_iff, hgreatest]
        omega
  have hvalue : (if decide (k < 0) = true then -(k.natAbs : Int) else k.natAbs) = k := by
    split
    · next hneg =>
        rw [decide_eq_true_iff] at hneg
        omega
    · next hnonneg =>
        rw [decide_eq_true_iff] at hnonneg
        omega
  rw [Number.ofLiteral?]
  dsimp only
  rw [digitsValue_digitChars, hfits, hvalue]
  rfl

/-- At a sign or a digit a number begins. -/
theorem nextToken_number {c : Char} (hc : BeginsNumber c) {rest after : List Char} {literal : Literal}
    (h : scanNumber? (c :: rest) = some (literal, after)) :
    nextToken (c :: rest) = (.number (Number.ofLiteral? literal), after) := by
  rw [nextToken.eq_def]
  split
  case h_11 => rw [h]
  -- no other token begins so
  all_goals
    next heq =>
      cases heq
      exact absurd hc (by decide)

/-- A whole number begins with its sign or with a digit, and its sign is scanned first. -/
theorem toText_integer_eq_cons (k : Int) :
    ∃ c lexeme, (Number.integer k).toText.toList = c :: lexeme ∧ BeginsNumber c ∧
      ∀ rest, scanNumber? (c :: (lexeme ++ rest)) = scanUnsigned? (decide (k < 0)) (Text.digitChars k.natAbs ++ rest) := by
  rw [Number.toText, String.toList_ofList]
  by_cases hneg : k < 0
  · rw [if_pos hneg, List.singleton_append, decide_eq_true hneg]
    exact ⟨'-', _, rfl, .inl rfl, fun rest => by rw [scanNumber?]⟩
  · rw [if_neg hneg, List.nil_append, decide_eq_false hneg]
    cases hdigits : Text.digitChars k.natAbs with
    | nil => exact absurd hdigits Nat.toDigits_ne_nil
    | cons c digits =>
        have hc : c.isDigit = true := isDigit_of_mem_digitChars (hdigits ▸ List.mem_cons_self)
        refine ⟨c, digits, rfl, .inr hc, fun rest => ?_⟩
        rw [scanNumber?.eq_def]
        split
        · next heq =>
            cases heq
            exact absurd hc (by decide)
        · rfl

theorem isGap_eq_false_of_number {c : Char} (hc : BeginsNumber c) : isGap c = false := by
  have hgaps : ∀ c ∈ gaps, ¬ BeginsNumber c := by simp [gaps, BeginsNumber]
  rw [← Bool.not_eq_true]
  exact fun hgap => hgaps c (isGap_iff_mem.1 hgap) hc

/-- A whole number that is written is read as itself. -/
theorem nextToken_integer {k : Int} (h : FitsWord k) {rest : List Char} (hrest : EndsNumber rest) :
    nextToken ((Number.integer k).toText.toList ++ rest) = (.number (some (.integer k)), rest) := by
  obtain ⟨c, lexeme, hchars, hc, hscan⟩ := toText_integer_eq_cons k
  rw [hchars, List.cons_append, ← ofLiteral?_digitChars h]
  refine nextToken_number hc ?_
  rw [hscan rest, scanUnsigned?_digitChars _ _ hrest]

end DomainModel.Json
