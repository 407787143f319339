import DomainModel.Sql.Table
import Mathlib.Data.List.Infix

/-! Comments in scripts. A text with closed block comments is made of single characters and of whole comments, and
none of the characters begins a comment; so what is taken out of it does not depend on what stands behind it, if
that is not the star of an opening mark. A line comment is cut off from the text in front of it, unless a dash
there makes its first mark another. What remains decides what is read: a block comment reads as a space, and a
line comment as the line break that ends it. -/

namespace DomainModel.Sql

/-! ### Marks -/

/-- Two characters stand together in a text, at its front or behind its first character. -/
theorem together_isInfix_cons {first second c : Char} {s : List Char} :
    [first, second] <:+: c :: s ↔ c = first ∧ s.head? = some second ∨ [first, second] <:+: s := by
  rw [List.infix_cons_iff, List.cons_prefix_cons, eq_comm (a := first)]
  cases s with
  | nil => simp
  | cons d rest => simp [eq_comm (a := second)]

/-- Two characters that do not stand together at the front. -/
abbrev Apart (first second c : Char) (rest : List Char) : Prop := c = first → rest.head? ≠ some second

section Apart
variable {first second c : Char} {s t : List Char}

theorem head?_cons_ne (h : c ≠ second) : (c :: t).head? ≠ some second := fun hhead => h (Option.some.inj hhead)

theorem Apart.not_cons (h : Apart first second c s) : ∀ rest, c = first → s = second :: rest → False := by
  rintro rest rfl rfl
  exact h rfl rfl

theorem apart_of_not_cons (h : ∀ rest, c = first → s = second :: rest → False) : Apart first second c s := by
  intro hfirst hsecond
  obtain ⟨rest, rfl⟩ := List.head?_eq_some_iff.1 hsecond
  exact h rest hfirst rfl

theorem Apart.append (h : Apart first second c s) (hseam : s = [] → Apart first second c t) :
    Apart first second c (s ++ t) := by
  cases s with
  | nil => exact hseam rfl
  | cons d rest => exact h

theorem apart_of_not_isInfix (h : ¬ [first, second] <:+: c :: s) : Apart first second c s :=
  fun hfirst hsecond => h (together_isInfix_cons.2 (.inl ⟨hfirst, hsecond⟩))

theorem not_isInfix_of_cons {mark : List Char} (h : ¬ mark <:+: c :: s) : ¬ mark <:+: s :=
  fun hin => h (hin.trans (List.suffix_cons c s).isInfix)

end Apart

/-! ### Block comments -/

/-- A text in which every block comment is closed. -/
inductive Closed : List Char → Prop where
  | nil : Closed []
  | plain {c : Char} {rest : List Char} (hplain : Apart '/' '*' c rest) (hrest : Closed rest) : Closed (c :: rest)
  | comment {body rest : List Char} (hbody : ¬ ['*', '/'] <:+: body) (hrest : Closed rest) :
      Closed ('/' :: '*' :: (body ++ '*' :: '/' :: rest))

section Blocks
variable {c : Char} {s t body rest : List Char}

theorem stripBlocks_plain (h : Apart '/' '*' c rest) : stripBlocks (c :: rest) = c :: stripBlocks rest := by
  rw [stripBlocks]
  exact h.not_cons

/-- A comment goes on to the first mark that closes one. -/
theorem afterBlock_append (hbody : ¬ ['*', '/'] <:+: body) :
    afterBlock (body ++ '*' :: '/' :: rest) = some (stripBlocks rest) := by
  induction body with
  | nil => rw [List.nil_append, afterBlock]
  | cons c body ih =>
      rw [List.cons_append, afterBlock, ih (not_isInfix_of_cons hbody)]
      exact ((apart_of_not_isInfix hbody).append fun _ _ => head?_cons_ne (by decide)).not_cons

theorem stripBlocks_comment (hbody : ¬ ['*', '/'] <:+: body) :
    stripBlocks ('/' :: '*' :: (body ++ '*' :: '/' :: rest)) = ' ' :: stripBlocks rest := by
  rw [stripBlocks, afterBlock_append hbody]

/-- Block comments are taken out of both parts of a text, unless one is open at the seam or begins there. -/
theorem stripBlocks_append (h : Closed s) (ht : t.head? ≠ some '*') :
    stripBlocks (s ++ t) = stripBlocks s ++ stripBlocks t := by
  induction h with
  | nil => rw [List.nil_append, stripBlocks, List.nil_append]
  | plain hplain _ ih =>
      rw [List.cons_append, stripBlocks_plain (hplain.append fun _ _ => ht), stripBlocks_plain hplain, ih,
        List.cons_append]
  | comment hbody _ ih =>
      rw [List.cons_append, List.cons_append, List.append_assoc, List.cons_append, List.cons_append,
        stripBlocks_comment hbody, stripBlocks_comment hbody, ih, List.cons_append]

/-- A text in which no comment begins. -/
theorem closed_of_not_isInfix (h : ¬ ['/', '*'] <:+: s) : Closed s := by
  induction s with
  | nil => exact .nil
  | cons c rest ih => exact .plain (apart_of_not_isInfix h) (ih (not_isInfix_of_cons h))

theorem stripBlocks_eq_self (h : ¬ ['/', '*'] <:+: s) : stripBlocks s = s := by
  induction s with
  | nil => rw [stripBlocks]
  | cons c rest ih => rw [stripBlocks_plain (apart_of_not_isInfix h), ih (not_isInfix_of_cons h)]

theorem stripBlocks_eq_nil (h : Closed s) (hnil : stripBlocks s = []) : s = [] := by
  cases h with
  | nil => rfl
  | plain hplain _ =>
      rw [stripBlocks_plain hplain] at hnil
      cases hnil
  | comment hbody _ =>
      rw [stripBlocks_comment hbody] at hnil
      cases hnil

/-- The last character is that of the text or the space for a comment. -/
theorem getLast?_stripBlocks (h : Closed s) (hspace : c ≠ ' ') (hlast : (stripBlocks s).getLast? = some c) :
    s.getLast? = some c := by
  induction h with
  | nil => rwa [stripBlocks] at hlast
  | @plain d rest hplain hrest ih =>
      rw [stripBlocks_plain hplain, List.getLast?_cons] at hlast
      rw [List.getLast?_cons]
      cases hstripped : (stripBlocks rest).getLast? with
      | none =>
          rw [List.getLast?_eq_none_iff] at hstripped
          rw [stripBlocks_eq_nil hrest hstripped]
          rwa [hstripped] at hlast
      | some last =>
          rw [hstripped] at hlast
          rw [ih (hstripped.trans hlast)]
          rfl
  | @comment body rest hbody hrest ih =>
      rw [stripBlocks_comment hbody, List.getLast?_cons] at hlast
      cases hstripped : (stripBlocks rest).getLast? with
      | none =>
          rw [hstripped] at hlast
          exact absurd (Option.some.inj hlast).symm hspace
      | some last =>
          rw [hstripped] at hlast
          have hend := ih (hstripped.trans hlast)
          simp [List.getLast?_cons, List.getLast?_append, hend]

theorem head?_stripBlocks (h : Closed s) (hspace : c ≠ ' ') (hfirst : (stripBlocks s).head? = some c) :
    s.head? = some c := by
  cases h with
  | nil => rwa [stripBlocks] at hfirst
  | plain hplain _ => rwa [stripBlocks_plain hplain] at hfirst
  | comment hbody _ =>
      rw [stripBlocks_comment hbody] at hfirst
      exact absurd (Option.some.inj hfirst).symm hspace

/-- A comment that is not closed stays, and its mark with it; so what remains tells whether there is one. -/
theorem closed_iff : Closed s ↔ ¬ ['/', '*'] <:+: stripBlocks s := by
  constructor
  · intro h
    induction h with
    | nil => simp [stripBlocks]
    | plain hplain hrest ih =>
        rw [stripBlocks_plain hplain, together_isInfix_cons, not_or]
        exact ⟨fun hmark => hplain hmark.1 (head?_stripBlocks hrest (by decide) hmark.2), ih⟩
    | comment hbody _ ih =>
        rw [stripBlocks_comment hbody, together_isInfix_cons, not_or]
        exact ⟨fun hmark => absurd hmark.1 (by decide), ih⟩
  · -- inside a comment, the claim is that it is closed, and the text behind it too
    refine stripBlocks.induct (fun s => ¬ ['/', '*'] <:+: stripBlocks s → Closed s)
      (fun s => ∀ stripped, afterBlock s = some stripped → ¬ ['/', '*'] <:+: stripped →
        ∃ body rest, s = body ++ '*' :: '/' :: rest ∧ ¬ ['*', '/'] <:+: body ∧ Closed rest) ?_ ?_ ?_ ?_ ?_ ?_ ?_ s
    case refine_1 => exact fun _ => .nil
    case refine_2 =>
      intro rest stripped hafter ih hnone
      rw [stripBlocks, hafter] at hnone
      obtain ⟨body, behind, rfl, hbody, hbehind⟩ := ih stripped hafter (not_isInfix_of_cons hnone)
      exact .comment hbody hbehind
    case refine_3 =>
      intro rest hafter _ hnone
      rw [stripBlocks, hafter] at hnone
      exact absurd ⟨[], rest, rfl⟩ hnone
    case refine_4 =>
      intro c rest hplain ih hnone
      have happart := apart_of_not_cons hplain
      rw [stripBlocks_plain happart] at hnone
      exact .plain happart (ih (not_isInfix_of_cons hnone))
    case refine_5 => rintro stripped ⟨⟩
    case refine_6 =>
      rintro rest ih stripped ⟨⟩ hnone
      exact ⟨[], rest, rfl, by decide, ih hnone⟩
    case refine_7 =>
      intro c rest hplain ih stripped hafter hnone
      have happart := apart_of_not_cons hplain
      rw [afterBlock.eq_3 _ _ hplain] at hafter
      obtain ⟨body, behind, rfl, hbody, hbehind⟩ := ih stripped hafter hnone
      refine ⟨c :: body, behind, rfl, ?_, hbehind⟩
      rw [together_isInfix_cons, not_or]
      refine ⟨fun hmark => ?_, hbody⟩
      obtain ⟨more, rfl⟩ := List.head?_eq_some_iff.1 hmark.2
      exact happart hmark.1 rfl

instance (s : List Char) : Decidable (Closed s) := decidable_of_iff _ closed_iff.symm

end Blocks

/-! ### Line comments -/

section Lines
variable {s t : List Char}

/-- Line comments are taken out of what stands on both sides of a line break, which ends them. -/
theorem stripLines_append (s t : List Char) :
    stripLines (s ++ '\n' :: t) = stripLines s ++ '\n' :: stripLines t := by
  refine stripLines.induct
    (fun s => stripLines (s ++ '\n' :: t) = stripLines s ++ '\n' :: stripLines t)
    (fun s => afterLine (s ++ '\n' :: t) = afterLine s ++ '\n' :: stripLines t) ?_ ?_ ?_ ?_ ?_ ?_ s
  case refine_1 => simp [stripLines]
  case refine_2 =>
    intro rest ih
    rw [List.cons_append, List.cons_append, stripLines, stripLines, ih]
  case refine_3 =>
    intro c rest hplain ih
    rw [List.cons_append, stripLines, stripLines, ih, List.cons_append]
    · exact hplain
    · exact ((apart_of_not_cons hplain).append fun _ _ => head?_cons_ne (by decide)).not_cons
  case refine_4 => simp [afterLine, isLineBreak]
  case refine_5 =>
    intro c rest hbreak ih
    rw [List.cons_append, afterLine, afterLine, if_pos hbreak, if_pos hbreak, ih, List.cons_append]
  case refine_6 =>
    intro c rest hbreak ih
    rw [List.cons_append, afterLine, afterLine, if_neg hbreak, if_neg hbreak, ih]

theorem afterLine_eq_nil (h : ∀ c ∈ s, isLineBreak c = false) : afterLine s = [] := by
  induction s with
  | nil => rw [afterLine]
  | cons c rest ih =>
      rw [List.forall_mem_cons] at h
      rw [afterLine, h.1, if_neg Bool.false_ne_true, ih h.2]

/-- A line comment at the end is cut off, unless a dash in front of it makes its first mark another. -/
theorem stripLines_comment {comment : List Char} (hline : ∀ c ∈ comment, isLineBreak c = false)
    (hend : s.getLast? ≠ some '-') : stripLines (s ++ '-' :: '-' :: comment) = stripLines s := by
  have hshorter {c : Char} {rest : List Char} (h : (c :: rest).getLast? ≠ some '-') : rest.getLast? ≠ some '-' := by
    intro hlast
    rw [List.getLast?_cons, hlast] at h
    exact h rfl
  revert hend
  refine stripLines.induct
    (fun s => s.getLast? ≠ some '-' → stripLines (s ++ '-' :: '-' :: comment) = stripLines s)
    (fun s => s.getLast? ≠ some '-' → afterLine (s ++ '-' :: '-' :: comment) = afterLine s) ?_ ?_ ?_ ?_ ?_ ?_ s
  case refine_1 =>
    intro _
    rw [List.nil_append, stripLines.eq_2, afterLine_eq_nil hline, stripLines]
  case refine_2 =>
    intro rest ih hend
    rw [List.cons_append, List.cons_append, stripLines, stripLines, ih (hshorter (hshorter hend))]
  case refine_3 =>
    intro c rest hplain ih hend
    rw [List.cons_append, stripLines, stripLines, ih (hshorter hend)]
    · exact hplain
    · refine ((apart_of_not_cons hplain).append ?_).not_cons
      rintro rfl rfl
      exact absurd rfl hend
  case refine_4 =>
    intro _
    have hmarked : ∀ c ∈ '-' :: '-' :: comment, isLineBreak c = false :=
      List.forall_mem_cons.2 ⟨by decide, List.forall_mem_cons.2 ⟨by decide, hline⟩⟩
    rw [List.nil_append, afterLine_eq_nil hmarked, afterLine]
  case refine_5 =>
    intro c rest hbreak ih hend
    rw [List.cons_append, afterLine, afterLine, if_pos hbreak, if_pos hbreak, ih (hshorter hend)]
  case refine_6 =>
    intro c rest hbreak ih hend
    rw [List.cons_append, afterLine, afterLine, if_neg hbreak, if_neg hbreak, ih (hshorter hend)]

end Lines

/-! ### Scripts -/

/-- A script is read by what remains of it without comments. -/
theorem read_congr {a b : String} (h : stripLines (stripBlocks a.toList) = stripLines (stripBlocks b.toList)) :
    read a = read b := by
  have hstatements : statements a.toList = statements b.toList := by rw [statements, statements, h]
  rw [read, read, rejected?, rejected?, entities, entities, hstatements]

/-- A block comment leaves a space. -/
theorem stripBlocks_append_comment {s body : List Char} (h : Closed s) (hbody : ¬ ['*', '/'] <:+: body)
    (t : List Char) :
    stripBlocks (s ++ '/' :: '*' :: (body ++ '*' :: '/' :: t)) = stripBlocks (s ++ ' ' :: t) := by
  rw [stripBlocks_append h (head?_cons_ne (by decide)), stripBlocks_append h (head?_cons_ne (by decide)),
    stripBlocks_comment hbody, stripBlocks_plain fun hslash => absurd hslash (by decide)]

/-- A line comment leaves the line break behind it. -/
theorem strip_append_line {s comment : List Char} (h : Closed s) (hend : s.getLast? ≠ some '-')
    (hline : ∀ c ∈ comment, isLineBreak c = false) (hblock : ¬ ['/', '*'] <:+: comment) (t : List Char) :
    stripLines (stripBlocks (s ++ '-' :: '-' :: (comment ++ '\n' :: t))) =
      stripLines (stripBlocks (s ++ '\n' :: t)) := by
  have hmarked : ¬ ['/', '*'] <:+: '-' :: '-' :: comment := by
    simpa [together_isInfix_cons] using hblock
  have hdashes : Closed ('-' :: '-' :: comment) := closed_of_not_isInfix hmarked
  have hbreak : stripBlocks ('\n' :: t) = '\n' :: stripBlocks t :=
    stripBlocks_plain fun hslash => absurd hslash (by decide)
  have hcomment : stripBlocks ('-' :: '-' :: (comment ++ '\n' :: t)) =
      '-' :: '-' :: comment ++ '\n' :: stripBlocks t := by
    rw [← hbreak, ← List.cons_append, ← List.cons_append, stripBlocks_append hdashes (head?_cons_ne (by decide)),
      stripBlocks_eq_self hmarked]
  have hlast : (stripBlocks s).getLast? ≠ some '-' := fun hdash =>
    hend (getLast?_stripBlocks h (by decide) hdash)
  rw [stripBlocks_append h (head?_cons_ne (by decide)), stripBlocks_append h (head?_cons_ne (by decide)), hcomment,
    hbreak, ← List.append_assoc, stripLines_append, stripLines_append, stripLines_comment hline hlast]

/-- **Comments are white space.** Behind a text with closed comments, a block comment reads as a space, whatever
stands in it; and a line comment reads as the line break that ends it, if no block comment begins in it and the
text in front does not end with a dash. -/
theorem read_comment {a : String} (h : Closed a.toList) (b c : String) :
    (¬ ['*', '/'] <:+: c.toList → read (a ++ "/*" ++ c ++ "*/" ++ b) = read (a ++ " " ++ b)) ∧
      ((∀ d ∈ c.toList, isLineBreak d = false) → ¬ ['/', '*'] <:+: c.toList → a.toList.getLast? ≠ some '-' →
        read (a ++ "--" ++ c ++ "\n" ++ b) = read (a ++ "\n" ++ b)) := by
  constructor
  · intro hbody
    apply read_congr
    simpa using congrArg stripLines (stripBlocks_append_comment h hbody b.toList)
  · intro hline hblock hend
    apply read_congr
    simpa using strip_append_line h hend hline hblock b.toList

/-- The comments hold semicolons, a quote and the marks of the other kind. -/
theorem read_comment_marked :
    Closed "CREATE TABLE a (id INT /* ' */); DROP".toList ∧
      read ("CREATE TABLE a (id INT /* ' */); DROP" ++ "/*" ++ "; -- ' /" ++ "*/" ++ "TABLE a") =
        .error "DROP TABLE a" ∧
      read ("CREATE TABLE a (id INT /* ' */); DROP" ++ "--" ++ "- ; ' */" ++ "\n" ++ "TABLE a") = .error "DROP" := by
  have hclosed : Closed "CREATE TABLE a (id INT /* ' */); DROP".toList := by decide +kernel
  have hbody : ¬ ['*', '/'] <:+: "; -- ' /".toList := by decide +kernel
  have hline : ∀ d ∈ "- ; ' */".toList, isLineBreak d = false := by simp [isLineBreak]
  have hblock : ¬ ['/', '*'] <:+: "- ; ' */".toList := by decide +kernel
  have hend : "CREATE TABLE a (id INT /* ' */); DROP".toList.getLast? ≠ some '-' := by decide +kernel
  refine ⟨hclosed, ((read_comment hclosed "TABLE a" _).1 hbody).trans ?_,
    ((read_comment hclosed "TABLE a" _).2 hline hblock hend).trans ?_⟩
  · decide +kernel
  · decide +kernel

end DomainModel.Sql
