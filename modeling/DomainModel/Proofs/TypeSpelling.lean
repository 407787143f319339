import DomainModel.Proofs.TextNesting
import DomainModel.Proofs.TypeTrees

/-! Types as they are written. A type is a list of tokens, and a text spells the tokens in any case with any blanks
around them. The canonical form of a spelling prints the tree of the type, and a printed tree is a spelling of a type
with this tree. -/

namespace DomainModel.TypeName

/-! ### Spellings -/

/-- The tokens of types. The brackets of an array are one token, as nothing can stand between them. -/
inductive Token where
  | word (name : Name)
  | opening
  | closing
  | comma
  | brackets

/-- The spellings of a token: a name may be written in any case. -/
def Token.Spells : Token → List Char → Prop
  | .word name, text => text.map Char.toLower = name.1.map Char.toLower
  | .opening, text => text = ['<']
  | .closing, text => text = ['>']
  | .comma, text => text = [',']
  | .brackets, text => text = ['[', ']']

instance : (token : Token) → (text : List Char) → Decidable (token.Spells text)
  | .word name, text => inferInstanceAs (Decidable (text.map Char.toLower = name.1.map Char.toLower))
  | .opening, text => inferInstanceAs (Decidable (text = ['<']))
  | .closing, text => inferInstanceAs (Decidable (text = ['>']))
  | .comma, text => inferInstanceAs (Decidable (text = [',']))
  | .brackets, text => inferInstanceAs (Decidable (text = ['[', ']']))

/-- A gap holds nothing but blanks. -/
def IsGap (gap : List Char) : Prop := ∀ c ∈ gap, Text.isBlank c = true

instance (gap : List Char) : Decidable (IsGap gap) := decidable_of_iff (gap.all Text.isBlank = true) List.all_eq_true

/-- The text spells the tokens, with a gap in front of each and one at the end. -/
inductive Written : List Token → List Char → Prop where
  | done {gap} (hgap : IsGap gap) : Written [] gap
  | token {gap token text tokens rest} (hgap : IsGap gap) (htoken : token.Spells text)
      (hrest : Written tokens rest) : Written (token :: tokens) (gap ++ (text ++ rest))

mutual

/-- The tokens of a type. -/
def Expr.tokens : Expr → List Token
  | .name name => [.word name]
  | .generic head first rest => .word head :: .opening :: (first.tokens ++ tokensOfRest rest ++ [.closing])
  | .array element => element.tokens ++ [.brackets]

/-- The tokens of further arguments, each behind a comma. -/
def tokensOfRest : List Expr → List Token
  | [] => []
  | argument :: rest => .comma :: (argument.tokens ++ tokensOfRest rest)

end

/-- The text is a spelling of the type. -/
def Expr.Spells (e : Expr) (text : String) : Prop := Written e.tokens text.toList

/-! ### Texts with gaps -/

theorem skipBlanks_gap {gap : List Char} (hgap : IsGap gap) : Text.skipBlanks gap = [] :=
  List.dropWhile_eq_nil_iff.2 hgap

theorem Token.Spells.trimmed {token : Token} {text : List Char} (h : token.Spells text) :
    text ≠ [] ∧ Text.trimChars text = text := by
  cases token with
  | word name =>
      have hname : IsName text := name.2.of_toLower h
      exact ⟨hname.nonempty, hname.trimmed⟩
  | _ =>
      cases h
      decide

/-- Tokens are written one after the other; the gap in front of one can be counted to those before it. -/
theorem Written.cut (front : List Token) {more : List Token} {token : Token} {s : List Char}
    (h : Written (front ++ token :: more) s) :
    ∃ a text b, s = a ++ (text ++ b) ∧ Written front a ∧ token.Spells text ∧ Written more b := by
  induction front generalizing s with
  | nil =>
      cases h with
      | token hgap htoken hrest => exact ⟨_, _, _, rfl, .done hgap, htoken, hrest⟩
  | cons first front ih =>
      cases h with
      | token hgap hfirst hrest =>
          obtain ⟨a, text, b, rfl, hfront, htoken, hmore⟩ := ih hrest
          refine ⟨_, text, b, ?_, .token hgap hfirst hfront, htoken, hmore⟩
          simp only [List.append_assoc]

theorem Written.gap {s : List Char} (h : Written [] s) : IsGap s := by
  cases h with
  | done hgap => exact hgap

theorem Written.skipBlanks {tokens : List Token} {s : List Char} (h : Written tokens s) :
    Written tokens (Text.skipBlanks s) := by
  cases h with
  | done hgap =>
      rw [skipBlanks_gap hgap]
      exact .done nofun
  | @token gap _ text _ rest hgap htoken hrest =>
      rw [Text.skipBlanks_append htoken.trimmed.1 htoken.trimmed.2, skipBlanks_gap hgap]
      exact .token nofun htoken hrest

/-- A name that is written alone. -/
theorem Written.name {name : Name} {s : List Char} (h : Written (Expr.name name).tokens s) :
    ∃ gap text back, s = gap ++ (text ++ back) ∧ IsGap gap ∧ IsName text ∧
      text.map Char.toLower = name.1.map Char.toLower ∧ IsGap back := by
  obtain ⟨gap, text, back, rfl, hgap, htext, hback⟩ := Written.cut [] h
  exact ⟨gap, text, back, rfl, hgap.gap, name.2.of_toLower htext, htext, hback.gap⟩

/-- A name with types as arguments: the arguments stand between the outer angle brackets. -/
theorem Written.generic {head : Name} {first : Expr} {rest : List Expr} {s : List Char}
    (h : Written (Expr.generic head first rest).tokens s) :
    ∃ gap text between body back, s = gap ++ (text ++ (between ++ ('<' :: (body ++ ('>' :: back))))) ∧ IsGap gap ∧
      IsName text ∧ text.map Char.toLower = head.1.map Char.toLower ∧ IsGap between ∧
      Written (first.tokens ++ tokensOfRest rest) body ∧ IsGap back := by
  obtain ⟨gap, text, _, rfl, hgap, htext, hrest⟩ := Written.cut [] h
  obtain ⟨between, _, _, rfl, hbetween, rfl, hbehind⟩ := Written.cut [] hrest
  obtain ⟨body, _, back, rfl, hbody, rfl, hback⟩ := Written.cut (first.tokens ++ tokensOfRest rest) hbehind
  exact ⟨gap, text, between, body, back, rfl, hgap.gap, head.2.of_toLower htext, htext, hbetween.gap, hbody, hback.gap⟩

/-- An array: its element stands in front of the brackets. -/
theorem Written.array {element : Expr} {s : List Char} (h : Written element.array.tokens s) :
    ∃ front back, s = front ++ (['[', ']'] ++ back) ∧ Written element.tokens front ∧ IsGap back := by
  obtain ⟨front, _, back, rfl, hfront, rfl, hback⟩ := Written.cut element.tokens h
  exact ⟨front, back, rfl, hfront, hback.gap⟩

/-! ### Parts of a written type -/

theorem passedOver_of_plain {s : List Char} (h : ∀ c ∈ s, c ∉ marks) (depth : Nat) :
    Text.PassedOver '<' '>' depth s := by
  refine .plain (fun c hc => ?_) depth
  have hmarks := h c hc
  simp only [marks, List.mem_cons, not_or] at hmarks
  exact ⟨hmarks.1, hmarks.2.1, hmarks.2.2.1⟩

theorem IsGap.plain {gap : List Char} (hgap : IsGap gap) : ∀ c ∈ gap, c ∉ marks := by
  have hmarks : (marks.all fun c => !Text.isBlank c) = true := by decide
  intro c hc hmark
  have hblank := List.all_eq_true.1 hmarks c hmark
  rw [hgap c hc] at hblank
  cases hblank

/-- Further arguments are passed over inside brackets, where commas do not count. -/
theorem passedOver_tokensOfRest {rest : List Expr} {depth : Nat}
    (heach : ∀ argument ∈ rest, ∀ {s : List Char}, Written argument.tokens s → Text.PassedOver '<' '>' (depth + 1) s)
    {first : Expr} (hfirst : ∀ {s : List Char}, Written first.tokens s → Text.PassedOver '<' '>' (depth + 1) s)
    {s : List Char} (h : Written (first.tokens ++ tokensOfRest rest) s) : Text.PassedOver '<' '>' (depth + 1) s := by
  induction rest generalizing first s with
  | nil => exact hfirst (by rwa [tokensOfRest, List.append_nil] at h)
  | cons next rest ih =>
      obtain ⟨hnext, hrest⟩ := List.forall_mem_cons.1 heach
      obtain ⟨front, _, back, rfl, hfront, rfl, hback⟩ := Written.cut first.tokens h
      exact (hfirst hfront).append (.append (.comma (by decide) (by decide) depth) (ih hrest hnext hback))

/-- A written type closes the brackets that it opens. -/
theorem Written.passedOver {e : Expr} {s : List Char} (h : Written e.tokens s) (depth : Nat) :
    Text.PassedOver '<' '>' depth s := by
  induction e generalizing s depth with
  | name name =>
      obtain ⟨gap, text, back, rfl, hgap, hname, -, hback⟩ := h.name
      exact (Text.PassedOver.blanks rfl rfl hgap depth).append
        ((passedOver_of_plain hname.plain depth).append (.blanks rfl rfl hback depth))
  | generic head first rest hfirst hrest =>
      obtain ⟨gap, text, between, body, back, rfl, hgap, hname, -, hbetween, hbody, hback⟩ := h.generic
      have hinside : Text.PassedOver '<' '>' (depth + 1) body :=
        passedOver_tokensOfRest (fun argument hargument _ hs => hrest argument hargument hs (depth + 1))
          (fun hs => hfirst hs (depth + 1)) hbody
      have hbrackets := (hinside.bracketed (by decide) (by decide)).append (.blanks rfl rfl hback depth)
      rw [List.cons_append, List.append_assoc, List.singleton_append] at hbrackets
      exact (Text.PassedOver.blanks rfl rfl hgap depth).append ((passedOver_of_plain hname.plain depth).append
        ((Text.PassedOver.blanks rfl rfl hbetween depth).append hbrackets))
  | array element ih =>
      obtain ⟨front, back, rfl, hfront, hback⟩ := h.array
      exact (ih hfront depth).append (.append (.plain (by simp) depth) (.blanks rfl rfl hback depth))

/-! ### Canonical forms -/

theorem arrayElement?_brackets (s : List Char) : arrayElement? (s ++ ['[', ']']) = some s := by
  simp [arrayElement?]

theorem arrayElement?_eq_none {s : List Char} (h : ∀ c ∈ s.getLast?, c ≠ ']') : arrayElement? s = none := by
  rw [arrayElement?, if_neg]
  intro hends
  obtain ⟨front, hfront⟩ := List.isPrefixOf_iff_prefix.1 hends
  refine h ']' ?_ rfl
  rw [← List.head?_reverse, ← hfront]
  rfl

theorem genericParts?_eq_none {s : List Char} (h : '<' ∉ s) : genericParts? s = none := by
  rw [genericParts?, if_neg]
  simp [h]

theorem genericParts?_brackets {front : List Char} (h : '<' ∉ front) (body : List Char) :
    genericParts? (front ++ ('<' :: (body ++ ['>']))) = some (Text.trimChars front, body) := by
  have hfront : ∀ c ∈ front, (c != '<') = true := fun c hc => bne_iff_ne.2 fun heq => h (heq ▸ hc)
  have hends : (front ++ ('<' :: (body ++ ['>']))).getLast? = some '>' := by
    rw [← List.cons_append, ← List.append_assoc, List.getLast?_concat]
  rw [genericParts?, hends, List.takeWhile_append_of_pos hfront, List.dropWhile_append_of_pos hfront]
  simp

section Steps
variable {s element head arguments : List Char}

theorem canonicalChars_array (helement : arrayElement? (Text.trimChars s) = some element) :
    canonicalChars s = arrayName.1 ++ inAngles [canonicalChars element] := by
  rw [canonicalChars]
  split
  · next other hother =>
      obtain rfl := Option.some.inj (hother.symm.trans helement)
      rfl
  · next hnone =>
      rw [helement] at hnone
      cases hnone

theorem canonicalChars_generic (harray : arrayElement? (Text.trimChars s) = none)
    (hparts : genericParts? (Text.trimChars s) = some (head, arguments))
    (hsome : Text.splitOutside '<' '>' 0 arguments ≠ []) :
    canonicalChars s =
      bucketOf containerBuckets head ++ inAngles ((Text.splitOutside '<' '>' 0 arguments).map canonicalChars) := by
  obtain ⟨part, parts, hsplit⟩ := List.exists_cons_of_ne_nil hsome
  rw [canonicalChars]
  split
  · next other hother =>
      rw [harray] at hother
      cases hother
  · split
    · next other others hothers =>
        obtain ⟨rfl, rfl⟩ := Prod.mk.inj (Option.some.inj (hothers.symm.trans hparts))
        rw [List.map_attach_eq_pmap, List.pmap_eq_map, hsplit, List.map_cons, inAngles_cons, List.append_assoc,
          List.cons_append]
    · next hnone =>
        rw [hparts] at hnone
        cases hnone

theorem canonicalChars_name (harray : arrayElement? (Text.trimChars s) = none)
    (hparts : genericParts? (Text.trimChars s) = none) :
    canonicalChars s = bucketOf buckets (Text.trimChars s) := by
  rw [canonicalChars]
  split
  · next other hother =>
      rw [harray] at hother
      cases hother
  · split
    · next other others hothers =>
        rw [hparts] at hothers
        cases hothers
    · rfl

end Steps

/-- The canonical forms of the arguments, one by one. -/
theorem map_canonicalChars_splitOutside {first : Expr} {rest : List Expr}
    (hfirst : ∀ {s : List Char}, Written first.tokens s → canonicalChars s = first.tree.chars)
    (hrest : ∀ argument ∈ rest, ∀ {s : List Char}, Written argument.tokens s → canonicalChars s = argument.tree.chars)
    {body : List Char} (h : Written (first.tokens ++ tokensOfRest rest) body) :
    (Text.splitOutside '<' '>' 0 body).map canonicalChars = charsOf (first.tree :: treesOf rest) := by
  induction rest generalizing first body with
  | nil =>
      rw [tokensOfRest, List.append_nil] at h
      rw [(h.passedOver 0).splitOutside_self, List.map_singleton, hfirst h]
      rfl
  | cons next rest ih =>
      obtain ⟨hnext, hrest⟩ := List.forall_mem_cons.1 hrest
      obtain ⟨front, _, back, rfl, hfront, rfl, hback⟩ := Written.cut first.tokens h
      rw [List.singleton_append, (hfront.passedOver 0).splitOutside_comma, List.map_cons, hfirst hfront,
        ih hnext hrest hback]
      rfl

/-- The canonical form of a written type prints its tree. -/
theorem Written.canonicalChars {e : Expr} {s : List Char} (h : Written e.tokens s) :
    canonicalChars s = e.tree.chars := by
  induction e generalizing s with
  | name name =>
      obtain ⟨gap, text, back, rfl, hgap, hname, hcase, hback⟩ := h.name
      have htrim : Text.trimChars (gap ++ (text ++ back)) = text := by
        rw [← List.append_assoc, Text.trimChars_append_blanks hback, Text.trimChars_append hname.nonempty hname.trimmed,
          skipBlanks_gap hgap, List.nil_append]
      have harray : arrayElement? text = none := by
        refine arrayElement?_eq_none fun c hc hbracket => ?_
        exact hname.plain c (List.mem_of_getLast? hc) (by rw [hbracket]; decide)
      have hgeneric : genericParts? text = none := genericParts?_eq_none fun hmem => hname.plain '<' hmem (by decide)
      rw [canonicalChars_name (by rwa [htrim]) (by rwa [htrim]), htrim, bucketOf_congr hcase, Expr.tree, Tree.chars,
        charsOf, inAngles, List.append_nil]
      rfl
  | generic head first rest hfirst hrest =>
      obtain ⟨gap, text, between, body, back, rfl, hgap, hname, hcase, hbetween, hbody, hback⟩ := h.generic
      have htrim : Text.trimChars (gap ++ (text ++ (between ++ ('<' :: (body ++ ('>' :: back)))))) =
          (text ++ between) ++ ('<' :: (body ++ ['>'])) := by
        calc
          _ = Text.trimChars (((gap ++ (text ++ (between ++ ('<' :: body)))) ++ ['>']) ++ back) := by
            simp only [List.append_assoc, List.cons_append, List.nil_append]
          _ = Text.skipBlanks (gap ++ (text ++ (between ++ ('<' :: body)))) ++ ['>'] := by
            rw [Text.trimChars_append_blanks hback, Text.trimChars_append (by decide) (by decide)]
          _ = (text ++ (between ++ ('<' :: body))) ++ ['>'] := by
            rw [Text.skipBlanks_append hname.nonempty hname.trimmed, skipBlanks_gap hgap, List.nil_append]
          _ = _ := by simp only [List.append_assoc, List.cons_append]
      have harray : arrayElement? ((text ++ between) ++ ('<' :: (body ++ ['>']))) = none := by
        refine arrayElement?_eq_none fun c hc => ?_
        rw [← List.cons_append, ← List.append_assoc, List.getLast?_concat] at hc
        cases hc
        decide
      -- the first opening bracket and the last closing one are those around the arguments
      have hopening : '<' ∉ text ++ between := by
        rw [List.mem_append, not_or]
        exact ⟨fun hmem => hname.plain '<' hmem (by decide), fun hmem => hbetween.plain '<' hmem (by decide)⟩
      have hparts := genericParts?_brackets hopening body
      have hvalues := map_canonicalChars_splitOutside hfirst hrest hbody
      rw [canonicalChars_generic (by rwa [htrim]) (by rw [htrim, hparts]) ?_, hvalues,
        Text.trimChars_append_blanks hbetween, hname.trimmed, bucketOf_congr hcase, Expr.tree, Tree.chars]
      · rfl
      · intro hnil
        rw [hnil] at hvalues
        cases hvalues
  | array element ih =>
      obtain ⟨front, back, rfl, hfront, hback⟩ := h.array
      have hbrackets : (['[', ']'] : List Char) ≠ [] ∧ Text.trimChars ['[', ']'] = ['[', ']'] := by decide
      have htrim : Text.trimChars (front ++ (['[', ']'] ++ back)) = Text.skipBlanks front ++ ['[', ']'] := by
        rw [← List.append_assoc, Text.trimChars_append_blanks hback, Text.trimChars_append hbrackets.1 hbrackets.2]
      rw [canonicalChars_array (by rw [htrim, arrayElement?_brackets]), ih hfront.skipBlanks, Expr.tree, Tree.chars]
      rfl

/-! ### Printed trees -/

theorem Written.behind {gap : List Char} (hgap : IsGap gap) {tokens : List Token} {s : List Char}
    (h : Written tokens s) : Written tokens (gap ++ s) := by
  cases h with
  | done hmore => exact .done (List.forall_mem_append.2 ⟨hgap, hmore⟩)
  | token hmore htoken hrest =>
      rw [← List.append_assoc]
      exact .token (List.forall_mem_append.2 ⟨hgap, hmore⟩) htoken hrest

theorem Written.append {tokens more : List Token} {s t : List Char} (hs : Written tokens s) (ht : Written more t) :
    Written (tokens ++ more) (s ++ t) := by
  induction hs with
  | done hgap => exact ht.behind hgap
  | token hgap htoken _ ih =>
      rw [List.append_assoc, List.append_assoc]
      exact .token hgap htoken ih

theorem isGap_nil : IsGap [] := List.forall_mem_nil _

theorem Written.nil : Written [] [] := .done isGap_nil

theorem Written.cons (token : Token) {tokens : List Token} {text s : List Char} (htoken : token.Spells text)
    (h : Written tokens s) : Written (token :: tokens) (text ++ s) :=
  .token isGap_nil htoken h

/-- A tree is printed without blanks as a spelling of its type. -/
theorem Tree.written_chars (tree : Tree) : Written tree.expr.tokens tree.chars := by
  induction tree with
  | node label children ih =>
      have hbehind : ∀ others : List Tree, (∀ child ∈ others, Written child.expr.tokens child.chars) →
          Written (tokensOfRest (exprsOf others) ++ [.closing]) (charsBehind [] others) := by
        intro others heach
        induction others with
        | nil => exact .cons .closing rfl .nil
        | cons child others ihrest =>
            obtain ⟨hchild, hothers⟩ := List.forall_mem_cons.1 heach
            rw [exprsOf, tokensOfRest, List.cons_append, List.append_assoc]
            exact .cons .comma rfl (hchild.append (ihrest hothers))
      cases children with
      | nil => exact .cons (.word label) rfl .nil
      | cons child children =>
          obtain ⟨hchild, hchildren⟩ := List.forall_mem_cons.1 ih
          rw [Tree.expr, Expr.tokens, Tree.chars, ← List.append_nil (inAngles _), inAngles_charsOf, List.append_assoc]
          exact .cons (.word label) rfl (.cons .opening rfl (hchild.append (hbehind children hchildren)))

/-! ### Types that are compared -/

theorem canonical_of_spells {e : Expr} {s : String} (h : e.Spells s) : canonical s = e.tree.print := by
  rw [canonical, Written.canonicalChars h, Tree.print]

/-- **Types are compared by their trees.** For all types and all their spellings, the canonical form prints the tree of
the type, two spellings are compatible if and only if their types have one tree, and a canonical form is its own
canonical form. -/
theorem compatible_iff_of_spells {left right : Expr} {s t : String} (hs : left.Spells s) (ht : right.Spells t) :
    canonical s = left.tree.print ∧ (compatible s t = true ↔ left.tree = right.tree) ∧
      canonical (canonical s) = canonical s := by
  refine ⟨canonical_of_spells hs, ?_, ?_⟩
  · rw [compatible, beq_iff_eq, canonical_of_spells hs, canonical_of_spells ht, Tree.print_inj]
  · have hprinted : left.tree.expr.Spells left.tree.print := by
      rw [Expr.Spells, Tree.print, String.toList_ofList]
      exact left.tree.written_chars
    rw [canonical_of_spells hs, canonical_of_spells hprinted, left.tree_expr_tree]

def mapName : Name := ⟨"Map".toList, by decide +kernel⟩
def textName : Name := ⟨"Text".toList, by decide +kernel⟩
def longName : Name := ⟨"long".toList, by decide +kernel⟩

/-- A map from texts to arrays of numbers. -/
def textMap : Expr := .generic mapName (.name textName) [.array (.name longName)]

def hashMapName : Name := ⟨"HashMap".toList, by decide +kernel⟩
def stringName : Name := ⟨"String".toList, by decide +kernel⟩
def arrayHead : Name := ⟨"Array".toList, by decide +kernel⟩
def bigIntName : Name := ⟨"BigInt".toList, by decide +kernel⟩

/-- The same type under other names. -/
def stringHashMap : Expr := .generic hashMapName (.name stringName) [.generic arrayHead (.name bigIntName) []]

theorem spells_textMap : textMap.Spells " mAp <TEXT, Long []> " := by
  have hpieces : " mAp <TEXT, Long []> ".toList =
      [' '] ++ ("mAp".toList ++ ([' '] ++ (['<'] ++ ("TEXT".toList ++ ([','] ++ ([' '] ++ ("Long".toList ++
        ([' '] ++ (['[', ']'] ++ (['>'] ++ [' '])))))))))) := by decide +kernel
  rw [Expr.Spells, hpieces]
  exact .token (by decide) (by decide +kernel) (.token (by decide) rfl (.cons (.word textName) (by decide +kernel)
    (.cons .comma rfl (.token (by decide) (by decide +kernel) (.token (by decide) rfl (.cons .closing rfl
      (.done (by decide))))))))

theorem spells_stringHashMap : stringHashMap.Spells "hashmap<string,array<bigint>>" := by
  have hpieces : "hashmap<string,array<bigint>>".toList =
      "hashmap".toList ++ (['<'] ++ ("string".toList ++ ([','] ++ ("array".toList ++ (['<'] ++ ("bigint".toList ++
        (['>'] ++ (['>'] ++ [])))))))) := by decide +kernel
  rw [Expr.Spells, hpieces]
  exact .cons (.word hashMapName) (by decide +kernel) (.cons .opening rfl (.cons (.word stringName) (by decide +kernel)
    (.cons .comma rfl (.cons (.word arrayHead) (by decide +kernel) (.cons .opening rfl (.cons (.word bigIntName)
      (by decide +kernel) (.cons .closing rfl (.cons .closing rfl .nil))))))))

theorem compatible_textMap :
    textMap.Spells " mAp <TEXT, Long []> " ∧ stringHashMap.Spells "hashmap<string,array<bigint>>" ∧
      canonical " mAp <TEXT, Long []> " = "MAP<STRING,ARRAY<LONG>>" ∧
      compatible " mAp <TEXT, Long []> " "hashmap<string,array<bigint>>" = true := by
  obtain ⟨hprint, hcompatible, -⟩ := compatible_iff_of_spells spells_textMap spells_stringHashMap
  have htrees : textMap.tree = stringHashMap.tree := Tree.print_inj.1 (by decide +kernel)
  exact ⟨spells_textMap, spells_stringHashMap, hprint.trans (by decide +kernel), hcompatible.2 htrees⟩

end DomainModel.TypeName
