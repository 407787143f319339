import DomainModel.Proofs.JsonLexemes
import DomainModel.Proofs.WrittenObjects
import DomainModel.Text.Split

/-! Pointers into JSON values. A pointer is a list of tokens with a slash before each: keys where it leads
through objects, indices where it leads through lists. In a token `~1` stands for a slash and `~0` for a tilde;
an index is a decimal number without zeros in front. The empty pointer leads to the whole value, and pointers
that are written one behind the other lead into a part of a part. -/

namespace DomainModel.Json

/-- A token without its escapes. -/
def unescapeToken : List Char → List Char
  | [] => []
  | '~' :: '0' :: rest => '~' :: unescapeToken rest
  | '~' :: '1' :: rest => '/' :: unescapeToken rest
  | c :: rest => c :: unescapeToken rest

/-- The tokens of a pointer, a slash before each; none if the text is no pointer. -/
def pointerTokens? : List Char → Option (List (List Char))
  | [] => some []
  | '/' :: rest => some ((Text.splitAt '/' rest).map unescapeToken)
  | _ :: _ => none

/-- The index that a token stands for. -/
def tokenIndex? : List Char → Option Nat
  | [] => none
  | ['0'] => some 0
  | '0' :: _ => none
  | token => if token.all Char.isDigit then some (Text.digitsValue token) else none

namespace Value

/-- The part of a value that a token leads to. -/
def step? (value : Value) (token : List Char) : Option Value :=
  match value with
  | .object members => member? members (String.ofList token)
  | .list items => (tokenIndex? token).bind (items[·]?)
  | _ => none

/-- The part of a value that a pointer leads to. -/
def at? (value : Value) (pointer : String) : Option Value :=
  (pointerTokens? pointer.toList).bind (·.foldlM step? value)

end Value

example : (Value.object [("a/b", .list [.null, .object [("", .text "x")]])]).at? "/a~1b/1/" = some (.text "x") := by cbv

theorem unescapeToken_eq_self {token : List Char} (h : '~' ∉ token) : unescapeToken token = token := by
  induction token with
  | nil => rfl
  | cons c rest ih =>
      rw [List.mem_cons, not_or] at h
      rw [unescapeToken, ih h.2]
      · exact fun _ htilde _ => h.1 htilde.symm
      · exact fun _ htilde _ => h.1 htilde.symm

theorem pointerTokens?_append {s t : List Char} {before after : List (List Char)}
    (hs : pointerTokens? s = some before) (ht : pointerTokens? t = some after) :
    pointerTokens? (s ++ t) = some (before ++ after) := by
  fun_cases pointerTokens? t
  case case1 =>
    cases ht
    rw [List.append_nil, List.append_nil, hs]
  case case2 t =>
    fun_cases pointerTokens? s
    case case1 =>
      cases hs
      exact ht
    case case2 s =>
      cases hs
      cases ht
      rw [List.cons_append, pointerTokens?, Text.splitAt_append_cons, List.map_append]
    case case3 => simp_all [pointerTokens?]
  case case3 => simp_all [pointerTokens?]

/-- A token that is written without escapes. -/
def IsPlainToken (token : List Char) : Prop := '/' ∉ token ∧ '~' ∉ token

instance : DecidablePred IsPlainToken := fun token =>
  inferInstanceAs (Decidable ('/' ∉ token ∧ '~' ∉ token))

theorem IsPlainToken.pointerTokens {token : List Char} (h : IsPlainToken token) :
    pointerTokens? ('/' :: token) = some [token] := by
  rw [pointerTokens?, Text.splitAt_of_not_mem h.1, List.map_singleton, unescapeToken_eq_self h.2]

theorem isPlainToken_digitChars (n : Nat) : IsPlainToken (Text.digitChars n) := by
  constructor <;> intro hmem <;> exact absurd (isDigit_of_mem_digitChars hmem) (by decide)

theorem tokenIndex?_of_isDigit {c : Char} {token : List Char} (hzero : c ≠ '0')
    (hdigits : ∀ d ∈ c :: token, d.isDigit = true) : tokenIndex? (c :: token) = some (Text.digitsValue (c :: token)) := by
  rw [tokenIndex?, if_pos (List.all_eq_true.2 hdigits)]
  · exact nofun
  · exact fun heq => hzero (List.cons.inj heq).1
  · exact fun _ heq => hzero (List.cons.inj heq).1

theorem tokenIndex?_digitChars (n : Nat) : tokenIndex? (Text.digitChars n) = some n := by
  by_cases hn : n = 0
  · subst hn
    rfl
  have hhead := head?_digitChars_ne_zero hn
  have hdigits : ∀ d ∈ Text.digitChars n, d.isDigit = true := fun d => isDigit_of_mem_digitChars
  have hvalue := digitsValue_digitChars n
  cases htoken : Text.digitChars n with
  | nil => exact absurd htoken Nat.toDigits_ne_nil
  | cons c token =>
      rw [htoken] at hhead hdigits hvalue
      rw [tokenIndex?_of_isDigit (fun hzero => hhead (by rw [hzero, List.head?_cons])) hdigits, hvalue]

theorem toList_toString (n : Nat) : (toString n).toList = Text.digitChars n := by
  simp [Text.digitChars, Nat.toString_eq_repr, Nat.toList_repr]

/-- Different places have different indices in a path. -/
theorem toString_inj {i j : Nat} : toString i = toString j ↔ i = j := by
  constructor
  · intro h
    have hdigits : Text.digitChars i = Text.digitChars j := by rw [← toList_toString, ← toList_toString, h]
    have hread := tokenIndex?_digitChars i
    rw [hdigits, tokenIndex?_digitChars] at hread
    exact (Option.some.inj hread).symm
  · rintro rfl
    rfl

namespace Value

/-- A pointer into a part leads on from a pointer to the part. -/
theorem at?_append {value part inner : Value} {base pointer : String} (hbase : value.at? base = some part)
    (hpointer : part.at? pointer = some inner) : value.at? (base ++ pointer) = some inner := by
  obtain ⟨before, hbefore, hpart⟩ := Option.bind_eq_some_iff.1 hbase
  obtain ⟨after, hafter, hinner⟩ := Option.bind_eq_some_iff.1 hpointer
  rw [at?, String.toList_append, pointerTokens?_append hbefore hafter, Option.bind_some, List.foldlM_append, hpart]
  exact hinner

theorem at?_token {value : Value} {token : String} (h : IsPlainToken token.toList) :
    value.at? ("/" ++ token) = value.step? token.toList := by
  have hchars : ("/" ++ token).toList = '/' :: token.toList := by simp
  rw [at?, hchars, h.pointerTokens, Option.bind_some, List.foldlM_cons]
  cases value.step? token.toList <;> rfl

theorem at?_index (items : List Value) (i : Nat) : (list items).at? ("/" ++ toString i) = items[i]? := by
  rw [at?_token, step?, toList_toString, tokenIndex?_digitChars, Option.bind_some]
  rw [toList_toString]
  exact isPlainToken_digitChars i

theorem at?_key (members : List (String × Value)) {key : String} (h : IsPlainToken key.toList) :
    (object members).at? ("/" ++ key) = member? members key := by
  rw [at?_token h, step?, String.ofList_toList]

/-- A pointer to a list and an index behind it lead to what the element there is written as. -/
theorem at?_element {α : Type} {value : Value} {elements : List α} {toJson : α → Value} {base : String} {i : Nat}
    {element : α} (hlist : value.at? base = some (list (elements.map toJson))) (helement : elements[i]? = some element) :
    value.at? (base ++ "/" ++ toString i) = some (toJson element) := by
  rw [String.append_assoc]
  exact at?_append hlist (by rw [at?_index, List.getElem?_map, helement, Option.map_some])

end Value

end DomainModel.Json

namespace DomainModel

/-- The key of a slot that is filled leads to what is in it. -/
theorem at?_slot {value : Json.Value} {slots : List (String × Option Json.Value)}
    (hwritten : value = .object (presentMembers slots)) (hnodup : (slots.map (·.1)).Nodup) (key : String)
    {part : Json.Value} (hslot : (key, some part) ∈ slots) (hplain : Json.IsPlainToken key.toList) :
    value.at? ("/" ++ key) = some part := by
  rw [hwritten, Json.Value.at?_key _ hplain, member?_presentMembers hnodup hslot]

end DomainModel
