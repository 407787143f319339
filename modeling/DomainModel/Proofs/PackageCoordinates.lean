import DomainModel.Naming.Basic
import DomainModel.Text.Split
import Mathlib.Computability.Language

/-! Package coordinates. A group id is a run of segments with dots between them, an artifact id a run of segments with
hyphens. Each is a pattern, a first segment and then any number of separators with a segment behind each; the patterns
speak about the whole text, so what stands behind the last segment counts as well. As no segment has a separator in it,
a text follows such a pattern in one way only, which is splitting it at every separator. The readers go through a text
once and keep in mind whether a segment has to begin. -/

namespace DomainModel.Naming

open Text (splitAt joinWith prependToFirst)
open scoped Computability

/-! ### Segments -/

/-- A segment: a character that may begin it, then characters that may continue it. -/
def IsSegment (start part : Char → Bool) : List Char → Prop
  | [] => False
  | c :: rest => start c = true ∧ ∀ d ∈ rest, part d = true

/-- Between its separators the text has a segment of one kind and then only segments of another kind. -/
def Segmented (separator : Char) (first other : List Char → Prop) (s : List Char) : Prop :=
  ∃ segment segments, splitAt separator s = segment :: segments ∧ first segment ∧ ∀ next ∈ segments, other next

section Segmented
variable {separator : Char} {first other : List Char → Prop}

theorem segmented_self_iff {s : List Char} :
    Segmented separator other other s ↔ ∀ segment ∈ splitAt separator s, other segment := by
  obtain ⟨segment, segments, hsplit⟩ := List.exists_cons_of_ne_nil (Text.splitAt_ne_nil separator s)
  simp [Segmented, hsplit]

theorem segmented_nil : Segmented separator first other [] ↔ first [] := by
  simp [Segmented, splitAt]

/-- A separator ends the first segment. -/
theorem segmented_separator (rest : List Char) :
    Segmented separator first other (separator :: rest) ↔ first [] ∧ Segmented separator other other rest := by
  rw [segmented_self_iff]
  simp [Segmented, splitAt]

/-- Any other character goes to the front of the first segment. -/
theorem segmented_cons {c : Char} (hc : c ≠ separator) (rest : List Char) :
    Segmented separator first other (c :: rest) ↔ Segmented separator (fun s => first (c :: s)) other rest := by
  obtain ⟨segment, segments, hrest⟩ := List.exists_cons_of_ne_nil (Text.splitAt_ne_nil separator rest)
  have hsplit : splitAt separator (c :: rest) = (c :: segment) :: segments := by
    rw [splitAt, if_neg (by simpa using hc), hrest, prependToFirst]
  simp [Segmented, hsplit, hrest]

theorem segmented_and_iff {p : Prop} {s : List Char} :
    Segmented separator (fun segment => p ∧ first segment) other s ↔ p ∧ Segmented separator first other s := by
  obtain ⟨segment, segments, hsplit⟩ := List.exists_cons_of_ne_nil (Text.splitAt_ne_nil separator s)
  simp [Segmented, hsplit, and_assoc]

end Segmented

section Reader
variable {separator : Char} {start part : Char → Bool}

theorem IsSegment.ne_nil {s : List Char} (h : IsSegment start part s) : s ≠ [] := by
  rintro rfl
  exact h

theorem IsSegment.not_mem {s : List Char} (h : IsSegment start part s) {c : Char} (hstart : start c = false)
    (hpart : part c = false) : c ∉ s := by
  have hother {p : Char → Bool} (hp : p c = false) {d : Char} (hd : p d = true) : c ≠ d := by
    rintro rfl
    exact Bool.false_ne_true (hp.symm.trans hd)
  cases s with
  | nil => exact List.not_mem_nil
  | cons d rest =>
      rw [List.mem_cons, not_or]
      exact ⟨hother hstart h.1, fun hmem => absurd rfl (hother hpart (h.2 c hmem))⟩

/-- The reader of both coordinates: `fresh` says that a segment has to begin here. -/
def scan (separator : Char) (start part : Char → Bool) (fresh : Bool) : List Char → Bool
  | [] => !fresh
  | c :: rest =>
    if c == separator then !fresh && scan separator start part true rest
    else (if fresh then start c else part c) && scan separator start part false rest

/-- What the reader wants of the text up to the next separator: a segment, or the rest of one. -/
def Goes (start part : Char → Bool) (fresh : Bool) (s : List Char) : Prop :=
  if fresh then IsSegment start part s else ∀ c ∈ s, part c = true

theorem goes_true : Goes start part true = IsSegment start part := funext fun _ => if_pos rfl

theorem goes_nil {fresh : Bool} : Goes start part fresh [] ↔ fresh = false := by
  cases fresh <;> simp [Goes, IsSegment]

theorem goes_cons {fresh : Bool} {c : Char} {s : List Char} :
    Goes start part fresh (c :: s) ↔ (if fresh then start c else part c) = true ∧ Goes start part false s := by
  cases fresh <;> simp [Goes, IsSegment]

/-- At a separator the reader may not be in want of a segment, and then it is; at any other character it goes on. -/
theorem scan_iff (fresh : Bool) (s : List Char) :
    scan separator start part fresh s = true ↔
      Segmented separator (Goes start part fresh) (IsSegment start part) s := by
  induction s generalizing fresh with
  | nil => rw [segmented_nil, goes_nil, scan, Bool.not_eq_true']
  | cons c rest ih =>
      by_cases hc : c = separator
      · subst hc
        rw [segmented_separator, goes_nil, scan, if_pos (beq_self_eq_true c), Bool.and_eq_true, Bool.not_eq_true', ih,
          goes_true]
      · simp only [segmented_cons hc, goes_cons, segmented_and_iff]
        rw [scan, if_neg (by simpa using hc), Bool.and_eq_true, ih]

end Reader

/-! ### The two readers -/

/-- A character that may continue a segment of a group id. -/
def isGroupPart (c : Char) : Bool := c.isLower || c.isDigit || c == '_'

/-- A character of a segment of an artifact id. -/
def isArtifactPart (c : Char) : Bool := c.isLower || c.isDigit

theorem scanGroupId_eq (fresh : Bool) (s : List Char) :
    scanGroupId fresh s = scan '.' Char.isLower isGroupPart fresh s := by
  induction s generalizing fresh with
  | nil => rfl
  | cons c rest ih =>
      rw [scanGroupId, scan, ih, ih]
      by_cases hc : c = '.'
      · subst hc
        cases fresh <;> rfl
      · cases fresh <;> simp [hc, isGroupPart]

theorem scanArtifactId_eq (fresh : Bool) (s : List Char) :
    scanArtifactId fresh s = scan '-' isArtifactPart isArtifactPart fresh s := by
  induction s generalizing fresh with
  | nil => rfl
  | cons c rest ih =>
      rw [scanArtifactId, scan, ih, ih, ite_self]
      rfl

theorem isGroupId_iff_segmented {name : String} :
    isGroupId name = true ↔
      Segmented '.' (IsSegment Char.isLower isGroupPart) (IsSegment Char.isLower isGroupPart) name.toList := by
  rw [isGroupId, scanGroupId_eq, scan_iff, goes_true]

theorem isArtifactId_iff_segmented {name : String} :
    isArtifactId name = true ↔
      Segmented '-' (IsSegment Char.isLower isArtifactPart) (IsSegment isArtifactPart isArtifactPart) name.toList := by
  rw [isArtifactId]
  cases name.toList with
  | nil =>
      rw [segmented_nil]
      exact iff_of_false Bool.false_ne_true id
  | cons c rest =>
      rw [Bool.and_eq_true, scanArtifactId_eq, scan_iff]
      by_cases hc : c = '-'
      · subst hc
        rw [segmented_separator]
        exact iff_of_false (fun h => absurd h.1 (by decide)) fun h => h.1
      · rw [segmented_cons hc, ← segmented_and_iff]
        rfl

/-! ### Patterns -/

/-- The texts of one character of a class. -/
def oneOf (p : Char → Bool) : Language Char := {s | ∃ c, p c = true ∧ s = [c]}

/-- A character that may begin a segment, then characters that may continue it. -/
def segmentPattern (start part : Char → Bool) : Language Char := oneOf start * (oneOf part)∗

/-- A segment, then any number of separators with a segment behind each. -/
def pattern (separator : Char) (first other : Language Char) : Language Char :=
  first * (oneOf (· == separator) * other)∗

theorem mem_oneOf_mul_iff {p : Char → Bool} {l : Language Char} {s : List Char} :
    s ∈ oneOf p * l ↔ ∃ c rest, p c = true ∧ rest ∈ l ∧ s = c :: rest := by
  rw [Language.mem_mul]
  constructor
  · rintro ⟨_, ⟨c, hc, rfl⟩, rest, hrest, rfl⟩
    exact ⟨c, rest, hc, hrest, rfl⟩
  · rintro ⟨c, rest, hc, hrest, rfl⟩
    exact ⟨[c], ⟨c, hc, rfl⟩, rest, hrest, rfl⟩

theorem mem_star_oneOf_iff {p : Char → Bool} {s : List Char} : s ∈ (oneOf p)∗ ↔ ∀ c ∈ s, p c = true := by
  rw [Language.mem_kstar]
  constructor
  · rintro ⟨letters, rfl, hletters⟩ c hc
    obtain ⟨letter, hmem, hin⟩ := List.mem_flatten.1 hc
    obtain ⟨d, hd, rfl⟩ := hletters letter hmem
    rwa [List.mem_singleton.1 hin]
  · intro h
    refine ⟨s.map fun c => [c], ?_, fun letter hletter => ?_⟩
    · rw [← List.flatMap_def, List.flatMap_singleton']
    · obtain ⟨c, hc, rfl⟩ := List.mem_map.1 hletter
      exact ⟨c, h c hc, rfl⟩

theorem mem_segmentPattern_iff {start part : Char → Bool} {s : List Char} :
    s ∈ segmentPattern start part ↔ IsSegment start part s := by
  rw [segmentPattern, mem_oneOf_mul_iff]
  simp only [mem_star_oneOf_iff]
  cases s with
  | nil => simp [IsSegment]
  | cons c rest => simp [IsSegment]

section Patterns
variable {separator : Char} {first other : Language Char}

/-- The parts of a joined text behind the first one, each with a separator in front of it. -/
theorem joinWith_cons_eq (segment : List Char) (segments : List (List Char)) :
    joinWith [separator] (segment :: segments) = segment ++ (segments.map (separator :: ·)).flatten := by
  induction segments generalizing segment with
  | nil => simp [joinWith]
  | cons next segments ih =>
      rw [joinWith, ih, List.map_cons, List.flatten_cons, List.append_assoc, List.singleton_append, List.cons_append]
      exact List.cons_ne_nil _ _

theorem mem_star_separated_iff {s : List Char} :
    s ∈ (oneOf (· == separator) * other)∗ ↔
      ∃ segments : List (List Char), (∀ next ∈ segments, next ∈ other) ∧
        s = (segments.map (separator :: ·)).flatten := by
  rw [Language.mem_kstar]
  constructor
  · rintro ⟨texts, rfl, htexts⟩
    induction texts with
    | nil => exact ⟨[], by simp, rfl⟩
    | cons text texts ih =>
        rw [List.forall_mem_cons, mem_oneOf_mul_iff] at htexts
        obtain ⟨⟨c, next, hc, hnext, rfl⟩, hrest⟩ := htexts
        obtain ⟨segments, hsegments, hflatten⟩ := ih hrest
        refine ⟨next :: segments, List.forall_mem_cons.2 ⟨hnext, hsegments⟩, ?_⟩
        rw [List.flatten_cons, hflatten, List.map_cons, List.flatten_cons, beq_iff_eq.1 hc]
  · rintro ⟨segments, hsegments, rfl⟩
    refine ⟨segments.map (separator :: ·), rfl, fun text htext => ?_⟩
    obtain ⟨next, hnext, rfl⟩ := List.mem_map.1 htext
    exact mem_oneOf_mul_iff.2 ⟨separator, next, beq_self_eq_true separator, hsegments next hnext, rfl⟩

/-- A text follows the pattern in one way only: its segments have no separator, so splitting finds them. -/
theorem mem_pattern_iff (hfirst : ∀ segment ∈ first, separator ∉ segment)
    (hother : ∀ segment ∈ other, separator ∉ segment) {s : List Char} :
    s ∈ pattern separator first other ↔ Segmented separator (· ∈ first) (· ∈ other) s := by
  rw [pattern, Language.mem_mul]
  constructor
  · rintro ⟨segment, hsegment, rest, hrest, rfl⟩
    obtain ⟨segments, hsegments, rfl⟩ := mem_star_separated_iff.1 hrest
    refine ⟨segment, segments, ?_, hsegment, hsegments⟩
    rw [← joinWith_cons_eq]
    apply Text.splitAt_joinWith (List.cons_ne_nil _ _)
    rw [List.forall_mem_cons]
    exact ⟨hfirst segment hsegment, fun next hnext => hother next (hsegments next hnext)⟩
  · rintro ⟨segment, segments, hsplit, hsegment, hsegments⟩
    refine ⟨segment, hsegment, _, mem_star_separated_iff.2 ⟨segments, hsegments, rfl⟩, ?_⟩
    show segment ++ (segments.map (separator :: ·)).flatten = s
    rw [← joinWith_cons_eq, ← hsplit, Text.joinWith_splitAt]

/-- Patterns whose segments are made of other characters than the separator. -/
theorem mem_pattern_segments_iff {start start' part : Char → Bool} (hstart : start separator = false)
    (hstart' : start' separator = false) (hpart : part separator = false) {s : List Char} :
    s ∈ pattern separator (segmentPattern start part) (segmentPattern start' part) ↔
      Segmented separator (IsSegment start part) (IsSegment start' part) s := by
  have hfree {start : Char → Bool} (hstart : start separator = false) :
      ∀ segment ∈ segmentPattern start part, separator ∉ segment :=
    fun _ hsegment => (mem_segmentPattern_iff.1 hsegment).not_mem hstart hpart
  rw [mem_pattern_iff (hfree hstart) (hfree hstart')]
  simp only [Segmented, mem_segmentPattern_iff]

end Patterns

/-! ### Group ids and artifact ids -/

/-- The pattern of group ids. -/
def groupPattern : Language Char :=
  pattern '.' (segmentPattern Char.isLower isGroupPart) (segmentPattern Char.isLower isGroupPart)

/-- The pattern of artifact ids. -/
def artifactPattern : Language Char :=
  pattern '-' (segmentPattern Char.isLower isArtifactPart) (segmentPattern isArtifactPart isArtifactPart)

theorem isGroupId_iff {name : String} :
    isGroupId name = true ↔ ∀ segment ∈ splitAt '.' name.toList, IsSegment Char.isLower isGroupPart segment := by
  rw [isGroupId_iff_segmented, segmented_self_iff]

/-- A segment that begins with a letter is one that may begin with a digit, and does not. -/
theorem isSegment_isLower_iff {s : List Char} :
    IsSegment Char.isLower isArtifactPart s ↔
      IsSegment isArtifactPart isArtifactPart s ∧ s.head?.any Char.isLower = true := by
  cases s with
  | nil => simp [IsSegment]
  | cons c rest =>
      have hpart : c.isLower = true → isArtifactPart c = true := by
        intro hlower
        rw [isArtifactPart, hlower, Bool.true_or]
      show (c.isLower = true ∧ _) ↔ (isArtifactPart c = true ∧ _) ∧ c.isLower = true
      tauto

theorem isArtifactId_iff {name : String} :
    isArtifactId name = true ↔
      (∀ segment ∈ splitAt '-' name.toList, IsSegment isArtifactPart isArtifactPart segment) ∧
        ∀ first ∈ (splitAt '-' name.toList).head?, first.head?.any Char.isLower = true := by
  rw [isArtifactId_iff_segmented, Segmented]
  obtain ⟨segment, segments, hsplit⟩ := List.exists_cons_of_ne_nil (Text.splitAt_ne_nil '-' name.toList)
  rw [hsplit, List.forall_mem_cons]
  simp [isSegment_isLower_iff, and_right_comm]

example : isGroupId "com.example_2.shop" = true ∧ isArtifactId "order-7" = true ∧ isArtifactId "7-order" = false := by
  decide

theorem isGroupId_iff_mem_groupPattern {name : String} : isGroupId name = true ↔ name.toList ∈ groupPattern :=
  isGroupId_iff_segmented.trans (mem_pattern_segments_iff rfl rfl rfl).symm

theorem isArtifactId_iff_mem_artifactPattern {name : String} :
    isArtifactId name = true ↔ name.toList ∈ artifactPattern :=
  isArtifactId_iff_segmented.trans (mem_pattern_segments_iff rfl rfl rfl).symm

/-! ### Texts that are refused -/

/-- A test of names refuses empty segments, at the ends as well as between two separators, and a line break at the
end. -/
structure Refuses (separator : String) (test : String → Bool) : Prop where
  empty : test "" = false
  leading (s : String) : test (separator ++ s) = false
  trailing (s : String) : test (s ++ separator) = false
  repeated (s t : String) : test (s ++ separator ++ separator ++ t) = false
  lineBreak (s : String) : test (s ++ "\n") = false

/-- It is enough that the segments of the names that pass are not empty and have no line break. -/
theorem refuses_of_segments (separator : Char) {test : String → Bool} (hbreak : separator ≠ '\n')
    (h : ∀ name, test name = true → ∀ segment ∈ splitAt separator name.toList, segment ≠ [] ∧ '\n' ∉ segment) :
    Refuses (String.singleton separator) test := by
  have hempty (name : String) (hmem : [] ∈ splitAt separator name.toList) : test name = false := by
    rw [← Bool.not_eq_true]
    intro htest
    exact absurd rfl (h name htest [] hmem).1
  refine ⟨hempty _ (by simp [splitAt]), fun s => hempty _ ?_, fun s => hempty _ ?_, fun s t => hempty _ ?_, fun s => ?_⟩
  · simp [splitAt]
  · simp [Text.splitAt_append_cons, splitAt]
  · simp [Text.splitAt_append_cons, splitAt]
  · rw [← Bool.not_eq_true]
    intro htest
    obtain ⟨before, last, -, hsplit⟩ := Text.exists_splitAt_concat hbreak.symm s.toList
    have hmem : last ++ ['\n'] ∈ splitAt separator (s ++ "\n").toList := by
      rw [String.toList_append]
      show _ ∈ splitAt separator (s.toList ++ ['\n'])
      rw [hsplit]
      simp
    exact absurd (by simp) (h _ htest _ hmem).2

/-- Package coordinates are told by their segments, and the same texts follow their patterns. -/
theorem coordinates_iff_segments :
    (∀ name, isGroupId name = true ↔
      ∀ segment ∈ splitAt '.' name.toList, IsSegment Char.isLower isGroupPart segment) ∧
    (∀ name, isArtifactId name = true ↔
      (∀ segment ∈ splitAt '-' name.toList, IsSegment isArtifactPart isArtifactPart segment) ∧
        ∀ first ∈ (splitAt '-' name.toList).head?, first.head?.any Char.isLower = true) ∧
    (∀ name, isGroupId name = true ↔ name.toList ∈ groupPattern) ∧
    (∀ name, isArtifactId name = true ↔ name.toList ∈ artifactPattern) ∧
    Refuses "." isGroupId ∧ Refuses "-" isArtifactId := by
  refine ⟨fun _ => isGroupId_iff, fun _ => isArtifactId_iff, fun _ => isGroupId_iff_mem_groupPattern,
    fun _ => isArtifactId_iff_mem_artifactPattern, ?_, ?_⟩
  · apply refuses_of_segments '.' (by decide)
    intro name hname segment hsegment
    have h := isGroupId_iff.1 hname segment hsegment
    exact ⟨h.ne_nil, h.not_mem rfl rfl⟩
  · apply refuses_of_segments '-' (by decide)
    intro name hname segment hsegment
    have h := (isArtifactId_iff.1 hname).1 segment hsegment
    exact ⟨h.ne_nil, h.not_mem rfl rfl⟩

end DomainModel.Naming
