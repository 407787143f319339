import DomainModel.Proofs.Calendar
import DomainModel.Proofs.JsonLexemes
import DomainModel.Time.Instant
import Mathlib.Data.String.Basic

/-! The texts of instants. Numbers with a fixed count of digits compare like their texts, so where years have four digits
the text of an earlier second comes first, whatever stands behind it. Whatever the year is, and however many digits the
fraction of a second has, the text gives the instant back: the letter between the date and the time of day is found by
itself, the parts on both sides have fixed places behind the year, and the year and the fraction are read as they were
written. -/

namespace DomainModel.Text

/-! ### Digits in fixed places -/

theorem toNat_digitChar {d : Nat} (h : d < 10) : (digitChar d).toNat = 48 + d := by
  revert d
  decide

theorem isDigit_digitChar {d : Nat} (h : d < 10) : (digitChar d).isDigit = true := by
  revert d
  decide

theorem digitChar_lt {a b : Nat} (hb : b < 10) (h : a < b) : digitChar a < digitChar b := by
  have hdigits : ∀ b < 10, ∀ a < b, digitChar a < digitChar b := by decide
  exact hdigits b hb a h

theorem isDigit_of_mem_paddedDigits {width n : Nat} {c : Char} (h : c ∈ paddedDigits width n) : c.isDigit = true := by
  induction width generalizing n with
  | zero => cases h
  | succ width ih =>
      rcases List.mem_append.1 h with hfront | hlast
      · exact ih hfront
      · rw [List.mem_singleton.1 hlast]
        exact isDigit_digitChar (Nat.mod_lt n (by decide))

/-- The digits give the number back, as long as it has no more of them. -/
theorem digitsValue_paddedDigits {width n : Nat} (h : n < 10 ^ width) : digitsValue (paddedDigits width n) = n := by
  induction width generalizing n with
  | zero =>
      rw [pow_zero, Nat.lt_one_iff] at h
      rw [h]
      rfl
  | succ width ih =>
      have hfront : n / 10 < 10 ^ width := by
        rw [pow_succ] at h
        omega
      have hzero : ('0' : Char).toNat = 48 := rfl
      rw [paddedDigits, digitsValue_concat, ih hfront, digitValue, toNat_digitChar (Nat.mod_lt n (by decide)), hzero]
      omega

theorem digitsValue_zeros_append (count : Nat) (digits : List Char) :
    digitsValue (List.replicate count '0' ++ digits) = digitsValue digits := by
  induction count with
  | zero => rfl
  | succ count ih => rw [List.replicate_succ, List.cons_append, ← ih, digitsValue, List.foldl_cons]; rfl

/-- Texts of one length decide the order of all that begin with them. -/
theorem append_lt_append {s t : List Char} (hlength : s.length = t.length) (h : s < t) (u v : List Char) :
    s ++ u < t ++ v := by
  induction s generalizing t with
  | nil =>
      rw [List.length_nil] at hlength
      rw [List.length_eq_zero_iff.1 hlength.symm] at h
      exact absurd h (List.lt_irrefl _)
  | cons c rest ih =>
      cases t with
      | nil => cases hlength
      | cons d others =>
          rw [List.cons_append, List.cons_append, List.cons_lt_cons_iff]
          rw [List.cons_lt_cons_iff] at h
          rcases h with hbefore | ⟨hsame, hrest⟩
          · exact .inl hbefore
          · exact .inr ⟨hsame, ih (Nat.succ_inj.1 hlength) hrest⟩

theorem paddedDigits_lt {width a b : Nat} (hb : b < 10 ^ width) (h : a < b) :
    paddedDigits width a < paddedDigits width b := by
  induction width generalizing a b with
  | zero =>
      rw [pow_zero, Nat.lt_one_iff] at hb
      omega
  | succ width ih =>
      rw [paddedDigits, paddedDigits]
      by_cases hfront : a / 10 < b / 10
      · refine append_lt_append ?_ (ih ?_ hfront) _ _
        · rw [length_paddedDigits, length_paddedDigits]
        · rw [pow_succ] at hb
          omega
      · rw [show a / 10 = b / 10 by omega]
        exact List.append_left_lt (List.cons_lt_cons_iff.2 (.inl (digitChar_lt (Nat.mod_lt b (by decide)) (by omega))))

/-- Numbers with as many digits decide the order of the texts that begin with them, and where they are the same the rest
does. -/
theorem paddedDigits_append_lt {width a b : Nat} {s t : List Char} (hb : b < 10 ^ width)
    (h : a < b ∨ a = b ∧ s < t) : paddedDigits width a ++ s < paddedDigits width b ++ t := by
  rcases h with hbefore | ⟨rfl, hrest⟩
  · refine append_lt_append ?_ (paddedDigits_lt hb hbefore) s t
    rw [length_paddedDigits, length_paddedDigits]
  · exact List.append_left_lt hrest

theorem paddedDigits_inj {width a b : Nat} (ha : a < 10 ^ width) (hb : b < 10 ^ width)
    (h : paddedDigits width a = paddedDigits width b) : a = b := by
  rw [← digitsValue_paddedDigits ha, h, digitsValue_paddedDigits hb]

end DomainModel.Text

namespace DomainModel.Time.Instant

open Text (paddedDigits digitsValue digitChars)

/-! ### Parts of a text -/

/-- The characters of a date. -/
def dateChars (date : Date) : List Char :=
  yearChars date.year ++ '-' :: (paddedDigits 2 date.month ++ '-' :: paddedDigits 2 date.day)

/-- The characters of a time of day. -/
def timeChars (gap : Char) (second : Nat) : List Char :=
  paddedDigits 2 (second / 3600) ++ gap :: (paddedDigits 2 (second / 60 % 60) ++ gap :: paddedDigits 2 (second % 60))

theorem dateTimeChars_eq (gap : Char) (instant : Instant) :
    instant.dateTimeChars gap = dateChars instant.date ++ 'T' :: timeChars gap instant.secondOfDay := by
  simp [dateTimeChars, dateChars, timeChars]

theorem length_timeChars (gap : Char) (second : Nat) : (timeChars gap second).length = 8 := by
  simp [timeChars, Text.length_paddedDigits]

theorem mem_yearChars {year : Int} {c : Char} (h : c ∈ yearChars year) : c.isDigit = true ∨ c = '-' ∨ c = '+' := by
  rw [yearChars] at h
  split at h
  · exact .inl (Text.isDigit_of_mem_paddedDigits h)
  · rcases List.mem_append.1 h with hfront | hdigits
    · rcases List.mem_cons.1 hfront with rfl | hzeros
      · split
        · exact .inr (.inl rfl)
        · exact .inr (.inr rfl)
      · rw [List.eq_of_mem_replicate hzeros]
        exact .inl rfl
    · exact .inl (Json.isDigit_of_mem_digitChars hdigits)

theorem mem_dateChars {date : Date} {c : Char} (h : c ∈ dateChars date) : c.isDigit = true ∨ c = '-' ∨ c = '+' := by
  simp only [dateChars, List.mem_append, List.mem_cons] at h
  rcases h with hyear | rfl | hmonth | rfl | hday
  · exact mem_yearChars hyear
  · exact .inr (.inl rfl)
  · exact .inl (Text.isDigit_of_mem_paddedDigits hmonth)
  · exact .inr (.inl rfl)
  · exact .inl (Text.isDigit_of_mem_paddedDigits hday)

theorem mem_timeChars {gap : Char} {second : Nat} {c : Char} (h : c ∈ timeChars gap second) :
    c.isDigit = true ∨ c = gap := by
  simp only [timeChars, List.mem_append, List.mem_cons] at h
  rcases h with hhour | rfl | hminute | rfl | hsecond
  · exact .inl (Text.isDigit_of_mem_paddedDigits hhour)
  · exact .inr rfl
  · exact .inl (Text.isDigit_of_mem_paddedDigits hminute)
  · exact .inr rfl
  · exact .inl (Text.isDigit_of_mem_paddedDigits hsecond)

/-- A fraction has the digits that are left when zeros at the end are dropped by threes. -/
theorem fractionChars_cases (nanoseconds : Nat) :
    nanoseconds = 0 ∧ fractionChars nanoseconds = [] ∨
      ∃ width ≤ 9, nanoseconds % 10 ^ (9 - width) = 0 ∧
        fractionChars nanoseconds = '.' :: paddedDigits width (nanoseconds / 10 ^ (9 - width)) := by
  rw [fractionChars]
  split
  · next hzero => exact .inl ⟨beq_iff_eq.1 hzero, rfl⟩
  · right
    split
    · next hthree => exact ⟨3, by decide, beq_iff_eq.1 hthree, rfl⟩
    · split
      · next hsix => exact ⟨6, by decide, beq_iff_eq.1 hsix, rfl⟩
      · exact ⟨9, le_rfl, Nat.mod_one _, by rw [Nat.sub_self, pow_zero, Nat.div_one]⟩

theorem mem_fractionChars {nanoseconds : Nat} {c : Char} (h : c ∈ fractionChars nanoseconds) :
    c.isDigit = true ∨ c = '.' := by
  rcases fractionChars_cases nanoseconds with ⟨-, hnone⟩ | ⟨width, -, -, hsome⟩
  · rw [hnone] at h
    cases h
  · rw [hsome] at h
    rcases List.mem_cons.1 h with rfl | hdigit
    · exact .inr rfl
    · exact .inl (Text.isDigit_of_mem_paddedDigits hdigit)

/-! ### Reading years and fractions -/

/-- The year that is written. -/
def yearOf : List Char → Int
  | '-' :: digits => -digitsValue digits
  | '+' :: digits => digitsValue digits
  | digits => digitsValue digits

theorem yearOf_digits {digits : List Char} (h : ∀ c ∈ digits, c.isDigit = true) : yearOf digits = digitsValue digits := by
  rw [yearOf.eq_def]
  split
  · exact absurd (h '-' List.mem_cons_self) (by decide)
  · exact absurd (h '+' List.mem_cons_self) (by decide)
  · rfl

theorem yearOf_yearChars (year : Int) : yearOf (yearChars year) = year := by
  rw [yearChars]
  split
  · next hfour =>
      rw [Bool.and_eq_true, decide_eq_true_eq, decide_eq_true_eq] at hfour
      rw [yearOf_digits fun c => Text.isDigit_of_mem_paddedDigits, Text.digitsValue_paddedDigits (by omega)]
      omega
  · have hvalue := Text.digitsValue_zeros_append (4 - (digitChars year.natAbs).length) (digitChars year.natAbs)
    rw [Json.digitsValue_digitChars] at hvalue
    dsimp only
    rw [List.cons_append]
    split
    · rw [yearOf, hvalue]
      omega
    · rw [yearOf, hvalue]
      omega

/-- The nanoseconds of a fraction. -/
def nanosecondsOf : List Char → Nat
  | [] => 0
  | _ :: digits => digitsValue digits * 10 ^ (9 - digits.length)

theorem nanosecondsOf_fractionChars {nanoseconds : Nat} (h : nanoseconds < 10 ^ 9) :
    nanosecondsOf (fractionChars nanoseconds) = nanoseconds := by
  rcases fractionChars_cases nanoseconds with ⟨hzero, hnone⟩ | ⟨width, hwidth, hexact, hsome⟩
  · rw [hnone, hzero]
    rfl
  · have hsmall : nanoseconds / 10 ^ (9 - width) < 10 ^ width := by
      refine Nat.div_lt_of_lt_mul ?_
      rwa [← pow_add, Nat.sub_add_cancel hwidth]
    rw [hsome, nanosecondsOf, Text.digitsValue_paddedDigits hsmall, Text.length_paddedDigits]
    exact Nat.div_mul_cancel (Nat.dvd_of_mod_eq_zero hexact)

/-! ### Reading instants -/

/-- The month and the day have fixed places behind the year. -/
theorem dateChars_inj {days other : Int} (h : dateChars (Date.ofDayNumber days) = dateChars (Date.ofDayNumber other)) :
    days = other := by
  obtain ⟨⟨-, hmonths⟩, -, hdays⟩ := Date.bounds_ofDayNumber days
  obtain ⟨⟨-, hmonths'⟩, -, hdays'⟩ := Date.bounds_ofDayNumber other
  obtain ⟨hyearChars, hrest⟩ := List.append_inj' h (by simp [Text.length_paddedDigits])
  obtain ⟨hmonthChars, hdayChars⟩ := List.append_inj (List.cons.inj hrest).2 (by simp [Text.length_paddedDigits])
  have hyear : (Date.ofDayNumber days).year = (Date.ofDayNumber other).year := by
    have hread := congrArg yearOf hyearChars
    rwa [yearOf_yearChars, yearOf_yearChars] at hread
  have hmonth := Text.paddedDigits_inj (by omega) (by omega) hmonthChars
  have hday := Text.paddedDigits_inj (by omega) (by omega) (List.cons.inj hdayChars).2
  exact Date.ofDayNumber_injective (Date.eq_of_parts hyear hmonth hday)

theorem timeChars_inj {gap : Char} {second other : Nat} (hsecond : second < 86400) (hother : other < 86400)
    (h : timeChars gap second = timeChars gap other) : second = other := by
  obtain ⟨hhourChars, hrest⟩ := List.append_inj h (by simp [Text.length_paddedDigits])
  obtain ⟨hminuteChars, hsecondChars⟩ := List.append_inj (List.cons.inj hrest).2 (by simp [Text.length_paddedDigits])
  have hhour := Text.paddedDigits_inj (by omega) (by omega) hhourChars
  have hminute := Text.paddedDigits_inj (by omega) (by omega) hminuteChars
  have hlast := Text.paddedDigits_inj (by omega) (by omega) (List.cons.inj hsecondChars).2
  omega

theorem secondOfDay_lt (instant : Instant) : instant.secondOfDay < 86400 := by
  rw [secondOfDay, secondsInDay]
  omega

/-- The seconds of an instant are those of the days before it and those of its day. -/
theorem seconds_eq (instant : Instant) :
    instant.seconds = 86400 * (instant.seconds / secondsInDay) + instant.secondOfDay := by
  rw [secondOfDay, secondsInDay]
  omega

theorem toList_toText (instant : Instant) :
    instant.toText.toList =
      instant.dateTimeChars ':' ++ fractionChars instant.nanoseconds ++ "+00:00".toList := by
  rw [toText, clockText, String.toList_append, String.toList_ofList]

/-- Instants with one text are the same, as long as their nanoseconds do not make up a second. -/
theorem toText_inj {instant other : Instant} (hinstant : instant.nanoseconds < 10 ^ 9)
    (hother : other.nanoseconds < 10 ^ 9) (h : instant.toText = other.toText) : instant = other := by
  have hchars : dateChars instant.date ++ 'T' :: (timeChars ':' instant.secondOfDay ++
        fractionChars instant.nanoseconds) =
      dateChars other.date ++ 'T' :: (timeChars ':' other.secondOfDay ++ fractionChars other.nanoseconds) := by
    rw [← String.toList_inj, toList_toText, toList_toText, List.append_left_inj, dateTimeChars_eq,
      dateTimeChars_eq] at h
    simpa only [List.append_assoc, List.cons_append] using h
  -- the date ends at the only letter of the text
  have hdate : 'T' ∉ dateChars instant.date := fun hmem => absurd (mem_dateChars hmem) (by decide)
  have htime : 'T' ∉ timeChars ':' instant.secondOfDay ++ fractionChars instant.nanoseconds := by
    rw [List.mem_append]
    rintro (hmem | hmem)
    · exact absurd (mem_timeChars hmem) (by decide)
    · exact absurd (mem_fractionChars hmem) (by decide)
  obtain ⟨hdateChars, -, hclock⟩ := (List.append_cons_inj_of_notMem hdate htime).1 hchars
  obtain ⟨htimeChars, hfraction⟩ := List.append_inj hclock (by rw [length_timeChars, length_timeChars])
  have hdays := dateChars_inj hdateChars
  have hsecond := timeChars_inj instant.secondOfDay_lt other.secondOfDay_lt htimeChars
  have hseconds : instant.seconds = other.seconds := by
    rw [instant.seconds_eq, other.seconds_eq, hdays, hsecond]
  have hnanoseconds : instant.nanoseconds = other.nanoseconds := by
    rw [← nanosecondsOf_fractionChars hinstant, hfraction, nanosecondsOf_fractionChars hother]
  calc instant
    _ = ⟨instant.seconds, instant.nanoseconds⟩ := rfl
    _ = other := by rw [hseconds, hnanoseconds]

/-! ### The order of texts -/

/-- One instant comes before another. -/
def Before (instant other : Instant) : Prop :=
  instant.seconds < other.seconds ∨ instant.seconds = other.seconds ∧ instant.nanoseconds < other.nanoseconds

/-- A date whose year is written with four digits and no sign. -/
def HasPlainYear (date : Date) : Prop := 0 ≤ date.year ∧ date.year ≤ 9999

theorem yearChars_of_plain {date : Date} (h : HasPlainYear date) :
    yearChars date.year = paddedDigits 4 date.year.toNat := by
  rw [yearChars, if_pos]
  rw [Bool.and_eq_true, decide_eq_true_eq, decide_eq_true_eq]
  exact h

theorem dateChars_append_lt {days later : Int} (hdays : HasPlainYear (Date.ofDayNumber days))
    (hlater : HasPlainYear (Date.ofDayNumber later)) (h : days < later) (s t : List Char) :
    dateChars (Date.ofDayNumber days) ++ s < dateChars (Date.ofDayNumber later) ++ t := by
  have hbounds := Date.bounds_ofDayNumber later
  have hbefore := Date.before_ofDayNumber h
  simp only [dateChars, yearChars_of_plain hdays, yearChars_of_plain hlater, List.append_assoc, List.cons_append]
  obtain ⟨hlow, hhigh⟩ := hdays
  obtain ⟨hlow', hhigh'⟩ := hlater
  refine Text.paddedDigits_append_lt (by omega) ?_
  rcases hbefore with hyear | ⟨hyear, hrest⟩
  · exact .inl (by omega)
  refine .inr ⟨by omega, List.cons_lt_cons_iff.2 (.inr ⟨rfl, Text.paddedDigits_append_lt (by omega) ?_⟩)⟩
  rcases hrest with hmonth | ⟨hmonth, hday⟩
  · exact .inl hmonth
  exact .inr ⟨hmonth, List.cons_lt_cons_iff.2 (.inr ⟨rfl, Text.paddedDigits_append_lt (by omega) (.inl hday)⟩)⟩

theorem timeChars_append_lt {second later : Nat} (hlater : later < 86400) (h : second < later) (gap : Char)
    (s t : List Char) : timeChars gap second ++ s < timeChars gap later ++ t := by
  simp only [timeChars, List.append_assoc, List.cons_append]
  refine Text.paddedDigits_append_lt (by omega) ?_
  by_cases hhour : second / 3600 < later / 3600
  · exact .inl hhour
  refine .inr ⟨by omega, List.cons_lt_cons_iff.2 (.inr ⟨rfl, Text.paddedDigits_append_lt (by omega) ?_⟩)⟩
  by_cases hminute : second / 60 % 60 < later / 60 % 60
  · exact .inl hminute
  exact .inr ⟨by omega, List.cons_lt_cons_iff.2 (.inr ⟨rfl, Text.paddedDigits_append_lt (by omega) (.inl (by omega))⟩)⟩

/-- The text of an earlier second comes first, whatever stands behind the texts. -/
theorem dateTimeChars_append_lt {instant other : Instant} (hinstant : HasPlainYear instant.date)
    (hother : HasPlainYear other.date) (h : instant.seconds < other.seconds) (gap : Char) (s t : List Char) :
    instant.dateTimeChars gap ++ s < other.dateTimeChars gap ++ t := by
  rw [dateTimeChars_eq, dateTimeChars_eq, List.append_assoc, List.append_assoc]
  have hseconds := instant.seconds_eq
  have hothers := other.seconds_eq
  have hbound := instant.secondOfDay_lt
  have hbound' := other.secondOfDay_lt
  rcases lt_or_eq_of_le (by omega : instant.seconds / secondsInDay ≤ other.seconds / secondsInDay) with hday | hday
  · exact dateChars_append_lt hinstant hother hday _ _
  · have hdate : instant.date = other.date := congrArg Date.ofDayNumber hday
    rw [hdate, List.cons_append, List.cons_append]
    refine List.append_left_lt (List.cons_lt_cons_iff.2 (.inr ⟨rfl, ?_⟩))
    exact timeChars_append_lt other.secondOfDay_lt (by omega) gap s t

/-! ### Texts for the names of files -/

/-- The date and the time of day in the text of an instant: what stands before its fraction and before the six characters
of its distance from universal time. -/
def upToSeconds (text : String) : List Char := (text.toList.take (text.toList.length - 6)).takeWhile (· != '.')

theorem upToSeconds_toText (instant : Instant) : upToSeconds instant.toText = instant.dateTimeChars ':' := by
  have hplain : ∀ c ∈ instant.dateTimeChars ':', (c != '.') = true := by
    intro c hc
    rw [dateTimeChars_eq, List.mem_append, List.mem_cons] at hc
    rw [bne_iff_ne]
    rintro rfl
    rcases hc with hdate | hletter | htime
    · exact absurd (mem_dateChars hdate) (by decide)
    · exact absurd hletter (by decide)
    · exact absurd (mem_timeChars htime) (by decide)
  have hend : ∀ c ∈ (fractionChars instant.nanoseconds).head?, (c != '.') = false := by
    rcases fractionChars_cases instant.nanoseconds with ⟨-, hnone⟩ | ⟨width, -, -, hsome⟩
    · simp [hnone]
    · simp [hsome]
  have htake : instant.toText.toList.take (instant.toText.toList.length - 6) =
      instant.dateTimeChars ':' ++ fractionChars instant.nanoseconds := by
    have hlength : instant.toText.toList.length =
        (instant.dateTimeChars ':' ++ fractionChars instant.nanoseconds).length + 6 := by
      rw [toList_toText, List.length_append]
      rfl
    rw [hlength, Nat.add_sub_cancel, toList_toText]
    exact List.take_left
  rw [upToSeconds, htake, (Text.takeWhile_append_run hplain hend).1]

/-- A text with hyphens for colons. -/
def hyphenated (s : List Char) : List Char := s.map fun c => if c = ':' then '-' else c

theorem hyphenated_append_cons (s : List Char) (c : Char) (t : List Char) :
    hyphenated (s ++ c :: t) = hyphenated s ++ (if c = ':' then '-' else c) :: hyphenated t := by
  rw [hyphenated, List.map_append, List.map_cons]
  rfl

theorem hyphenated_of_not_mem {s : List Char} (h : ':' ∉ s) : hyphenated s = s := by
  conv_rhs => rw [← List.map_id s]
  refine List.map_congr_left fun c hc => if_neg ?_
  rintro rfl
  exact h hc

theorem hyphenated_paddedDigits (width n : Nat) : hyphenated (paddedDigits width n) = paddedDigits width n :=
  hyphenated_of_not_mem fun hmem => absurd (Text.isDigit_of_mem_paddedDigits hmem) (by decide)

/-- The text for the names of files is the date and the time of day with hyphens for colons. -/
theorem hyphenated_dateTimeChars (instant : Instant) :
    hyphenated (instant.dateTimeChars ':') = instant.dateTimeChars '-' := by
  have hdate : hyphenated (dateChars instant.date) = dateChars instant.date :=
    hyphenated_of_not_mem fun hmem => absurd (mem_dateChars hmem) (by decide)
  have htime : hyphenated (timeChars ':' instant.secondOfDay) = timeChars '-' instant.secondOfDay := by
    rw [timeChars, timeChars, hyphenated_append_cons, hyphenated_append_cons, hyphenated_paddedDigits,
      hyphenated_paddedDigits, hyphenated_paddedDigits]
    rfl
  rw [dateTimeChars_eq, dateTimeChars_eq, hyphenated_append_cons, hdate, htime]
  rfl

end DomainModel.Time.Instant
