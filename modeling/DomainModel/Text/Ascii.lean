/-! Case within ASCII. Names that are looked up, compared or kept apart "ignoring case" are compared
by `equalIgnoringCase`, which folds the letters A to Z and no others. -/

namespace DomainModel.Text

/-- Folds the letters A to Z. -/
def asciiLower (s : String) : String := String.ofList (s.toList.map Char.toLower)

/-- Equality up to the case of ASCII letters. -/
def equalIgnoringCase (a b : String) : Bool := a.toList.map Char.toLower == b.toList.map Char.toLower

theorem equalIgnoringCase_iff {a b : String} :
    equalIgnoringCase a b = true ↔ a.toList.map Char.toLower = b.toList.map Char.toLower := by
  simp [equalIgnoringCase]

@[simp] theorem equalIgnoringCase_refl (a : String) : equalIgnoringCase a a = true := by
  simp [equalIgnoringCase]

theorem equalIgnoringCase_comm (a b : String) : equalIgnoringCase a b = equalIgnoringCase b a := by
  rw [Bool.eq_iff_iff, equalIgnoringCase_iff, equalIgnoringCase_iff]
  exact eq_comm

theorem equalIgnoringCase_trans {a b c : String} (hab : equalIgnoringCase a b = true)
    (hbc : equalIgnoringCase b c = true) : equalIgnoringCase a c = true := by
  rw [equalIgnoringCase_iff] at *
  exact hab.trans hbc

end DomainModel.Text
