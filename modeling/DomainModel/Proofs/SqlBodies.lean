import DomainModel.Proofs.TextFolding
import DomainModel.Proofs.TextNesting
import DomainModel.Sql.Definition
import Mathlib.Data.List.Forall2

/-! Bodies of tables and the definitions in them. A definition closes every parenthesis that it opens and has no comma
outside parentheses, however deep they are nested. Definitions that are joined by commas, with any blanks around each
of them, are found again: the reader passes over each of them as a whole and trims the blanks. Without trimming and
dropping it loses nothing of any body, even where the parentheses do not match. -/

namespace DomainModel.Sql

open Text (isBlank trimChars)

/-- A definition as it may stand between commas. -/
structure IsDefinition (s : List Char) : Prop extends Text.Enclosed '(' ')' s where
  some : s ≠ []
  head : ∀ c ∈ s.head?, isBlank c = false
  last : ∀ c ∈ s.getLast?, isBlank c = false

/-- The piece is the definition with any blanks around it. -/
def Padded (definition piece : List Char) : Prop :=
  ∃ before after, (∀ c ∈ before, isBlank c = true) ∧ (∀ c ∈ after, isBlank c = true) ∧
    piece = before ++ definition ++ after

section Padded
variable {definition piece : List Char}

theorem Padded.passedOver (h : Padded definition piece) (hdefinition : IsDefinition definition) :
    Text.PassedOver '(' ')' 0 piece := by
  obtain ⟨before, after, hbefore, hafter, rfl⟩ := h
  have hbody := hdefinition.toEnclosed.passedOver (by decide)
  exact ((Text.PassedOver.blanks rfl rfl hbefore 0).append hbody).append (.blanks rfl rfl hafter 0)

theorem Padded.trimChars (h : Padded definition piece) (hdefinition : IsDefinition definition) :
    trimChars piece = definition := by
  obtain ⟨before, after, hbefore, hafter, rfl⟩ := h
  have htrimmed := Text.trimChars_eq_self hdefinition.head hdefinition.last
  have hskipped : Text.skipBlanks before = [] := List.dropWhile_eq_nil_iff.2 hbefore
  rw [Text.trimChars_append_blanks hafter, Text.trimChars_append hdefinition.some htrimmed, hskipped, List.nil_append]

end Padded

section Pieces
variable {parts pieces : List (List Char)} (hparts : ∀ part ∈ parts, IsDefinition part)
  (hpieces : List.Forall₂ Padded parts pieces)
include hparts hpieces

theorem passedOver_of_padded : ∀ piece ∈ pieces, Text.PassedOver '(' ')' 0 piece := by
  induction hpieces with
  | nil => exact List.forall_mem_nil _
  | cons hpiece _ ih =>
      rw [List.forall_mem_cons] at hparts ⊢
      exact ⟨hpiece.passedOver hparts.1, ih hparts.2⟩

theorem map_trimChars_of_padded : pieces.map trimChars = parts := by
  induction hpieces with
  | nil => rfl
  | cons hpiece _ ih =>
      rw [List.forall_mem_cons] at hparts
      rw [List.map_cons, hpiece.trimChars hparts.1, ih hparts.2]

theorem definitions_joinWith : definitions (Text.joinWith [','] pieces) = parts := by
  by_cases hsome : pieces = []
  · -- no definitions at all: the one part of the empty text is dropped
    subst hsome
    cases hpieces
    rfl
  · have hsplit := Text.PassedOver.splitOutside_joinWith hsome (passedOver_of_padded hparts hpieces)
    rw [definitions, hsplit, map_trimChars_of_padded hparts hpieces, List.filter_eq_self]
    intro part hpart
    simpa using (hparts part hpart).some

end Pieces

/-- Definitions joined by commas, with any blanks around them, are found again. No body loses anything by being
split. -/
theorem definitions_of_joined :
    (∀ parts pieces : List (List Char), (∀ part ∈ parts, IsDefinition part) → List.Forall₂ Padded parts pieces →
      definitions (Text.joinWith [','] pieces) = parts) ∧
    ∀ body, Text.joinWith [','] (Text.splitOutside '(' ')' 0 body) = body :=
  ⟨fun _ _ hparts hpieces => definitions_joinWith hparts hpieces, Text.joinWith_splitOutside '(' ')' 0⟩

instance (s : List Char) : Decidable (IsDefinition s) :=
  decidable_of_iff
    (Text.Enclosed '(' ')' s ∧ s ≠ [] ∧ s.head?.any isBlank = false ∧ s.getLast?.any isBlank = false)
    (by
      rw [Option.any_eq_false, Option.any_eq_false]
      exact ⟨fun ⟨henclosed, hsome, hhead, hlast⟩ => ⟨henclosed, hsome, hhead, hlast⟩,
        fun h => ⟨h.toEnclosed, h.some, h.head, h.last⟩⟩)

/-- A column, a column with commas in its type, and a clause with nested parentheses. -/
def priceParts : List (List Char) :=
  ["id BIGINT".toList, "price DECIMAL(10, 2) NOT NULL".toList, "CHECK ((id, (price)), 'x')".toList]

/-- The same with blanks around them. -/
def pricePieces : List (List Char) :=
  ["\n  id BIGINT ".toList, "price DECIMAL(10, 2) NOT NULL\t".toList, "\r\n CHECK ((id, (price)), 'x')\n".toList]

theorem padded_pricePieces : List.Forall₂ Padded priceParts pricePieces := by
  have hblank {gap : List Char} (h : gap.all isBlank = true) : ∀ c ∈ gap, isBlank c = true := List.all_eq_true.1 h
  refine .cons ?_ (.cons ?_ (.cons ?_ .nil))
  · exact ⟨"\n  ".toList, [' '], hblank rfl, hblank rfl, rfl⟩
  · exact ⟨[], ['\t'], hblank rfl, hblank rfl, rfl⟩
  · exact ⟨"\r\n ".toList, ['\n'], hblank rfl, hblank rfl, rfl⟩

theorem definitions_of_joined_price :
    (∀ part ∈ priceParts, IsDefinition part) ∧ List.Forall₂ Padded priceParts pricePieces ∧
      definitions (Text.joinWith [','] pricePieces) = priceParts ∧
      Text.joinWith [','] (Text.splitOutside '(' ')' 0 "a), (b, c".toList) = "a), (b, c".toList := by
  have hparts : ∀ part ∈ priceParts, IsDefinition part := by decide +kernel
  exact ⟨hparts, padded_pricePieces, definitions_of_joined.1 priceParts pricePieces hparts padded_pricePieces,
    definitions_of_joined.2 _⟩

end DomainModel.Sql
