import DomainModel.Text.CaseTable
import DomainModel.Text.Range

/-! Full Unicode case mapping. A letter may become several characters (`ß` gives `SS`, `İ` gives `i`
with a dot above), and a capital sigma becomes the final form at the end of a word. -/

namespace DomainModel.Text

/-- The code point that a run assigns to `n`, when `n` is one of its letters. -/
def CaseRun.image? (run : CaseRun) (n : Nat) : Option Nat :=
  if run.first ≤ n && n ≤ run.last && (n - run.first) % run.stride == 0 then
    some (run.image + (n - run.first))
  else none

/-- The image of a character beyond ASCII under a case mapping; what no row moves stays as it is. -/
def mapCase (runs : List CaseRun) (sequences : List (Nat × List Nat)) (c : Char) : List Char :=
  match sequences.lookup c.toNat with
  | some codes => codes.map Char.ofNat
  | none => [((runs.findSome? (·.image? c.toNat)).map Char.ofNat).getD c]

/-- The lower case of one character on its own. -/
def lowerChar (c : Char) : List Char :=
  if c.toNat < 0x80 then [c.toLower] else mapCase lowerRuns lowerSequences c

/-- The upper case of one character. -/
def upperChar (c : Char) : List Char :=
  if c.toNat < 0x80 then [c.toUpper] else mapCase upperRuns upperSequences c

/-- Whether the nearest character that counts has a case. -/
def nextIsCased (s : List Char) : Bool :=
  match s.dropWhile (inRanges caseIgnorableTable) with
  | c :: _ => inRanges casedTable c
  | [] => false

/-- A sigma is final when a letter comes before it and none after it. -/
def sigmaIsFinal (before after : List Char) : Bool := nextIsCased before && !nextIsCased after

/-- Lower case of `s`, which follows the characters of `before`, the nearest first. -/
def lowerAfter (before : List Char) : List Char → List Char
  | [] => []
  | c :: rest =>
    (if c == 'Σ' then [if sigmaIsFinal before rest then 'ς' else 'σ'] else lowerChar c) ++
      lowerAfter (c :: before) rest

/-- Lower case of a whole text. -/
def lowerChars (s : List Char) : List Char := lowerAfter [] s

/-- Lower case of a whole text. -/
def lower (s : String) : String := String.ofList (lowerChars s.toList)

end DomainModel.Text
