import DomainModel.Proofs.SqlComments
import DomainModel.Proofs.TextFolding

/-! Scripts one after the other. Two scripts are joined by a line break and a semicolon. The line break ends
a line comment that is still open and stands apart the last character of the one script and the first of the
other, so no mark of a comment arises at the seam; what begins before it can only be a block comment, and
that must be closed. Then comments are taken out of each script by itself, the semicolon cuts between their
statements, and the line break is trimmed away. So the joined script has the statements of both, and is read
as one after the other: the first statement that creates no table rejects the whole, and otherwise the
entities of the second script follow those of the first. -/

namespace DomainModel.Sql

/-- Every block comment of a script is closed: where those that are have been taken out, none begins. -/
def BlocksClosed (script : List Char) : Prop := ¬ ['/', '*'] <:+: stripBlocks script

instance (script : List Char) : Decidable (BlocksClosed script) :=
  inferInstanceAs (Decidable (¬ ['/', '*'] <:+: stripBlocks script))

/-! ### Statements -/

/-- A line break at the end of a script does not show in its pieces. -/
theorem map_trimChars_splitAt_concat (s : List Char) :
    (Text.splitAt ';' (s ++ ['\n'])).map Text.trimChars = (Text.splitAt ';' s).map Text.trimChars := by
  obtain ⟨before, last, hsplit, hlonger⟩ := Text.exists_splitAt_concat (show '\n' ≠ ';' by decide) s
  rw [hsplit, hlonger, List.map_append, List.map_append, List.map_singleton, List.map_singleton,
    Text.trimChars_concat (by decide)]

/-- A joined script has the statements of the one and then those of the other. -/
theorem statements_join {s : List Char} (h : BlocksClosed s) (t : List Char) :
    statements (s ++ '\n' :: ';' :: t) = statements s ++ statements t := by
  have hbreak : stripBlocks ('\n' :: ';' :: t) = '\n' :: ';' :: stripBlocks t := by simp [stripBlocks]
  have hlines : ∀ u, stripLines (';' :: u) = ';' :: stripLines u := fun u => by simp [stripLines]
  have hpieces : ∀ u v, Text.splitAt ';' (u ++ '\n' :: ';' :: v) =
      Text.splitAt ';' (u ++ ['\n']) ++ Text.splitAt ';' v := fun u v => by
    rw [← Text.splitAt_append_cons, List.append_assoc, List.singleton_append]
  rw [statements, stripBlocks_append (closed_iff.2 h) (head?_cons_ne (by decide)), hbreak, stripLines_append, hlines,
    hpieces, List.map_append, map_trimChars_splitAt_concat, List.filter_append]
  rfl

/-- The first statement of a joined script that creates no table is that of the one, if it has such a statement,
and else that of the other. -/
theorem rejected?_join {a b : String} (h : BlocksClosed a.toList) :
    rejected? (a ++ "\n;" ++ b) = (rejected? a).or (rejected? b) := by
  have hchars : (a ++ "\n;" ++ b).toList = a.toList ++ '\n' :: ';' :: b.toList := by simp
  rw [rejected?, hchars, statements_join h, List.find?_append, Option.map_or]
  rfl

theorem entities_join {a b : String} (h : BlocksClosed a.toList) :
    entities (a ++ "\n;" ++ b) = entities a ++ entities b := by
  have hchars : (a ++ "\n;" ++ b).toList = a.toList ++ '\n' :: ';' :: b.toList := by simp
  rw [entities, hchars, statements_join h, List.filterMap_append]
  rfl

/-- **Joined scripts are read one after the other.** The statement that rejects the first rejects the whole, else
the one that rejects the second; and if there is none, the entities of the second follow those of the first. -/
theorem read_join {a b : String} (h : BlocksClosed a.toList) :
    read (a ++ "\n;" ++ b) =
      match read a, read b with
      | .error statement, _ => .error statement
      | .ok _, .error statement => .error statement
      | .ok first, .ok second => .ok (first ++ second) := by
  simp only [read, rejected?_join h, entities_join h]
  cases rejected? a with
  | some statement => rfl
  | none => cases rejected? b <;> rfl

/-- A script with both kinds of comments, the last of them open, and one that begins as if a comment went on. -/
theorem read_join_commented :
    BlocksClosed "/* ; */ CREATE TABLE a (id INT /**/); -- /".toList ∧
      read ("/* ; */ CREATE TABLE a (id INT /**/); -- /" ++ "\n;" ++ "* DROP TABLE a */; CREATE TABLE b (id INT)") =
        .error "* DROP TABLE a */" := by
  have hclosed : BlocksClosed "/* ; */ CREATE TABLE a (id INT /**/); -- /".toList := by decide +kernel
  refine ⟨hclosed, (read_join hclosed).trans ?_⟩
  decide +kernel

end DomainModel.Sql
