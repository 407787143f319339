import DomainModel.Text.Ascii
import DomainModel.Text.Blank
import DomainModel.Text.Nesting

/-! Field types up to spelling. Several names of one type share a bucket, a generic type is compared
with its arguments and an array with its element; names outside the tables are compared ignoring
case. -/

namespace DomainModel.TypeName

/-- The buckets of types that stand for themselves, under their names in lower case. -/
def buckets : List (String × String) := [
  ("int", "INTEGER"), ("integer", "INTEGER"), ("long", "LONG"), ("bigint", "LONG"), ("short", "SHORT"),
  ("smallint", "SHORT"), ("byte", "BYTE"), ("double", "DOUBLE"), ("float", "FLOAT"),
  ("decimal", "BIGDECIMAL"), ("bigdecimal", "BIGDECIMAL"), ("numeric", "BIGDECIMAL"),
  ("biginteger", "BIGINTEGER"), ("string", "STRING"), ("text", "STRING"), ("varchar", "STRING"),
  ("char", "CHARACTER"), ("character", "CHARACTER"), ("bool", "BOOLEAN"), ("boolean", "BOOLEAN"),
  ("date", "LOCALDATE"), ("localdate", "LOCALDATE"), ("datetime", "LOCALDATETIME"),
  ("localdatetime", "LOCALDATETIME"), ("instant", "INSTANT"), ("timestamp", "INSTANT"), ("uuid", "UUID")]

/-- The buckets of types with arguments, under their names in lower case. -/
def containerBuckets : List (String × String) := [
  ("list", "LIST"), ("arraylist", "LIST"), ("collection", "LIST"), ("set", "SET"), ("hashset", "SET"),
  ("map", "MAP"), ("hashmap", "MAP")]

/-- The bucket of a name, or else the name in capitals. -/
def bucketOf (table : List (String × String)) (name : List Char) : List Char :=
  match table.lookup (String.ofList (name.map Char.toLower)) with
  | some bucket => bucket.toList
  | none => name.map Char.toUpper

/-- The element of an array type. -/
def arrayElement? (s : List Char) : Option (List Char) :=
  if [']', '['].isPrefixOf s.reverse then some (s.take (s.length - 2)) else none

/-- The head of a generic type and the text between its outer angle brackets. -/
def genericParts? (s : List Char) : Option (List Char × List Char) :=
  if s.contains '<' && s.getLast? == some '>' then
    some (Text.trimChars (s.takeWhile (· != '<')), ((s.dropWhile (· != '<')).drop 1).dropLast)
  else none

private theorem length_trimChars_le (s : List Char) : (Text.trimChars s).length ≤ s.length := by
  have h := (List.dropWhile_suffix (l := (Text.skipBlanks s).reverse) Text.isBlank).length_le
  have h' := (List.dropWhile_suffix (l := s) Text.isBlank).length_le
  simp only [Text.trimChars, Text.skipBlanks, List.length_reverse] at *
  omega

private theorem length_arrayElement {s element : List Char} (h : arrayElement? s = some element) :
    element.length < s.length := by
  unfold arrayElement? at h
  split at h
  · next hends =>
    have hlen := (List.isPrefixOf_iff_prefix.1 hends).length_le
    simp only [List.length_cons, List.length_nil, List.length_reverse, Option.some.injEq] at hlen h
    subst h
    simp only [List.length_take]
    omega
  · simp at h

private theorem length_genericParts {s head arguments : List Char} (h : genericParts? s = some (head, arguments)) :
    arguments.length < s.length := by
  unfold genericParts? at h
  split at h
  · next hc =>
    simp only [Bool.and_eq_true, List.contains_iff_mem] at hc
    have hpos := List.length_pos_of_mem hc.1
    have hle := (List.dropWhile_suffix (l := s) (· != '<')).length_le
    simp only [Option.some.injEq, Prod.mk.injEq] at h
    simp only [← h.2, List.length_dropLast, List.length_drop]
    omega
  · simp at h

/-- The canonical spelling of a type, the same for all types that are compatible. -/
def canonicalChars (s : List Char) : List Char :=
  match _ha : arrayElement? (Text.trimChars s) with
  | some element => "ARRAY<".toList ++ canonicalChars element ++ ['>']
  | none =>
    match _hg : genericParts? (Text.trimChars s) with
    | some (head, arguments) =>
      bucketOf containerBuckets head ++
        '<' :: Text.joinWith [','] ((Text.splitOutside '<' '>' 0 arguments).attach.map fun ⟨part, _⟩ =>
          canonicalChars part) ++ ['>']
    | none => bucketOf buckets (Text.trimChars s)
termination_by s.length
decreasing_by
  · exact Nat.lt_of_lt_of_le (length_arrayElement _ha) (length_trimChars_le s)
  · exact Nat.lt_of_le_of_lt (Text.length_le_of_mem_splitOutside (by assumption))
      (Nat.lt_of_lt_of_le (length_genericParts _hg) (length_trimChars_le s))

/-- The canonical spelling of a type: `Int` and `Integer` give `INTEGER`, `List<Int>` gives
`LIST<INTEGER>` and `long[]` gives `ARRAY<LONG>`. -/
def canonical (typeName : String) : String := String.ofList (canonicalChars typeName.toList)

/-- Whether a value of one type may stand for a value of the other. -/
def compatible (left right : String) : Bool := canonical left == canonical right

end DomainModel.TypeName
