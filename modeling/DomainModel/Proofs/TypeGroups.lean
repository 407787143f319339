import DomainModel.Constraint.Registry
import DomainModel.Proofs.JsonDocuments
import DomainModel.Proofs.TypeSpelling

/-! The groups of compatible types. A type is read in two ways: for the constraints that suit it, where the names of
types are told apart by case and the arguments of a type do not matter, and for the types that it is compatible with,
where each name stands for a bucket. Where the first reading gives a group, the second loses nothing of it: the group
can be read off the canonical form, from what stands in front of the first angle bracket. So types of one canonical
form cannot be of two groups, however they are spelled. -/

namespace DomainModel.TypeName

open Text (trimChars)

/-! ### Heads -/

/-- What stands in front of the first angle bracket, without outer blanks and in lower case. -/
def headOf (s : List Char) : String := String.ofList ((trimChars (s.takeWhile (· != '<'))).map Char.toLower)

theorem toUpper_eq_angle_iff {c : Char} : c.toUpper = '<' ↔ c = '<' := by
  rw [← Char.toNat_inj, ← Char.toNat_inj, Text.toNat_toUpper]
  simp only [Char.reduceToNat]
  split <;> omega

theorem headOf_map_toUpper (s : List Char) : headOf (s.map Char.toUpper) = headOf s := by
  have hangle : ((· != '<') ∘ Char.toUpper) = (· != '<') := by
    funext c
    rw [Function.comp_apply, Bool.eq_iff_iff, bne_iff_ne, bne_iff_ne, ne_eq, ne_eq, toUpper_eq_angle_iff]
  rw [headOf, headOf, List.takeWhile_map, hangle, ← Text.trimChars_map_toLower, map_toLower_toUpper,
    Text.trimChars_map_toLower]

theorem headOf_append {front : List Char} (h : '<' ∉ front) (back : List Char) :
    headOf (front ++ '<' :: back) = headOf front := by
  have hfront : ∀ c ∈ front, (c != '<') = true := fun c hc => bne_iff_ne.2 fun heq => h (heq ▸ hc)
  rw [headOf, headOf, List.takeWhile_append_of_pos hfront, List.takeWhile_cons_of_neg (by simp), List.append_nil,
    List.takeWhile_eq_self_iff.2 hfront]

/-- A text with an angle bracket is in no bucket of a name. -/
theorem bucketOf_buckets_of_angle {s : List Char} (h : '<' ∈ s) : bucketOf buckets s = s.map Char.toUpper := by
  have hkeys : ∀ row ∈ buckets, '<' ∉ row.1.toList := by decide +kernel
  rw [bucketOf]
  split
  · next bucket hbucket =>
      have hkey := hkeys _ (Json.mem_of_lookup hbucket)
      rw [String.toList_ofList] at hkey
      exact absurd (List.mem_map.2 ⟨'<', h, rfl⟩) hkey
  · rfl

/-! ### Groups of canonical forms -/

/-- The groups of canonical forms with an angle bracket, by their heads. -/
def bracketGroups : List (String × TypeGroup) := [
  ("array", .collection), ("list", .collection), ("set", .collection), ("collection", .collection),
  ("iterable", .collection), ("map", .object)]

/-- The groups of the canonical forms of names. -/
def nameGroups : List (String × TypeGroup) := [
  ("STRING", .string), ("CHARACTER", .string), ("UUID", .string), ("INTEGER", .number), ("LONG", .number),
  ("SHORT", .number), ("BYTE", .number), ("DOUBLE", .number), ("FLOAT", .number), ("BIGDECIMAL", .number),
  ("BIGINTEGER", .number), ("LOCALDATE", .date), ("LOCALDATETIME", .date), ("LOCALTIME", .date), ("INSTANT", .date),
  ("ZONEDDATETIME", .date), ("OFFSETDATETIME", .date), ("BOOLEAN", .boolean), ("BLOB", .binary), ("BINARY", .binary),
  ("OBJECT", .object), ("MAP", .object), ("JSONNODE", .object)]

/-- The group of a canonical form. -/
def groupOf? (form : List Char) : Option TypeGroup :=
  if '<' ∈ form then bracketGroups.lookup (headOf form) else nameGroups.lookup (String.ofList form)

theorem groupOf?_bracket {front : List Char} (h : '<' ∉ front) (back : List Char) :
    groupOf? (front ++ '<' :: back) = bracketGroups.lookup (headOf front) := by
  rw [groupOf?, if_pos (by simp), headOf_append h]

/-- Types of two groups never share a bucket. -/
theorem groupOf?_bucket {name : String} {group : TypeGroup} (h : TypeGroup.scalarTypes.lookup name = some group) :
    groupOf? (bucketOf buckets name.toList) = some group := by
  have hall : ∀ row ∈ TypeGroup.scalarTypes, groupOf? (bucketOf buckets row.1.toList) = some row.2 := by
    decide +kernel
  exact hall (name, group) (Json.mem_of_lookup h)

/-- A container has the group of its head, whatever its bucket. -/
theorem groupOf?_container {name : String} {group : TypeGroup} (h : TypeGroup.genericTypes.lookup name = some group)
    (back : List Char) : groupOf? (bucketOf containerBuckets name.toList ++ '<' :: back) = some group := by
  have hall : ∀ row ∈ TypeGroup.genericTypes, '<' ∉ bucketOf containerBuckets row.1.toList ∧
      bracketGroups.lookup (headOf (bucketOf containerBuckets row.1.toList)) = some row.2 := by
    decide +kernel
  obtain ⟨hplain, hgroup⟩ := hall (name, group) (Json.mem_of_lookup h)
  rw [groupOf?_bracket hplain, hgroup]

/-- An opening bracket that is never closed does not matter: the type is in capitals then, and its group is that of its
head. -/
theorem groupOf?_map_toUpper {s : List Char} {group : TypeGroup} (hangle : '<' ∈ s)
    (h : TypeGroup.genericTypes.lookup (String.ofList (trimChars (s.takeWhile (· != '<')))) = some group) :
    groupOf? (s.map Char.toUpper) = some group := by
  have hall : ∀ row ∈ TypeGroup.genericTypes,
      bracketGroups.lookup (String.ofList (row.1.toList.map Char.toLower)) = some row.2 := by
    decide +kernel
  have hgroup := hall (_, group) (Json.mem_of_lookup h)
  rw [String.toList_ofList] at hgroup
  have hmem : '<' ∈ s.map Char.toUpper := List.mem_map.2 ⟨'<', hangle, by decide⟩
  rw [groupOf?, if_pos hmem, headOf_map_toUpper, headOf, hgroup]

theorem groupOf?_array (back : List Char) : groupOf? (arrayName.1 ++ '<' :: back) = some .collection := by
  rw [groupOf?_bracket (by decide +kernel)]
  decide +kernel

/-- The group of a type can be read off its canonical form. -/
theorem groupOf?_canonicalChars {typeName : String} {group : TypeGroup}
    (h : TypeGroup.ofType? typeName = some group) : groupOf? (canonicalChars typeName.toList) = some group := by
  simp only [TypeGroup.ofType?, List.contains_iff_mem] at h
  by_cases hends : TypeGroup.endsWithBrackets (trimChars typeName.toList) = true
  · rw [if_pos hends, Option.some.injEq] at h
    have helement : arrayElement? (trimChars typeName.toList) =
        some ((trimChars typeName.toList).take ((trimChars typeName.toList).length - 2)) := if_pos hends
    rw [canonicalChars_array helement, inAngles_cons, groupOf?_array, h]
  rw [if_neg hends] at h
  have harray : arrayElement? (trimChars typeName.toList) = none := if_neg hends
  by_cases hangle : '<' ∈ trimChars typeName.toList
  · rw [if_pos hangle] at h
    cases hparts : genericParts? (trimChars typeName.toList) with
    | none =>
        rw [canonicalChars_name harray hparts, bucketOf_buckets_of_angle hangle]
        exact groupOf?_map_toUpper hangle h
    | some parts =>
        obtain ⟨head, arguments⟩ := parts
        have hhead : trimChars ((trimChars typeName.toList).takeWhile (· != '<')) = head := by
          rw [genericParts?] at hparts
          split at hparts
          · exact (Prod.mk.inj (Option.some.inj hparts)).1
          · cases hparts
        have hsome := Text.splitOutside_ne_nil '<' '>' 0 arguments
        obtain ⟨part, others, hsplit⟩ := List.exists_cons_of_ne_nil hsome
        rw [canonicalChars_generic harray hparts hsome, hsplit, List.map_cons, inAngles_cons]
        rw [hhead] at h
        have hgroup := groupOf?_container h
        rw [String.toList_ofList] at hgroup
        exact hgroup _
  · rw [if_neg hangle] at h
    have hplain : ∀ c ∈ trimChars typeName.toList, (c != '<') = true :=
      fun c hc => bne_iff_ne.2 fun heq => hangle (heq ▸ hc)
    rw [List.takeWhile_eq_self_iff.2 hplain, Text.trimChars_trimChars] at h
    have hgroup := groupOf?_bucket h
    rw [String.toList_ofList] at hgroup
    rw [canonicalChars_name harray (genericParts?_eq_none hangle), hgroup]

/-! ### Compatible types -/

/-- **Compatible types take the same constraints.** However two types are spelled, if they are compatible and both have
a group, they have the same group, and so they take the same constraints. -/
theorem same_group_of_compatible {left right : String} {group other : TypeGroup} (h : compatible left right = true)
    (hleft : TypeGroup.ofType? left = some group) (hright : TypeGroup.ofType? right = some other) :
    group = other ∧
      ∀ name, ConstraintRule.isApplicable name left = ConstraintRule.isApplicable name right := by
  have hforms : canonicalChars left.toList = canonicalChars right.toList :=
    String.ofList_injective (beq_iff_eq.1 h)
  have hgroup : group = other := by
    have hread := groupOf?_canonicalChars hleft
    rw [hforms, groupOf?_canonicalChars hright] at hread
    exact (Option.some.inj hread).symm
  refine ⟨hgroup, fun name => ?_⟩
  rw [ConstraintRule.isApplicable, ConstraintRule.isApplicable, hleft, hright, hgroup]

theorem same_group_of_compatible_dates :
    (compatible "Collection<Date>" " List< LocalDate>" = true ∧
      TypeGroup.ofType? "Collection<Date>" = some .collection ∧
      TypeGroup.ofType? " List< LocalDate>" = some .collection) ∧
      ∀ name, ConstraintRule.isApplicable name "Collection<Date>" =
        ConstraintRule.isApplicable name " List< LocalDate>" := by
  have hcompatible : compatible "Collection<Date>" " List< LocalDate>" = true := by decide +kernel
  have hleft : TypeGroup.ofType? "Collection<Date>" = some .collection := by decide +kernel
  have hright : TypeGroup.ofType? " List< LocalDate>" = some .collection := by decide +kernel
  exact ⟨⟨hcompatible, hleft, hright⟩, (same_group_of_compatible hcompatible hleft hright).2⟩

end DomainModel.TypeName
