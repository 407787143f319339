import DomainModel.Proofs.TextFolding
import DomainModel.TypeName

/-! Types and the trees by which they are compared. A type is a name, a name with types as arguments, or an array. In
its tree names stand for their buckets, and an array is one more type with an argument. A printed tree can be read in
one way only; taken as a type it has itself as its tree. -/

namespace DomainModel.TypeName

/-! ### Types -/

/-- The characters that hold the parts of a type apart. -/
def marks : List Char := ['<', '>', ',', '[', ']']

/-- A name has no marks and no outer blanks. -/
structure IsName (s : List Char) : Prop where
  nonempty : s ≠ []
  plain : ∀ c ∈ s, c ∉ marks
  trimmed : Text.trimChars s = s

theorem isName_iff {s : List Char} : IsName s ↔ s ≠ [] ∧ s.all (· ∉ marks) = true ∧ Text.trimChars s = s := by
  simp only [List.all_eq_true, decide_eq_true_eq]
  exact ⟨fun h => ⟨h.nonempty, h.plain, h.trimmed⟩, fun h => ⟨h.1, h.2.1, h.2.2⟩⟩

-- the characters of the text are tried, not all there are
instance (s : List Char) : Decidable (IsName s) := decidable_of_iff _ isName_iff.symm

abbrev Name := { s : List Char // IsName s }

inductive Expr where
  | name (name : Name)
  | generic (head : Name) (first : Expr) (rest : List Expr)
  | array (element : Expr)

/-- What holds of a type when it holds of its arguments or of its element holds of all types. -/
@[induction_eliminator]
theorem Expr.induct {P : Expr → Prop} (name : ∀ name, P (.name name))
    (generic : ∀ head first rest, P first → (∀ argument ∈ rest, P argument) → P (.generic head first rest))
    (array : ∀ element, P element → P (.array element)) : ∀ e, P e
  | .name _ => name _
  | .generic _ first rest => generic _ _ _ (Expr.induct name generic array first)
      fun argument _ => Expr.induct name generic array argument
  | .array element => array _ (Expr.induct name generic array element)

/-! ### Trees -/

inductive Tree where
  | node (label : Name) (children : List Tree)

/-- The arguments of a type in angle brackets, if there are any. -/
def inAngles : List (List Char) → List Char
  | [] => []
  | arguments => '<' :: (Text.joinWith [','] arguments ++ ['>'])

theorem inAngles_cons (first : List Char) (rest : List (List Char)) :
    inAngles (first :: rest) = '<' :: (Text.joinWith [','] (first :: rest) ++ ['>']) := rfl

mutual

/-- The tree without blanks: a label, and in angle brackets the children with commas between them. -/
def Tree.chars : Tree → List Char
  | .node label children => label.1 ++ inAngles (charsOf children)

def charsOf : List Tree → List (List Char)
  | [] => []
  | child :: children => child.chars :: charsOf children

end

/-! ### Names and buckets -/

/-- No letter is a mark, in either case. -/
theorem toLower_mem_marks_iff {c : Char} : c.toLower ∈ marks ↔ c ∈ marks := by
  have hcode (d : Char) : d ∈ marks ↔ d.toNat ∈ marks.map Char.toNat :=
    (List.mem_map_of_injective fun _ _ => Char.toNat_inj.1).symm
  rw [hcode, hcode, Text.toNat_toLower]
  simp only [marks, List.map_cons, List.map_nil, List.mem_cons, List.not_mem_nil, or_false, Char.reduceToNat]
  split <;> omega

/-- A name in another case is a name. -/
theorem IsName.of_toLower {s t : List Char} (h : IsName s) (hcase : t.map Char.toLower = s.map Char.toLower) :
    IsName t where
  nonempty := by
    rintro rfl
    exact h.nonempty (List.map_eq_nil_iff.1 hcase.symm)
  plain := by
    intro c hc hmark
    have hmem : c.toLower ∈ s.map Char.toLower := hcase ▸ List.mem_map_of_mem hc
    obtain ⟨d, hd, hlower⟩ := List.mem_map.1 hmem
    exact h.plain d hd (toLower_mem_marks_iff.1 (hlower ▸ toLower_mem_marks_iff.2 hmark))
  trimmed := by
    refine (Text.trimChars_sublist t).eq_of_length ?_
    rw [← List.length_map Char.toLower, ← Text.trimChars_map_toLower, hcase, Text.trimChars_map_toLower, h.trimmed,
      ← hcase, List.length_map]

section Buckets
variable {table : List (String × String)} {s t : List Char}

/-- The bucket does not depend on the case of the name. -/
theorem bucketOf_congr (h : s.map Char.toLower = t.map Char.toLower) : bucketOf table s = bucketOf table t := by
  have hupper : s.map Char.toUpper = t.map Char.toUpper := by
    have hboth := congrArg (List.map Char.toUpper) h
    simpa only [List.map_map, Function.comp_def, Text.toUpper_toLower] using hboth
  rw [bucketOf, bucketOf, h, hupper]

theorem bucketOf_cases (table : List (String × String)) (s : List Char) :
    (∃ row ∈ table, bucketOf table s = row.2.toList) ∨ bucketOf table s = s.map Char.toUpper := by
  rw [bucketOf]
  split
  · next bucket hbucket =>
      obtain ⟨before, after, rfl, -⟩ := List.lookup_eq_some_iff.1 hbucket
      exact .inl ⟨_, List.mem_append_right _ List.mem_cons_self, rfl⟩
  · exact .inr rfl

theorem map_toLower_toUpper (s : List Char) : (s.map Char.toUpper).map Char.toLower = s.map Char.toLower := by
  simp only [List.map_map, Function.comp_def, Text.toLower_toUpper]

theorem IsName.bucketOf (htable : ∀ row ∈ table, IsName row.2.toList) (h : IsName s) : IsName (bucketOf table s) := by
  rcases bucketOf_cases table s with ⟨row, hrow, hbucket⟩ | hupper
  · rw [hbucket]
    exact htable row hrow
  · rw [hupper]
    exact h.of_toLower (map_toLower_toUpper s)

/-- A bucket is in itself, as long as the buckets of the table are. -/
theorem bucketOf_bucketOf (htable : ∀ row ∈ table, bucketOf table row.2.toList = row.2.toList) (s : List Char) :
    bucketOf table (bucketOf table s) = bucketOf table s := by
  rcases bucketOf_cases table s with ⟨row, hrow, hbucket⟩ | hupper
  · rw [hbucket, htable row hrow]
  · rw [hupper, bucketOf_congr (map_toLower_toUpper s), hupper]

end Buckets

def Name.bucket (name : Name) : Name := ⟨bucketOf buckets name.1, name.2.bucketOf (by decide +kernel)⟩

def Name.containerBucket (name : Name) : Name :=
  ⟨bucketOf containerBuckets name.1, name.2.bucketOf (by decide +kernel)⟩

@[simp] theorem Name.bucket_bucket (name : Name) : name.bucket.bucket = name.bucket :=
  Subtype.ext (bucketOf_bucketOf (by decide +kernel) name.1)

@[simp] theorem Name.containerBucket_containerBucket (name : Name) :
    name.containerBucket.containerBucket = name.containerBucket :=
  Subtype.ext (bucketOf_bucketOf (by decide +kernel) name.1)

/-- The label of arrays. -/
def arrayName : Name := ⟨"ARRAY".toList, by decide⟩

@[simp] theorem containerBucket_arrayName : arrayName.containerBucket = arrayName := Subtype.ext (by decide +kernel)

mutual

/-- What is compared of a type: a name by its bucket, the head of a generic type by the bucket of containers, and an
array as a type with its element as argument. -/
def Expr.tree : Expr → Tree
  | .name name => .node name.bucket []
  | .generic head first rest => .node head.containerBucket (first.tree :: treesOf rest)
  | .array element => .node arrayName [element.tree]

def treesOf : List Expr → List Tree
  | [] => []
  | argument :: rest => argument.tree :: treesOf rest

end

/-- The canonical tree as it is printed. -/
def Tree.print (tree : Tree) : String := String.ofList tree.chars

/-! ### Reading a printed tree -/

@[induction_eliminator]
theorem Tree.induct {P : Tree → Prop}
    (node : ∀ label children, (∀ child ∈ children, P child) → P (.node label children)) : ∀ tree, P tree
  | .node _ _ => node _ _ fun child _ => Tree.induct node child

/-- What may come behind a tree: nothing, a comma or a closing bracket. -/
def Ends (back : List Char) : Prop := ∀ c ∈ back.head?, c = ',' ∨ c = '>'

/-- Where a name ends can be told from the mark behind it. -/
theorem name_append_inj {name other back tail : List Char} (hname : ∀ c ∈ name, c ∉ marks)
    (hother : ∀ c ∈ other, c ∉ marks) (hback : ∀ c ∈ back.head?, c ∈ marks) (htail : ∀ c ∈ tail.head?, c ∈ marks)
    (h : name ++ back = other ++ tail) : name = other ∧ back = tail := by
  induction name generalizing other with
  | nil =>
      cases other with
      | nil => exact ⟨rfl, h⟩
      | cons c other => exact absurd (hback c (by rw [← List.nil_append back, h]; rfl)) (hother c List.mem_cons_self)
  | cons c name ih =>
      cases other with
      | nil => exact absurd (htail c (by rw [← List.nil_append tail, ← h]; rfl)) (hname c List.mem_cons_self)
      | cons d other =>
          obtain ⟨rfl, hrest⟩ := List.cons.inj h
          obtain ⟨rfl, hsame⟩ := ih (List.forall_mem_cons.1 hname).2 (List.forall_mem_cons.1 hother).2 hrest
          exact ⟨rfl, hsame⟩

/-- The text behind the first argument of a type. -/
def charsBehind (back : List Char) : List Tree → List Char
  | [] => '>' :: back
  | child :: children => ',' :: (child.chars ++ charsBehind back children)

theorem ends_charsBehind (back : List Char) (children : List Tree) : Ends (charsBehind back children) := by
  cases children with
  | nil => exact fun c hc => .inr (Option.some.inj hc).symm
  | cons => exact fun c hc => .inl (Option.some.inj hc).symm

theorem joinWith_charsOf (child : Tree) (children : List Tree) (back : List Char) :
    Text.joinWith [','] (child.chars :: charsOf children) ++ ('>' :: back) =
      child.chars ++ charsBehind back children := by
  induction children generalizing child with
  | nil => rfl
  | cons next children ih =>
      rw [charsOf, Text.joinWith, charsBehind, ← ih next, List.append_assoc, List.append_assoc, List.singleton_append]
      exact fun hnil => List.cons_ne_nil _ _ hnil

theorem inAngles_charsOf (child : Tree) (children : List Tree) (back : List Char) :
    inAngles (charsOf (child :: children)) ++ back = '<' :: (child.chars ++ charsBehind back children) := by
  rw [charsOf, inAngles_cons, List.cons_append, List.append_assoc, List.singleton_append, joinWith_charsOf]

/-- Trees that are told apart are told apart as further arguments. -/
theorem charsBehind_inj {children others : List Tree} {back tail : List Char}
    (heach : ∀ child ∈ children, ∀ {other : Tree} {back tail : List Char}, Ends back → Ends tail →
      child.chars ++ back = other.chars ++ tail → child = other ∧ back = tail)
    (h : charsBehind back children = charsBehind tail others) : children = others ∧ back = tail := by
  induction children generalizing others with
  | nil =>
      cases others with
      | nil => exact ⟨rfl, (List.cons.inj h).2⟩
      | cons => exact absurd (List.cons.inj h).1 (by decide)
  | cons child children ih =>
      cases others with
      | nil => exact absurd (List.cons.inj h).1 (by decide)
      | cons other others =>
          obtain ⟨hchild, hchildren⟩ := List.forall_mem_cons.1 heach
          obtain ⟨rfl, hrest⟩ := hchild (ends_charsBehind _ _) (ends_charsBehind _ _) (List.cons.inj h).2
          obtain ⟨rfl, hback⟩ := ih hchildren hrest
          exact ⟨rfl, hback⟩

/-- What comes behind the label of a tree begins with a mark. -/
theorem head_inAngles {children : List Tree} {back : List Char} (hback : Ends back) :
    ∀ c ∈ (inAngles (charsOf children) ++ back).head?, c ∈ marks := by
  intro c hc
  cases children with
  | nil =>
      rcases hback c hc with rfl | rfl
      · decide
      · decide
  | cons child children =>
      rw [inAngles_charsOf] at hc
      cases hc
      decide

/-- A printed tree is the print of no other tree, whatever comes behind it. -/
theorem Tree.chars_append_inj {tree other : Tree} {back tail : List Char} (hback : Ends back) (htail : Ends tail)
    (h : tree.chars ++ back = other.chars ++ tail) : tree = other ∧ back = tail := by
  induction tree generalizing other back tail with
  | node label children ih =>
      obtain ⟨otherLabel, others⟩ := other
      rw [Tree.chars, Tree.chars, List.append_assoc, List.append_assoc] at h
      obtain ⟨hlabel, hrest⟩ := name_append_inj label.2.plain otherLabel.2.plain (head_inAngles hback)
        (head_inAngles htail) h
      obtain rfl := Subtype.ext hlabel
      -- a tree without arguments is told from one with arguments by the opening bracket
      cases children with
      | nil =>
          cases others with
          | nil => exact ⟨rfl, hrest⟩
          | cons first others =>
              rw [inAngles_charsOf] at hrest
              exact absurd (hback '<' (by rw [← List.nil_append back]; exact hrest ▸ rfl)) (by decide)
      | cons child children =>
          cases others with
          | nil =>
              rw [inAngles_charsOf] at hrest
              exact absurd (htail '<' (by rw [← List.nil_append tail]; exact hrest ▸ rfl)) (by decide)
          | cons first others =>
              rw [inAngles_charsOf, inAngles_charsOf] at hrest
              obtain ⟨hchild, hchildren⟩ := List.forall_mem_cons.1 ih
              obtain ⟨rfl, hbehind⟩ := hchild (ends_charsBehind _ _) (ends_charsBehind _ _) (List.cons.inj hrest).2
              obtain ⟨rfl, hsame⟩ := charsBehind_inj hchildren hbehind
              exact ⟨rfl, hsame⟩

/-- Two trees are printed alike only if they are one. -/
theorem Tree.print_inj {tree other : Tree} : tree.print = other.print ↔ tree = other := by
  constructor
  · intro h
    have hends : Ends [] := nofun
    have hchars : tree.chars ++ [] = other.chars ++ [] := by rw [String.ofList_inj.1 h]
    exact (Tree.chars_append_inj hends hends hchars).1
  · rintro rfl
    rfl

/-! ### Trees as types -/

mutual

/-- The type that is written as the tree is printed. -/
def Tree.expr : Tree → Expr
  | .node label [] => .name label
  | .node label (child :: children) => .generic label child.expr (exprsOf children)

def exprsOf : List Tree → List Expr
  | [] => []
  | child :: children => child.expr :: exprsOf children

end

/-- The type of a canonical tree has that same tree, as buckets are in themselves. -/
theorem Expr.tree_expr_tree (e : Expr) : e.tree.expr.tree = e.tree := by
  have hrest : ∀ rest : List Expr, (∀ argument ∈ rest, argument.tree.expr.tree = argument.tree) →
      treesOf (exprsOf (treesOf rest)) = treesOf rest := by
    intro rest heach
    induction rest with
    | nil => rfl
    | cons argument rest ih =>
        obtain ⟨hargument, hrest⟩ := List.forall_mem_cons.1 heach
        rw [treesOf, exprsOf, treesOf, hargument, ih hrest]
  induction e with
  | name name => rw [Expr.tree, Tree.expr, Expr.tree, Name.bucket_bucket]
  | generic head first rest hfirst heach =>
      rw [Expr.tree, Tree.expr, Expr.tree, Name.containerBucket_containerBucket, hfirst, hrest rest heach]
  | array element ih => rw [Expr.tree, Tree.expr, Expr.tree, containerBucket_arrayName, ih, exprsOf, treesOf]

end DomainModel.TypeName
