import DomainModel.Proofs.CaseConversion
import DomainModel.Proofs.SqlComments
import DomainModel.Proofs.SqlDefinitions

/-! Reading the scripts that the grammar gives. In a statement the name of the table and the body between the
outer parentheses are found, also where the table is called `if`; the definitions of the body give the fields of
the columns and the names of the key. The names of columns differ where the names of their fields do, so every
column is kept. As no character that a statement is made of begins a comment or ends a statement, a script is
cut where the grammar put the semicolons, and reading it gives the tables that were meant. -/

namespace DomainModel.Sql.Grammar

open Text (isBlank isWordChar)

/-! ### Bodies -/

/-- The parts of a body, each with the column or clause that it spells. -/
abbrev Parts (items : List Item) (parts : List (List Char)) : Prop :=
  List.Forall₂ (fun item part => Begun item.tokens part) items parts

theorem keyColumns_of_parts {items : List Item} {parts : List (List Char)} (h : Parts items parts) :
    keyColumns parts = items.flatMap Item.keys := by
  rw [keyColumns]
  induction h with
  | nil => rfl
  | @cons item part items parts hpart _ ih =>
      cases item with
      | column column =>
          rw [List.filter_cons_of_neg (by simp [Begun.isTableClause_column hpart]), ih]
          rfl
      | clause clause =>
          rw [List.filter_cons_of_pos (Begun.isTableClause_clause hpart), List.flatMap_cons, List.flatMap_cons, ih,
            Begun.listedKeys hpart]

theorem fields_of_parts {items : List Item} {parts : List (List Char)} (h : Parts items parts)
    (keys : List (List Char)) :
    (parts.filter (!isTableClause ·)).filterMap (field? keys) = (items.filterMap Item.column?).map (·.field keys) := by
  induction h with
  | nil => rfl
  | @cons item part items parts hpart _ ih =>
      cases item with
      | column column =>
          rw [List.filter_cons_of_pos (by simp [Begun.isTableClause_column hpart]),
            List.filterMap_cons_some (Begun.field hpart keys), ih]
          rfl
      | clause clause =>
          rw [List.filter_cons_of_neg (by simp [Begun.isTableClause_clause hpart]), ih]
          rfl

theorem bodyFields_of_written {table : Table} {body : List Char}
    (h : Written false (withCommas (table.items.map Item.tokens)) body) :
    bodyFields body = table.columns.map (·.field table.keys) := by
  have hsome : table.items ≠ [] := fun hnil => table.some_column (by rw [hnil]; rfl)
  have hparts : Parts table.items (definitions body) := definitions_of_written hsome h
  rw [bodyFields, keyColumns_of_parts hparts, fields_of_parts hparts]
  rfl

/-! ### Names of columns -/

theorem Name.isBlank (name : Name) : ∀ c ∈ name.word, isBlank c = false :=
  fun c hc => Text.isBlank_of_isWordChar (name.isWord.plain c hc).isWordChar

theorem Name.trimChars (name : Name) : Text.trimChars name.word = name.word :=
  Text.trimChars_eq_self (fun c hc => name.isBlank c (List.mem_of_mem_head? hc))
    fun c hc => name.isBlank c (List.mem_of_getLast? hc)

/-- In a word the separators are underscores. -/
theorem isSeparator_toLower_of_mem {name : Name} {c : Char} (h : c ∈ name.word) :
    (!Naming.isSeparator c.toLower) = (c != '_') := by
  have hspace : (c == ' ') = false := by
    rw [beq_eq_false_iff_ne]
    rintro rfl
    exact absurd (name.isBlank ' ' h) (by decide)
  rw [Naming.isSeparator_toLower, Naming.isSeparator, hspace, Bool.or_false]
  rfl

/-- The name of a field in lower case is that of its column, underscores apart. -/
theorem lower_name (column : Column) (keys : List (List Char)) :
    Text.lower (column.field keys).name = String.ofList (essence column.name.word) := by
  have hplain : ∀ c ∈ (String.ofList column.name.word).toList, c.toNat < 0x80 := by
    rw [String.toList_ofList]
    exact fun c hc => (column.name.isWord.plain c hc).ascii
  have hletters : Naming.letters (String.ofList column.name.word) = String.ofList (essence column.name.word) := by
    rw [Naming.letters, Text.lower, Text.toList_trim, String.toList_ofList, String.toList_ofList,
      column.name.trimChars, column.name.lowerChars, List.filter_map, essence]
    exact congrArg (fun word => String.ofList (word.map Char.toLower))
      (List.filter_congr fun c hc => isSeparator_toLower_of_mem hc)
  rw [← hletters]
  exact Naming.lower_identifierCase hplain

theorem keepFirsts_eq_self {fields : List Field} (hdistinct : (fields.map (Text.lower ·.name)).Nodup)
    {seen : List String} (hnew : ∀ field ∈ fields, Text.lower field.name ∉ seen) : keepFirsts seen fields = fields := by
  induction fields generalizing seen with
  | nil => rfl
  | cons field rest ih =>
      rw [List.map_cons, List.nodup_cons] at hdistinct
      rw [List.forall_mem_cons] at hnew
      rw [keepFirsts, if_neg (by rw [List.contains_iff_mem]; exact hnew.1), ih hdistinct.2]
      intro other hother hmem
      rcases List.mem_cons.1 hmem with hsame | hseen
      · exact hdistinct.1 (hsame ▸ List.mem_map_of_mem hother)
      · exact hnew.2 other hother hseen

theorem keepFirsts_columns (table : Table) :
    keepFirsts [] (table.columns.map (·.field table.keys)) = table.columns.map (·.field table.keys) := by
  refine keepFirsts_eq_self ?_ fun _ _ => List.not_mem_nil
  have hnames : (table.columns.map (·.field table.keys)).map (Text.lower ·.name) =
      (table.columns.map (essence ·.name.word)).map String.ofList := by
    rw [List.map_map, List.map_map]
    exact List.map_congr_left fun column _ => lower_name column table.keys
  rw [hnames]
  exact table.distinct.map fun _ _ => String.ofList_inj.1

/-! ### The name of a table -/

/-- What is called `if` is a name where no `NOT` follows. -/
theorem Quoted.phrase_if {name : Name} {text s : List Char} (h : Quoted name.word text)
    (hend : Text.atWordEnd s = true) (hafter : (gap? s).bind (phrase? ["not", "exists"]) = none) :
    phrase? ["if", "not", "exists"] (text ++ s) = none := by
  by_cases hif : text.map Char.toLower = Keyword.ifWord.letters.toList
  · have hkeyword : keyword? "if".toList (text ++ s) = some s := keyword?_word hif
    rw [phrase?, hkeyword, Option.bind_some, hafter]
    exact List.cons_ne_nil _ _
  · -- the word is no reserved one, so this case is not among those that avoid every keyword
    have havoids : Avoids .ifWord (text ++ s) := by
      cases h with
      | bare => exact avoids_word name.isWord hend hif
      | between hquote =>
          apply avoids_of_head
          rintro c ⟨⟩
          exact isWordChar_of_isQuote (isQuote_of_mem_quotes hquote).1
    exact havoids.phrase "not" ["exists"]

theorem Begun.phrase_if {schema : Option Name} {name : Name} {tokens : List Token} {s : List Char}
    (h : Begun (.tableName schema name :: .mark .opening :: tokens) s) : phrase? ["if", "not", "exists"] s = none := by
  cases h with
  | @intro _ text _ rest htoken hrest =>
      cases htoken with
      | tableName hname =>
          refine hname.phrase_if hrest.atWordEnd ?_
          rw [Option.bind_eq_none_iff]
          intro after hafter
          have hbegun := hrest.skipBlanks
          rw [(gap?_eq_some hafter).2] at hbegun
          have havoids : Avoids .not after := hbegun.avoids (by decide) nofun
          exact havoids.phrase "exists" []
      | qualified hschema hname =>
          rw [List.append_assoc]
          exact hschema.phrase_if rfl rfl

theorem Written.skipIfNotExists {schema : Option Name} {name : Name} {tokens : List Token} {ifNotExists : Bool}
    {s : List Char} (h : Written true ((if ifNotExists then keywords [.ifWord, .not, .existsWord] else []) ++
      .tableName schema name :: .mark .opening :: tokens) s) :
    ∃ after, gap? s = some after ∧
      Begun (.tableName schema name :: .mark .opening :: tokens) (skipIfNotExists after) := by
  cases ifNotExists with
  | false =>
      obtain ⟨after, hgap, hbegun⟩ := Written.gap h rfl
      refine ⟨after, hgap, ?_⟩
      rw [Sql.skipIfNotExists, Begun.phrase_if hbegun]
      exact hbegun
  | true =>
      obtain ⟨after, hgap, hbegun⟩ := Written.gap h rfl
      obtain ⟨rest, hphrase, hrest⟩ := Begun.phrase .ifWord [.not, .existsWord] hbegun
      obtain ⟨next, hnext, hname⟩ := hrest.gap rfl
      have hphrase : phrase? ["if", "not", "exists"] after = some rest := hphrase
      refine ⟨after, hgap, ?_⟩
      rw [Sql.skipIfNotExists, hphrase, Option.bind_some, hnext]
      exact hname

/-- Behind the name of a table stands a blank or a parenthesis. -/
theorem Begun.name_of_table {schema : Option Name} {name : Name} {tokens : List Token} {s : List Char}
    (h : Begun (.tableName schema name :: .mark .opening :: tokens) s) :
    (Token.tableName schema name).Spells (s.takeWhile isNameChar) ∧
      Written true (.mark .opening :: tokens) (s.dropWhile isNameChar) := by
  cases h with
  | @intro _ text _ rest htoken hrest =>
      have htext : ∀ c ∈ text, isNameChar c = true := by
        intro c hc
        have hopening : c ≠ '(' := by
          rintro rfl
          obtain ⟨mark, hmark, -⟩ := StandsAlone.mark_of_spells (c := '(') (by decide) htoken hc
          cases hmark
        rw [isNameChar, htoken.isBlank c hc, Bool.not_false, Bool.true_and, bne_iff_ne]
        exact hopening
      have hend : ∀ c ∈ rest.head?, isNameChar c = false := by
        intro c hc
        cases hrest with
        | @token _ gap _ _ _ _ hgap _ hopening =>
            cases hopening
            cases gap with
            | nil =>
                cases hc
                rfl
            | cons d more =>
                cases hc
                rw [isNameChar, hgap _ List.mem_cons_self]
                rfl
      obtain ⟨htake, hdrop⟩ := Text.takeWhile_append_run htext hend
      rw [htake, hdrop]
      exact ⟨htoken, hrest⟩

theorem beforeLastParenthesis?_append {body back : List Char} (h : ')' ∉ back) :
    beforeLastParenthesis? (body ++ ')' :: back) = some body := by
  have hback := bne_of_not_mem fun hmem => h (List.mem_reverse.1 hmem)
  have hdrop : (body ++ ')' :: back).reverse.dropWhile (· != ')') = ')' :: body.reverse := by
    rw [List.reverse_append, List.reverse_cons, List.append_assoc, List.dropWhile_append_of_pos hback]
    rfl
  rw [beforeLastParenthesis?, hdrop]
  simp

/-- **A statement is taken apart into the name of its table and the body.** -/
theorem Begun.nameAndBody {table : Table} {ifNotExists : Bool} {s : List Char}
    (h : Begun (table.tokens ifNotExists) s) :
    ∃ text body, nameAndBody? s = some (text, body) ∧ (Token.tableName table.schema table.name).Spells text ∧
      Written false (withCommas (table.items.map Item.tokens)) body := by
  obtain ⟨rest, hphrase, hrest⟩ := h.phrase .create [.table]
  obtain ⟨after, hgap, hbegun⟩ := hrest.skipIfNotExists
  obtain ⟨hname, hopening⟩ := hbegun.name_of_table
  obtain ⟨inner, hinner, hwritten⟩ := hopening.opening
  obtain ⟨body, back, rfl, hbody, hback⟩ := hwritten.cut
  refine ⟨_, body, ?_, hname, hbody⟩
  have hphrase : phrase? ["create", "table"] s = some rest := hphrase
  have hfree : Mark.closing.char ∉ back := hback.not_mem List.not_mem_nil
  have hlast : beforeLastParenthesis? (body ++ Mark.closing.char :: back) = some body :=
    beforeLastParenthesis?_append hfree
  rw [nameAndBody?, hphrase]
  simp only [Option.bind_eq_bind, Option.bind_some]
  rw [hgap, Option.bind_some, if_neg, hinner, Option.bind_some, hlast]
  · rfl
  · rw [List.isEmpty_iff]
    exact hname.ne_nil

theorem tableName_of_spells {schema : Option Name} {name : Name} {text : List Char}
    (h : (Token.tableName schema name).Spells text) :
    tableName text = Naming.typeNameCase (String.ofList name.word) := by
  have hdot {text : List Char} (h : Quoted name.word text) : ∀ c ∈ text.reverse, (c != '.') = true := by
    apply bne_of_not_mem
    intro hmem
    rcases h.mem (List.mem_reverse.1 hmem) with hplain | hquote
    · exact absurd hplain (by decide)
    · exact absurd hquote (by decide)
  rw [tableName]
  cases h with
  | tableName hname =>
      rw [lastSegment, List.takeWhile_eq_self_iff.2 (hdot hname), List.reverse_reverse, hname.unquote]
  | @qualified _ _ first second _ hname =>
      have hsegment : lastSegment (first ++ '.' :: second) = second := by
        rw [lastSegment, List.reverse_append, List.reverse_cons, List.append_assoc,
          List.takeWhile_append_of_pos (hdot hname)]
        simp
      rw [hsegment, hname.unquote]

/-- **The statement of a table gives its entity.** -/
theorem Begun.entity {table : Table} {ifNotExists : Bool} {s : List Char} (h : Begun (table.tokens ifNotExists) s) :
    ∃ entity, entity? s = some entity ∧ table.Gives entity := by
  obtain ⟨text, body, hparts, hname, hbody⟩ := h.nameAndBody
  have hfields : keepFirsts [] (bodyFields body) = table.columns.map (·.field table.keys) := by
    rw [bodyFields_of_written hbody, keepFirsts_columns]
  have hsome : ¬ (table.columns.map (·.field table.keys)).isEmpty = true := by
    rw [List.isEmpty_iff, List.map_eq_nil_iff]
    exact table.some_column
  rw [entity?, hparts]
  dsimp only
  rw [hfields, if_neg hsome, tableName_of_spells hname]
  exact ⟨_, rfl, rfl, keyed_ensureKey _⟩

/-! ### Scripts -/

theorem stripLines_eq_self {s : List Char} (h : '-' ∉ s) : stripLines s = s := by
  induction s with
  | nil => rw [stripLines]
  | cons c rest ih =>
      rw [List.mem_cons, not_or] at h
      rw [stripLines, ih h.2]
      exact fun _ hdash _ => h.1 hdash.symm

theorem mem_joinWith {separator : List Char} {parts : List (List Char)} {c : Char}
    (h : c ∈ Text.joinWith separator parts) : c ∈ separator ∨ ∃ part ∈ parts, c ∈ part := by
  induction parts with
  | nil => cases h
  | cons part parts ih =>
      cases parts with
      | nil => exact .inr ⟨part, List.mem_cons_self, h⟩
      | cons next parts =>
          rw [Text.joinWith, List.mem_append, List.mem_append] at h
          · rcases h with (hpart | hseparator) | hrest
            · exact .inr ⟨part, List.mem_cons_self, hpart⟩
            · exact .inl hseparator
            · refine (ih hrest).imp_right ?_
              rintro ⟨other, hother, hc⟩
              exact ⟨other, List.mem_cons_of_mem part hother, hc⟩
          · exact List.cons_ne_nil _ _

/-- A character that is neither spelled nor a mark does not occur in a statement. -/
theorem WrittenScript.not_mem {tables : List Table} {pieces : List (List Char)} (h : WrittenScript tables pieces)
    {c : Char} (hc : StandsAlone c) (hmark : ∀ mark : Mark, c ≠ mark.char) : ∀ piece ∈ pieces, c ∉ piece := by
  induction h with
  | done => exact fun piece hpiece => absurd hpiece List.not_mem_nil
  | blank hpiece _ ih =>
      rw [List.forall_mem_cons]
      exact ⟨fun hmem => absurd (hpiece c hmem) (Bool.eq_false_iff.1 hc.1), ih⟩
  | table ifNotExists hpiece _ ih =>
      rw [List.forall_mem_cons]
      refine ⟨fun hmem => ?_, ih⟩
      obtain ⟨mark, -, hsame⟩ := hc.mark_of_written hpiece hmem
      exact hmark mark hsame

/-- The statements of a script, each with the table that it creates. -/
abbrev Statements (tables : List Table) (statements : List (List Char)) : Prop :=
  List.Forall₂ (fun table statement => ∃ ifNotExists, Begun (table.tokens ifNotExists) statement) tables statements

theorem WrittenScript.pieces {tables : List Table} {pieces : List (List Char)} (h : WrittenScript tables pieces) :
    Statements tables ((pieces.map Text.trimChars).filter (!·.isEmpty)) := by
  induction h with
  | done => exact .nil
  | @blank tables piece pieces hpiece _ ih =>
      have htrim : Text.trimChars piece = [] := by rw [Text.trimChars, skipBlanks_gap hpiece]; rfl
      rw [List.map_cons, htrim]
      exact ih
  | table ifNotExists hpiece _ ih =>
      have hbegun : Begun (Table.tokens ifNotExists _) _ := Written.trim hpiece
      rw [List.map_cons, List.filter_cons_of_pos (by simpa using hbegun.ne_nil)]
      exact .cons ⟨ifNotExists, hbegun⟩ ih

/-- A script is cut at the semicolons between its pieces, as there are no comments in them. -/
theorem WrittenScript.statements {tables : List Table} {pieces : List (List Char)} (h : WrittenScript tables pieces) :
    Statements tables (statements (Text.joinWith [';'] pieces)) := by
  have hfree {c : Char} (hc : StandsAlone c) (hmark : ∀ mark : Mark, c ≠ mark.char) (hsemicolon : c ≠ ';') :
      c ∉ Text.joinWith [';'] pieces := by
    intro hmem
    rcases mem_joinWith hmem with hseparator | ⟨piece, hpiece, hin⟩
    · exact hsemicolon (List.mem_singleton.1 hseparator)
    · exact h.not_mem hc hmark piece hpiece hin
  have hslash := hfree (c := '/') (by decide) (by intro mark; cases mark <;> decide) (by decide)
  have hdash := hfree (c := '-') (by decide) (by intro mark; cases mark <;> decide) (by decide)
  have hblocks : ¬ ['/', '*'] <:+: Text.joinWith [';'] pieces := fun hin => hslash (hin.subset List.mem_cons_self)
  rw [Sql.statements, stripBlocks_eq_self hblocks, stripLines_eq_self hdash]
  by_cases hsome : pieces = []
  · subst hsome
    cases h
    exact .nil
  · rw [Text.splitAt_joinWith hsome (h.not_mem (by decide) (by intro mark; cases mark <;> decide))]
    exact h.pieces

theorem Begun.isCreateTable {table : Table} {ifNotExists : Bool} {s : List Char}
    (h : Begun (table.tokens ifNotExists) s) : isCreateTable s = true :=
  h.beginsWith .create [.table]

theorem Statements.isCreateTable {tables : List Table} {statements : List (List Char)}
    (h : Statements tables statements) : ∀ statement ∈ statements, isCreateTable statement = true := by
  induction h with
  | nil => exact fun statement hmem => absurd hmem List.not_mem_nil
  | cons hfirst _ ih =>
      obtain ⟨ifNotExists, hbegun⟩ := hfirst
      rw [List.forall_mem_cons]
      exact ⟨hbegun.isCreateTable, ih⟩

theorem Statements.entities {tables : List Table} {statements : List (List Char)} (h : Statements tables statements) :
    List.Forall₂ Table.Gives tables (statements.filterMap entity?) := by
  induction h with
  | nil => exact .nil
  | cons hfirst _ ih =>
      obtain ⟨ifNotExists, hbegun⟩ := hfirst
      obtain ⟨entity, hentity, hgives⟩ := hbegun.entity
      rw [List.filterMap_cons_some hentity]
      exact .cons hgives ih

/-- **The reader of scripts reads its grammar.** However the tables are spelled, each of them gives its entity. -/
theorem read_of_written {tables : List Table} {pieces : List (List Char)} (h : WrittenScript tables pieces) :
    ∃ entities, read (String.ofList (Text.joinWith [';'] pieces)) = .ok entities ∧
      List.Forall₂ Table.Gives tables entities := by
  have hstatements := h.statements
  have haccepted : rejected? (String.ofList (Text.joinWith [';'] pieces)) = none := by
    rw [rejected?, String.toList_ofList, List.find?_eq_none.2, Option.map_none]
    intro statement hmem
    rw [hstatements.isCreateTable statement hmem]
    exact Bool.false_ne_true
  refine ⟨_, ?_, hstatements.entities⟩
  rw [read, haccepted, Sql.entities, String.toList_ofList]

def idName : Name := ⟨"id".toList, by decide, by decide, by decide⟩

def labelName : Name := ⟨"label".toList, by decide, by decide, by decide⟩

/-- A table that is called `if`, with its key in front of its columns. -/
def ifTable : Table where
  schema := some ⟨"shop".toList, by decide, by decide, by decide⟩
  name := ⟨"if".toList, by decide, by decide, by decide⟩
  items := [
    .clause (.primaryKey none [idName]),
    .column { name := idName, sqlType := ⟨"INT".toList, by decide, by decide, by decide⟩, arguments := .absent,
              flags := [] },
    .column { name := labelName, sqlType := ⟨"VARCHAR".toList, by decide, by decide, by decide⟩,
              arguments := .one ⟨"40".toList, by decide, by decide⟩, flags := [.unique, .notNull] }]
  some_column := nofun
  distinct := by decide

/-- The spellings of tokens, each with the gap in front of it. -/
def layOut (words : List (String × String)) : List Char :=
  words.foldr (fun word rest => word.1.toList ++ (word.2.toList ++ rest)) []

def ifPiece : List Char := layOut [
  ("", "create"), ("\n", "TABLE"), (" ", "shop.[if]"), ("", "("), ("", "Primary"), ("\t", "KEY"), ("", "("),
  ("", "\"id\""), ("", ")"), ("", ","), (" ", "id"), (" ", "INT"), ("", ","), ("\n", "label"), (" ", "VARCHAR"), ("", "("),
  ("", "40"), ("", ")"), ("", "Unique"), (" ", "not"), ("\n", "NULL"), ("", ")")]

theorem written_ifPiece : Written false (ifTable.tokens false) ifPiece := by
  have hkeyword {text : String} {keyword : Keyword} (h : text.toList.map Char.toLower = keyword.letters.toList) :
      (Token.keyword keyword).Spells text.toList := .keyword h
  have htable : (Token.tableName ifTable.schema ifTable.name).Spells "shop.[if]".toList :=
    @Token.Spells.qualified _ _ "shop".toList _ .bare (@Quoted.between _ ('[', ']') (by decide))
  have hquoted : Quoted idName.word "\"id\"".toList := @Quoted.between _ ('"', '"') (by decide)
  refine .token (by decide) nofun (hkeyword (by decide)) ?_
  refine .token (by decide) (by decide) (hkeyword (by decide)) ?_
  refine .token (by decide) (by decide) htable ?_
  refine .token (by decide) nofun .mark ?_
  refine .token (by decide) nofun (hkeyword (by decide)) ?_
  refine .token (by decide) (by decide) (hkeyword (by decide)) ?_
  refine .token (by decide) nofun .mark ?_
  refine .token (by decide) nofun (.name hquoted) ?_
  refine .token (by decide) nofun .mark ?_
  refine .token (by decide) nofun .mark ?_
  refine .token (by decide) nofun (.name .bare) ?_
  refine .token (by decide) (by decide) .sqlType ?_
  refine .token (by decide) nofun .mark ?_
  refine .token (by decide) nofun (.name .bare) ?_
  refine .token (by decide) (by decide) .sqlType ?_
  refine .token (by decide) nofun .mark ?_
  refine .token (by decide) nofun .number ?_
  refine .token (by decide) nofun .mark ?_
  refine .token (by decide) nofun (hkeyword (by decide)) ?_
  refine .token (by decide) (by decide) (hkeyword (by decide)) ?_
  refine .token (by decide) (by decide) (hkeyword (by decide)) ?_
  refine .token (by decide) nofun .mark ?_
  exact .done (by decide)

/-- What the script says: the key is marked by the clause, and the second column by itself. -/
def ifEntity : Entity where
  name := "If"
  fields := [
    { name := "id", typeName := "Integer", primaryKey := true },
    { name := "label", typeName := "String", maxLength := some 40, required := true, unique := true }]

theorem read_ifScript : WrittenScript [ifTable] [ifPiece, []] ∧
    read (String.ofList (Text.joinWith [';'] [ifPiece, []])) = .ok [ifEntity] ∧
    List.Forall₂ Table.Gives [ifTable] [ifEntity] := by
  have hwritten : WrittenScript [ifTable] [ifPiece, []] := .table false written_ifPiece (.blank (by decide) .done)
  have hread : read (String.ofList (Text.joinWith [';'] [ifPiece, []])) = .ok [ifEntity] := by decide +kernel
  obtain ⟨entities, hentities, hgives⟩ := read_of_written hwritten
  obtain rfl : [ifEntity] = entities := Except.ok.inj (hread.symm.trans hentities)
  exact ⟨hwritten, hread, hgives⟩

end DomainModel.Sql.Grammar
