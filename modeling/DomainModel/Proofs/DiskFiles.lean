import DomainModel.Disk.Basic
import Mathlib.Data.List.Basic

/-! What operations do to the files of a disk. A path that can be followed leads to a place that does not depend
on what the disk holds, and each operation changes no file but the one at the place of its path. Directories are
no files: making one leaves all files as they are. -/

namespace DomainModel

/-! ### Paths below a directory -/

namespace Path

theorem exists_concat_of_endsWith {directory : String} (h : directory.endsWith "/" = true) :
    ∃ before, directory.toList = before ++ ['/'] := by
  rw [String.endsWith_eq_endsWith_toSlice, String.Slice.endsWith_string_iff, String.copy_toSlice] at h
  obtain ⟨before, hbefore⟩ := h
  exact ⟨before, hbefore.symm⟩

section Join
variable (directory : String) {name : String} (hslash : '/' ∉ name.toList)
include hslash

/-- The path to an entry of a directory takes one step more than the path to the directory. -/
theorem steps_ofText_join (hstep : stepOf? name.toList = some (.down name)) :
    (ofText (join directory name)).steps = (ofText directory).steps ++ [.down name] := by
  have hname : (Text.splitAt '/' name.toList).filterMap stepOf? = [.down name] := by
    rw [Text.splitAt_of_not_mem hslash, List.filterMap_cons_some hstep, List.filterMap_nil]
  have hsteps (before : List Char) : (Text.splitAt '/' (before ++ '/' :: name.toList)).filterMap stepOf? =
      (Text.splitAt '/' before).filterMap stepOf? ++ [.down name] := by
    rw [Text.splitAt_append_cons, List.filterMap_append, hname]
  rw [join]
  split
  · next hend =>
      rcases Bool.or_eq_true_iff.1 hend with hempty | hend
      · rw [String.isEmpty_iff.1 hempty, String.empty_append]
        exact hname
      · obtain ⟨before, hbefore⟩ := exists_concat_of_endsWith hend
        -- behind the slash that is there already a directory has an empty part, which is no step
        have hdirectory : (ofText directory).steps = (Text.splitAt '/' before).filterMap stepOf? := by
          simp [ofText, hbefore, Text.splitAt_append_cons, Text.splitAt, stepOf?]
        rw [hdirectory, ← hsteps before]
        simp [ofText, hbefore]
  · have hdirectory : (ofText directory).steps = (Text.splitAt '/' directory.toList).filterMap stepOf? := rfl
    rw [hdirectory, ← hsteps directory.toList]
    simp [ofText]

theorem absolute_ofText_join : (ofText (join directory name)).absolute = (ofText directory).absolute := by
  have hfirst : name.toList.head? ≠ some '/' := fun hhead => hslash (List.mem_of_head? hhead)
  cases hchars : directory.toList with
  | nil => simp [ofText, join, String.toList_eq_nil_iff.1 hchars, hfirst]
  | cons c rest =>
      rw [join]
      split <;> simp [ofText, hchars]

end Join

end Path

/-- What an entry holds, if it is a file. -/
def Entry.content? : Entry → Option Content
  | .directory => none
  | .file content => some content

namespace Disk
variable {disk disk' : Disk} {path : Path} {place other : Place}

/-! ### Places of paths -/

/-- The place that a step leads to. -/
def follow (place : Place) : Step → Place
  | .up => place.dropLast
  | .down name => place ++ [name]

/-- The place of a path, whatever the disk holds on the way. -/
def placeOf (disk : Disk) (path : Path) : Place :=
  path.steps.foldl follow (if path.absolute then [] else disk.here)

theorem placeOf_congr (h : disk'.here = disk.here) (path : Path) : disk'.placeOf path = disk.placeOf path := by
  rw [placeOf, placeOf, h]

theorem placeOf_join (disk : Disk) (directory : String) {name : String} (hslash : '/' ∉ name.toList)
    (hstep : Path.stepOf? name.toList = some (.down name)) :
    disk.placeOf (.ofText (Path.join directory name)) = disk.placeOf (.ofText directory) ++ [name] := by
  rw [placeOf, placeOf, Path.steps_ofText_join directory hslash hstep, Path.absolute_ofText_join directory hslash,
    List.foldl_append, List.foldl_cons, List.foldl_nil, follow]

theorem walk_cons_eq_ok_iff {start : Place} {step : Step} {rest : List Step} :
    disk.walk start (step :: rest) = .ok place ↔
      disk.entry? start = some .directory ∧ (∀ name, step = .down name → name.utf8ByteSize ≤ maxNameLength) ∧
        disk.walk (follow start step) rest = .ok place := by
  cases step with
  | up =>
      rw [walk]
      split <;> simp_all [follow]
  | down name =>
      rw [walk]
      split
      · simp_all
      · simp_all
      · next hdirectory =>
          simp only [hdirectory, true_and, Step.down.injEq, forall_eq', follow]
          split
          · next hlong => simp [Nat.not_le.2 hlong]
          · next hshort => simp [Nat.not_lt.1 hshort]

theorem walk_eq_foldl {start : Place} {steps : List Step} (h : disk.walk start steps = .ok place) :
    place = steps.foldl follow start := by
  induction steps generalizing start with
  | nil => exact (Except.ok.inj h).symm
  | cons step rest ih => exact ih (walk_cons_eq_ok_iff.1 h).2.2

theorem locate_eq_placeOf (h : disk.locate path = .ok place) : place = disk.placeOf path := by
  rw [locate] at h
  split at h
  · contradiction
  · exact walk_eq_foldl h

/-! ### Entries and files -/

theorem lookup_cons_ite (first : Place × Entry) (rest : List (Place × Entry)) :
    (first :: rest).lookup place = if place = first.1 then some first.2 else rest.lookup place := by
  by_cases h : place = first.1
  · rw [if_pos h, List.lookup_cons, beq_iff_eq.2 h]
  · rw [if_neg h, List.lookup_cons, beq_eq_false_iff_ne.2 h]

theorem lookup_putEntry (place other : Place) (entry : Entry) (entries : List (Place × Entry)) :
    (putEntry place entry entries).lookup other = if other = place then some entry else entries.lookup other := by
  induction entries with
  | nil => simp [putEntry, lookup_cons_ite]
  | cons first rest ih =>
      by_cases hfirst : first.1 = place
      · rw [putEntry, if_pos (beq_iff_eq.2 hfirst), lookup_cons_ite, lookup_cons_ite, hfirst]
        split <;> rfl
      · rw [putEntry, if_neg (by simpa using hfirst), lookup_cons_ite, lookup_cons_ite, ih]
        grind

theorem lookup_filter_ne (place other : Place) (entries : List (Place × Entry)) :
    (entries.filter (·.1 != place)).lookup other = if other = place then none else entries.lookup other := by
  induction entries with
  | nil => simp
  | cons first rest ih =>
      by_cases hfirst : first.1 = place
      · rw [List.filter_cons_of_neg (by simp [hfirst]), ih, lookup_cons_ite, hfirst]
        split <;> rfl
      · rw [List.filter_cons_of_pos (by simp [hfirst]), lookup_cons_ite, lookup_cons_ite, ih]
        grind

theorem entry?_put (hroot : place ≠ []) (entry : Entry) (other : Place) :
    Disk.entry? (disk.put place entry) other = if other = place then some entry else disk.entry? other := by
  rw [ entry?, entry?, put, lookup_putEntry]
  cases other with
  | nil => simp [hroot.symm]
  | cons name rest => rfl

theorem entry?_erase (hroot : place ≠ []) (other : Place) :
    Disk.entry? (disk.erase place) other = if other = place then none else disk.entry? other := by
  rw [ entry?, entry?, erase, lookup_filter_ne]
  cases other with
  | nil => simp [hroot.symm]
  | cons name rest => rfl

theorem putEntry_putEntry (place : Place) (before entry : Entry) (entries : List (Place × Entry)) :
    putEntry place entry (putEntry place before entries) = putEntry place entry entries := by
  induction entries with
  | nil => simp [putEntry]
  | cons first rest ih =>
      by_cases hfirst : first.1 = place
      · simp [putEntry, hfirst]
      · simp [putEntry, hfirst, ih]

theorem put_put (disk : Disk) (place : Place) (before entry : Entry) :
    (disk.put place before).put place entry = disk.put place entry := by
  rw [put, put, putEntry_putEntry]
  rfl

/-- There is a directory at the root, so what is not a directory is elsewhere. -/
theorem ne_root_of_ne_directory (h : disk.entry? place ≠ some .directory) : place ≠ [] := by
  rintro rfl
  exact h rfl

/-- An entry where no directory was stands in the way of no path that could be followed. -/
theorem walk_put {entry : Entry} (hother : disk.entry? other ≠ some .directory) {start : Place} {steps : List Step}
    (h : disk.walk start steps = .ok place) : (disk.put other entry).walk start steps = .ok place := by
  induction steps generalizing start with
  | nil => exact h
  | cons step rest ih =>
      obtain ⟨hstart, hname, hrest⟩ := walk_cons_eq_ok_iff.1 h
      have hne : start ≠ other := fun heq => hother (heq ▸ hstart)
      rw [walk_cons_eq_ok_iff, entry?_put (ne_root_of_ne_directory hother), if_neg hne]
      exact ⟨hstart, hname, ih hrest⟩

theorem walk_erase (hother : disk.entry? other ≠ some .directory) {start : Place} {steps : List Step}
    (h : disk.walk start steps = .ok place) : (disk.erase other).walk start steps = .ok place := by
  induction steps generalizing start with
  | nil => exact h
  | cons step rest ih =>
      obtain ⟨hstart, hname, hrest⟩ := walk_cons_eq_ok_iff.1 h
      have hne : start ≠ other := fun heq => hother (heq ▸ hstart)
      rw [walk_cons_eq_ok_iff, entry?_erase (ne_root_of_ne_directory hother), if_neg hne]
      exact ⟨hstart, hname, ih hrest⟩

/-- The last step of a path starts from a directory. -/
theorem walk_concat {start : Place} {steps : List Step} {last : Step}
    (h : disk.walk start (steps ++ [last]) = .ok place) :
    ∃ around, disk.walk start steps = .ok around ∧ disk.entry? around = some .directory := by
  induction steps generalizing start with
  | nil => exact ⟨start, rfl, (walk_cons_eq_ok_iff.1 h).1⟩
  | cons step rest ih =>
      obtain ⟨hstart, hname, hrest⟩ := walk_cons_eq_ok_iff.1 h
      obtain ⟨around, haround, hdirectory⟩ := ih hrest
      exact ⟨around, walk_cons_eq_ok_iff.2 ⟨hstart, hname, haround⟩, hdirectory⟩

theorem locate_put {entry : Entry} (hother : disk.entry? other ≠ some .directory)
    (h : disk.locate path = .ok place) : (disk.put other entry).locate path = .ok place := by
  rw [locate] at h ⊢
  split at h
  · contradiction
  · next hnull =>
      rw [if_neg hnull]
      exact walk_put hother h

theorem locate_erase (hother : disk.entry? other ≠ some .directory) (h : disk.locate path = .ok place) :
    (disk.erase other).locate path = .ok place := by
  rw [locate] at h ⊢
  split at h
  · contradiction
  · next hnull =>
      rw [if_neg hnull]
      exact walk_erase hother h

/-- What the file at a place holds, if there is one. -/
def file? (disk : Disk) (place : Place) : Option Content := (disk.entry? place).bind Entry.content?

theorem file?_put (hroot : place ≠ []) (entry : Entry) (other : Place) :
    (disk.put place entry).file? other = if other = place then entry.content? else disk.file? other := by
  rw [file?, entry?_put hroot]
  split <;> rfl

theorem file?_erase (hroot : place ≠ []) (other : Place) :
    (disk.erase place).file? other = if other = place then none else disk.file? other := by
  rw [file?, entry?_erase hroot]
  split <;> rfl

/-! ### What operations change -/

/-- An operation that goes on after a part of it has gone well with that. -/
theorem exists_of_bind_eq_ok {ε α β : Type} {part : Except ε α} {rest : α → Except ε β} {result : β}
    (h : part >>= rest = .ok result) : ∃ a, part = .ok a ∧ rest a = .ok result := by
  cases part with
  | error fault => contradiction
  | ok a => exact ⟨a, rfl, h⟩

theorem bind_ok {ε α β : Type} (a : α) (rest : α → Except ε β) : Except.ok a >>= rest = rest a := rfl

/-- The second disk is used from the same place as the first, and has the same files but for some places. -/
structure KeepsAllBut (changed : Place → Prop) (disk disk' : Disk) : Prop where
  here : disk'.here = disk.here
  files : ∀ place, ¬ changed place → disk'.file? place = disk.file? place

theorem keepsAllBut_put (hentry : disk.entry? place ≠ some .directory) (entry : Entry) :
    KeepsAllBut (· = place) disk (disk.put place entry) := by
  refine ⟨rfl, fun other hne => ?_⟩
  rw [file?_put (ne_root_of_ne_directory hentry), if_neg hne]

/-- Making a directory changes no file. -/
theorem keepsAllBut_makeDirectory (h : disk.makeDirectory path = .ok disk') :
    KeepsAllBut (fun _ => False) disk disk' := by
  obtain ⟨place, -, h⟩ := exists_of_bind_eq_ok h
  split at h
  · contradiction
  · next hnone =>
      have hentry : disk.entry? place ≠ some .directory := by simp [hnone]
      obtain rfl := Except.ok.inj h
      refine ⟨rfl, fun other _ => ?_⟩
      rw [file?_put (ne_root_of_ne_directory hentry)]
      split
      · next hplace => rw [hplace, file?, hnone, Entry.content?, Option.bind_none]
      · rfl

theorem writable_eq_ok (h : disk.writable path = .ok place) :
    disk.locate path = .ok place ∧ disk.entry? place ≠ some .directory := by
  obtain ⟨found, hfound, h⟩ := exists_of_bind_eq_ok h
  split at h
  · contradiction
  · next hentry =>
      obtain rfl := Except.ok.inj h
      exact ⟨hfound, hentry⟩

theorem keepsAllBut_appendText {text : String} (h : disk.appendText path text = .ok disk') :
    KeepsAllBut (· = disk.placeOf path) disk disk' := by
  obtain ⟨place, hplace, h⟩ := exists_of_bind_eq_ok h
  obtain ⟨hlocate, hentry⟩ := writable_eq_ok hplace
  obtain rfl := locate_eq_placeOf hlocate
  split at h <;> obtain rfl := Except.ok.inj h
  · exact keepsAllBut_put hentry _
  · exact keepsAllBut_put hentry _

theorem keepsAllBut_refl (changed : Place → Prop) (disk : Disk) : KeepsAllBut changed disk disk :=
  ⟨rfl, fun _ _ => rfl⟩

/-- A text that is added in part reaches no other file either. -/
theorem keepsAllBut_appendPart (disk : Disk) (path : Path) (text : String) (count : Nat) :
    KeepsAllBut (· = disk.placeOf path) disk (disk.appendPart path text count) := by
  rw [appendPart]
  split
  · exact keepsAllBut_refl _ _
  · next hlocate =>
      obtain rfl := locate_eq_placeOf hlocate
      split
      · next hfile => exact keepsAllBut_put (by simp [hfile]) _
      · exact keepsAllBut_refl _ _

/-- The second disk is the first one with a content in the file that the path leads to. -/
structure Written (path : Path) (content : Content) (disk disk' : Disk) : Prop where
  located : disk.locate path = .ok (disk.placeOf path)
  free : disk.entry? (disk.placeOf path) ≠ some .directory
  eq : disk' = disk.put (disk.placeOf path) (.file content)

/-- A file that has been opened to be written is empty. -/
theorem written_createFile (h : disk.createFile path = .ok disk') : Written path (.text "") disk disk' := by
  obtain ⟨place, hplace, h⟩ := exists_of_bind_eq_ok h
  obtain ⟨hlocate, hentry⟩ := writable_eq_ok hplace
  obtain rfl := locate_eq_placeOf hlocate
  exact ⟨hlocate, hentry, (Except.ok.inj h).symm⟩

namespace Written
variable {content : Content} (h : Written path content disk disk')
include h

theorem file? : disk'.file? (disk.placeOf path) = some content := by
  rw [h.eq, file?_put (ne_root_of_ne_directory h.free), if_pos rfl, Entry.content?]

theorem keepsAllBut : KeepsAllBut (· = disk.placeOf path) disk disk' := by
  rw [h.eq]
  exact keepsAllBut_put h.free _

theorem locate_eq : disk'.locate path = .ok (disk.placeOf path) := by
  rw [h.eq]
  exact locate_put h.free h.located

theorem entry?_eq : disk'.entry? (disk.placeOf path) = some (.file content) := by
  rw [h.eq, entry?_put (ne_root_of_ne_directory h.free), if_pos rfl]

/-- Another content takes the place of the one that was written. -/
theorem put (content' : Content) : Written path content' disk (disk'.put (disk.placeOf path) (.file content')) :=
  ⟨h.located, h.free, by rw [h.eq, put_put]⟩

/-- A text can be added to a file that has been opened. -/
theorem exists_appendText (text : String) :
    ∃ added, disk'.appendText path text = .ok added ∧ Written path (content.append text) disk added := by
  refine ⟨_, ?_, h.put (content.append text)⟩
  have hwritable : disk'.writable path = .ok (disk.placeOf path) := by
    rw [writable, h.locate_eq, bind_ok, h.entry?_eq]
  rw [Disk.appendText, hwritable, bind_ok, h.entry?_eq]
  rfl

theorem appendPart (text : String) (count : Nat) :
    Written path (content.appendPart text count) disk (disk'.appendPart path text count) := by
  rw [Disk.appendPart, h.locate_eq]
  simp only [h.entry?_eq]
  exact h.put _

/-- The file is found by its path and taken away again. -/
theorem remove :
    KeepsAllBut (· = disk.placeOf path) disk (disk'.remove path) ∧
      (disk'.remove path).file? (disk.placeOf path) = none := by
  have hroot := ne_root_of_ne_directory h.free
  rw [Disk.remove, h.locate_eq]
  simp only [h.entry?_eq]
  refine ⟨⟨?_, fun other hne => ?_⟩, ?_⟩
  · rw [h.eq]
    rfl
  · rw [file?_erase hroot, if_neg hne, h.keepsAllBut.files other hne]
  · rw [file?_erase hroot, if_pos rfl]

end Written

/-- A text that is read is what the file at the place of the path holds. -/
theorem file?_of_readText {text : String} (h : disk.readText path = .ok text) :
    disk.file? (disk.placeOf path) = some (.text text) := by
  obtain ⟨place, hlocate, h⟩ := exists_of_bind_eq_ok h
  obtain rfl := locate_eq_placeOf hlocate
  split at h
  · contradiction
  · contradiction
  · next content hentry =>
      split at h
      · contradiction
      · split at h
        · obtain rfl := Except.ok.inj h
          rw [file?, hentry, Option.bind_some, Entry.content?]
        · contradiction

/-! ### Files that are moved to their place -/

/-- Entries of one directory have places that differ in the last name only. -/
theorem exists_placeOf_sibling (disk : Disk) {name : String} (h : path.name? = some name) :
    ∃ directory, disk.placeOf path = directory ++ [name] ∧
      ∀ other, disk.placeOf (path.sibling other) = directory ++ [other] := by
  have hlast : path.steps = path.steps.dropLast ++ [.down name] := by
    rw [Path.name?] at h
    split at h
    · next hlast =>
        obtain rfl := Option.some.inj h
        exact (List.dropLast_append_getLast? _ hlast).symm
    · contradiction
  refine ⟨path.steps.dropLast.foldl follow (if path.absolute then [] else disk.here), ?_, fun other => ?_⟩
  · rw [placeOf, hlast, List.foldl_append, List.foldl_cons, List.foldl_nil, follow, List.dropLast_concat]
  · rw [placeOf, Path.sibling, List.foldl_append, List.foldl_cons, List.foldl_nil, follow]

theorem renameTarget_eq_ok (h : disk.renameTarget path = .ok place) :
    disk.locate path = .ok place ∧ disk.entry? place ≠ some .directory := by
  obtain ⟨found, hfound, h⟩ := exists_of_bind_eq_ok h
  split at h
  · contradiction
  · contradiction
  · contradiction
  · contradiction
  · contradiction
  · next hentry =>
      obtain rfl := Except.ok.inj h
      exact ⟨hfound, hentry⟩

/-- What moving a file does that has been written: the disk of before has its content at another place. -/
theorem Written.rename_eq_ok {target : Path} {content : Content} {written moved : Disk}
    (h : Written path content disk written) (hmoved : written.rename path target = .ok moved) :
    written.locate target = .ok (disk.placeOf target) ∧ written.entry? (disk.placeOf target) ≠ some .directory ∧
      moved = (written.erase (disk.placeOf path)).put (disk.placeOf target) (.file content) := by
  obtain ⟨origin, horigin, hmoved⟩ := exists_of_bind_eq_ok hmoved
  obtain rfl := Except.ok.inj (horigin.symm.trans h.locate_eq)
  obtain ⟨place, hplace, hmoved⟩ := exists_of_bind_eq_ok hmoved
  obtain ⟨hlocate, hfree⟩ := renameTarget_eq_ok hplace
  obtain rfl : place = disk.placeOf target := by rw [locate_eq_placeOf hlocate, placeOf_congr h.keepsAllBut.here]
  rw [h.entry?_eq] at hmoved
  exact ⟨hlocate, hfree, (Except.ok.inj hmoved).symm⟩

/-- What has been written to a file and moved to its place is found there, and nowhere else. -/
theorem Written.file?_of_moved {target : Path} {content : Content} {written moved : Disk}
    (h : Written path content disk written) (hmoved : written.rename path target = .ok moved) :
    moved.here = disk.here ∧ ∀ place, moved.file? place =
      if place = disk.placeOf target then some content
      else if place = disk.placeOf path then none else disk.file? place := by
  obtain ⟨-, hfree, rfl⟩ := h.rename_eq_ok hmoved
  refine ⟨h.keepsAllBut.here, fun other => ?_⟩
  rw [file?_put (ne_root_of_ne_directory hfree), file?_erase (ne_root_of_ne_directory h.free), Entry.content?]
  split
  · rfl
  · split
    · rfl
    · next hne => exact h.keepsAllBut.files other hne

/-- The directory of a path that can be followed is there. -/
theorem exists_locate_of_parent? {directory : Path} (h : disk.locate path = .ok place)
    (hdirectory : path.parent? = some directory) :
    ∃ around, disk.locate directory = .ok around ∧ disk.entry? around = some .directory := by
  rw [Path.parent?] at hdirectory
  split at hdirectory
  · contradiction
  next hsteps =>
  obtain rfl := Option.some.inj hdirectory
  have hne : path.steps ≠ [] := fun hnil => hsteps (by rw [hnil, List.isEmpty_nil])
  rw [locate] at h
  split at h
  · contradiction
  next hnull =>
  rw [← List.dropLast_append_getLast hne] at h
  obtain ⟨around, haround, hthere⟩ := walk_concat h
  refine ⟨around, ?_, hthere⟩
  rw [locate, if_neg]
  · exact haround
  · intro hany
    obtain ⟨step, hstep, hname⟩ := List.any_eq_true.1 hany
    exact hnull (List.any_eq_true.2 ⟨step, List.dropLast_subset _ hstep, hname⟩)

/-- The directory that a file has been moved to can be opened. -/
theorem Written.openEntry_of_moved {target directory : Path} {content : Content} {written moved : Disk}
    (h : Written path content disk written) (hmoved : written.rename path target = .ok moved)
    (hdirectory : target.parent? = some directory) : moved.openEntry directory = .ok () := by
  obtain ⟨hlocate, hfree, rfl⟩ := h.rename_eq_ok hmoved
  obtain ⟨around, haround, hthere⟩ := exists_locate_of_parent? hlocate hdirectory
  have hfile : written.entry? (disk.placeOf path) ≠ some .directory := by simp [h.entry?_eq]
  have hne_path : around ≠ disk.placeOf path := fun heq => hfile (heq ▸ hthere)
  have hne_target : around ≠ disk.placeOf target := fun heq => hfree (heq ▸ hthere)
  have hfree' : Disk.entry? (written.erase (disk.placeOf path)) (disk.placeOf target) ≠ some .directory := by
    rw [entry?_erase (ne_root_of_ne_directory h.free)]
    split
    · simp
    · exact hfree
  rw [openEntry, locate_put hfree' (locate_erase hfile haround), bind_ok, entry?_put (ne_root_of_ne_directory hfree),
    if_neg hne_target, entry?_erase (ne_root_of_ne_directory h.free), if_neg hne_path, hthere]

end Disk

end DomainModel
