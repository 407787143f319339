import DomainModel.Proofs.CommandParts

/-! Files that are written under another name, beside their place, and then moved there. Each step may fail. A file
that cannot be opened is left alone, and one that cannot be moved is taken away again; one that cannot be filled or
synced stays behind as far as it has come. No other file changes before the move, and once the file has been moved only
its directory can fail to be synced. -/

namespace DomainModel.Command

/-- The path that a file is written to before it is moved to its place. -/
def stagingPath? (processId : Nat) (path : String) : Option Path :=
  (Path.ofText path).name?.map fun name => (Path.ofText path).sibling (stagingName processId name)

/-- The other name is longer. -/
theorem stagingName_ne (processId : Nat) (name : String) : stagingName processId name ≠ name := by
  intro h
  have hlength := congrArg String.length h
  have hdot : ".".length = 1 := rfl
  simp only [stagingName, String.length_append, hdot] at hlength
  omega

/-- A file at the path that has been opened can be filled, synced and taken away. -/
def VirtualHost.Steady (host : VirtualHost) (path : Path) : Prop :=
  ∀ operation ∈ [Operation.append, .sync, .remove], host.trouble? operation path = none

instance (host : VirtualHost) (path : Path) : Decidable (host.Steady path) :=
  inferInstanceAs (Decidable (∀ operation ∈ [Operation.append, .sync, .remove], host.trouble? operation path = none))

section Writes
variable (inv : VirtualHost → Prop) (staging target : Path) (text : String)

/-- Since the invariant held, a content has been written to the file of a path. -/
def WrittenSince (content : Content) (host : VirtualHost) : Prop :=
  ∃ disk, inv { host with disk } ∧ Disk.Written staging content disk host.disk

/-- Since the invariant held, a text has been written to a file and this has been moved to its place. -/
def MovedSince (host : VirtualHost) : Prop :=
  ∃ written, WrittenSince inv staging (.text text) { host with disk := written } ∧
    written.rename staging target = .ok host.disk

/-- Since the invariant held, only the file of a path may have changed. Where the path is steady it is gone. -/
def GivenUpSince (host : VirtualHost) : Prop :=
  ∃ disk, inv { host with disk } ∧ Disk.KeepsAllBut (· = disk.placeOf staging) disk host.disk ∧
    (host.Steady staging → host.disk.file? (disk.placeOf staging) = none)

/-- How a host is left when a file has not been written to the end. -/
inductive Unfinished (host : VirtualHost) : Prop where
  | unopened (h : inv host)
  | givenUp (h : GivenUpSince inv staging host)
  | unsynced (h : MovedSince inv staging target text host) (directory : Path)
      (htrouble : host.trouble? .syncDirectory directory ≠ none)

/-- A file has not been written to the end, and that is what is said. -/
def Unwritten (failure : Failure) (host : VirtualHost) : Prop :=
  (∃ fault, failure = .unwritten fault) ∧ Unfinished inv staging target text host

end Writes

/-! ### The steps -/

section Steps
variable {inv : VirtualHost → Prop} {failed : Failure → VirtualHost → Prop} {staging target : Path} {text : String}
  {content : Content} {host : VirtualHost}

theorem WrittenSince.givenUp {operation : Operation} (h : WrittenSince inv staging content host)
    (hoperation : operation ∈ [Operation.append, .sync, .remove])
    (htrouble : (host.trouble? operation staging).isSome = true) : GivenUpSince inv staging host := by
  obtain ⟨disk, hinv, hwritten⟩ := h
  refine ⟨disk, hinv, hwritten.keepsAllBut, fun hsteady => ?_⟩
  rw [hsteady operation hoperation] at htrouble
  contradiction

theorem ensures_createFile (hfailed : ∀ fault host, inv host → failed (.unwritten fault) host) :
    Ensures inv (orFail (Host.createFile staging) .unwritten) (fun _ => WrittenSince inv staging (.text ""))
      failed := by
  refine .orFail (fun host h done hok => ?_) fun host h fault herror => hfailed fault _ ?_
  · obtain ⟨disk, hmade, hafter⟩ := VirtualHost.attempt_of_ok hok
    exact hafter.symm ▸ ⟨host.disk, h, Disk.written_createFile (VirtualHost.eq_ok_of_check hmade)⟩
  · exact (VirtualHost.attempt_of_error herror).symm ▸ h

/-- A text that is added in part stays behind. -/
theorem ensures_appendText {failure : DiskFault → Failure}
    (hfailed : ∀ fault host, GivenUpSince inv staging host → failed (failure fault) host) :
    Ensures (WrittenSince inv staging (.text "")) (orFail (Host.appendText staging text) failure)
      (fun _ => WrittenSince inv staging (.text text)) failed := by
  have hrun (host : VirtualHost) :
      (Host.appendText staging text : StateM VirtualHost _).run host = host.append staging text := rfl
  refine .orFail (fun host h done hok => ?_) fun host h fault herror => hfailed fault _ ?_
  · obtain ⟨disk, hinv, hwritten⟩ := h
    obtain ⟨added, hadded, hfull⟩ := hwritten.exists_appendText text
    rw [hrun, VirtualHost.append] at hok ⊢
    split at hok
    · contradiction
    · rw [hadded]
      refine ⟨disk, hinv, ?_⟩
      rwa [Content.append, String.empty_append] at hfull
  · obtain ⟨disk, hinv, hwritten⟩ := h
    obtain ⟨added, hadded, -⟩ := hwritten.exists_appendText text
    rw [hrun, VirtualHost.append] at herror ⊢
    split at herror
    · next trouble htrouble =>
        have hpart : WrittenSince inv staging (Content.appendPart (.text "") text trouble.written)
            { host with disk := host.disk.appendPart staging text trouble.written } :=
          ⟨disk, hinv, hwritten.appendPart text trouble.written⟩
        exact hpart.givenUp List.mem_cons_self (Option.isSome_of_eq_some htrouble)
    · rw [hadded] at herror
      contradiction

/-- A text is written to a file that has been opened for it, or else the file is as it was, or given up. -/
theorem ensures_writeText_since {failure : DiskFault → Failure}
    (hopened : ∀ fault host, inv host → failed (.unwritten fault) host)
    (hadded : ∀ fault host, GivenUpSince inv staging host → failed (failure fault) host) :
    Ensures inv (writeText staging text failure) (fun _ => WrittenSince inv staging (.text text)) failed :=
  .bind (ensures_createFile hopened) fun _ => ensures_appendText hadded

theorem ensures_syncFile :
    Ensures (WrittenSince inv staging (.text text)) (orFail (Host.syncFile staging) .unwritten)
      (fun _ => WrittenSince inv staging (.text text)) (Unwritten inv staging target text) := by
  refine .orFail (fun _ h _ _ => h) fun host h fault herror => ⟨⟨fault, rfl⟩, .givenUp ?_⟩
  have htrouble : (host.trouble? .sync staging).isSome = true := VirtualHost.isSome_trouble?_of_check rfl herror
  exact h.givenUp (by decide) htrouble

/-- A file that has been written is taken away again, unless this fails. -/
theorem WrittenSince.remove (h : WrittenSince inv staging content host) :
    GivenUpSince inv staging ((Host.remove staging : StateM VirtualHost Unit).run host).2 := by
  change GivenUpSince inv staging (if (host.trouble? .remove staging).isSome then host
    else { host with disk := host.disk.remove staging })
  split
  · next htrouble => exact h.givenUp (by decide) htrouble
  · obtain ⟨disk, hinv, hwritten⟩ := h
    exact ⟨disk, hinv, hwritten.remove.1, fun _ => hwritten.remove.2⟩

theorem ensures_moveInto :
    Ensures (WrittenSince inv staging (.text text)) (moveInto staging target)
      (fun _ => MovedSince inv staging target text) (Unwritten inv staging target text) := by
  have hrename : Ensures (WrittenSince inv staging (.text text))
      (liftM (Host.rename (m := StateM VirtualHost) staging target))
      (fun result => match result with
        | .ok _ => MovedSince inv staging target text
        | .error _ => WrittenSince inv staging (.text text))
      (Unwritten inv staging target text) := by
    refine .lift fun host h => ?_
    cases hresult : ((Host.rename staging target : StateM VirtualHost _).run host).1 with
    | ok done =>
        obtain ⟨disk, hmoved, hafter⟩ := VirtualHost.attempt_of_ok hresult
        exact hafter.symm ▸ ⟨host.disk, h, VirtualHost.eq_ok_of_check hmoved⟩
    | error fault => exact (VirtualHost.attempt_of_error hresult).symm ▸ h
  have hremove : Ensures (WrittenSince inv staging (.text text)) (liftM (Host.remove (m := StateM VirtualHost) staging))
      (fun _ => GivenUpSince inv staging) (Unwritten inv staging target text) := .lift fun _ h => h.remove
  unfold moveInto
  refine .bind hrename fun result => ?_
  cases result with
  | ok _ => exact .pure fun _ h => h
  | error fault => exact .bind hremove fun _ => .throw fun _ h => ⟨⟨fault, rfl⟩, .givenUp h⟩

/-- The directory is there that the file has been moved to, so only a trouble keeps it from being synced. -/
theorem ensures_syncDirectory {directory : Path} (hdirectory : target.parent? = some directory) :
    Ensures (MovedSince inv staging target text) (orFail (Host.syncDirectory directory) .unwritten)
      (fun _ => MovedSince inv staging target text) (Unwritten inv staging target text) := by
  refine .orFail (fun _ h _ _ => h) fun host h fault herror => ⟨⟨fault, rfl⟩, .unsynced h directory ?_⟩
  obtain ⟨written, ⟨disk, hinv, hwritten⟩, hmoved⟩ := h
  have hthere := hwritten.openEntry_of_moved hmoved hdirectory
  exact Option.isSome_iff_ne_none.1 (VirtualHost.isSome_trouble?_of_check hthere herror)

theorem ensures_writeStaged {directory? : Option Path}
    (hdirectory : ∀ directory ∈ directory?, target.parent? = some directory) :
    Ensures inv (writeStaged staging target directory? text) (fun _ => MovedSince inv staging target text)
      (Unwritten inv staging target text) := by
  unfold writeStaged
  have hwrite : Ensures inv (writeText staging text .unwritten) (fun _ => WrittenSince inv staging (.text text))
      (Unwritten inv staging target text) :=
    ensures_writeText_since (fun fault _ h => ⟨⟨fault, rfl⟩, .unopened h⟩) fun fault _ h => ⟨⟨fault, rfl⟩, .givenUp h⟩
  refine .bind hwrite fun _ => .bind ensures_syncFile fun _ => .bind ensures_moveInto fun _ => ?_
  cases directory? with
  | none => exact .pure fun _ h => h
  | some directory => exact ensures_syncDirectory (hdirectory directory rfl)

end Steps

/-! ### Files that are asked for -/

theorem parent?_of_directory? {path : String} {directory : Path} (h : Path.directory? path = some directory) :
    (Path.ofText path).parent? = some directory := by
  rw [Path.directory?] at h
  split at h
  · contradiction
  · exact h

section Asked
variable (inv : VirtualHost → Prop) (processId : Nat) (path text : String)

/-- Since the invariant held, a text has been written under another name beside the place of a path and moved there. -/
def DeliveredSince (host : VirtualHost) : Prop :=
  ∃ staging ∈ stagingPath? processId path, MovedSince inv staging (.ofText path) text host

/-- Writing a file that is asked for has failed before it was begun, or at one of its steps. -/
def UndeliveredSince (failure : Failure) (host : VirtualHost) : Prop :=
  inv host ∨ ∃ staging ∈ stagingPath? processId path, Unwritten inv staging (.ofText path) text failure host

end Asked

theorem ensures_writeWhole {inv : VirtualHost → Prop} (hmake : ∀ path, Stable inv (Host.makeDirectory path))
    (processId : Nat) (path : String) (value : Json.Value) :
    Ensures inv (writeWhole processId path value)
      (fun _ => DeliveredSince inv processId path (value.pretty ++ "\n"))
      (UndeliveredSince inv processId path (value.pretty ++ "\n")) := by
  have hprepare (directory : Path) : Ensures inv (prepareDirectory directory) (fun _ => inv)
      (UndeliveredSince inv processId path (value.pretty ++ "\n")) :=
    (ensures_prepareDirectory hmake directory).weaken_failed fun _ _ h => .inl h
  have hstaged (name : String) (hname : (Path.ofText path).name? = some name) :
      Ensures inv (writeStaged ((Path.ofText path).sibling (stagingName processId name)) (.ofText path)
          (Path.directory? path) (value.pretty ++ "\n"))
        (fun _ => DeliveredSince inv processId path (value.pretty ++ "\n"))
        (UndeliveredSince inv processId path (value.pretty ++ "\n")) := by
    have hstaging : (Path.ofText path).sibling (stagingName processId name) ∈ stagingPath? processId path := by
      rw [stagingPath?, hname, Option.map_some, Option.mem_some]
    exact ((ensures_writeStaged fun _ => parent?_of_directory?).weaken fun _ _ h => ⟨_, hstaging, h⟩).weaken_failed
      fun _ _ h => .inr ⟨_, hstaging, h⟩
  unfold writeWhole
  -- the directory of the file is made before it is known that the path has a name at its end
  dsimp only
  split
  · refine .bind (hprepare _) fun _ => ?_
    split
    · exact .throw fun _ h => .inl h
    · next name hname => exact hstaged name hname
  · split
    · exact .throw fun _ h => .inl h
    · next name hname => exact hstaged name hname

end DomainModel.Command
