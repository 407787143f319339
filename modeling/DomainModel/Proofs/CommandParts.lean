import DomainModel.Command.Execute
import DomainModel.Proofs.DiskFiles

/-! Parts of commands on the virtual host, and what they ensure. A part is begun on a host, and either succeeds with
a result or fails, for a reason; both ways it leaves a host. What it ensures says something about either end, so that
a command can be followed step by step up to the point where it gives up. Operations that cannot fail only have to be
stable: what held of the host before must hold after them. -/

namespace DomainModel.Command

variable {α β : Type}

namespace VirtualHost
variable {host : VirtualHost}

/-- An operation that goes well has the result that it would have if nothing could go wrong. -/
theorem eq_ok_of_check {operation : Operation} {path : Path} {result : Except DiskFault α} {a : α}
    (h : host.check operation path result = .ok a) : result = .ok a := by
  rw [check] at h
  split at h
  · contradiction
  · exact h

theorem attempt_of_ok {result : Except DiskFault Disk} {done : Unit} (h : (host.attempt result).1 = .ok done) :
    ∃ disk, result = .ok disk ∧ (host.attempt result).2 = { host with disk } := by
  cases result with
  | error fault => cases h
  | ok disk => exact ⟨disk, rfl, rfl⟩

theorem attempt_of_error {result : Except DiskFault Disk} {fault : DiskFault}
    (h : (host.attempt result).1 = .error fault) : (host.attempt result).2 = host := by
  cases result with
  | error fault => rfl
  | ok disk => cases h

/-- What would go well fails only where there is a trouble. -/
theorem isSome_trouble?_of_check {operation : Operation} {path : Path} {result : Except DiskFault Unit}
    {fault : DiskFault} (hresult : result = .ok ()) (h : host.check operation path result = .error fault) :
    (host.trouble? operation path).isSome = true := by
  rw [check, hresult] at h
  split at h
  · next trouble htrouble => rw [htrouble, Option.isSome_some]
  · contradiction

end VirtualHost

/-- However the operation ends, what held of the host before holds after it. -/
def Stable (inv : VirtualHost → Prop) (operation : StateM VirtualHost α) : Prop :=
  ∀ host, inv host → inv (operation.run host).2

namespace Stable
variable {inv : VirtualHost → Prop}

theorem pure (a : α) : Stable inv (Pure.pure a) := fun _ h => h

theorem bind {operation : StateM VirtualHost α} {rest : α → StateM VirtualHost β} (h : Stable inv operation)
    (hrest : ∀ a, Stable inv (rest a)) : Stable inv (operation >>= rest) :=
  fun host hhost => hrest _ _ (h host hhost)

end Stable

/-- A part of a command, begun on a host of which `before` holds: if it succeeds, `after` holds of its result and
the host, and if it fails, `failed` holds of the failure and the host. -/
structure Ensures (before : VirtualHost → Prop) (part : Attempt (StateM VirtualHost) α)
    (after : α → VirtualHost → Prop) (failed : Failure → VirtualHost → Prop) : Prop where
  ok : ∀ host, before host → ∀ a host', part.run.run host = (.ok a, host') → after a host'
  error : ∀ host, before host → ∀ failure host', part.run.run host = (.error failure, host') →
    failed failure host'

theorem run_bind (part : Attempt (StateM VirtualHost) α) (rest : α → Attempt (StateM VirtualHost) β)
    (host : VirtualHost) :
    (part >>= rest).run.run host =
      match part.run.run host with
      | (.ok a, host') => (rest a).run.run host'
      | (.error failure, host') => (.error failure, host') := by
  unfold ExceptT.run StateT.run
  simp only [bind, ExceptT.bind, ExceptT.mk, StateT.bind, ExceptT.bindCont]
  cases part host with
  | mk result host' => cases result <;> rfl

namespace Ensures
variable {before inv : VirtualHost → Prop} {after : α → VirtualHost → Prop} {failed : Failure → VirtualHost → Prop}
  {a : α} {part : Attempt (StateM VirtualHost) α}

theorem pure (h : ∀ host, before host → after a host) : Ensures before (Pure.pure a) after failed where
  ok host hhost _ _ hrun := by cases hrun; exact h host hhost
  error _ _ _ _ hrun := by cases hrun

theorem throw {failure : Failure} (h : ∀ host, before host → failed failure host) :
    Ensures before (MonadExcept.throw failure) after failed where
  ok _ _ _ _ hrun := by cases hrun
  error host hhost _ _ hrun := by cases hrun; exact h host hhost

theorem bind {rest : α → Attempt (StateM VirtualHost) β} {last : β → VirtualHost → Prop}
    (h : Ensures before part after failed) (hrest : ∀ a, Ensures (after a) (rest a) last failed) :
    Ensures before (part >>= rest) last failed := by
  constructor
  case ok =>
    intro host hhost b finish hrun
    rw [run_bind] at hrun
    split at hrun
    · next a host' hpart => exact (hrest a).ok host' (h.ok host hhost a host' hpart) b finish hrun
    · cases hrun
  case error =>
    intro host hhost failure finish hrun
    rw [run_bind] at hrun
    split at hrun
    · next a host' hpart => exact (hrest a).error host' (h.ok host hhost a host' hpart) failure finish hrun
    · next hpart =>
        cases hrun
        exact h.error host hhost failure finish hpart

theorem weaken_before {before' : VirtualHost → Prop} (h : Ensures before part after failed)
    (hbefore : ∀ host, before' host → before host) : Ensures before' part after failed where
  ok host hhost := h.ok host (hbefore host hhost)
  error host hhost := h.error host (hbefore host hhost)

theorem weaken {after' : α → VirtualHost → Prop} (h : Ensures before part after failed)
    (hafter : ∀ a host, after a host → after' a host) : Ensures before part after' failed where
  ok host hhost a host' hrun := hafter a host' (h.ok host hhost a host' hrun)
  error := h.error

theorem weaken_failed {failed' : Failure → VirtualHost → Prop} (h : Ensures before part after failed)
    (hfailed : ∀ failure host, failed failure host → failed' failure host) : Ensures before part after failed' where
  ok := h.ok
  error host hhost failure host' hrun := hfailed failure host' (h.error host hhost failure host' hrun)

/-- What matters only if the part succeeds. -/
theorem yields (h : Ensures before part after failed) : Ensures before part after fun _ _ => True :=
  h.weaken_failed fun _ _ _ => trivial

/-- A fact about what has come before, which does not depend on the host. -/
theorem assume {fact : Prop} (h : fact → Ensures before part after failed) :
    Ensures (fun host => fact ∧ before host) part after failed where
  ok host hhost := (h hhost.1).ok host hhost.2
  error host hhost := (h hhost.1).error host hhost.2

/-- What a part yields is known once the host that it is begun on is. -/
theorem with_result {start : VirtualHost} (h : Ensures (· = start) part after failed) :
    Ensures (· = start) part (fun a host => (part.run.run start).1 = .ok a ∧ after a host) failed where
  ok host hhost a host' hrun := ⟨by rw [← hhost, hrun], h.ok host hhost a host' hrun⟩
  error := h.error

/-- An operation that cannot fail. -/
theorem lift {operation : StateM VirtualHost α}
    (h : ∀ host, before host → after (operation.run host).1 (operation.run host).2) :
    Ensures before (liftM operation) after failed where
  ok host hhost _ _ hrun := by cases hrun; exact h host hhost
  error _ _ _ _ hrun := by cases hrun

theorem lift_of_stable {operation : StateM VirtualHost α} (h : Stable inv operation) :
    Ensures inv (liftM operation) (fun _ => inv) failed := lift h

/-- A result that is settled without the host. -/
theorem settled {result : Except Failure α} : Ensures inv (liftM result) (fun _ => inv) (fun _ => inv) := by
  cases result with
  | ok a => exact pure fun _ h => h
  | error failure => exact throw fun _ h => h

/-- An operation whose failure is that of the command. -/
theorem orFail {operation : StateM VirtualHost (Except DiskFault α)} {failure : DiskFault → Failure}
    (hok : ∀ host, before host → ∀ a, (operation.run host).1 = .ok a → after a (operation.run host).2)
    (herror : ∀ host, before host → ∀ fault, (operation.run host).1 = .error fault →
      failed (failure fault) (operation.run host).2) :
    Ensures before (Command.orFail operation failure) after failed := by
  have hlift : Ensures before (liftM operation) (fun result host =>
      (∀ a, result = .ok a → after a host) ∧ ∀ fault, result = .error fault → failed (failure fault) host) failed :=
    lift fun host hhost => ⟨hok host hhost, herror host hhost⟩
  unfold Command.orFail
  refine bind hlift fun result => ?_
  cases result with
  | ok a => exact pure fun _ h => h.1 a rfl
  | error fault => exact throw fun _ h => h.2 fault rfl

theorem orFail_of_stable {operation : StateM VirtualHost (Except DiskFault α)} {failure : DiskFault → Failure}
    (h : Stable inv operation) : Ensures inv (Command.orFail operation failure) (fun _ => inv) (fun _ => inv) :=
  orFail (fun host hhost _ _ => h host hhost) (fun host hhost _ _ => h host hhost)

theorem forIn {elements : List α} {body : α → PUnit → Attempt (StateM VirtualHost) (ForInStep PUnit)}
    (h : ∀ a ∈ elements, Ensures inv (body a ⟨⟩) (fun _ => inv) failed) :
    Ensures inv (ForIn.forIn elements PUnit.unit body) (fun _ => inv) failed := by
  induction elements with
  | nil => exact pure fun _ hhost => hhost
  | cons a rest ih =>
      rw [List.forIn_cons]
      refine bind (h a List.mem_cons_self) fun step => ?_
      cases step with
      | done => exact pure fun _ hhost => hhost
      | yield => exact ih fun b hb => h b (List.mem_cons_of_mem a hb)

end Ensures

namespace Stable
variable {inv inv' : VirtualHost → Prop}

theorem and {operation : StateM VirtualHost α} (h : Stable inv operation) (h' : Stable inv' operation) :
    Stable (fun host => inv host ∧ inv' host) operation := fun host hhost => ⟨h host hhost.1, h' host hhost.2⟩

/-- An operation on the disk that leaves the host as it is when it fails. -/
theorem attempt {effect : VirtualHost → Except DiskFault Disk}
    (h : ∀ host disk, inv host → effect host = .ok disk → inv { host with disk }) :
    Stable inv fun host => host.attempt (effect host) := by
  intro host hhost
  change inv (host.attempt (effect host)).2
  cases heffect : effect host with
  | error fault => exact hhost
  | ok disk => exact h host disk hhost heffect

/-- What is kept where no file changes is kept when a directory is made. -/
theorem makeDirectory {path : Path}
    (h : ∀ host disk, inv host → Disk.KeepsAllBut (fun _ => False) host.disk disk → inv { host with disk }) :
    Stable inv (Host.makeDirectory path) :=
  attempt fun host disk hhost hmade =>
    h host disk hhost (Disk.keepsAllBut_makeDirectory (VirtualHost.eq_ok_of_check hmade))

/-- What is kept where no file changes but that of a path is kept when it is opened to be written. -/
theorem createFile {path : Path}
    (h : ∀ host disk, inv host → Disk.KeepsAllBut (· = host.disk.placeOf path) host.disk disk →
      inv { host with disk }) :
    Stable inv (Host.createFile path) :=
  attempt fun host disk hhost hmade =>
    h host disk hhost (Disk.written_createFile (VirtualHost.eq_ok_of_check hmade)).keepsAllBut

/-- What is kept where no file changes but that of a path is kept when a text is added to it, even in part. -/
theorem appendText {path : Path}
    (h : ∀ host disk, inv host → Disk.KeepsAllBut (· = host.disk.placeOf path) host.disk disk →
      inv { host with disk }) (text : String) :
    Stable inv (Host.appendText path text) := by
  intro host hhost
  change inv (host.append path text).2
  rw [VirtualHost.append]
  split
  · exact h host _ hhost (Disk.keepsAllBut_appendPart _ _ _ _)
  · cases hadded : host.disk.appendText path text with
    | error fault => exact hhost
    | ok disk => exact h host disk hhost (Disk.keepsAllBut_appendText hadded)

theorem ensureDirectory (h : ∀ path, Stable inv (Host.makeDirectory path)) (path : Path) :
    Stable inv (Command.ensureDirectory path) := by
  unfold Command.ensureDirectory
  refine .bind (h path) fun result => ?_
  cases result with
  | ok _ => exact .pure _
  | error fault => exact .bind (fun _ h => h) fun _ => .pure _

/-- The directories on the way are made one inside the other. -/
theorem ensureDirectories (h : ∀ path, Stable inv (Host.makeDirectory path)) (absolute : Bool) (back : List Step) :
    Stable inv (Command.ensureDirectories absolute back) := by
  induction back with
  | nil => exact .pure _
  | cons last before ih =>
      rw [Command.ensureDirectories]
      refine .bind (ensureDirectory h _) fun result => ?_
      split
      · refine .bind ih fun made => ?_
        split
        · exact ensureDirectory h _
        · exact .pure _
      · exact .pure _

end Stable

/-! ### Functions of commands

What each of them yields, and that it keeps what its operations keep. -/

section Functions
variable {inv : VirtualHost → Prop} {failed : Failure → VirtualHost → Prop}

theorem ensures_prepareDirectory (h : ∀ path, Stable inv (Host.makeDirectory path)) (path : Path) :
    Ensures inv (prepareDirectory path) (fun _ => inv) (fun _ => inv) :=
  .orFail_of_stable (Stable.ensureDirectories h _ _)

/-- A text is read from the disk as it is. -/
theorem ensures_readText (path : Path) (failure : DiskFault → Failure) :
    Ensures inv (orFail (Host.readText path) failure) (fun text host => host.disk.readText path = .ok text ∧ inv host)
      (fun _ => inv) :=
  .orFail (fun _ hhost _ htext => ⟨VirtualHost.eq_ok_of_check htext, hhost⟩) fun _ hhost _ _ => hhost

theorem ensures_readSettings (path : String) :
    Ensures inv (readSettings path) (fun settings host =>
      (∃ text, host.disk.readText (.ofText path) = .ok text ∧ Settings.parse? text = some settings) ∧ inv host)
      (fun _ => inv) := by
  unfold readSettings
  refine .bind (ensures_readText _ _) fun text => ?_
  split
  · next settings hparse => exact .pure fun _ h => ⟨⟨text, h.1, hparse⟩, h.2⟩
  · exact .throw fun _ h => h.2

theorem ensures_readProject (path : String) :
    Ensures inv (readProject path) (fun project host =>
      (∃ text, host.disk.readText (.ofText path) = .ok text ∧ Project.read text = .ok project) ∧ inv host)
      (fun _ => inv) := by
  unfold readProject
  refine .bind (ensures_readText _ _) fun text => ?_
  split
  · next project hread => exact .pure fun _ h => ⟨⟨text, h.1, hread⟩, h.2⟩
  · exact .throw fun _ h => h.2

/-- Logging never fails, and it changes no more than the log. -/
theorem ensures_log {run : OpenRun} (h : ∀ text, Stable inv (Host.appendText (.ofText run.paths.log) text))
    (event : Log.Event) : Ensures inv (run.log event : Attempt (StateM VirtualHost) Unit) (fun _ => inv) failed := by
  unfold OpenRun.log
  split
  · have hnow : Stable inv Host.now := fun _ hhost => hhost
    refine .bind (.lift_of_stable hnow) fun now => .bind (.lift_of_stable (h _)) fun _ => ?_
    exact .pure fun _ hhost => hhost
  · exact .pure fun _ hhost => hhost

theorem ensures_duration (run : OpenRun) :
    Ensures inv (run.duration : Attempt (StateM VirtualHost) _) (fun _ => inv) failed := by
  have hnow : Stable inv Host.now := fun _ h => h
  exact .bind (.lift_of_stable hnow) fun _ => .pure fun _ h => h

theorem ensures_readImport {run : OpenRun}
    (hlog : ∀ text, Stable inv (Host.appendText (.ofText run.paths.log) text)) (format : ImportFormat)
    (allowSelfReference : Bool) (text : String) :
    Ensures inv (readImport run format allowSelfReference text)
      (fun schema host => format.read allowSelfReference text = .ok schema ∧ inv host) (fun _ => inv) := by
  unfold readImport
  have hnotes : Ensures inv (forIn (format.notes allowSelfReference text) PUnit.unit fun note _ => do
      run.log (Log.ofImportNote note)
      Pure.pure (ForInStep.yield PUnit.unit)) (fun _ => inv) (fun _ => inv) :=
    .forIn fun note _ => .bind (ensures_log hlog _) fun _ => .pure fun _ h => h
  refine .bind hnotes fun _ => ?_
  split
  · next hread => exact .bind (ensures_log hlog _) fun _ => .pure fun _ h => ⟨hread, h⟩
  · exact .bind (ensures_log hlog _) fun _ => .throw fun _ h => h

theorem ensures_writeText {path : Path} {text : String} (hcreate : Stable inv (Host.createFile path))
    (hadd : Stable inv (Host.appendText path text)) (failure : DiskFault → Failure) :
    Ensures inv (writeText path text failure) (fun _ => inv) (fun _ => inv) :=
  .bind (.orFail_of_stable hcreate) fun _ => .orFail_of_stable hadd

/-- The paths of a run that begins at an instant. -/
def runPaths (environment : Environment) (settings : Settings) (startedAt : Time.Instant) : RunPaths :=
  Run.pathsIn { id := environment.runId, startedAt, command := "" } settings.runDirectory

/-- A run begins with the instant that the clock shows; its directory and the first files in it are made. -/
theorem ensures_beginRun {environment : Environment} {settings : Settings} {startedAt : Time.Instant}
    (hclock : ∀ host, inv host → host.clock = startedAt) (hdirectory : ∀ path, Stable inv (Host.makeDirectory path))
    (hcreate : Stable inv (Host.createFile (.ofText (runPaths environment settings startedAt).config)))
    (hconfig : ∀ text, Stable inv (Host.appendText (.ofText (runPaths environment settings startedAt).config) text))
    (hlog : ∀ text, Stable inv (Host.appendText (.ofText (runPaths environment settings startedAt).log) text))
    (command input : String) :
    Ensures inv (beginRun environment settings command input)
      (fun run host => run.paths = runPaths environment settings startedAt ∧ inv host) (fun _ => inv) := by
  unfold beginRun
  have hnow : Ensures inv (liftM (Host.now (m := StateM VirtualHost))) (fun now host => now = startedAt ∧ inv host)
      (fun _ => inv) := .lift fun host h => ⟨hclock host h, h⟩
  refine .bind hnow fun now => .assume fun hstart => ?_
  subst hstart
  extract_lets +lift run paths
  have hpaths : paths = runPaths environment settings now := rfl
  clear_value paths
  subst hpaths
  refine .bind (ensures_prepareDirectory hdirectory _) fun _ => ?_
  refine .bind (ensures_writeText hcreate (hconfig _) _) fun _ => ?_
  refine .bind (.orFail_of_stable (hlog _)) fun _ => ?_
  split
  · exact .throw fun _ h => h
  · extract_lets opened
    have hopened : ∀ text, Stable inv (Host.appendText (.ofText opened.paths.log) text) := hlog
    exact .bind (ensures_log hopened _) fun _ => .pure fun _ h => ⟨rfl, h⟩

end Functions

end DomainModel.Command
