import DomainModel.Proofs.StagedWrites

/-! What a command leaves behind that fails. It may have made directories, files in the directory of its run, and a
file under another name beside the one that it was asked to write. That file is taken away again when it cannot be
moved to its place, and a file that had this name before is lost; where the disk does not allow as much, it stays as it
is. All other files are as they were, since the directory is all that is left to sync after the move. -/

namespace DomainModel.Command

variable {α : Type}

/-! ### What a command may change -/

/-- The directory of a run. -/
def runRoot (environment : Environment) (settings : Settings) (startedAt : Time.Instant) : Path :=
  .ofText (Path.join settings.runDirectory (startedAt.toFileText ++ "__run_" ++ environment.runId))

/-- What a command may change on a host: files in the directory of its run, and the file under another name that
is to be moved to its place. -/
structure Scope where
  start : VirtualHost
  root : Option Path := none
  staging : Option Path := none

namespace Scope

/-- A place in the directory of the run. -/
def Own (scope : Scope) (place : Place) : Prop := ∃ root ∈ scope.root, scope.start.disk.placeOf root <+: place

/-- The place of the file under another name. -/
def Staged (scope : Scope) (place : Place) : Prop := ∃ path ∈ scope.staging, place = scope.start.disk.placeOf path

/-- A path that leads into the directory of the run. -/
def Reaches (scope : Scope) (path : Path) : Prop := scope.Own (scope.start.disk.placeOf path)

instance (scope : Scope) (place : Place) : Decidable (scope.Own place) :=
  inferInstanceAs (Decidable (∃ root ∈ scope.root, scope.start.disk.placeOf root <+: place))

instance (scope : Scope) (place : Place) : Decidable (scope.Staged place) :=
  inferInstanceAs (Decidable (∃ path ∈ scope.staging, place = scope.start.disk.placeOf path))

/-- All files but those of the run are as they were at the start. -/
structure Kept (scope : Scope) (host : VirtualHost) : Prop where
  clock : host.clock = scope.start.clock
  here : host.disk.here = scope.start.disk.here
  troubles : host.troubles = scope.start.troubles
  files : ∀ place, ¬ scope.Own place → host.disk.file? place = scope.start.disk.file? place

/-- How files are found after a failure. The file under another name is as it was like all others, unless a file could
not be written; and it is then gone if it was steady, so that it could have been filled, synced and taken away. -/
structure Spared (scope : Scope) (failure : Failure) (host : VirtualHost) : Prop where
  others : ∀ place, ¬ scope.Own place → ¬ scope.Staged place →
    host.disk.file? place = scope.start.disk.file? place
  staged : ∀ staging ∈ scope.staging, ¬ scope.Reaches staging →
    host.disk.file? (scope.start.disk.placeOf staging) = scope.start.disk.file? (scope.start.disk.placeOf staging) ∨
      (∃ fault, failure = .unwritten fault) ∧
        (scope.start.Steady staging → host.disk.file? (scope.start.disk.placeOf staging) = none)

/-- The part keeps all files; when it fails they have been spared. -/
abbrev Keeps (scope : Scope) (part : Attempt (StateM VirtualHost) α) : Prop :=
  Ensures scope.Kept part (fun _ => scope.Kept) scope.Spared

variable {scope : Scope} {host : VirtualHost} {path : Path} {failure : Failure}

theorem kept_start (scope : Scope) : scope.Kept scope.start := ⟨rfl, rfl, rfl, fun _ _ => rfl⟩

theorem Kept.spared (h : scope.Kept host) : scope.Spared failure host where
  others place howned _ := h.files place howned
  staged _ _ hapart := .inl (h.files _ hapart)

theorem spared_of_kept {before : VirtualHost → Prop} {part : Attempt (StateM VirtualHost) α}
    {after : α → VirtualHost → Prop} (h : Ensures before part after fun _ => scope.Kept) :
    Ensures before part after scope.Spared :=
  h.weaken_failed fun _ _ h => h.spared

theorem Kept.change {disk : Disk} {changed : Place → Prop} (h : scope.Kept host)
    (hkeeps : Disk.KeepsAllBut changed host.disk disk) (hchanged : ∀ place, changed place → scope.Own place) :
    scope.Kept { host with disk } := by
  refine ⟨h.clock, hkeeps.here.trans h.here, h.troubles, fun place howned => ?_⟩
  rw [hkeeps.files place fun hchange => howned (hchanged place hchange), h.files place howned]

/-! ### Operations -/

theorem stable_makeDirectory (path : Path) : Stable scope.Kept (Host.makeDirectory path) :=
  .makeDirectory fun _ _ h hkeeps => h.change hkeeps fun _ hfalse => hfalse.elim

theorem Kept.own_of_reaches (h : scope.Kept host) (hpath : scope.Reaches path) {place : Place}
    (hplace : place = host.disk.placeOf path) : scope.Own place := by
  rw [hplace, Disk.placeOf_congr h.here]
  exact hpath

theorem stable_createFile (hpath : scope.Reaches path) : Stable scope.Kept (Host.createFile path) :=
  .createFile fun _ _ h hkeeps => h.change hkeeps fun _ => h.own_of_reaches hpath

theorem stable_appendText (hpath : scope.Reaches path) (text : String) :
    Stable scope.Kept (Host.appendText path text) :=
  .appendText (fun _ _ h hkeeps => h.change hkeeps fun _ => h.own_of_reaches hpath) text

theorem keeps_readFile (path : String) : scope.Keeps (readFile path) :=
  spared_of_kept (.orFail_of_stable fun _ h => h)

theorem keeps_writeRunFile {path : String} (hpath : scope.Reaches (.ofText path)) (value : Json.Value) :
    scope.Keeps (writeRunFile path value) :=
  spared_of_kept (ensures_writeText (stable_createFile hpath) (stable_appendText hpath _) _)

theorem keeps_baseProject (into : Option String) : scope.Keeps (baseProject into) := by
  cases into with
  | none => exact .pure fun _ h => h
  | some path => exact spared_of_kept ((ensures_readProject path).weaken fun _ _ h => h.2)

/-! ### The file that is asked for -/

/-- Since all files were kept, only the file under another name may have changed. -/
theorem spared_of_givenUp (hstaging : scope.staging = some path) (hfailure : ∃ fault, failure = .unwritten fault)
    (h : GivenUpSince scope.Kept path host) : scope.Spared failure host := by
  obtain ⟨disk, hkept, hkeeps, hgone⟩ := h
  have hplace : disk.placeOf path = scope.start.disk.placeOf path := Disk.placeOf_congr hkept.here path
  rw [hplace] at hkeeps hgone
  constructor
  case others =>
    intro place howned hstaged
    have hne : place ≠ scope.start.disk.placeOf path := fun heq => hstaged ⟨path, hstaging, heq⟩
    rw [hkeeps.files place hne, hkept.files place howned]
  case staged =>
    intro staging hmem _
    obtain rfl := Option.some.inj (hstaging.symm.trans hmem)
    have hsteady (h : scope.start.Steady path) : host.Steady path := by
      have htroubles : host.troubles = scope.start.troubles := hkept.troubles
      simpa only [VirtualHost.Steady, VirtualHost.trouble?, htroubles] using h
    exact .inr ⟨hfailure, fun h => hgone (hsteady h)⟩

/-- A file that is asked for and cannot be delivered leaves the others as they were. -/
theorem spared_of_undelivered {processId : Nat} {path text : String}
    (hsync : ∀ directory, scope.start.trouble? .syncDirectory directory = none)
    (hstaging : scope.staging = stagingPath? processId path)
    (h : UndeliveredSince scope.Kept processId path text failure host) : scope.Spared failure host := by
  rcases h with hkept | ⟨staging, hmem, hfailure, hunfinished⟩
  · exact hkept.spared
  · cases hunfinished with
    | unopened hkept => exact hkept.spared
    | givenUp hgiven => exact spared_of_givenUp (hstaging.trans hmem) hfailure hgiven
    | unsynced hmoved directory htrouble =>
        obtain ⟨written, ⟨disk, hkept, -⟩, -⟩ := hmoved
        have htroubles : host.troubles = scope.start.troubles := hkept.troubles
        rw [VirtualHost.trouble?, htroubles] at htrouble
        exact absurd (hsync directory) htrouble

theorem ensures_deliver {processId : Nat} {path : String}
    (hsync : ∀ directory, scope.start.trouble? .syncDirectory directory = none)
    (hstaging : scope.staging = stagingPath? processId path) (value : Json.Value) :
    Ensures scope.Kept (writeWhole processId path value) (fun _ _ => True) scope.Spared :=
  ((ensures_writeWhole stable_makeDirectory processId path value).weaken fun _ _ _ => trivial).weaken_failed
    fun _ _ h => spared_of_undelivered hsync hstaging h

/-! ### Runs -/

/-- The files of a run are in its directory. -/
structure Covers (scope : Scope) (paths : RunPaths) : Prop where
  config : scope.Reaches (.ofText paths.config)
  log : scope.Reaches (.ofText paths.log)
  project : scope.Reaches (.ofText paths.project)
  report : scope.Reaches (.ofText paths.report)

theorem covers_runPaths {environment : Environment} {settings : Settings} {startedAt : Time.Instant}
    (hroot : scope.root = some (runRoot environment settings startedAt)) :
    scope.Covers (runPaths environment settings startedAt) := by
  have hown (name : String) (hslash : '/' ∉ name.toList) (hstep : Path.stepOf? name.toList = some (.down name)) :
      scope.Reaches (.ofText (Path.join (runPaths environment settings startedAt).root name)) := by
    rw [Reaches, Disk.placeOf_join _ _ hslash hstep]
    exact ⟨_, hroot, List.prefix_append _ _⟩
  constructor
  case config => exact hown "config.json" (by decide) (by decide)
  case log => exact hown "logs.ndjson" (by decide) (by decide)
  case project => exact hown "project.json" (by decide) (by decide)
  case report => exact hown "report.json" (by decide) (by decide)

theorem keeps_log {run : OpenRun} (hpaths : scope.Covers run.paths) (event : Log.Event) :
    scope.Keeps (run.log event) :=
  ensures_log (stable_appendText hpaths.log) event

theorem keeps_readImport {run : OpenRun} (hpaths : scope.Covers run.paths) (format : ImportFormat)
    (allowSelfReference : Bool) (text : String) : scope.Keeps (readImport run format allowSelfReference text) :=
  spared_of_kept ((ensures_readImport (stable_appendText hpaths.log) format allowSelfReference text).weaken
    fun _ _ h => h.2)

/-- A run that has begun has its files in its directory. -/
theorem keeps_beginRun {environment : Environment} {settings : Settings}
    (hroot : scope.root = some (runRoot environment settings scope.start.clock)) (command input : String) :
    Ensures scope.Kept (beginRun environment settings command input)
      (fun run host => scope.Covers run.paths ∧ scope.Kept host) scope.Spared := by
  have hpaths := covers_runPaths hroot
  have hbegin := ensures_beginRun (fun _ (h : scope.Kept _) => h.clock) stable_makeDirectory
    (stable_createFile hpaths.config) (stable_appendText hpaths.config) (stable_appendText hpaths.log) command input
  exact spared_of_kept (hbegin.weaken fun run _ h => ⟨h.1 ▸ hpaths, h.2⟩)

/-- Importing keeps all files until the file that is asked for is in its place, and cannot fail from there on. -/
theorem ensures_importFile {environment : Environment} {settings : Settings} {out : Option String}
    (hroot : scope.root = some (runRoot environment settings scope.start.clock))
    (hsync : ∀ directory, scope.start.trouble? .syncDirectory directory = none)
    (hstaging : ∀ path, out = some path → scope.staging = stagingPath? environment.processId path)
    (format : ImportFormat) (input : String) (into : Option String) (mode : Option ImportMode) :
    Ensures scope.Kept (importFile environment settings format input into mode out) (fun _ _ => True)
      scope.Spared := by
  unfold importFile
  refine .bind (keeps_beginRun hroot _ _) fun run => .assume fun hpaths => ?_
  refine .bind (keeps_readFile input) fun text => ?_
  refine .bind (keeps_readImport hpaths _ _ _) fun schema => ?_
  refine .bind (keeps_baseProject into) fun base => ?_
  refine .bind (keeps_writeRunFile hpaths.project _) fun _ => ?_
  -- once the file is in its place other files have changed; what is left to do is right because it cannot fail
  have hlog (event : Log.Event) : Ensures (fun _ => True) (run.log event) (fun _ _ => True) scope.Spared :=
    ensures_log (fun _ _ _ => trivial) event
  have hlast (written : Log.Event) (summary : String) (finished : String × Json.Value → Log.Event) :
      Ensures (fun _ => True) (do
        run.log written
        Host.print (m := StateM VirtualHost) summary
        run.log (finished (← run.duration))) (fun _ _ => True) scope.Spared := by
    have hprint : Stable (fun _ => True) (Host.print summary) := fun _ _ => trivial
    exact .bind (hlog written) fun _ => .bind (.lift_of_stable hprint) fun _ =>
      .bind (ensures_duration run) fun _ => hlog _
  dsimp only
  split
  · next path => exact .bind (ensures_deliver hsync (hstaging path rfl) _) fun _ => hlast _ _ _
  · exact (hlast _ _ _).weaken_before fun _ _ => trivial

theorem stable_print (text : String) : Stable scope.Kept (Host.print text) :=
  fun _ h => ⟨h.clock, h.here, h.troubles, h.files⟩

theorem stable_printError (text : String) : Stable scope.Kept (Host.printError text) :=
  fun _ h => ⟨h.clock, h.here, h.troubles, h.files⟩

theorem keeps_printReport (report : Report) : scope.Keeps (printReport report) := by
  have hprinted (issues : List Issue) (text : Issue → String) :
      scope.Keeps (forIn issues PUnit.unit fun issue _ => do
        Host.printError (m := StateM VirtualHost) (text issue)
        pure (ForInStep.yield PUnit.unit)) :=
    .forIn fun issue _ => .bind (.lift_of_stable (stable_printError _)) fun _ => .pure fun _ h => h
  unfold printReport
  refine .bind (hprinted _ _) fun _ => .bind (hprinted _ _) fun _ => ?_
  split
  · exact .lift_of_stable (stable_print _)
  · exact .pure fun _ h => h

/-- Validating writes to the directory of the run only. -/
theorem keeps_validate {environment : Environment} {settings : Settings}
    (hroot : scope.root = some (runRoot environment settings scope.start.clock)) (path : String) :
    scope.Keeps (validate environment settings path) := by
  unfold validate
  refine .bind (keeps_beginRun hroot _ _) fun run => .assume fun hpaths => ?_
  refine .bind (keeps_readFile path) fun text => ?_
  split
  · exact .throw fun _ h => h.spared
  · next document _ =>
      refine .bind (spared_of_kept .settled) fun report => ?_
      refine .bind (keeps_writeRunFile hpaths.report _) fun _ => ?_
      refine .bind (keeps_printReport report) fun _ => ?_
      refine .bind (ensures_duration run) fun duration => ?_
      refine .bind (keeps_log hpaths _) fun _ => ?_
      split
      · exact .throw fun _ h => h.spared
      · exact .pure fun _ h => h

end Scope

/-! ### Commands -/

/-- The settings of an invocation on a host, if they can be loaded. -/
def Invocation.settings? (invocation : Invocation) (host : VirtualHost) : Option Settings :=
  ((loadSettings invocation : Attempt (StateM VirtualHost) Settings).run.run host).1.toOption

/-- The path that a task is asked to write to. -/
def Task.out? : Task → Option String
  | .importFile _ _ _ _ out => out
  | .validate _ => none
  | .schema out => out

/-- Whether a task has a run of its own. -/
def Task.beginsRun : Task → Bool
  | .schema _ => false
  | _ => true

/-- What an invocation may change. -/
def Invocation.scope (environment : Environment) (invocation : Invocation) (start : VirtualHost) : Scope where
  start
  root :=
    if invocation.task.beginsRun then
      (invocation.settings? start).map fun settings => runRoot environment settings start.clock
    else none
  staging := invocation.task.out?.bind (stagingPath? environment.processId)

/-- Loading the settings leaves the host as it is. -/
theorem ensures_loadSettings (invocation : Invocation) (start : VirtualHost) :
    Ensures (· = start) (loadSettings invocation)
      (fun settings host => invocation.settings? start = some settings ∧ host = start) (fun _ => (· = start)) := by
  have hread (path : String) : Ensures (· = start) (readSettings path) (fun _ => (· = start)) (fun _ => (· = start)) :=
    (ensures_readSettings path).weaken fun _ _ h => h.2
  have hstored : Ensures (· = start) (storedSettings invocation.config) (fun _ => (· = start))
      (fun _ => (· = start)) := by
    cases invocation.config with
    | some path => exact hread path
    | none =>
        have hlook : Stable (· = start) (Host.isThere (.ofText defaultSettingsPath)) := fun _ h => h
        refine .bind (.lift_of_stable hlook) fun there => ?_
        split
        · exact hread _
        · exact .pure fun _ h => h
  have hload : Ensures (· = start) (loadSettings invocation) (fun _ => (· = start)) (fun _ => (· = start)) :=
    .bind hstored fun _ => .pure fun _ h => h
  refine hload.with_result.weaken fun settings host h => ?_
  exact ⟨by rw [Invocation.settings?, h.1, Except.toOption], h.2⟩

/-- An invocation that fails has changed no more than it may. -/
theorem ensures_execute (environment : Environment) (invocation : Invocation) {start : VirtualHost}
    (hsync : ∀ directory, start.trouble? .syncDirectory directory = none) :
    Ensures (· = start) (execute environment invocation) (fun _ _ => True)
      (invocation.scope environment start).Spared := by
  let scope := invocation.scope environment start
  have hload : Ensures (· = start) (loadSettings invocation)
      (fun settings host => invocation.settings? start = some settings ∧ scope.Kept host) scope.Spared := by
    refine ((ensures_loadSettings invocation start).weaken ?_).weaken_failed ?_
    · rintro settings host ⟨hsettings, rfl⟩
      exact ⟨hsettings, scope.kept_start⟩
    · rintro failure host rfl
      exact scope.kept_start.spared
  unfold execute
  refine .bind hload fun settings => .assume fun hsettings => ?_
  cases htask : invocation.task with
  | importFile format input into mode out =>
      refine Scope.ensures_importFile ?_ hsync (fun path hout => ?_) format input into mode
      · simp [scope, Invocation.scope, htask, Task.beginsRun, hsettings]
      · simp [scope, Invocation.scope, htask, Task.out?, hout]
  | validate path =>
      refine (Scope.keeps_validate ?_ path).weaken fun _ _ _ => trivial
      simp [scope, Invocation.scope, htask, Task.beginsRun, hsettings]
  | schema out =>
      cases out with
      | none => exact .lift fun _ _ => trivial
      | some path =>
          refine Scope.ensures_deliver hsync ?_ _
          simp [scope, Invocation.scope, htask, Task.out?]

/-- A command line that is read and fails ends by telling why its invocation does. -/
theorem execute_of_failed {environment : Environment} {arguments : List String} {invocation : Invocation}
    {start : VirtualHost} (hread : Invocation.ofArguments arguments = .ok invocation)
    (hfailed : ((run environment arguments : StateM VirtualHost ExitCode).run start).1 ≠ .success) :
    ∃ failure host, (execute (m := StateM VirtualHost) environment invocation).run.run start = (.error failure, host) ∧
      ((run environment arguments : StateM VirtualHost ExitCode).run start).2 =
        { host with printedErrors := host.printedErrors ++ ("error: " ++ failure.message ++ "\n") } := by
  rw [run, hread] at hfailed ⊢
  simp only [StateT.run_bind] at hfailed ⊢
  cases hresult : (execute (m := StateM VirtualHost) environment invocation).run.run start with
  | mk result host =>
      rw [hresult] at hfailed
      cases result with
      | ok _ => exact absurd rfl hfailed
      | error failure => exact ⟨failure, host, rfl, rfl⟩

/-- **A command that fails leaves every file as it was that is not in the directory of its run**, except for the name
that the file it was asked for is written to before it is moved to its place. A file that had this very name is
overwritten and taken away when the move fails. The failure is the one that is told. Directories are synced after the
move, and this is taken not to fail. -/
theorem spared_run_of_failed {environment : Environment} {arguments : List String} {invocation : Invocation}
    {start : VirtualHost} (hread : Invocation.ofArguments arguments = .ok invocation)
    (hsync : ∀ directory, start.trouble? .syncDirectory directory = none)
    (hfailed : ((run environment arguments : StateM VirtualHost ExitCode).run start).1 ≠ .success) :
    ∃ failure before,
      ((run environment arguments : StateM VirtualHost ExitCode).run start).2.printedErrors =
        before ++ ("error: " ++ failure.message ++ "\n") ∧
      (invocation.scope environment start).Spared failure
        ((run environment arguments : StateM VirtualHost ExitCode).run start).2 := by
  obtain ⟨failure, host, hresult, hfinish⟩ := execute_of_failed hread hfailed
  have hspared := (ensures_execute environment invocation hsync).error start rfl failure host hresult
  rw [hfinish]
  exact ⟨failure, host.printedErrors, rfl, hspared.others, hspared.staged⟩

/-- A host with a script to import and a project. -/
def desk : VirtualHost where
  disk := {
    entries := [
      (["schema.sql"], .file (.text "CREATE TABLE t (id INT);")),
      (["project.json"], .file (.text "{}"))] }

/-- An import that is to be written to a path. -/
def importTo (path : String) : StateM VirtualHost ExitCode :=
  run { runId := "run", logFilter := some "off", processId := 1 } ["import-sql", "schema.sql", "--out", path]

/-- The new project cannot be moved to a path that is spelled as that of a directory, and the old one stays. -/
theorem spared_importTo_desk :
    ((importTo "project.json/").run desk).1 = .failure ∧
      ((importTo "project.json/").run desk).2.disk.file? ["project.json"] = some (.text "{}") := by
  have hcode : ((importTo "project.json/").run desk).1 = .failure := by decide +kernel
  have hread : Invocation.ofArguments ["import-sql", "schema.sql", "--out", "project.json/"] =
      .ok ⟨none, none, .importFile .sql "schema.sql" none none (some "project.json/")⟩ := rfl
  have hfailed : ((importTo "project.json/").run desk).1 ≠ .success := by simp [hcode]
  obtain ⟨failure, before, -, hspared⟩ := spared_run_of_failed hread (fun _ => rfl) hfailed
  exact ⟨hcode, hspared.others ["project.json"] (by decide +kernel) (by decide +kernel)⟩

/-- The same host with a file under the name that a new project is written to. -/
def crowdedDesk : VirtualHost :=
  { desk with disk := desk.disk.put [".project.json.1.tmp"] (.file (.text "notes")) }

/-- The same host, where the disk is full when a new project has been opened to be written. -/
def fullDesk : VirtualHost :=
  { desk with troubles := [⟨.append, .ofText ".project.json.1.tmp", .noSpace, 0⟩] }

/-- An import that fails may take away a file that is not its own, leave an empty one behind, and make
a directory. -/
theorem changes_of_failed_imports :
    (((importTo "project.json/").run crowdedDesk).1 = .failure ∧
      crowdedDesk.disk.file? [".project.json.1.tmp"] = some (.text "notes") ∧
      ((importTo "project.json/").run crowdedDesk).2.disk.file? [".project.json.1.tmp"] = none) ∧
    (((importTo "project.json").run fullDesk).1 = .failure ∧
      fullDesk.disk.file? [".project.json.1.tmp"] = none ∧
      ((importTo "project.json").run fullDesk).2.disk.file? [".project.json.1.tmp"] = some (.text "")) ∧
    ((importTo "d/..").run desk).1 = .failure ∧ Disk.entry? desk.disk ["d"] = none ∧
      Disk.entry? ((importTo "d/..").run desk).2.disk ["d"] = some .directory := by
  refine ⟨?_, ?_, ?_⟩ <;> decide +kernel

end DomainModel.Command
