import DomainModel.Proofs.FailedCommands
import DomainModel.Proofs.ProjectTexts

/-! What an import leaves behind that succeeds. What it reads are files as they were before it began, since it has
written to the directory of its run only, to which no path on the command line leads. The project in that directory
is the one with the import applied; the file that was asked for has the same text, and may be in the place of the
project that was read. -/

namespace DomainModel.Command

/-! ### What is read -/

/-- The file at the place of a path holds the text. -/
def Holds (disk : Disk) (path text : String) : Prop := disk.file? (disk.placeOf (.ofText path)) = some (.text text)

instance (disk : Disk) (path text : String) : Decidable (Holds disk path text) :=
  inferInstanceAs (Decidable (disk.file? (disk.placeOf (.ofText path)) = some (.text text)))

theorem Holds.unique {disk : Disk} {path text text' : String} (h : Holds disk path text) (h' : Holds disk path text') :
    text = text' := by
  rw [Holds, h, Option.some.injEq, Content.text.injEq] at h'
  exact h'

/-- The file of the settings: the one that is named, or the default one if it is there. -/
def settingsPath? (disk : Disk) (config : Option String) : Option String :=
  config.or (if disk.isThere (.ofText defaultSettingsPath) then some defaultSettingsPath else none)

/-- The settings in a file, or the defaults where there is none. -/
def AreStored (disk : Disk) (stored : Settings) : Option String → Prop
  | some path => ∃ text, Holds disk path text ∧ Settings.parse? text = some stored
  | none => stored = {}

/-- The settings that count: the stored ones, with the directory for runs that is named on the command line. -/
def Configures (disk : Disk) (config runDirectory : Option String) (settings : Settings) : Prop :=
  ∃ stored, AreStored disk stored (settingsPath? disk config) ∧
    settings = { stored with runDirectory := runDirectory.getD stored.runDirectory }

/-- The project that an import is applied to: the one in the file that is named, or an empty one. -/
def IsBase (disk : Disk) (base : Project) : Option String → Prop
  | some path => ∃ text, Holds disk path text ∧ Project.read text = .ok base
  | none => base = {}

theorem AreStored.unique {disk : Disk} {stored stored' : Settings} {path : Option String}
    (h : AreStored disk stored path) (h' : AreStored disk stored' path) : stored = stored' := by
  cases path with
  | none => exact Eq.trans h (Eq.symm h')
  | some path =>
      obtain ⟨text, hholds, hparse⟩ := h
      obtain ⟨text', hholds', hparse'⟩ := h'
      rw [hholds.unique hholds', hparse', Option.some.injEq] at hparse
      exact hparse.symm

theorem Configures.unique {disk : Disk} {config runDirectory : Option String} {settings settings' : Settings}
    (h : Configures disk config runDirectory settings) (h' : Configures disk config runDirectory settings') :
    settings = settings' := by
  obtain ⟨stored, hstored, rfl⟩ := h
  obtain ⟨stored', hstored', rfl⟩ := h'
  rw [hstored.unique hstored']

theorem configures_of_settings? {invocation : Invocation} {start : VirtualHost} {settings : Settings}
    (h : invocation.settings? start = some settings) :
    Configures start.disk invocation.config invocation.runDirectory settings := by
  have hread (path : String) : Ensures (· = start) (readSettings path)
      (fun stored _ => AreStored start.disk stored (some path)) (fun _ _ => True) := by
    refine (ensures_readSettings path).yields.weaken fun stored host hread => ?_
    obtain ⟨⟨text, htext, hparse⟩, rfl⟩ := hread
    exact ⟨text, Disk.file?_of_readText htext, hparse⟩
  have hstored : Ensures (· = start) (storedSettings invocation.config)
      (fun stored _ => AreStored start.disk stored (settingsPath? start.disk invocation.config))
      (fun _ _ => True) := by
    cases invocation.config with
    | some path => exact hread path
    | none =>
        have hlook : Ensures (· = start) (liftM (Host.isThere (m := StateM VirtualHost) (.ofText defaultSettingsPath)))
            (fun there host => there = start.disk.isThere (.ofText defaultSettingsPath) ∧ host = start)
            (fun _ _ => True) := by
          refine .lift fun host h => ⟨?_, h⟩
          rw [h]
          rfl
        refine .bind hlook fun there => .assume fun hthere => ?_
        rw [settingsPath?, Option.none_or, ← hthere]
        split
        · exact hread _
        · exact .pure fun _ _ => rfl
  have hload : Ensures (· = start) (loadSettings invocation)
      (fun settings _ => Configures start.disk invocation.config invocation.runDirectory settings) (fun _ _ => True) :=
    .bind hstored fun stored => .pure fun _ h => ⟨stored, h, rfl⟩
  rw [Invocation.settings?] at h
  cases hrun : (loadSettings invocation : Attempt (StateM VirtualHost) Settings).run.run start with
  | mk result host =>
      rw [hrun] at h
      cases result with
      | error failure => cases h
      | ok loaded =>
          obtain rfl := Option.some.inj h
          exact hload.ok start rfl loaded host hrun

/-! ### What is written -/

namespace Scope
variable {scope : Scope} {host : VirtualHost}

/-- A file that no path into the directory of the run leads to is read as it was at the start. -/
theorem Kept.holds {path text : String} (h : scope.Kept host) (hapart : ¬ scope.Reaches (.ofText path))
    (hread : host.disk.readText (.ofText path) = .ok text) : Holds scope.start.disk path text := by
  have hfile := Disk.file?_of_readText hread
  rw [Disk.placeOf_congr h.here] at hfile
  rw [Holds, ← h.files _ hapart, hfile]

/-- All files but those of the run are kept, and no result has been printed. -/
abbrev Quiet (scope : Scope) (host : VirtualHost) : Prop := scope.Kept host ∧ host.printed = scope.start.printed

theorem Quiet.change {disk : Disk} {changed : Place → Prop} (h : scope.Quiet host)
    (hkeeps : Disk.KeepsAllBut changed host.disk disk) (hchanged : ∀ place, changed place → scope.Own place) :
    scope.Quiet { host with disk } :=
  ⟨h.1.change hkeeps hchanged, h.2⟩

theorem quiet_makeDirectory (path : Path) : Stable scope.Quiet (Host.makeDirectory path) :=
  .makeDirectory fun _ _ h hkeeps => Quiet.change h hkeeps fun _ hfalse => hfalse.elim

theorem quiet_createFile {path : Path} (hpath : scope.Reaches path) : Stable scope.Quiet (Host.createFile path) :=
  .createFile fun _ _ h hkeeps => Quiet.change h hkeeps fun _ => h.1.own_of_reaches hpath

theorem quiet_appendText {path : Path} (hpath : scope.Reaches path) (text : String) :
    Stable scope.Quiet (Host.appendText path text) :=
  .appendText (fun _ _ h hkeeps => Quiet.change h hkeeps fun _ => h.1.own_of_reaches hpath) text

/-- The project of a run is in its file, and with a line end in the file that was asked for, if it has come to that;
then there is no file under another name any more. All other files are as they were. -/
structure Filed (scope : Scope) (file : Place) (text : String) (out : Option String) (printed : String)
    (host : VirtualHost) : Prop where
  here : host.disk.here = scope.start.disk.here
  printed : host.printed = printed
  project : host.disk.file? file = some (.text text)
  asked : ∀ path ∈ out, host.disk.file? (scope.start.disk.placeOf (.ofText path)) = some (.text (text ++ "\n"))
  cleared : ∀ path ∈ out, ∀ staging ∈ scope.staging, ¬ scope.Reaches staging →
    host.disk.file? (scope.start.disk.placeOf staging) = none
  files : ∀ place, ¬ scope.Own place → ¬ scope.Staged place →
    (∀ path ∈ out, place ≠ scope.start.disk.placeOf (.ofText path)) →
    host.disk.file? place = scope.start.disk.file? place

variable {file : Place} {text printed : String} {out : Option String}

/-- Other files of the run may change. -/
theorem Filed.change {disk : Disk} {changed : Place → Prop} (h : scope.Filed file text out printed host)
    (hout : ∀ path ∈ out, ¬ scope.Reaches (.ofText path)) (hkeeps : Disk.KeepsAllBut changed host.disk disk)
    (hchanged : ∀ place, changed place → scope.Own place ∧ place ≠ file) :
    scope.Filed file text out printed { host with disk } := by
  have hsame (place : Place) (hplace : ¬ scope.Own place ∨ place = file) :
      disk.file? place = host.disk.file? place := by
    refine hkeeps.files place fun hchange => ?_
    obtain ⟨hown, hne⟩ := hchanged place hchange
    exact hplace.elim (· hown) hne
  constructor
  case here => exact hkeeps.here.trans h.here
  case printed => exact h.printed
  case project => exact (hsame file (.inr rfl)).trans h.project
  case asked => exact fun path hpath => (hsame _ (.inl (hout path hpath))).trans (h.asked path hpath)
  case cleared =>
    exact fun path hpath staging hstaging hapart =>
      (hsame _ (.inl hapart)).trans (h.cleared path hpath staging hstaging hapart)
  case files =>
    exact fun place howned hstaged helse => (hsame _ (.inl howned)).trans (h.files place howned hstaged helse)

/-- The project of a run is written to its file. -/
theorem ensures_writeProject {path : String} (hpath : scope.Reaches (.ofText path)) (value : Json.Value) :
    Ensures scope.Quiet (writeRunFile path value)
      (fun _ => scope.Filed (scope.start.disk.placeOf (.ofText path)) value.pretty none scope.start.printed)
      (fun _ _ => True) := by
  have hwrite : Ensures scope.Quiet (writeRunFile path value)
      (fun _ => WrittenSince scope.Quiet (.ofText path) (.text value.pretty)) (fun _ _ => True) :=
    ensures_writeText_since (fun _ _ _ => trivial) fun _ _ _ => trivial
  refine hwrite.weaken fun _ host h => ?_
  obtain ⟨disk, hquiet, hwritten⟩ := h
  have hhere : disk.here = scope.start.disk.here := hquiet.1.here
  have hfiled := hquiet.1.change hwritten.keepsAllBut fun _ => hquiet.1.own_of_reaches hpath
  have hfile := hwritten.file?
  rw [Disk.placeOf_congr hhere] at hfile
  exact ⟨hfiled.here, hquiet.2, hfile, nofun, nofun, fun place howned _ _ => hfiled.files place howned⟩

variable {environment : Environment} {settings : Settings}

/-- The file that is asked for takes the place of nothing else; the file under another name, which lies beside it, is
none of the run, as the file that is asked for is none. -/
theorem Filed.of_delivered {root : Path} {name path : String} {processId : Nat} (hroot : scope.root = some root)
    (hfile : file = scope.start.disk.placeOf root ++ [name]) (hscope : scope.staging = stagingPath? processId path)
    (hapart : ¬ scope.Reaches (.ofText path))
    (h : DeliveredSince (scope.Filed file text none printed) processId path (text ++ "\n") host) :
    scope.Filed file text (some path) printed host := by
  obtain ⟨staging, hstaging, written, ⟨disk, hfiled, hwritten⟩, hmoved⟩ := h
  obtain ⟨hhere, hfiles⟩ := hwritten.file?_of_moved hmoved
  simp only [Disk.placeOf_congr hfiled.here] at hfiles
  obtain ⟨target, htarget, rfl⟩ := Option.map_eq_some_iff.1 hstaging
  obtain ⟨directory, hplace, hsibling⟩ := Disk.exists_placeOf_sibling scope.start.disk htarget
  have hown (last : String) : scope.Own (scope.start.disk.placeOf root ++ [last]) :=
    ⟨root, hroot, List.prefix_append _ _⟩
  have hnot_target : file ≠ scope.start.disk.placeOf (.ofText path) := by
    intro heq
    exact hapart (by rw [Reaches, ← heq, hfile]; exact hown name)
  have hnot_staging : file ≠ scope.start.disk.placeOf ((Path.ofText path).sibling (stagingName processId target)) := by
    intro heq
    rw [hfile, hsibling] at heq
    have hdirectory := (List.append_inj' heq rfl).1
    exact hapart (by rw [Reaches, hplace, ← hdirectory]; exact hown target)
  have hbeside : scope.start.disk.placeOf ((Path.ofText path).sibling (stagingName processId target)) ≠
      scope.start.disk.placeOf (.ofText path) := by
    intro heq
    rw [hplace, hsibling] at heq
    exact stagingName_ne processId target (List.singleton_inj.1 (List.append_cancel_left heq))
  constructor
  case here => exact hhere.trans hfiled.here
  case printed => exact hfiled.printed
  case project =>
    rw [hfiles, if_neg hnot_target, if_neg hnot_staging]
    exact hfiled.project
  case asked =>
    intro other hother
    obtain rfl := Option.some.inj hother
    rw [hfiles, if_pos rfl]
  case cleared =>
    intro _ _ other hother _
    obtain rfl := Option.some.inj ((hscope.trans hstaging).symm.trans hother)
    rw [hfiles, if_neg hbeside, if_pos rfl]
  case files =>
    intro place howned hstaged helse
    have hne : place ≠ scope.start.disk.placeOf ((Path.ofText path).sibling (stagingName processId target)) :=
      fun heq => hstaged ⟨_, hscope.trans hstaging, heq⟩
    rw [hfiles, if_neg (helse path rfl), if_neg hne]
    exact hfiled.files place howned hstaged fun other hother => absurd hother (Option.not_mem_none other)

/-- The project is filed, and what is asked for as well. -/
theorem ensures_writeWhole_filed {root : Path} {name path : String} {processId : Nat} (hroot : scope.root = some root)
    (hfile : file = scope.start.disk.placeOf root ++ [name]) (hscope : scope.staging = stagingPath? processId path)
    (hapart : ¬ scope.Reaches (.ofText path)) (value : Json.Value) :
    Ensures (scope.Filed file value.pretty none printed) (writeWhole processId path value)
      (fun _ => scope.Filed file value.pretty (some path) printed) fun _ _ => True := by
  have hmake (made : Path) : Stable (scope.Filed file value.pretty none printed) (Host.makeDirectory made) :=
    .makeDirectory fun _ _ h hkeeps => h.change nofun hkeeps fun _ hfalse => hfalse.elim
  exact (ensures_writeWhole hmake processId path value).yields.weaken
    fun _ _ h => .of_delivered hroot hfile hscope hapart h

/-- The log of the run is another file than its project. -/
theorem Filed.stable_log {startedAt : Time.Instant} (hroot : scope.root = some (runRoot environment settings startedAt))
    (hfile : file = scope.start.disk.placeOf (runRoot environment settings startedAt) ++ ["project.json"])
    (hout : ∀ path ∈ out, ¬ scope.Reaches (.ofText path)) (line : String) :
    Stable (scope.Filed file text out printed)
      (Host.appendText (.ofText (runPaths environment settings startedAt).log) line) := by
  refine .appendText (fun host _ h hkeeps => h.change hout hkeeps fun place hplace => ?_) line
  have hlog : place = scope.start.disk.placeOf (runRoot environment settings startedAt) ++ ["logs.ndjson"] := by
    rw [hplace, Disk.placeOf_congr h.here]
    exact Disk.placeOf_join _ _ (by decide) (by decide)
  rw [hlog, hfile]
  refine ⟨⟨_, hroot, List.prefix_append _ _⟩, fun heq => ?_⟩
  have hname := (List.append_inj' heq rfl).2
  exact absurd hname (by decide)

/-- What is left to do when the files are written: to log that, to tell what was imported and to log the end. -/
theorem ensures_finish {run : OpenRun} {summary : String}
    (hlog : ∀ printed line, Stable (scope.Filed file text out printed)
      (Host.appendText (.ofText run.paths.log) line)) (written : Log.Event)
    (finished : String × Json.Value → Log.Event) :
    Ensures (scope.Filed file text out printed) (do
      run.log written
      Host.print (m := StateM VirtualHost) summary
      run.log (finished (← run.duration))) (fun _ => scope.Filed file text out (printed ++ summary)) fun _ _ => True := by
  have hprint : Ensures (scope.Filed file text out printed) (liftM (Host.print (m := StateM VirtualHost) summary))
      (fun _ => scope.Filed file text out (printed ++ summary)) (fun _ _ => True) :=
    .lift fun _ h => ⟨h.here, by rw [← h.printed]; rfl, h.project, h.asked, h.cleared, h.files⟩
  exact .bind (ensures_log (hlog printed) _) fun _ => .bind hprint fun _ =>
    .bind (ensures_duration run) fun _ => ensures_log (hlog _) _

theorem quiet_beginRun (hroot : scope.root = some (runRoot environment settings scope.start.clock))
    (command input : String) :
    Ensures scope.Quiet (beginRun environment settings command input)
      (fun run host => run.paths = runPaths environment settings scope.start.clock ∧ scope.Quiet host)
      fun _ _ => True := by
  have hcovers := covers_runPaths hroot
  have hbegin := ensures_beginRun (fun _ (h : scope.Quiet _) => h.1.clock) quiet_makeDirectory
    (quiet_createFile hcovers.config) (quiet_appendText hcovers.config) (quiet_appendText hcovers.log) command input
  exact hbegin.yields

theorem quiet_readFile {path : String} (hapart : ¬ scope.Reaches (.ofText path)) :
    Ensures scope.Quiet (readFile path) (fun text host => Holds scope.start.disk path text ∧ scope.Quiet host)
      fun _ _ => True :=
  (ensures_readText _ _).yields.weaken fun _ _ h => ⟨h.2.1.holds hapart h.1, h.2⟩

theorem quiet_baseProject {into : Option String} (hapart : ∀ path ∈ into, ¬ scope.Reaches (.ofText path)) :
    Ensures scope.Quiet (baseProject into) (fun base host => IsBase scope.start.disk base into ∧ scope.Quiet host)
      fun _ _ => True := by
  cases into with
  | none => exact .pure fun _ h => ⟨rfl, h⟩
  | some path =>
      refine (ensures_readProject path).yields.weaken fun base host h => ?_
      obtain ⟨⟨text, htext, hproject⟩, hquiet⟩ := h
      exact ⟨⟨text, hquiet.1.holds (hapart path rfl) htext, hproject⟩, hquiet⟩

/-- What an import has read, and the files that it leaves. -/
def Imported (scope : Scope) (settings : Settings) (format : ImportFormat) (input : String) (into : Option String)
    (mode : Option ImportMode) (out : Option String) (file : Place) (host : VirtualHost) : Prop :=
  ∃ text schema base, Holds scope.start.disk input text ∧
    format.read settings.allowSelfReference text = .ok schema ∧ IsBase scope.start.disk base into ∧
    scope.Filed file (base.applyImport schema (mode.getD settings.importMode)).toJson.pretty out
      (scope.start.printed ++ (importSummary schema.entities.length schema.relations.length ++ "\n")) host

theorem ensures_importFile_imported (hroot : scope.root = some (runRoot environment settings scope.start.clock))
    (hscope : ∀ path ∈ out, scope.staging = stagingPath? environment.processId path) {input : String}
    {into : Option String} (hinput : ¬ scope.Reaches (.ofText input))
    (hinto : ∀ path ∈ into, ¬ scope.Reaches (.ofText path)) (hout : ∀ path ∈ out, ¬ scope.Reaches (.ofText path))
    (hfile : file = scope.start.disk.placeOf (runRoot environment settings scope.start.clock) ++ ["project.json"])
    (format : ImportFormat) (mode : Option ImportMode) :
    Ensures scope.Quiet (importFile environment settings format input into mode out)
      (fun _ => scope.Imported settings format input into mode out file) fun _ _ => True := by
  have hcovers := covers_runPaths hroot
  unfold importFile
  refine .bind (quiet_beginRun hroot _ _) fun run => .assume fun hpaths => ?_
  rw [hpaths]
  have hlog (line : String) : Stable scope.Quiet (Host.appendText (.ofText run.paths.log) line) := by
    rw [hpaths]
    exact quiet_appendText hcovers.log line
  refine .bind (quiet_readFile hinput) fun text => .assume fun htext => ?_
  refine .bind (ensures_readImport hlog format settings.allowSelfReference text).yields fun schema =>
    .assume fun hschema => ?_
  refine .bind (quiet_baseProject hinto) fun base => .assume fun hbase => ?_
  refine .bind (ensures_writeProject hcovers.project _) fun _ => ?_
  rw [show scope.start.disk.placeOf (.ofText (runPaths environment settings scope.start.clock).project) = file from
    (Disk.placeOf_join _ _ (by decide) (by decide)).trans hfile.symm]
  have hfinish (written : Log.Event) (finished : String × Json.Value → Log.Event) :=
    (ensures_finish (fun printed line => hpaths ▸ Filed.stable_log hroot hfile hout line) written finished).weaken
      fun _ host h => (⟨text, schema, base, htext, hschema, hbase, h⟩ :
        scope.Imported settings format input into mode out file host)
  dsimp only
  cases out with
  | none => exact hfinish _ _
  | some path =>
      exact .bind (ensures_writeWhole_filed hroot hfile (hscope path rfl) (hout path rfl) _) fun _ => hfinish _ _

end Scope

/-! ### Commands -/

/-- What is found when the import of a schema is finished. -/
structure Delivered (environment : Environment) (settings : Settings) (schema : ImportedSchema) (project : Project)
    (out : Option String) (start finish : VirtualHost) : Prop where
  /-- The project is in the directory of the run, and with a line end in the file that was asked for. -/
  files : ∃ text,
    finish.disk.file? (start.disk.placeOf (runRoot environment settings start.clock) ++ ["project.json"]) =
      some (.text text) ∧
    Project.read text = .ok project ∧ ∀ path ∈ out, Holds finish.disk path (text ++ "\n")
  printed : finish.printed =
    start.printed ++ ("imported " ++ toString schema.entities.length ++ " entities and " ++
      toString schema.relations.length ++ " relations\n")
  /-- There is no file under the name that the file that was asked for is written to before it is moved. -/
  cleared : ∀ path ∈ out, ∀ staging ∈ stagingPath? environment.processId path,
    ¬ start.disk.placeOf (runRoot environment settings start.clock) <+: start.disk.placeOf staging →
    finish.disk.file? (start.disk.placeOf staging) = none
  /-- No other file has changed. -/
  others : ∀ place, ¬ start.disk.placeOf (runRoot environment settings start.clock) <+: place →
    (∀ path ∈ out, place ≠ start.disk.placeOf (.ofText path) ∧
      ∀ staging ∈ stagingPath? environment.processId path, place ≠ start.disk.placeOf staging) →
    finish.disk.file? place = start.disk.file? place

theorem obtained_of_isBase {disk : Disk} {base : Project} {into : Option String} (h : IsBase disk base into) :
    base.Obtained := by
  cases into with
  | none => exact h ▸ .empty
  | some path =>
      obtain ⟨text, -, hread⟩ := h
      exact .read hread

/-- A command line that succeeds ends where its invocation does. -/
theorem execute_of_succeeded {environment : Environment} {arguments : List String} {invocation : Invocation}
    {start : VirtualHost} (hread : Invocation.ofArguments arguments = .ok invocation)
    (hsucceeded : ((run environment arguments : StateM VirtualHost ExitCode).run start).1 = .success) :
    (execute (m := StateM VirtualHost) environment invocation).run.run start =
      (.ok (), ((run environment arguments : StateM VirtualHost ExitCode).run start).2) := by
  rw [run, hread] at hsucceeded ⊢
  simp only [StateT.run_bind] at hsucceeded ⊢
  cases hresult : (execute (m := StateM VirtualHost) environment invocation).run.run start with
  | mk result finish =>
      rw [hresult] at hsucceeded
      cases result with
      | error failure => cases hsucceeded
      | ok done => rfl

/-- **An import that succeeds delivers the project with the import applied.** The project that it is applied to is the
one that was read, or an empty one; how it is applied is told on the command line or else by the settings. The
directory of a run has an id of its own, so that no path on the command line leads into it. -/
theorem delivered_run_of_succeeded {environment : Environment} {arguments : List String} {start : VirtualHost}
    {config runDirectory : Option String} {settings : Settings} {format : ImportFormat} {input : String}
    {into out : Option String} {mode : Option ImportMode}
    (hread : Invocation.ofArguments arguments = .ok ⟨config, runDirectory, .importFile format input into mode out⟩)
    (hsettings : Configures start.disk config runDirectory settings)
    (hapart : ∀ path, path = input ∨ path ∈ into ∨ path ∈ out →
      ¬ start.disk.placeOf (runRoot environment settings start.clock) <+: start.disk.placeOf (.ofText path))
    (hsucceeded : ((run environment arguments : StateM VirtualHost ExitCode).run start).1 = .success) :
    ∃ text schema base, Holds start.disk input text ∧ format.read settings.allowSelfReference text = .ok schema ∧
      IsBase start.disk base into ∧
      Delivered environment settings schema (base.applyImport schema (mode.getD settings.importMode)) out start
        ((run environment arguments : StateM VirtualHost ExitCode).run start).2 := by
  let invocation : Invocation := ⟨config, runDirectory, .importFile format input into mode out⟩
  let scope := invocation.scope environment start
  have howned (place : Place) (h : scope.Own place) :
      start.disk.placeOf (runRoot environment settings start.clock) <+: place := by
    obtain ⟨root, hroot, hprefix⟩ := h
    obtain ⟨loaded, hloaded, rfl⟩ := Option.map_eq_some_iff.1 hroot
    rwa [hsettings.unique (configures_of_settings? hloaded)]
  have hexecute : Ensures (· = start) (execute environment invocation)
      (fun _ => scope.Imported settings format input into mode out
        (start.disk.placeOf (runRoot environment settings start.clock) ++ ["project.json"])) fun _ _ => True := by
    unfold execute
    refine .bind (ensures_loadSettings invocation start).yields fun loaded => .assume fun hloaded => ?_
    obtain rfl := hsettings.unique (configures_of_settings? hloaded)
    have hroot : scope.root = some (runRoot environment settings start.clock) := by
      simp [scope, Invocation.scope, invocation, Task.beginsRun, hloaded]
    have hreaches (path : String) (hpath : path = input ∨ path ∈ into ∨ path ∈ out) :
        ¬ scope.Reaches (.ofText path) := fun hreaches => hapart path hpath (howned _ hreaches)
    have hquiet (host : VirtualHost) (h : host = start) : scope.Quiet host := h ▸ ⟨scope.kept_start, rfl⟩
    refine (Scope.ensures_importFile_imported hroot ?_ (hreaches input (.inl rfl)) (fun path hpath =>
      hreaches path (.inr (.inl hpath))) (fun path hpath => hreaches path (.inr (.inr hpath))) rfl format
      mode).weaken_before hquiet
    intro path hpath
    simp [scope, Invocation.scope, invocation, Task.out?, Option.mem_def.1 hpath]
  obtain ⟨text, schema, base, htext, hschema, hbase, hfiled⟩ :=
    hexecute.ok start rfl () _ (execute_of_succeeded hread hsucceeded)
  have hobtained := (obtained_of_isBase hbase).applied (.imported hschema) (mode.getD settings.importMode)
  refine ⟨text, schema, base, htext, hschema, hbase, ?_⟩
  constructor
  case files =>
    refine ⟨_, hfiled.project, Project.read_pretty_of_obtained hobtained, fun path hpath => ?_⟩
    rw [Holds, Disk.placeOf_congr hfiled.here]
    exact hfiled.asked path hpath
  case printed =>
    rw [hfiled.printed, importSummary]
    simp only [String.append_assoc]
    rfl
  case cleared =>
    intro path hpath staging hstaging hapart
    exact hfiled.cleared path hpath staging (Option.bind_eq_some_iff.2 ⟨path, hpath, hstaging⟩)
      fun hreaches => hapart (howned _ hreaches)
  case others =>
    intro place hplace helse
    refine hfiled.files place (fun h => hplace (howned place h)) ?_ fun path hpath => (helse path hpath).1
    rintro ⟨staging, hstaging, heq⟩
    obtain ⟨path, hpath, hstaged⟩ := Option.bind_eq_some_iff.1 hstaging
    exact (helse path hpath).2 staging hstaged heq

/-- A host with settings, a script to import and a project that it is to be imported into. -/
def workshop : VirtualHost where
  disk := {
    entries := [
      (["modelforge.toml"], .file (.text "import_mode = \"merge\"\n")),
      (["schema.sql"], .file (.text "CREATE TABLE parts (id BIGINT PRIMARY KEY, label VARCHAR(40));")),
      (["project.json"], .file (.text "\x7b\"entities\": [\x7b\"name\": \"Tool\"\x7d]\x7d"))] }

/-- The surroundings of a run on that host. -/
def bench : Environment := { runId := "run", logFilter := some "off", processId := 1 }

/-- An import whose result takes the place of the project that it is applied to. -/
def importInPlace : StateM VirtualHost ExitCode :=
  run bench ["import-sql", "schema.sql", "--into", "project.json", "--out", "project.json"]

theorem delivered_importInPlace :
    (importInPlace.run workshop).1 = .success ∧
      ∃ text schema base, Holds workshop.disk "schema.sql" text ∧ ImportFormat.sql.read true text = .ok schema ∧
        IsBase workshop.disk base (some "project.json") ∧
        Delivered bench { importMode := .merge } schema (base.applyImport schema .merge) (some "project.json") workshop
          (importInPlace.run workshop).2 := by
  have hread : Invocation.ofArguments ["import-sql", "schema.sql", "--into", "project.json", "--out", "project.json"] =
      .ok ⟨none, none, .importFile .sql "schema.sql" (some "project.json") none (some "project.json")⟩ := rfl
  have hsettings : Configures workshop.disk none none { importMode := .merge } :=
    ⟨{ importMode := .merge }, ⟨"import_mode = \"merge\"\n", by decide +kernel, by decide +kernel⟩, rfl⟩
  have hapart : ∀ path, path = "schema.sql" ∨ path ∈ some "project.json" ∨ path ∈ some "project.json" →
      ¬ workshop.disk.placeOf (runRoot bench { importMode := .merge } workshop.clock) <+:
        workshop.disk.placeOf (.ofText path) := by
    rintro path (rfl | hpath | hpath)
    · decide +kernel
    · obtain rfl := Option.some.inj hpath
      decide +kernel
    · obtain rfl := Option.some.inj hpath
      decide +kernel
  have hsucceeded : (importInPlace.run workshop).1 = .success := by decide +kernel
  exact ⟨hsucceeded, delivered_run_of_succeeded hread hsettings hapart hsucceeded⟩

/-- An import that succeeds may take away a file that is not its own and make a directory. -/
theorem changes_of_finished_imports :
    (((importTo "project.json").run crowdedDesk).1 = .success ∧
      crowdedDesk.disk.file? [".project.json.1.tmp"] = some (.text "notes") ∧
      ((importTo "project.json").run crowdedDesk).2.disk.file? [".project.json.1.tmp"] = none) ∧
    ((importTo "d/../q.json").run desk).1 = .success ∧ Disk.entry? desk.disk ["d"] = none ∧
      Disk.entry? ((importTo "d/../q.json").run desk).2.disk ["d"] = some .directory := by
  refine ⟨?_, ?_⟩ <;> decide +kernel

end DomainModel.Command
