import DomainModel.Disk.Basic
import DomainModel.Time.Instant

/-! What commands need of the system that they run on: files, two outputs and a clock. The virtual
host has a disk of its own and keeps what is printed; on it, everything that a command does can be
computed and reasoned about. What its disk allows may still go wrong there: troubles say which
operations fail, and where. -/

namespace DomainModel.Command

/-- A system that commands run on. -/
class Host (m : Type → Type) where
  /-- The text of a file. -/
  readText : Path → m (Except DiskFault String)
  /-- Whether a file or a directory is there. -/
  isThere : Path → m Bool
  /-- Whether a directory is there. -/
  isDirectory : Path → m Bool
  /-- Makes a directory where nothing is yet. -/
  makeDirectory : Path → m (Except DiskFault Unit)
  /-- Opens a file to be written: makes it, or takes away what it held. -/
  createFile : Path → m (Except DiskFault Unit)
  /-- Adds to the end of a file, which is made if it is not there. -/
  appendText : Path → String → m (Except DiskFault Unit)
  /-- Sees to it that what has been written to a file stays there. -/
  syncFile : Path → m (Except DiskFault Unit)
  /-- Sees to it that what has been moved to a directory stays there. -/
  syncDirectory : Path → m (Except DiskFault Unit)
  /-- Moves a file, in place of the one that is there. -/
  rename : Path → Path → m (Except DiskFault Unit)
  /-- Takes a file away, if it is there. -/
  remove : Path → m Unit
  /-- Prints results. -/
  print : String → m Unit
  /-- Prints what people should know besides the results. -/
  printError : String → m Unit
  now : m Time.Instant

/-- The operations that may fail whatever is on the disk. -/
inductive Operation where
  | read
  | makeDirectory
  | create
  | append
  | sync
  | syncDirectory
  | rename
  | remove
  deriving DecidableEq, Repr

/-- What goes wrong when an operation is tried at a path. -/
structure Trouble where
  operation : Operation
  path : Path
  fault : DiskFault
  /-- How many bytes of a text have been added by then. -/
  written : Nat := 0
  deriving DecidableEq, Repr

/-- A virtual host: its disk, what goes wrong there, its clock, which stands still, and what has been printed. -/
structure VirtualHost where
  disk : Disk := {}
  troubles : List Trouble := []
  clock : Time.Instant := ⟨0, 0⟩
  printed : String := ""
  printedErrors : String := ""
  deriving DecidableEq, Repr

namespace VirtualHost

/-- What goes wrong with an operation at a path, if anything does. -/
def trouble? (host : VirtualHost) (operation : Operation) (path : Path) : Option Trouble :=
  host.troubles.find? fun trouble => trouble.operation == operation && trouble.path == path

/-- What comes of an operation that would have a result if nothing went wrong. -/
def check {α : Type} (host : VirtualHost) (operation : Operation) (path : Path) (result : Except DiskFault α) :
    Except DiskFault α :=
  match host.trouble? operation path with
  | some trouble => .error trouble.fault
  | none => result

/-- Carries out an operation that may fail and changes the disk only if it does not. -/
def attempt (host : VirtualHost) (result : Except DiskFault Disk) :
    Except DiskFault Unit × VirtualHost :=
  match result with
  | .ok disk => (.ok (), { host with disk })
  | .error fault => (.error fault, host)

/-- Adds to the end of a file. If it goes wrong, the first bytes may have been added. -/
def append (host : VirtualHost) (path : Path) (text : String) : Except DiskFault Unit × VirtualHost :=
  match host.trouble? .append path with
  | some trouble => (.error trouble.fault, { host with disk := host.disk.appendPart path text trouble.written })
  | none => host.attempt (host.disk.appendText path text)

instance : Host (StateM VirtualHost) where
  readText path host := (host.check .read path (host.disk.readText path), host)
  isThere path host := (host.disk.isThere path, host)
  isDirectory path host := (host.disk.isDirectory path, host)
  makeDirectory path host := host.attempt (host.check .makeDirectory path (host.disk.makeDirectory path))
  createFile path host := host.attempt (host.check .create path (host.disk.createFile path))
  appendText path text host := host.append path text
  syncFile path host := (host.check .sync path (.ok ()), host)
  syncDirectory path host := (host.check .syncDirectory path (host.disk.openEntry path), host)
  rename source target host := host.attempt (host.check .rename source (host.disk.rename source target))
  remove path host :=
    ((), if (host.trouble? .remove path).isSome then host else { host with disk := host.disk.remove path })
  print text host := ((), { host with printed := host.printed ++ text })
  printError text host := ((), { host with printedErrors := host.printedErrors ++ text })
  now host := (host.clock, host)

end VirtualHost

end DomainModel.Command
