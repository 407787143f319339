import DomainModel.Command.Execute
import Std.Time.DateTime.Timestamp

/-! The program: commands run on the machine that it is started on. -/

namespace DomainModel.Command

/-- The fault of an error with its number, which some operations give as a negative one. -/
def faultOfNumber (number : UInt32) (details : String) : DiskFault :=
  match (if number < 0x80000000 then number else 0 - number).toNat with
  | 2 => .notFound
  | 16 => .busy
  | 17 => .alreadyThere
  | 20 => .notDirectory
  | 21 => .isDirectory
  | 28 => .noSpace
  | 36 => .nameTooLong
  | n => .other (details ++ " (os error " ++ toString n ++ ")")

/-- The fault of an error of the machine. -/
def faultOfError : IO.Error → DiskFault
  | .alreadyExists _ number details => faultOfNumber number details
  | .otherError number details => faultOfNumber number details
  | .resourceBusy number details => faultOfNumber number details
  | .unsupportedOperation number details => faultOfNumber number details
  | .hardwareFault number details => faultOfNumber number details
  | .unsatisfiedConstraints number details => faultOfNumber number details
  | .noFileOrDirectory _ number details => faultOfNumber number details
  | .invalidArgument _ number details => faultOfNumber number details
  | .permissionDenied _ number details => faultOfNumber number details
  | .resourceExhausted _ number details => faultOfNumber number details
  | .inappropriateType _ number details => faultOfNumber number details
  | .noSuchThing _ number details => faultOfNumber number details
  | error => .other (toString error)

/-- Carries out an operation of the machine. -/
def attempt {α : Type} (operation : IO α) : IO (Except DiskFault α) := do
  try return .ok (← operation)
  catch error => return .error (faultOfError error)

/-- Reads a file as UTF-8. -/
def readUtf8 (path : Path) : IO (Except DiskFault String) := do
  match ← attempt (IO.FS.readBinFile path.toText) with
  | .error fault => return .error fault
  | .ok bytes =>
    match String.fromUTF8? bytes with
    | some text => return .ok text
    | none => return .error .notText

/-- Opens a file to be written. -/
def openToWrite (path : Path) : IO Unit := do
  let _ ← IO.FS.Handle.mk path.toText .write

/-- Adds to the end of a file. -/
def appendTo (path : Path) (text : String) : IO Unit := do
  let handle ← IO.FS.Handle.mk path.toText .append
  handle.putStr text
  handle.flush

/-- Opens a directory and lets go of it again. That what is in it has reached the device is left to the system. -/
def openDirectory (path : Path) : IO Unit := do
  let _ ← (← IO.FS.realPath path.toText).readDir

/-- The instant that the clock of the machine shows. -/
def readClock : IO Time.Instant := do
  let nanoseconds := (← Std.Time.Timestamp.now).toNanosecondsSinceUnixEpoch.val
  return ⟨nanoseconds / 1000000000, (nanoseconds % 1000000000).toNat⟩

instance : Host IO where
  readText path := readUtf8 path
  isThere path := do
    try (← IO.FS.realPath path.toText).pathExists
    catch _ => return false
  isDirectory path := do
    try (← IO.FS.realPath path.toText).isDir
    catch _ => return false
  makeDirectory path := attempt (IO.FS.createDir path.toText)
  createFile path := attempt (openToWrite path)
  appendText path text := attempt (appendTo path text)
  syncFile path := attempt (appendTo path "")
  syncDirectory path := attempt (openDirectory path)
  rename source target := attempt (IO.FS.rename source.toText target.toText)
  remove path := do
    try IO.FS.removeFile path.toText
    catch _ => return
  print text := IO.print text
  printError text := IO.eprint text
  now := readClock

/-- The number of the process: the first one that its own status tells. -/
def readProcessId : IO Nat := do
  try
    let status ← IO.FS.readFile "/proc/self/stat"
    return Text.digitsValue (status.toList.takeWhile Char.isDigit)
  catch _ => return 0

/-- The two hexadecimal digits of a byte. -/
def byteChars (byte : UInt8) : List Char :=
  [Json.hexDigit (byte.toNat / 16), Json.hexDigit (byte.toNat % 16)]

/-- The id of a run: random, with the marks of its version and variant. -/
def idOfBytes (bytes : List UInt8) : String :=
  let marked := bytes.mapIdx fun i byte =>
    if i == 6 then (byte &&& 0x0F) ||| 0x40 else if i == 8 then (byte &&& 0x3F) ||| 0x80 else byte
  String.ofList (marked.mapIdx fun i byte =>
    if i == 4 || i == 6 || i == 8 || i == 10 then '-' :: byteChars byte else byteChars byte).flatten

end DomainModel.Command

open DomainModel.Command in
def main (arguments : List String) : IO UInt32 := do
  let runId := idOfBytes (← IO.getRandomBytes 16).toList
  let environment : Environment :=
    { runId, logFilter := ← IO.getEnv "RUST_LOG", processId := ← readProcessId }
  return (← run environment arguments : ExitCode).number.toUInt32
