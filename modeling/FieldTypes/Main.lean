import Std.Time.DateTime.Timestamp
import FieldTypes.CommandLine.Program
import FieldTypes.Log.Clock

namespace FieldTypes

/-! The executable: the file system and the environment of the process, and the
outcome of the program as output and exit code. -/

/-- The number of an error, whether it was given as such or with a minus sign. -/
def errorNumber (code : UInt32) : Nat :=
  if code < 0x80000000 then code.toNat else (0 - code).toNat

/-- The number that the system gave for an error.  Five is the one for a failure
of the device. -/
def systemNumber : IO.Error → Nat
  | .noFileOrDirectory _ code _ => errorNumber code
  | .permissionDenied _ code _ => errorNumber code
  | .inappropriateType _ code _ => errorNumber code
  | .invalidArgument _ code _ => errorNumber code
  | .resourceExhausted _ code _ => errorNumber code
  | .noSuchThing _ code _ => errorNumber code
  | .otherError code _ => errorNumber code
  | _ => 5

def readFailure (error : IO.Error) : Files.ReadFailure :=
  match systemNumber error with
  | 2 => .missing
  | 13 => .denied
  | 20 => .notDirectory
  | 21 => .isDirectory
  | code => .other code

/-- The files of the process, by paths from its working directory. -/
def processFiles : Files.System IO where
  isFile path := do
    match ← EIO.toBaseIO (IO.FS.realPath path >>= fun place => place.metadata) with
    | .ok metadata => return metadata.type == .file
    | .error _ => return false
  canonical? path := do
    match ← EIO.toBaseIO (IO.FS.realPath path) with
    | .ok place => return some place.toString
    | .error _ => return none
  readText path := do
    match ← EIO.toBaseIO (IO.FS.readBinFile path) with
    | .error error => return .error (readFailure error)
    | .ok bytes =>
        match String.fromUTF8? bytes with
        | none => return .error .notText
        | some text => return .ok text

def processEnvironment : IO CommandLine.Environment := do
  let now ← Std.Time.Timestamp.now
  return {
    workingDirectory := (← IO.currentDir).toString
    manifestPath? := ← IO.getEnv "REIFY_CONFIG_PATH"
    logFilter? := ← IO.getEnv "RUST_LOG"
    time := Log.timeText (now.toNanosecondsSinceUnixEpoch.toInt / 1000).toNat }

end FieldTypes

def main (words : List String) : IO UInt32 := do
  match FieldTypes.CommandLine.Request.read? words with
  | none =>
      IO.eprint "error: the arguments do not fit together\n\nFor more information, try '--help'.\n"
      return 2
  | some request =>
      let outcome ← FieldTypes.CommandLine.answer FieldTypes.processFiles
        (← FieldTypes.processEnvironment) request
      IO.eprint outcome.diagnostics
      IO.print outcome.output
      return outcome.code.toUInt32
