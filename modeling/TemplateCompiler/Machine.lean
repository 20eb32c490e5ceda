import Std.Time.DateTime.Timestamp
import TemplateCompiler.CommandLine.Run
import TemplateCompiler.FileTree

/-! # The machine

The outer layer below the program: the files of the machine as a loader, random ids and
the present time.
-/

namespace TemplateCompiler.Machine

/-- Why a file could not be read, in the words of the messages. -/
def readFailure (cause : IO.Error) : String :=
  match cause with
  | .noFileOrDirectory .. => FileError.notFound.message
  | .noSuchThing .. => FileError.notFound.message
  | .inappropriateType .. => FileError.isDirectory.message
  | other => toString other

/-- The bytes of a file, or why there are none. -/
def readBytes (path : String) : IO (Except IO.Error ByteArray) := do
  try return .ok (← IO.FS.readBinFile path)
  catch cause => return .error cause

/-- The files of the machine as a loader. A file that must not be read is a file all the
same. -/
def files : Loader IO where
  isFile path := do
    match ← readBytes path with
    | .ok _ => return true
    | .error (.permissionDenied ..) => return true
    | .error _ => return false
  isDirectory path := do
    match ← readBytes path with
    | .error (.inappropriateType ..) => return true
    | _ => return false
  read path := do
    match ← readBytes path with
    | .ok bytes =>
      match String.fromUTF8? bytes with
      | some text => return .ok text
      | none => return .error FileError.notText.message
    | .error cause => return .error (readFailure cause)

/-- Sixteen random bytes in hexadecimal. -/
def randomId : IO String := do
  return String.join ((← IO.getRandomBytes 16).toList.map Text.hexByte)

/-- The present time. -/
def presentTime : IO Timestamp := do
  let nanoseconds := (← Std.Time.Timestamp.now).toNanosecondsSinceUnixEpoch.val
  return ⟨nanoseconds / 1000000000, (nanoseconds % 1000000000).toNat⟩

/-- The machine as the environment of a run. The ids of templates share a random part and
are told apart by their numbers. -/
def environment : IO (CommandLine.Environment IO) := do
  let shared ← randomId
  return {
    loader := files
    ids := fun number => shared ++ Text.hex number
    stamp := { id := ← randomId, createdAt := ← presentTime } }

end TemplateCompiler.Machine
