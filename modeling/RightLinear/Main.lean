import RightLinear.Command.Basic

/-! # The program

Reads the command line and runs the command with the variables, files and folders of
the system.
-/

namespace RightLinear
namespace Command

/-- The fault behind a refusal of the system. -/
def SystemFault.ofError (error : IO.Error) : SystemFault :=
  match error with
  | .noFileOrDirectory .. => .missing
  | .alreadyExists .. => .exists
  | .inappropriateType _ code _ => if code = 20 then .notFolder else .isFolder
  | .invalidArgument _ code _ =>
      if code = 36 then .nameTooLong else .other (toString error)
  | error => .other (toString error)

/-- Tries an action and keeps the fault if the system refuses. -/
def attempt {α : Type} (failure : SystemFault → Failure) (action : IO α) :
    ExceptT Failure IO α := do
  match ← action.toBaseIO with
  | .ok value => return value
  | .error error => throw (failure (.ofError error))

/-- Everything in a file of variables that could be the name of one. -/
def mentionedNames (content : ByteArray) : List String :=
  let chars := ((String.fromUTF8? content).getD "").toList
  let cuts : List (Char → Bool) :=
    [fun char => ! Environment.isAlphanumeric char, fun char => ! Environment.isNameChar char,
      fun char => char == '{' || char == '}']
  cuts.flatMap fun cut => (Text.pieces cut chars).map String.ofList

/-- The values of the variables that settings or a file could refer to. -/
def knownVariables (file : Option ByteArray) : IO Environment := do
  let names := Settings.ruleVariable :: Settings.sinkVariable ::
    (file.map mentionedNames).getD []
  let found ← names.eraseDups.mapM fun name => do
    return (← if name = "" then pure none else IO.getEnv name).map (name, ·)
  return found.filterMap id

/-- The folders on the way to the working folder. -/
def workingPlace : IO Place := do
  let folder ← IO.currentDir
  return ((Text.pieces (· == '/') folder.toString.toList).map String.ofList).filter (· != "")

def contentAt? (place : Place) : IO (Option ByteArray) := do
  return (← (IO.FS.readBinFile ("/" ++ String.intercalate "/" place)).toBaseIO).toOption

instance : Host (ExceptT Failure IO) where
  working := liftM workingPlace
  content? place := liftM (contentAt? place)
  environment file := liftM (knownVariables file)
  load path := do
    let handle ← attempt (.notOpened path) (IO.FS.Handle.mk path.text .read)
    attempt (.notRead path) handle.readBinToEnd
  makeFolder path := attempt (.folderNotMade path) (IO.FS.createDirAll path.text)
  create path := do
    let handle ← attempt (.notWritable path) (IO.FS.Handle.mk path.text .write)
    return fun text => attempt (.notFlushed path) do
      handle.putStr text
      handle.flush
  print text := liftM (IO.print text : IO Unit)

/-- The note on usage. -/
def usageNote : String :=
  "Usage: [--epsilon-check CHECK] [--sink NAME] COMMAND\n" ++
    "  verify -g FILE\n" ++
    "  to-fa -g FILE [-o FILE] [-f FORMAT]\n" ++
    "  to-grammar -a FILE [-o FILE] [-f FORMAT]\n" ++
    "  show -g FILE [--productions-of SYMBOL]\n" ++
    "  show -a FILE\n" ++
    "  accept -a FILE WORD\n"

end Command
end RightLinear

open RightLinear.Command in
def main (arguments : List String) : IO UInt32 := do
  match Invocation.ofArguments arguments with
  | .error usage =>
      if usage.exitCode = 0 then IO.print usageNote else IO.eprint usageNote
      return usage.exitCode.toUInt32
  | .ok invocation =>
      match ← (invocation.perform : ExceptT Failure IO Unit).run with
      | .ok () => return 0
      | .error failure =>
          IO.eprintln s!"Error: {failure.report.message}"
          return 1
