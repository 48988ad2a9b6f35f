import BatchScript.Command.Run

/-!
# The command on the files of the system

Runs the command with the program's arguments, on real files and the standard streams.
-/
namespace BatchScript

/-- The refusal behind an error of the system. -/
def refusalOf (error : IO.Error) : FileError :=
  match error with
  | .noFileOrDirectory _ _ _ => .notFound
  | .inappropriateType _ code details =>
    if code = 20 then .notDirectory else if code = 21 then .isDirectory else .other details.toList
  | .invalidArgument _ code details =>
    if code = 36 then .nameTooLong else if code = 40 then .loop else .other details.toList
  | .permissionDenied _ code details => if code = 13 then .denied else .other details.toList
  | _ => .other (toString error).toList

/-- The answer of an action on files. -/
def answerOf {α : Type} (action : IO α) : IO (Except FileError α) :=
  try return .ok (← action)
  catch error => return .error (refusalOf error)

/-- Runs a program on the files of the system. What a path leads to is found out by reading one byte
of it, so that a device counts as a file, and a file that may not be read is refused at the question
and not only when it is read. -/
def Access.perform {α : Type} : Access α → IO α
  | .done value => return value
  | .readFile path resume => do
    let answer ← answerOf (IO.FS.readBinFile (String.ofList path.toText))
    (resume answer).perform
  | .isFile path resume => do
    let name := String.ofList path.toText
    match ← answerOf (IO.FS.withFile name .read fun handle => handle.read 1) with
    | .ok _ => (resume (.ok true)).perform
    | .error .isDirectory => (resume (.ok false)).perform
    | .error cause => (resume (.error cause)).perform
  | .writeFile path contents resume => do
    let name := String.ofList path.toText
    let answer ← answerOf <| IO.FS.withFile name .write fun handle => do
      handle.write contents
      handle.flush
    (resume answer).perform

end BatchScript

open BatchScript in
/-- Runs the command and gives its exit code. -/
def main (arguments : List String) : IO UInt32 := do
  match ← (Command.run (arguments.map String.toList)).perform with
  | .ok outcome =>
    (← IO.getStderr).putStr (String.ofList outcome.stderr)
    (← IO.getStdout).putStr (String.ofList outcome.stdout)
    return outcome.exit.toUInt32
  | .error cause =>
    (← IO.getStderr).putStrLn (String.ofList cause.message)
    return 1
