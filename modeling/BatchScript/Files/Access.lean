import BatchScript.Files.Path

/-!
# Access to files

A program that works on files is a value: it is done, or it asks one thing of the files and goes on
with the answer. It can then be run on files in memory as well as on those of a machine, and what is
said about it can be said for every system of files, whatever that answers.
-/
namespace BatchScript

/-- Why the files refuse a request. -/
inductive FileError where
  /-- There is no such file, or no directory on the way to it. -/
  | notFound
  /-- The path leads to a directory. -/
  | isDirectory
  /-- A file stands where a directory is needed. -/
  | notDirectory
  /-- A component of the path is too long. -/
  | nameTooLong
  /-- It is not permitted. -/
  | denied
  /-- The path leads back to itself. -/
  | loop
  /-- Any other cause, in the words of the system. -/
  | other (description : Text)
  deriving DecidableEq, Repr

/-- The refusal in words. -/
def FileError.message : FileError → Text
  | .notFound => "No such file or directory".toList
  | .isDirectory => "Is a directory".toList
  | .notDirectory => "Not a directory".toList
  | .nameTooLong => "File name too long".toList
  | .denied => "Permission denied".toList
  | .loop => "Too many levels of symbolic links".toList
  | .other description => description

/-- The number of the refusal among those of the system, if it has one. -/
def FileError.number? : FileError → Option Nat
  | .notFound => some 2
  | .denied => some 13
  | .notDirectory => some 20
  | .isDirectory => some 21
  | .nameTooLong => some 36
  | .loop => some 40
  | .other _ => none

/-- Whether the refusal means that a path leads nowhere. -/
def FileError.leadsNowhere : FileError → Bool
  | .notFound => true
  | .notDirectory => true
  | .loop => true
  | _ => false

/-- A program that works on files. -/
inductive Access (α : Type) where
  /-- The program has ended with a value. -/
  | done (value : α)
  /-- It reads a file. -/
  | readFile (path : Path) (resume : Except FileError ByteArray → Access α)
  /-- It asks whether what a path leads to is a file. -/
  | isFile (path : Path) (resume : Except FileError Bool → Access α)
  /-- It empties a file, or makes one, and writes it. -/
  | writeFile (path : Path) (contents : ByteArray) (resume : Except FileError Unit → Access α)

namespace Access

/-- One program after another. -/
def bind {α β : Type} (first : Access α) (next : α → Access β) : Access β :=
  match first with
  | .done value => next value
  | .readFile path resume => .readFile path fun answer => (resume answer).bind next
  | .isFile path resume => .isFile path fun answer => (resume answer).bind next
  | .writeFile path contents resume =>
    .writeFile path contents fun answer => (resume answer).bind next

instance : Monad Access where
  pure := .done
  bind := .bind

/-- Reads a file. -/
def read (path : Path) : Access (Except FileError ByteArray) := .readFile path .done

/-- Asks whether what a path leads to is a file. -/
def exists? (path : Path) : Access (Except FileError Bool) := .isFile path .done

/-- Writes a file. -/
def write (path : Path) (contents : ByteArray) : Access (Except FileError Unit) :=
  .writeFile path contents .done

end Access

/-- A system of files, by its answers in each of its states. It may refuse whatever it is asked.
Reading and asking change nothing; writing may change the files also where it is refused in the
end. -/
structure FileSystem (State : Type) where
  /-- The bytes of a file. -/
  read : State → Path → Except FileError ByteArray
  /-- Whether what a path leads to is a file. -/
  isFile : State → Path → Except FileError Bool
  /-- The answer to a write, and the state behind it. -/
  write : State → Path → ByteArray → Except FileError Unit × State

/-- Runs a program on a system of files that is in some state. -/
def Access.runOn {α State : Type} (system : FileSystem State) (state : State) :
    Access α → α × State
  | .done value => (value, state)
  | .readFile path resume => (resume (system.read state path)).runOn system state
  | .isFile path resume => (resume (system.isFile state path)).runOn system state
  | .writeFile path contents resume =>
    (resume (system.write state path contents).1).runOn system (system.write state path contents).2

end BatchScript
