import BatchScript.Text

/-!
# Paths

A path is kept in its normal form: without empty components, dots and slashes at its end. Two dots
stay, since what they lead to depends on the files.
-/
namespace BatchScript

/-- A path to a file. -/
structure Path where
  /-- The slashes in front of an absolute path: one, or exactly two. -/
  root : Text
  /-- The components. -/
  parts : List Text
  deriving DecidableEq, Repr

namespace Path

/-- The slashes that make a text an absolute path. -/
def rootOf : Text → Text
  | '/' :: '/' :: '/' :: _ => ['/']
  | '/' :: '/' :: _ => ['/', '/']
  | '/' :: _ => ['/']
  | _ => []

/-- The path that a text stands for. -/
def ofText (text : Text) : Path :=
  ⟨rootOf text, (text.split '/').filter fun part => part ≠ [] ∧ part ≠ ['.']⟩

/-- The path as text; the empty path is a dot. -/
def toText (path : Path) : Text :=
  if path.root.isEmpty ∧ path.parts.isEmpty then ['.']
  else path.root ++ Text.join ['/'] path.parts

/-- The path without its last component. -/
def parent (path : Path) : Path := { path with parts := path.parts.dropLast }

/-- The path of a component below. -/
def child (path : Path) (part : Text) : Path := { path with parts := path.parts ++ [part] }

/-- Whether the path holds the character that ends every path for the system. -/
def hasNull (path : Path) : Bool := '\x00' ∈ path.toText

end Path

end BatchScript
