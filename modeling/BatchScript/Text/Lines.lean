import BatchScript.Text

/-!
# Lines of a script

A script is cut at line feeds, and a carriage return in front of one belongs to the line end. Text
read from a file has each of its three line ends made a line feed first.
-/
namespace BatchScript.Text

/-- The line without one carriage return at its end. -/
def dropReturn (line : Text) : Text :=
  if line.getLast? = some '\r' then line.dropLast else line

/-- The lines of a script: the pieces between line feeds, each without a carriage return at its
end. There is always at least one. -/
def lines (source : Text) : List Text := (source.split '\n').map dropReturn

/-- A carriage return with or without a line feed behind it becomes a line feed. -/
def unifyLineEnds : Text → Text
  | [] => []
  | '\r' :: '\n' :: rest => '\n' :: unifyLineEnds rest
  | c :: rest => (if c = '\r' then '\n' else c) :: unifyLineEnds rest

end BatchScript.Text
