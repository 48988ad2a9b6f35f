import BatchScript.Text

/-!
# What a host has to know

The constants by which an editor or a page registers the language.
-/
namespace BatchScript.Language

/-- The name of the mode. -/
def modeName : Text := "cmd".toList

/-- The media types of a script. -/
def mediaTypes : List Text := ["text/x-sh", "application/x-sh"].map String.toList

/-- What starts a line comment. -/
def lineComment : Text := "::".toList

/-- The pairs that an editor closes by itself, each opener with its closer behind it. -/
def brackets : Text := "()[]\x7b\x7d''\"\"".toList

/-- The version of the program. -/
def version : Text := "0.1.0".toList

end BatchScript.Language
