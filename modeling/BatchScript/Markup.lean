import BatchScript.Lexer

/-!
# Highlighted page

A script becomes one preformatted block in which each styled token stands in an element of its style
class, and text without a style stands bare.
-/
namespace BatchScript.Markup

/-- The text with another text in place of each occurrence of a character. -/
def replace (c : Char) (entity text : Text) : Text :=
  text.flatMap fun other => if other = c then entity else [other]

/-- Text as it is written between tags. The ampersand comes first, since the others are replaced by
texts that hold one. -/
def escape (text : Text) : Text :=
  replace '>' "&gt;".toList (replace '<' "&lt;".toList (replace '&' "&amp;".toList text))

/-- A token, in an element of its style class if it has one. -/
def token (token : Token) : Text :=
  match token.category.styleClass? with
  | none => escape token.text
  | some name =>
    "<span class=\"cm-".toList ++ name ++ "\">".toList ++ escape token.text ++ "</span>".toList

/-- The tokens of one line. -/
def line (tokens : List Token) : Text := tokens.flatMap token

/-- The block around the lines. -/
def block (lines : List (List Token)) : Text :=
  "<pre class=\"cm-s-default\">".toList ++ Text.join ['\n'] (lines.map line) ++ "</pre>\n".toList

/-- The page of a script that starts inside the modes of `stack`, and the stack behind it. -/
def render (source : Text) (stack : Stack) : Text × Stack :=
  let (lines, final) := Lexer.tokenize source stack
  (block lines, final)

end BatchScript.Markup
