import BatchScript.Text

/-!
# Style categories

Each token has one of eleven categories. All but the last, for text without a style of its own,
have a style class, by which the page and the editor know them.
-/
namespace BatchScript

/-- What a token is, as far as its looks are concerned. -/
inductive Category where
  /-- A truth value. -/
  | atom
  /-- A word that steers the script. -/
  | keyword
  /-- A command of the interpreter. -/
  | builtin
  /-- A plus, an equals or an at sign. -/
  | operator
  /-- A hyphen or two with a word behind them. -/
  | flag
  /-- Decimal digits, or a dot with digits behind it. -/
  | number
  /-- A name that is assigned, or the expansion of a variable. -/
  | definition
  /-- A quoted region. -/
  | string
  /-- A parenthesised expansion. -/
  | quote
  /-- A line from two colons on. -/
  | comment
  /-- Text without a style. -/
  | plain
  deriving DecidableEq, Repr

namespace Category

/-- Every category, in the order in which lists show them. -/
def all : List Category :=
  [.atom, .keyword, .builtin, .operator, .flag, .number, .definition, .string, .quote, .comment,
   .plain]

/-- The name in token dumps. -/
def name : Category → Text
  | .atom => "ATOM".toList
  | .keyword => "KEYWORD".toList
  | .builtin => "BUILTIN".toList
  | .operator => "OPERATOR".toList
  | .flag => "ATTRIBUTE".toList
  | .number => "NUMBER".toList
  | .definition => "DEFINITION".toList
  | .string => "STRING".toList
  | .quote => "QUOTE".toList
  | .comment => "COMMENT".toList
  | .plain => "NONE".toList

/-- The category with a given name. -/
def ofName? (name : Text) : Option Category := all.find? (·.name == name)

/-- The style class; plain text has none. -/
def styleClass? : Category → Option Text
  | .atom => some "atom".toList
  | .keyword => some "keyword".toList
  | .builtin => some "builtin".toList
  | .operator => some "operator".toList
  | .flag => some "attribute".toList
  | .number => some "number".toList
  | .definition => some "def".toList
  | .string => some "string".toList
  | .quote => some "quote".toList
  | .comment => some "comment".toList
  | .plain => none

/-- The style classes in the order of their categories. -/
def styleClasses : List Text := all.filterMap styleClass?

/-- The place of a category's style class among all of them. -/
def styleIndex? (category : Category) : Option Nat :=
  category.styleClass?.bind (styleClasses.idxOf? ·)

/-- Every category is in the list. -/
theorem mem_all (category : Category) : category ∈ all := by cases category <;> decide

/-- A category is found again by its name. -/
theorem ofName?_name (category : Category) : ofName? category.name = some category := by
  cases category <;> decide

/-- Only plain text is without a style class. -/
theorem styleClass?_eq_none_iff (category : Category) :
    category.styleClass? = none ↔ category = .plain := by
  cases category <;> decide

end Category

end BatchScript
