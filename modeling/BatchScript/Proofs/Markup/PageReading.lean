import BatchScript.Markup
import BatchScript.Proofs.Lexer.Tiling
import BatchScript.Proofs.Text.Lines

/-!
# Reading a page

A reader who knows nothing of tokens takes a page apart: into tags and the characters outside of
them, into lines, and in each line into the elements with their style classes. From every page this
reader gets the styled tokens of each line back, and without the tags and with the entities undone
the page is the script. So no text of a script is lost, and none is taken for markup.
-/
namespace BatchScript.Markup

/-- What a page is made of. -/
inductive Mark where
  /-- A tag, by what stands between its angle brackets. -/
  | tag (inside : Text)
  /-- A character outside of tags. -/
  | char (c : Char)
  deriving DecidableEq, Repr

/-- The character of a mark outside of tags. -/
def Mark.char? : Mark → Option Char
  | .tag _ => none
  | .char c => some c

/-- Takes markup apart; `inside` is what was read of a tag that is still open. An angle bracket that
is no end of a tag is refused, and so is a tag that stays open. -/
def readMarksFrom : Option Text → Text → Option (List Mark)
  | none, [] => some []
  | some _, [] => none
  | none, c :: cs =>
    if c = '<' then readMarksFrom (some []) cs
    else if c = '>' then none
    else (readMarksFrom none cs).map (.char c :: ·)
  | some inside, c :: cs =>
    if c = '>' then (readMarksFrom none cs).map (.tag inside :: ·)
    else if c = '<' then none
    else readMarksFrom (some (inside ++ [c])) cs

/-- The text that is left when all tags are deleted. -/
def withoutTags (marks : List Mark) : Text := marks.filterMap Mark.char?

/-- What begins with an ampersand in a page, without the ampersand. -/
def entities : List Text := ["amp;".toList, "lt;".toList, "gt;".toList]

/-- An element of a line. -/
structure Element where
  /-- Its style class. -/
  style : Text
  /-- Its text, with the entities undone. -/
  text : Text
  deriving DecidableEq, Repr

/-- The styled tokens of a line as elements. -/
def styled (tokens : List Token) : List Element :=
  tokens.filterMap fun token => token.category.styleClass?.map (⟨·, token.text⟩)

/-- Every ampersand of a text begins an entity. -/
def OnlyEntities (text : Text) : Prop :=
  ∀ front behind, text = front ++ '&' :: behind → ∃ entity ∈ entities, entity <+: behind

/-- A character as the three replacements leave it. -/
def escapeChar : Char → Text
  | '&' => "&amp;".toList
  | '<' => "&lt;".toList
  | '>' => "&gt;".toList
  | c => [c]

/-- What holds of the three entities in place of their characters, and of every other character in
place of itself, holds of every escaped character. -/
theorem escapeChar_induction {motive : Char → Text → Prop} (ampersand : motive '&' "&amp;".toList)
    (less : motive '<' "&lt;".toList) (greater : motive '>' "&gt;".toList)
    (other : ∀ c, c ≠ '&' → c ≠ '<' → c ≠ '>' → motive c [c]) (c : Char) :
    motive c (escapeChar c) := by
  unfold escapeChar
  split
  · exact ampersand
  · exact less
  · exact greater
  · rename_i notAmpersand notLess notGreater
    exact other c notAmpersand notLess notGreater

/-- The three replacements one after the other make up a single pass: none of them replaces a
character of a text that an earlier one has put in. -/
theorem escape_eq_flatMap (text : Text) : escape text = text.flatMap escapeChar := by
  simp only [escape, replace, List.flatMap_assoc]
  refine congrArg text.flatMap (funext fun c => ?_)
  induction c using escapeChar_induction with
  | ampersand => decide
  | less => decide
  | greater => decide
  | other c ampersand less greater => simp [ampersand, less, greater]

/-- Escaping goes part by part. -/
theorem escape_append (front behind : Text) :
    escape (front ++ behind) = escape front ++ escape behind := by
  simp only [escape_eq_flatMap, List.flatMap_append]

namespace OnlyEntities

/-- A text without ampersands has nothing that could be no entity. -/
theorem of_not_mem {text : Text} (without : '&' ∉ text) : OnlyEntities text := by
  intro front behind same
  exact absurd (same ▸ List.mem_append_right front List.mem_cons_self) without

/-- Parts in which every ampersand begins an entity make up such a text. -/
theorem append {first second : Text} (before : OnlyEntities first) (after : OnlyEntities second) :
    OnlyEntities (first ++ second) := by
  intro front behind same
  rcases List.append_eq_append_iff.1 same with ⟨between, _, rest⟩ | ⟨between, inside, rest⟩
  · exact after between behind rest
  · cases between with
    | nil => exact after [] behind (by simpa using rest.symm)
    | cons c cs =>
      obtain ⟨rfl, rfl⟩ := List.cons.inj rest
      obtain ⟨entity, member, begins⟩ := before front cs inside
      exact ⟨entity, member, begins.trans (List.prefix_append cs second)⟩

/-- Every ampersand of an entity is the one in front of it. -/
theorem of_entity {entity : Text} (member : entity ∈ entities) : OnlyEntities ('&' :: entity) := by
  have single : ∀ entity ∈ entities, '&' ∉ entity := by decide
  intro front behind same
  cases front with
  | nil =>
    obtain rfl : entity = behind := (List.cons.inj same).2
    exact ⟨entity, member, List.prefix_rfl⟩
  | cons c cs =>
    obtain rfl : entity = cs ++ '&' :: behind := (List.cons.inj same).2
    exact absurd (List.mem_append_right cs List.mem_cons_self) (single _ member)

/-- Every ampersand of an escaped character begins an entity. -/
theorem escapeChar (c : Char) : OnlyEntities (escapeChar c) := by
  induction c using escapeChar_induction with
  | ampersand => exact @of_entity "amp;".toList (by decide)
  | less => exact @of_entity "lt;".toList (by decide)
  | greater => exact @of_entity "gt;".toList (by decide)
  | other c ampersand _ _ => exact of_not_mem (by simpa using ampersand.symm)

/-- Every ampersand of an escaped text begins an entity. -/
theorem escape (text : Text) : OnlyEntities (escape text) := by
  induction text with
  | nil => exact of_not_mem (by decide)
  | cons c cs ih =>
    rw [escape_eq_flatMap] at ih ⊢
    rw [List.flatMap_cons]
    exact (escapeChar c).append ih

end OnlyEntities

/-- Whether a text holds no angle brackets. -/
def NoBrackets (text : Text) : Prop := '<' ∉ text ∧ '>' ∉ text

/-- The first character is none, and the others are none. -/
theorem noBrackets_cons {c : Char} {cs : Text} :
    NoBrackets (c :: cs) ↔ c ≠ '<' ∧ c ≠ '>' ∧ NoBrackets cs := by
  simp only [NoBrackets, List.mem_cons, not_or]
  constructor
  · rintro ⟨⟨less, before⟩, greater, behind⟩
    exact ⟨Ne.symm less, Ne.symm greater, before, behind⟩
  · rintro ⟨less, greater, before, behind⟩
    exact ⟨⟨Ne.symm less, before⟩, Ne.symm greater, behind⟩

/-- No angle bracket is left in an escaped character. -/
theorem noBrackets_escapeChar (c : Char) : NoBrackets (escapeChar c) := by
  induction c using escapeChar_induction with
  | ampersand => exact ⟨by decide, by decide⟩
  | less => exact ⟨by decide, by decide⟩
  | greater => exact ⟨by decide, by decide⟩
  | other c _ less greater =>
    exact noBrackets_cons.2 ⟨less, greater, List.not_mem_nil, List.not_mem_nil⟩

/-- No angle bracket is left in an escaped text. -/
theorem noBrackets_escape (text : Text) : NoBrackets (escape text) := by
  rw [escape_eq_flatMap]
  refine ⟨fun member => ?_, fun member => ?_⟩
  all_goals obtain ⟨c, -, inside⟩ := List.mem_flatMap.1 member
  · exact (noBrackets_escapeChar c).1 inside
  · exact (noBrackets_escapeChar c).2 inside

/-- Characters other than angle brackets are read as themselves. -/
theorem readMarksFrom_chars {written : Text} (plain : NoBrackets written) (rest : Text) :
    readMarksFrom none (written ++ rest) =
      (readMarksFrom none rest).map (written.map Mark.char ++ ·) := by
  induction written with
  | nil => exact Option.map_id'.symm
  | cons c cs ih =>
    obtain ⟨less, greater, later⟩ := noBrackets_cons.1 plain
    rw [List.cons_append, readMarksFrom, if_neg less, if_neg greater, ih later, Option.map_map]
    rfl

/-- What stands between the angle brackets of a tag is read as its inside. -/
theorem readMarksFrom_inside {behind : Text} (plain : NoBrackets behind) (inside rest : Text) :
    readMarksFrom (some inside) (behind ++ '>' :: rest) =
      (readMarksFrom none rest).map (.tag (inside ++ behind) :: ·) := by
  induction behind generalizing inside with
  | nil => rw [List.nil_append, readMarksFrom, if_pos rfl, List.append_nil]
  | cons c cs ih =>
    obtain ⟨less, greater, later⟩ := noBrackets_cons.1 plain
    rw [List.cons_append, readMarksFrom, if_neg greater, if_neg less, ih later, List.append_assoc,
      List.singleton_append]

/-- A written part of a page is taken apart into marks, in front of whatever follows. Without the
tags it is a text in escaped form, and its ampersands begin entities. -/
structure Shows (written : Text) (marks : List Mark) (text : Text) : Prop where
  /-- The marks are read off in front of the rest. -/
  read : ∀ rest, readMarksFrom none (written ++ rest) = (readMarksFrom none rest).map (marks ++ ·)
  /-- The characters outside of tags are the text in escaped form. -/
  bare : withoutTags marks = escape text
  /-- Every ampersand begins an entity. -/
  entities : OnlyEntities written

namespace Shows

/-- Nothing shows nothing. -/
theorem nil : Shows [] [] [] := by
  refine ⟨fun rest => ?_, rfl, OnlyEntities.of_not_mem (by simp)⟩
  exact Option.map_id'.symm

/-- Two parts one after the other show their texts one after the other. -/
theorem append {first second : Text} {marks others : List Mark} {text following : Text}
    (before : Shows first marks text) (after : Shows second others following) :
    Shows (first ++ second) (marks ++ others) (text ++ following) := by
  refine ⟨fun rest => ?_, ?_, before.entities.append after.entities⟩
  · rw [List.append_assoc, before.read, after.read, Option.map_map]
    refine congrArg (Option.map · _) (funext fun found => ?_)
    exact (List.append_assoc marks others found).symm
  · rw [withoutTags, List.filterMap_append, escape_append]
    exact congr (congrArg HAppend.hAppend before.bare) after.bare

/-- Parts of one kind show their texts one after the other. -/
theorem flatMap {α : Type} {written : α → Text} {marks : α → List Mark} {text : α → Text}
    {parts : List α} (each : ∀ part ∈ parts, Shows (written part) (marks part) (text part)) :
    Shows (parts.flatMap written) (parts.flatMap marks) (parts.flatMap text) := by
  induction parts with
  | nil => exact nil
  | cons part parts ih =>
    simp only [List.flatMap_cons]
    exact (each part List.mem_cons_self).append
      (ih fun part member => each part (List.mem_cons_of_mem _ member))

/-- Two parts with a mark of their own between neighbours. -/
theorem join {α : Type} {written : α → Text} {marks : α → List Mark} {text : α → Text}
    {separator shown : Text} {between : List Mark} (separates : Shows separator between shown)
    {parts : List α} (each : ∀ part ∈ parts, Shows (written part) (marks part) (text part)) :
    Shows (Text.join separator (parts.map written)) (List.intercalate between (parts.map marks))
      (Text.join shown (parts.map text)) := by
  induction parts with
  | nil => exact nil
  | cons first parts ih =>
    have here := each first List.mem_cons_self
    cases parts with
    | nil =>
      simp only [List.map_cons, List.map_nil, Text.join, List.intercalate_singleton]
      exact here
    | cons second parts =>
      have later := ih fun part member => each part (List.mem_cons_of_mem _ member)
      simp only [List.map_cons, Text.join, List.intercalate_cons_cons] at later ⊢
      exact (here.append separates).append later

/-- An escaped text shows the text. -/
theorem escaped (text : Text) : Shows (escape text) ((escape text).map .char) text := by
  refine ⟨fun rest => ?_, ?_, ?_⟩
  · exact readMarksFrom_chars (noBrackets_escape text) rest
  · rw [withoutTags, List.filterMap_map]
    exact List.filterMap_some
  · exact OnlyEntities.escape text

/-- A tag shows nothing. -/
theorem tag {inside : Text} (plain : NoBrackets inside) (ampersand : '&' ∉ inside) :
    Shows ('<' :: inside ++ ['>']) [.tag inside] [] := by
  refine ⟨fun rest => ?_, rfl, OnlyEntities.of_not_mem ?_⟩
  · rw [List.append_assoc, List.cons_append, readMarksFrom, if_pos rfl]
    exact readMarksFrom_inside plain [] rest
  · simpa using ampersand

end Shows

end BatchScript.Markup
