import BatchScript.Editor.Host
import BatchScript.Proofs.Editor.Units
import BatchScript.Proofs.Text.Lines

/-!
# Lines of a document and lines of a script

Where line feeds, alone or behind a carriage return, are the only line ends of a document, each of
its lines is the line of the script with the same number, and the line end. Then a column of the
script's line and the code units in front of it determine each other, on every host that converts
positions on the lines of a document, and in both directions of the conversion.
-/
namespace BatchScript.Editor

/-- Whether the only line ends of a document are line feeds, alone or behind a carriage return. -/
def feedsOnly : Text → Bool
  | [] => true
  | '\r' :: '\n' :: rest => feedsOnly rest
  | c :: rest => (c == '\n' || !isLineEnd c) && feedsOnly rest

/-- The ends that a line of such a document can have; the last line may have none. -/
def feeds : List Text := [[], ['\n'], ['\r', '\n']]

/-- Only an empty document has no lines. -/
theorem documentLines_eq_nil {source : Text} (none : documentLines source = []) : source = [] := by
  unfold documentLines at none
  split at none
  · rfl
  · simp at none
  · split at none
    · simp at none
    · split at none <;> simp at none

/-- A character that is not the first of two that end a line counts on its own. -/
theorem feedsOnly_cons {c : Char} {rest : Text}
    (other : ∀ behind, c = '\r' → rest = '\n' :: behind → False) :
    feedsOnly (c :: rest) = ((c == '\n' || !isLineEnd c) && feedsOnly rest) := by
  rw [feedsOnly]
  exact other

/-- A character that ends no line is neither a line feed nor a carriage return. -/
theorem ne_of_not_isLineEnd {c : Char} (inside : ¬ isLineEnd c = true) : c ≠ '\n' ∧ c ≠ '\r' := by
  constructor
  · rintro rfl
    exact inside (by decide)
  · rintro rfl
    exact inside (by decide)

/-- A line of a document that has only line feeds is a line of the script, without carriage returns,
with its line end. -/
theorem line_of_documentLine {source shown : Text} {l : Nat} (only : feedsOnly source = true)
    (found : (documentLines source)[l]? = some shown) :
    ∃ line ending, source.lines[l]? = some line ∧ shown = line ++ ending ∧ ending ∈ feeds ∧
      '\r' ∉ line := by
  fun_induction documentLines source generalizing l shown with
  | case1 => simp at found
  | case2 rest ih =>
    have split : Text.lines ('\r' :: '\n' :: rest) = [] :: Text.lines rest :=
      Text.lines_append_feed ['\r'] rest
    rw [split]
    cases l with
    | zero =>
      cases found
      exact ⟨[], ['\r', '\n'], rfl, rfl, by decide, by simp⟩
    | succ l => exact ih only found
  | case3 c rest other ended ih =>
    rw [feedsOnly_cons other, Bool.and_eq_true, ended] at only
    obtain rfl : c = '\n' := by simpa using only.1
    have split : Text.lines ('\n' :: rest) = [] :: Text.lines rest := Text.lines_append_feed [] rest
    rw [split]
    cases l with
    | zero =>
      cases found
      exact ⟨[], ['\n'], rfl, rfl, by decide, by simp⟩
    | succ l => exact ih only.2 found
  | case4 c rest other inside none =>
    obtain rfl := documentLines_eq_nil none
    obtain ⟨feed, return_⟩ := ne_of_not_isLineEnd inside
    rw [Text.lines_of_not_mem (by simpa using feed.symm) (by simpa using return_.symm)]
    cases l with
    | zero =>
      cases found
      exact ⟨[c], [], rfl, rfl, by decide, by simpa using return_.symm⟩
    | succ l => simp at found
  | case5 c rest other inside first lines some ih =>
    obtain ⟨feed, return_⟩ := ne_of_not_isLineEnd inside
    rw [feedsOnly_cons other, Bool.and_eq_true] at only
    rw [Text.lines_cons feed return_]
    cases l with
    | zero =>
      cases found
      obtain ⟨line, ending, place, rfl, kind, clean⟩ := ih only.2 (l := 0) (by rw [some]; rfl)
      refine ⟨c :: line, ending, ?_, rfl, kind, ?_⟩
      · rw [List.getElem?_modifyHead_zero, place]
        rfl
      · simp [clean, return_.symm]
    | succ l =>
      obtain ⟨line, ending, place, whole⟩ := ih only.2 (l := l + 1) (by rw [some]; exact found)
      exact ⟨line, ending, by rw [List.getElem?_modifyHead_succ, place], whole⟩

/-- An editor counts a line without carriage returns as it is. -/
theorem countedLine_append {line : Text} (clean : '\r' ∉ line) (ending : Text) :
    countedLine (line ++ ending) = line ++ countedLine ending := by
  induction line with
  | nil => rfl
  | cons c cs ih =>
    obtain ⟨other, clean⟩ := not_or.1 (mt List.mem_cons.2 clean)
    rw [List.cons_append, countedLine, ih clean, List.cons_append]
    exact fun _ return_ => absurd return_.symm other

/-- A line of a document holds no line end but at its end, where there is one character at most, or
a carriage return with a line feed. -/
theorem ending_of_mem_documentLines {source shown : Text} (member : shown ∈ documentLines source) :
    ∃ line ending, shown = line ++ ending ∧ (∀ c ∈ line, ¬ isLineEnd c = true) ∧
      (ending = ['\r', '\n'] ∨ ending.length ≤ 1) := by
  fun_induction documentLines source generalizing shown with
  | case1 => simp at member
  | case2 rest ih =>
    rcases List.mem_cons.1 member with rfl | later
    · exact ⟨[], ['\r', '\n'], rfl, by simp, .inl rfl⟩
    · exact ih later
  | case3 c rest other ended ih =>
    rcases List.mem_cons.1 member with rfl | later
    · exact ⟨[], [c], rfl, by simp, .inr (Nat.le_refl 1)⟩
    · exact ih later
  | case4 c rest other inside none ih =>
    obtain rfl := List.mem_singleton.1 member
    exact ⟨[c], [], rfl, by simpa using inside, .inr (Nat.zero_le 1)⟩
  | case5 c rest other inside first lines some ih =>
    rcases List.mem_cons.1 member with rfl | later
    · have behind : first ∈ documentLines rest := by simp [some]
      obtain ⟨line, ending, rfl, free, kind⟩ := ih behind
      refine ⟨c :: line, ending, rfl, fun d within => ?_, kind⟩
      rcases List.mem_cons.1 within with rfl | behind
      · exact inside
      · exact free d behind
    · exact ih (by simp [some, later])

variable (encoding : Encoding)

/-- Up to a column that an editor counts in a line of a document, the line has as many code units as
the line that the editor counts. -/
theorem units_take_countedLine {source shown : Text} (member : shown ∈ documentLines source)
    {column : Nat} (near : column ≤ (countedLine shown).length) :
    encoding.units (shown.take column) = encoding.units ((countedLine shown).take column) := by
  obtain ⟨line, ending, rfl, free, kind⟩ := ending_of_mem_documentLines member
  have clean : '\r' ∉ line := fun inside => free '\r' inside (by decide)
  rw [countedLine_append clean] at near ⊢
  rcases kind with rfl | short
  · -- A line feed is counted in place of both characters; each of the three has one unit.
    rw [List.length_append] at near
    rw [List.take_append, List.take_append, encoding.units_append, encoding.units_append]
    have single : (countedLine ['\r', '\n']).length = 1 := rfl
    rcases (by omega : column - line.length = 0 ∨ column - line.length = 1) with none | one
    · rw [none]
      rfl
    · rw [one]
      cases encoding <;> rfl
  · match ending, short with
    | [], _ => rfl
    | [c], _ =>
      have kept : countedLine [c] = [c] := by simp [countedLine]
      rw [kept]

namespace Host.Converts

variable {encoding : Encoding} {host : Host} {source line ending : Text} {l : Nat}

/-- The position in units of a column of a line is taken back to that column. -/
theorem fromClient_units (converts : host.Converts encoding)
    (found : (documentLines source)[l]? = some (line ++ ending)) (clean : '\r' ∉ line) {k : Nat}
    (near : k ≤ line.length) :
    host.fromClient source ⟨l, encoding.units (line.take k)⟩ = ⟨l, k⟩ := by
  obtain ⟨column, taken, within, before, reached⟩ :=
    converts.inside found (encoding.units (line.take k))
  rw [countedLine_append clean] at within before reached
  have front : (line ++ countedLine ending).take k = line.take k :=
    List.take_append_of_le_length near
  -- In front of the column there are as many units, so it is the one that is found.
  have same : column = k := by
    rcases Nat.lt_trichotomy column k with short | same | long
    · have fewer := encoding.units_take_lt short near
      have enough : encoding.units (line.take k) ≤ encoding.units (line ++ countedLine ending) := by
        have whole := encoding.units_take_mono line near
        rw [List.take_length] at whole
        rw [encoding.units_append]
        omega
      have there := reached enough
      rw [List.take_append_of_le_length (by omega)] at there
      omega
    · exact same
    · have fewer := before k long
      rw [front] at fewer
      omega
  rw [taken, same]

/-- A column of a line without its line end is converted to the units of that line in front of
it. -/
theorem toClient_units (converts : host.Converts encoding)
    (found : (documentLines source)[l]? = some (line ++ ending)) {column : Int} (least : 0 ≤ column)
    (near : column ≤ line.length) :
    host.toClient source ⟨l, column⟩ = ⟨l, encoding.units (line.take column.toNat)⟩ := by
  have inside : column.toNat ≤ line.length := by omega
  have back := converts.back found column.toNat
  rwa [Int.toNat_of_nonneg least, List.take_append_of_le_length inside] at back

end Host.Converts

end BatchScript.Editor
