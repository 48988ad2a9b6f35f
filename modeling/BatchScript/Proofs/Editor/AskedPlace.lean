import BatchScript.Proofs.Editor.Completion
import Mathlib.Control.Monad.Basic

/-!
# The place that completion edits

An editor asks for completion in a line and at a column, and expects that line to be edited around
that column. The position is looked up among the lines of the document, and the hint is given in the
lines of the script. Completion edits the place that was asked about exactly where the two agree on
it: the line is one of the document, and the column stands among as many of its characters as the
line of the script has. Behind a final line feed the script has one more line, and there another
line is edited. All of this follows from the laws of a host's conversions.
-/
namespace BatchScript.Editor

/-- The range of an item lies in one line and reaches around a column of it. -/
def Item.Spans (item : Item) (l c : Nat) : Prop :=
  item.start.line = l ∧ item.stop.line = l ∧ item.start.column ≤ c ∧ (c : Int) ≤ item.stop.column

namespace Host

variable {host : Host} {encoding : Encoding} {store : Store} {nesting : Data.Nesting}
  {name source : Text} {items : List Item} {item : Item} {log : List Log.Record}

/-- Items are answered for a hint at the position in characters, with its range in code units. -/
theorem hint_of_complete {position : Position} (found : host.document name = .ok source)
    (answered : host.complete store nesting name position = .ok (some items, log)) :
    ∃ response, Hint.hint store (some (Hint.bufferWords Hint.defaultRange))
        ⟨source, (host.fromClient source position).line,
          (host.fromClient source position).column⟩ nesting = .ok (some response, log) ∧
      ∀ item ∈ items,
        item.start = host.toClient source ⟨response.line, response.start⟩ ∧
        item.stop = host.toClient source ⟨response.line, response.stop⟩ := by
  obtain ⟨other, response, same, hinted, rfl⟩ := items_of_complete answered
  obtain rfl : source = other := Except.ok.inj (found.symm.trans same)
  exact ⟨response, hinted, (itemsFrom_show _ _ 0 response.candidates).2.2⟩

/-- In a line of a document, items replace a piece of that line. It starts in front of the column
that is found for the position, or of the end of the script's line, and stops there or behind it,
but not behind that end. -/
theorem range_of_complete (converts : host.Converts encoding) {l c : Nat} {line shown : Text}
    (found : host.document name = .ok source) (place : source.lines[l]? = some line)
    (there : (documentLines source)[l]? = some shown)
    (answered : host.complete store nesting name ⟨l, c⟩ = .ok (some items, log))
    (member : item ∈ items) :
    ∃ column start stop : Nat,
      FoundColumn encoding (countedLine shown) c column ∧
      start < min column line.length ∧ min column line.length ≤ stop ∧ stop ≤ line.length ∧
      item.start = ⟨l, encoding.units (shown.take start)⟩ ∧
      item.stop = ⟨l, encoding.units (shown.take stop)⟩ := by
  obtain ⟨column, cursor, asked⟩ := converts.inside there c
  obtain ⟨response, hinted, ranges⟩ := hint_of_complete found answered
  rw [cursor] at hinted
  have above : (0 : Int) ≤ (l : Int) := Int.natCast_nonneg l
  obtain ⟨same, least, ordered, greatest⟩ := Hint.span_of_hint above place hinted
  obtain ⟨starts, stops⟩ := Hint.covers_of_hint above place hinted
  obtain ⟨first, last⟩ := ranges item member
  simp only at starts stops
  have most : 0 ≤ response.stop := Int.le_trans least ordered
  rw [same, ← Int.toNat_of_nonneg least, converts.back there] at first
  rw [same, ← Int.toNat_of_nonneg most, converts.back there] at last
  refine ⟨column, response.start.toNat, response.stop.toNat, asked, ?_, ?_, ?_, first, last⟩
  · omega
  · omega
  · omega

/-- At a column that a line of a document has, completion edits the place exactly if the column has
its units among as many characters as the line of the script has. -/
theorem spans_iff_of_complete (converts : host.Converts encoding) {l c : Nat} {line shown : Text}
    (found : host.document name = .ok source) (place : source.lines[l]? = some line)
    (there : (documentLines source)[l]? = some shown)
    (answered : host.complete store nesting name ⟨l, c⟩ = .ok (some items, log))
    (member : item ∈ items)
    (enough : c ≤ encoding.units (countedLine shown)) :
    item.Spans l c ↔ c ≤ encoding.units ((countedLine shown).take line.length) := by
  obtain ⟨column, start, stop, asked, starts, stops, inside, first, last⟩ :=
    range_of_complete converts found place there answered member
  have counted {k : Nat} (near : k ≤ column) : encoding.units (shown.take k) =
      encoding.units ((countedLine shown).take k) :=
    units_take_countedLine encoding (List.mem_of_getElem? there)
      (Nat.le_trans near asked.within)
  have early : encoding.units (shown.take start) < c := by
    rw [counted (by omega)]
    exact asked.before start (by omega)
  simp only [Item.Spans, first, last, true_and]
  by_cases shorter : line.length < column
  · -- The range stops in front of the column that was found, so it does not reach the units.
    have ends : encoding.units ((countedLine shown).take line.length) < c :=
      asked.before line.length shorter
    have short : encoding.units (shown.take stop) < c := by
      rw [counted (by omega)]
      exact asked.before stop (by omega)
    omega
  · have near : column ≤ line.length := by omega
    have reached := asked.reached enough
    have wide : encoding.units ((countedLine shown).take column) ≤
        encoding.units ((countedLine shown).take line.length) :=
      encoding.units_take_mono _ near
    have ends : encoding.units (shown.take column) ≤
        encoding.units (shown.take stop) :=
      encoding.units_take_mono _ (by omega)
    rw [counted (Nat.le_refl column)] at ends
    omega

/-- A column behind the end of a line of a document is not reached. -/
theorem not_spans_of_short (converts : host.Converts encoding) {l c : Nat} {line shown : Text}
    (found : host.document name = .ok source) (place : source.lines[l]? = some line)
    (there : (documentLines source)[l]? = some shown)
    (answered : host.complete store nesting name ⟨l, c⟩ = .ok (some items, log))
    (member : item ∈ items)
    (short : encoding.units shown < c) : ¬ item.Spans l c := by
  obtain ⟨column, start, stop, -, -, -, -, -, last⟩ :=
    range_of_complete converts found place there answered member
  rintro ⟨-, -, -, reaches⟩
  have whole : encoding.units (shown.take stop) ≤ encoding.units shown := by
    have parts := encoding.units_append (shown.take stop) (shown.drop stop)
    rw [List.take_append_drop] at parts
    omega
  rw [last] at reaches
  simp only at reaches
  omega

/-- Behind the last line of a document, completion edits that line. -/
theorem line_of_behind (converts : host.Converts encoding) {l c : Nat}
    (found : host.document name = .ok source) (behind : (documentLines source).length ≤ l)
    (answered : host.complete store nesting name ⟨l, c⟩ = .ok (some items, log))
    (member : item ∈ items) :
    item.start.line + 1 = (documentLines source).length := by
  obtain ⟨response, hinted, ranges⟩ := hint_of_complete found answered
  obtain ⟨above, line, place⟩ := Hint.inside_of_hint hinted
  obtain ⟨-, ahead, -⟩ := Hint.token_of_hint above place hinted
  obtain ⟨same, least, -⟩ := Hint.span_of_hint above place hinted
  cases ended : (documentLines source).getLast? with
  | none =>
    -- An empty document has one empty line, and there is no hint in front of its first character.
    rw [converts.empty (List.getLast?_eq_none_iff.1 ended)] at ahead
    contradiction
  | some last =>
    rw [converts.behind ended behind] at same
    have final : (documentLines source)[(documentLines source).length - 1]? = some last := by
      rw [← List.getLast?_eq_getElem?, ended]
    have nonempty : (documentLines source).length - 1 < (documentLines source).length :=
      (List.getElem?_eq_some_iff.1 final).1
    have number : ((documentLines source).length : Int) - 1 =
        (((documentLines source).length - 1 : Nat) : Int) := by omega
    simp only at same
    rw [(ranges item member).1, same, number, ← Int.toNat_of_nonneg least, converts.back final]
    simp only
    omega

/-- Where completion answers, each of its items edits the place that was asked about exactly if the
document has the line, and among as many of its characters as the line of the script has there are
the units of the column. So this holds in every line of a document whose only line ends are line
feeds, but not in the empty line behind the last one, on every host that converts positions on the
lines of a document. -/
theorem completion_edits_asked_place (host : Host) (encoding : Encoding)
    (converts : host.Converts encoding) (store : Store) (nesting : Data.Nesting)
    (name source : Text) (l c : Nat) (line : Text) (items : List Item) (log : List Log.Record)
    (item : Item) (found : host.document name = .ok source)
    (place : source.lines[l]? = some line)
    (answered : host.complete store nesting name ⟨l, c⟩ = .ok (some items, log))
    (member : item ∈ items) :
    (feedsOnly source = true → l < (documentLines source).length →
      c ≤ encoding.units line → item.Spans l c) ∧
    (∀ shown, (documentLines source)[l]? = some shown →
      (c ≤ encoding.units (countedLine shown) →
        (item.Spans l c ↔ c ≤ encoding.units ((countedLine shown).take line.length))) ∧
      (encoding.units shown < c → ¬ item.Spans l c)) ∧
    ((documentLines source).length ≤ l → ¬ item.Spans l c) := by
  refine ⟨fun only inside near => ?_, fun shown there => ⟨?_, ?_⟩, fun behind spans => ?_⟩
  · have there := List.getElem?_eq_getElem inside
    obtain ⟨other, ending, same, whole, -, clean⟩ := line_of_documentLine only there
    obtain rfl : line = other := Option.some.inj (place.symm.trans same)
    rw [whole] at there
    have counted := countedLine_append clean ending
    refine (spans_iff_of_complete converts found place there answered member ?_).2 ?_
    · rw [counted, encoding.units_append]
      omega
    · rw [counted, List.take_left]
      exact near
  · exact spans_iff_of_complete converts found place there answered member
  · exact not_spans_of_short converts found place there answered member
  · have last := line_of_behind converts found behind answered member
    have asked := spans.1
    omega

/-- In a document of the service, behind a carriage return and a character of two units, the place
at the end of the line is edited. -/
theorem completion_edits_asked_place_behind_return :
    let source : Text := "rem\r\n😀 se".toList
    let service := (Service.fresh .utf16).keep "a.bat".toList source
    let item : Item := ⟨"set".toList, "set".toList, "00000".toList, ⟨1, 3⟩, ⟨1, 5⟩⟩
    service.host.Converts .utf16 ∧ service.document "a.bat".toList = .ok source ∧
      source.lines[1]? = some "😀 se".toList ∧
      (∃ items log,
        service.complete "a.bat".toList ⟨1, 5⟩ = .ok (some items, log) ∧ item ∈ items) ∧
      feedsOnly source = true ∧ 1 < (documentLines source).length ∧ item.Spans 1 5 := by
  intro source service item
  have found : service.document "a.bat".toList = .ok source := rfl
  have place : source.lines[1]? = some "😀 se".toList := by decide +kernel
  have answered : service.complete "a.bat".toList ⟨1, 5⟩ =
      .ok (some [item, { item with
        label := "setlocal".toList, newText := "setlocal".toList, sortText := "00001".toList }],
      [⟨.debug, .hint, "2 candidates for 'se'".toList⟩]) := by decide +kernel
  have only : feedsOnly source = true := by decide +kernel
  have inside : 1 < (documentLines source).length := by decide +kernel
  have spans := (completion_edits_asked_place service.host _ service.converts service.store
    service.nesting "a.bat".toList source 1 5 _ _ _ item found place answered
    List.mem_cons_self).1 only inside (by decide +kernel)
  exact ⟨service.converts, found, place, ⟨_, _, answered, List.mem_cons_self⟩, only, inside, spans⟩

/-- In the empty line behind a final line feed, the word in the line before is edited. -/
theorem completion_edits_line_before_last :
    let source : Text := "echo\n".toList
    let service := (Service.fresh .utf16).keep "a.bat".toList source
    let item : Item := ⟨"echo".toList, "echo".toList, "00000".toList, ⟨0, 0⟩, ⟨0, 4⟩⟩
    service.document "a.bat".toList = .ok source ∧ source.lines[1]? = some [] ∧
      (∃ log, service.complete "a.bat".toList ⟨1, 0⟩ = .ok (some [item], log)) ∧
      ¬ item.Spans 1 0 := by
  intro source service item
  have answered : service.complete "a.bat".toList ⟨1, 0⟩ =
      .ok (some [item], [⟨.debug, .hint, "1 candidates for 'echo'".toList⟩]) := by decide +kernel
  exact ⟨rfl, by decide +kernel, ⟨_, answered⟩, fun spans => absurd spans.1 (by decide)⟩

end Host

end BatchScript.Editor
