import BatchScript.Proofs.Editor.DocumentLines
import BatchScript.Proofs.Editor.Positions
import BatchScript.Proofs.Hint.Response

/-!
# Completion at an editor's position

An editor asks for completion at a position in its own units, and gets the hint for the column in
characters, with the range to replace in its own units again. Where line feeds are the only line
ends, the two conversions are inverse to each other on every line, so nothing is lost on the way. Of
the host that keeps the documents no more is used than the laws of its conversions, which the
service keeps.
-/
namespace BatchScript.Editor

/-- The items show the candidates of a response in order, and all of them replace the same range of
its line, in code units. -/
structure ItemsShow (encoding : Encoding) (l : Nat) (line : Text) (response : Hint.Response)
    (items : List Item) : Prop where
  /-- The labels are the candidates. -/
  labels : items.map Item.label = response.candidates
  /-- The inserted texts are the candidates. -/
  texts : items.map Item.newText = response.candidates
  /-- Every range starts behind the units in front of what the response replaces. -/
  start : ∀ item ∈ items, item.start = ⟨l, encoding.units (line.take response.start.toNat)⟩
  /-- Every range stops behind the units up to the end of what the response replaces. -/
  stop : ∀ item ∈ items, item.stop = ⟨l, encoding.units (line.take response.stop.toNat)⟩
  /-- What the response replaces stands in the line. -/
  span : 0 ≤ response.start ∧ response.start ≤ response.stop ∧ response.stop ≤ line.length

/-- What is answered to an editor follows a hint: it fails with the same cause, is silent at the
same time, or shows the candidates, and leaves the same log. -/
structure Follows (encoding : Encoding) (l : Nat) (line : Text)
    (hinted : Except Error (Option Hint.Response × List Log.Record))
    (answered : Except Error (Option (List Item) × List Log.Record)) : Prop where
  /-- Both fail, or none. -/
  failing (cause : Error) : hinted = .error cause ↔ answered = .error cause
  /-- Both are silent, or none. -/
  silent (log : List Log.Record) : hinted = .ok (none, log) ↔ answered = .ok (none, log)
  /-- Candidates are shown. -/
  showing (response : Hint.Response) (log : List Log.Record) :
    hinted = .ok (some response, log) →
      ∃ items, answered = .ok (some items, log) ∧ ItemsShow encoding l line response items

/-- What is answered follows a hint if it is the hint with items made of the response that show
it. -/
theorem follows_map {encoding : Encoding} {l : Nat} {line : Text}
    {hinted : Except Error (Option Hint.Response × List Log.Record)}
    {items : Hint.Response → List Item}
    (shown : ∀ response log, hinted = .ok (some response, log) →
      ItemsShow encoding l line response (items response)) :
    Follows encoding l line hinted
      (hinted.map fun (response, log) => (response.map items, log)) := by
  refine ⟨fun cause => ?_, fun log => ?_, fun response log given => ?_⟩
  · cases hinted with
    | error other => simp [Except.map]
    | ok result => simp [Except.map]
  · cases hinted with
    | error other => simp [Except.map]
    | ok result =>
      obtain ⟨response, other⟩ := result
      cases response <;> simp [Except.map]
  · refine ⟨items response, ?_, shown response log given⟩
    rw [given]
    rfl

/-- The items of candidates show them in order with the range they are given. -/
theorem itemsFrom_show (start stop : Position) (rank : Nat) (candidates : List Text) :
    (itemsFrom start stop rank candidates).map Item.label = candidates ∧
      (itemsFrom start stop rank candidates).map Item.newText = candidates ∧
      ∀ item ∈ itemsFrom start stop rank candidates, item.start = start ∧ item.stop = stop := by
  induction candidates generalizing rank with
  | nil => exact ⟨rfl, rfl, by simp [itemsFrom]⟩
  | cons candidate rest ih =>
    obtain ⟨labels, texts, ranges⟩ := ih (rank + 1)
    rw [itemsFrom, List.map_cons, List.map_cons, labels, texts]
    refine ⟨rfl, rfl, fun item inside => ?_⟩
    rcases List.mem_cons.1 inside with rfl | later
    · exact ⟨rfl, rfl⟩
    · exact ranges item later

namespace Host

variable {host : Host} {encoding : Encoding} {store : Store} {nesting : Data.Nesting} {name : Text}
  {position : Position}

/-- A position that no editor may name is refused. -/
theorem complete_of_refused {cause : Error} (refused : position.check = .error cause) :
    host.complete store nesting name position = .error cause := by
  rw [complete, refused]
  rfl

/-- At a position that an editor may name, the hint for its column in characters is answered. -/
theorem complete_of_named {source : Text} (named : position.check = .ok ())
    (found : host.document name = .ok source) :
    host.complete store nesting name position =
      (Hint.hint store (some (Hint.bufferWords Hint.defaultRange))
        ⟨source, (host.fromClient source position).line,
          (host.fromClient source position).column⟩ nesting).map fun (response, log) =>
        (response.map fun response =>
          itemsFrom (host.toClient source ⟨response.line, response.start⟩)
            (host.toClient source ⟨response.line, response.stop⟩) 0 response.candidates, log) := by
  rw [complete, named, found]
  rfl

/-- Items are answered for a hint in the document at the position in characters, with its range in
code units. -/
theorem items_of_complete {items : List Item} {log : List Log.Record}
    (answered : host.complete store nesting name position = .ok (some items, log)) :
    ∃ source response, host.document name = .ok source ∧
      Hint.hint store (some (Hint.bufferWords Hint.defaultRange))
        ⟨source, (host.fromClient source position).line,
          (host.fromClient source position).column⟩ nesting = .ok (some response, log) ∧
      items = itemsFrom (host.toClient source ⟨response.line, response.start⟩)
        (host.toClient source ⟨response.line, response.stop⟩) 0 response.candidates := by
  cases named : position.check with
  | error cause =>
    rw [complete_of_refused named] at answered
    contradiction
  | ok _ =>
    cases found : host.document name with
    | error cause =>
      rw [complete, named, found] at answered
      contradiction
    | ok source =>
      rw [complete_of_named named found] at answered
      cases hinted : Hint.hint store (some (Hint.bufferWords Hint.defaultRange))
          ⟨source, (host.fromClient source position).line,
            (host.fromClient source position).column⟩ nesting with
      | error cause =>
        rw [hinted] at answered
        contradiction
      | ok result =>
        rw [hinted] at answered
        obtain ⟨response, records⟩ := result
        cases response with
        | none => simp [Except.map] at answered
        | some response =>
          simp only [Except.map, Option.map_some, Except.ok.injEq, Prod.mk.injEq,
            Option.some.injEq] at answered
          obtain ⟨rfl, rfl⟩ := answered
          exact ⟨source, response, rfl, hinted, rfl⟩

/-- In a document whose only line ends are line feeds, every line is a line of the script, and at
each of its columns, given in code units, completion follows the hint for that column. Only where no
editor may name the position, because a number in it is too great, it is refused. This holds on
every host that converts positions on the lines of a document. -/
theorem completion_follows_hint (host : Host) (encoding : Encoding)
    (converts : host.Converts encoding) (store : Store) (nesting : Data.Nesting)
    (name source : Text) (l : Nat) (found : host.document name = .ok source)
    (only : feedsOnly source = true) (inside : l < (documentLines source).length) :
    ∃ line, source.lines[l]? = some line ∧ ∀ k ≤ line.length,
      let position : Position := ⟨l, encoding.units (line.take k)⟩
      (position.check = .ok () →
        Follows encoding l line
          (Hint.hint store (some (Hint.bufferWords Hint.defaultRange)) ⟨source, l, k⟩ nesting)
          (host.complete store nesting name position)) ∧
      ∀ cause, position.check = .error cause →
        host.complete store nesting name position = .error cause := by
  obtain ⟨line, ending, place, whole, -, clean⟩ :=
    line_of_documentLine only (List.getElem?_eq_getElem inside)
  have shown : (documentLines source)[l]? = some (line ++ ending) := by
    rw [List.getElem?_eq_getElem inside, whole]
  refine ⟨line, place, fun k near => ⟨fun named => ?_, fun cause => complete_of_refused⟩⟩
  rw [complete_of_named named found, converts.fromClient_units shown clean near]
  refine follows_map fun response log given => ?_
  obtain ⟨same, least, ordered, greatest⟩ := Hint.span_of_hint (Int.natCast_nonneg l) place given
  have start := converts.toClient_units shown least (Int.le_trans ordered greatest)
  have stop := converts.toClient_units shown (Int.le_trans least ordered) greatest
  obtain ⟨labels, texts, ranges⟩ := itemsFrom_show
    (host.toClient source ⟨response.line, response.start⟩)
    (host.toClient source ⟨response.line, response.stop⟩) 0 response.candidates
  refine ⟨labels, texts, fun item member => ?_, fun item member => ?_, least, ordered, greatest⟩
  · rw [(ranges item member).1, same, start]
  · rw [(ranges item member).2, same, stop]

/-- In the second line of a document of the service, behind a carriage return and a character of two
units, completion follows the hint. -/
theorem completion_follows_hint_behind_return :
    let source : Text := "echo \"a\r\n😀\" se\r\n".toList
    let service := { Service.fresh .utf16 with store := ⟨none, some "%~send".toList⟩ }.keep
      "a.bat".toList source
    service.host.Converts .utf16 ∧ service.document "a.bat".toList = .ok source ∧
      feedsOnly source = true ∧ 1 < (documentLines source).length ∧
      source.lines[1]? = some "😀\" se".toList ∧
      Follows .utf16 1 "😀\" se".toList
        (Hint.hint service.store (some (Hint.bufferWords Hint.defaultRange)) ⟨source, 1, 5⟩)
        (service.complete "a.bat".toList ⟨1, 6⟩) := by
  intro source service
  have found : service.document "a.bat".toList = .ok source := rfl
  have only : feedsOnly source = true := by decide +kernel
  have inside : 1 < (documentLines source).length := by decide +kernel
  have second : source.lines[1]? = some "😀\" se".toList := by decide +kernel
  obtain ⟨line, place, follows⟩ := completion_follows_hint service.host _ service.converts
    service.store service.nesting "a.bat".toList source 1 found only inside
  obtain rfl : "😀\" se".toList = line := Option.some.inj (second.symm.trans place)
  have named : Position.check ⟨1, 6⟩ = .ok () := by
    simp [Position.check, Position.checkNumber, Position.limit, bind, Except.bind]
  exact ⟨service.converts, found, only, inside, second, (follows 5 (by decide)).1 named⟩

end Host

end BatchScript.Editor
