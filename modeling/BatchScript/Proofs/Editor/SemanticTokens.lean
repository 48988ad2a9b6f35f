import BatchScript.Proofs.Editor.Positions
import BatchScript.Proofs.Lexer.Restart
import BatchScript.Proofs.Lexer.Tiling
import Mathlib.Data.List.Forall2

/-!
# Reading semantic tokens

An editor reads the numbers of the semantic tokens five at a time and adds up what each token passes
since the one before it. It finds the styled tokens of the script again, each with its line, its
place and its size in code units, and the index of its style class. The tokens tile their lines, so
no number is negative and what the editor finds is ordered and does not overlap.
-/
namespace BatchScript

/-- A category with a style has a place for its style class in the list of all of them. -/
theorem Category.styleIndex?_spec {category : Category} (styled : category ≠ .plain) :
    ∃ index name, category.styleIndex? = some index ∧ styleClasses[index]? = some name ∧
      category.styleClass? = some name := by
  cases found : category.styleClass? with
  | none => exact absurd (category.styleClass?_eq_none_iff.1 found) styled
  | some name =>
    have member : name ∈ styleClasses := List.mem_filterMap.2 ⟨category, mem_all category, found⟩
    obtain ⟨index, place⟩ := Option.isSome_iff_exists.1 (List.isSome_idxOf?.2 member)
    obtain ⟨inside, same, -⟩ := List.idxOf?_eq_some_iff.1 place
    refine ⟨index, name, ?_, ?_, rfl⟩
    · rw [styleIndex?, found, Option.bind_some, place]
    · rw [List.getElem?_eq_getElem inside, same]

namespace Editor

/-- A token as an editor reads it off the numbers. -/
structure Entry where
  /-- The line. -/
  line : Int
  /-- The code units in front of it in its line. -/
  start : Int
  /-- Its size in code units. -/
  size : Int
  /-- The index of its style class. -/
  style : Int
  /-- Its modifiers. -/
  modifiers : Int
  deriving DecidableEq, Repr

/-- Reads tokens off the numbers, five for each. The lines count from the line of the token before;
the code units count from that token's start if both stand in one line, and from the line's start if
not. -/
def readEntries (line start : Int) : List Int → Option (List Entry)
  | [] => some []
  | lines :: passed :: size :: style :: modifiers :: rest =>
    let start := if lines = 0 then start + passed else passed
    (readEntries (line + lines) start rest).map
      (⟨line + lines, start, size, style, modifiers⟩ :: ·)
  | _ => none

/-- A token of a script with its line and the number of that line. -/
structure Lined where
  /-- The number of the line. -/
  number : Nat
  /-- The line. -/
  line : Text
  /-- The token. -/
  token : Token
  deriving DecidableEq, Repr

/-- The tokens of a script that are not plain, in order. -/
def styledTokens (source : Text) : List Lined :=
  (source.lines.zip (Lexer.tokenize source []).1).zipIdx.flatMap fun ((line, tokens), number) =>
    (tokens.filter fun token => token.category ≠ .plain).map fun token => ⟨number, line, token⟩

/-- An entry shows a token: its line, the code units in front of it there, its size in code units
and the place of its style class. It has no modifiers. -/
structure Entry.Shows (encoding : Encoding) (entry : Entry) (shown : Lined) : Prop where
  /-- The number of the line. -/
  line : entry.line = shown.number
  /-- The units of the line in front of the token. -/
  start : entry.start = encoding.units (shown.line.take shown.token.start.toNat)
  /-- The units of the token. -/
  size : entry.size = encoding.units shown.token.text
  /-- The style class of the token stands at the index. -/
  style : ∃ (index : Nat) (name : Text), entry.style = index ∧
    Category.styleClasses[index]? = some name ∧ shown.token.category.styleClass? = some name
  /-- There are no modifiers. -/
  modifiers : entry.modifiers = 0

/-- An entry stands before another one: in an earlier line, or in the same line where it starts
earlier and ends before the other starts. -/
def Entry.Before (first second : Entry) : Prop :=
  first.line < second.line ∨
    first.line = second.line ∧ first.start < second.start ∧ first.start + first.size ≤ second.start

/-- The entry of a placed token. -/
def Placed.entry (token : Placed) : Entry := ⟨token.line, token.start, token.size, token.style, 0⟩

/-- What is read off the relative numbers of placed tokens are their entries. -/
theorem readEntries_relative (line start : Nat) (tokens : List Placed) :
    readEntries line start (relative line start tokens) = some (tokens.map Placed.entry) := by
  induction tokens generalizing line start with
  | nil => rfl
  | cons token tokens ih =>
    have there : (line : Int) + ((token.line : Int) - line) = token.line := by omega
    have column : (if (token.line : Int) - line = 0
        then (start : Int) +
          (if token.line = line then (token.start : Int) - start else token.start)
        else if token.line = line then (token.start : Int) - start else token.start) =
          token.start := by
      by_cases same : token.line = line
      · rw [same, Int.sub_self, if_pos rfl, if_pos rfl]
        omega
      · rw [if_neg (by omega), if_neg same]
    simp only [relative, List.cons_append, List.nil_append, readEntries, there, column, ih,
      Option.map_some, List.map_cons, Placed.entry]

variable (encoding : Encoding)

/-- The placed tokens of lines, line by line with the numbers of the lines. -/
theorem placedFrom_eq_flatMap (number : Nat) (lines : List (Text × List Token)) :
    placedFrom encoding.units number lines =
      (lines.zipIdx number).flatMap fun ((line, tokens), number) =>
        placedIn encoding.units number line tokens := by
  induction lines generalizing number with
  | nil => rfl
  | cons line lines ih => rw [placedFrom, ih, List.zipIdx_cons, List.flatMap_cons]

/-- The placed tokens of a line show the tokens that are not plain. -/
theorem shows_placedIn (number : Nat) (line : Text) (tokens : List Token) :
    List.Forall₂ (fun placed shown => placed.entry.Shows encoding shown)
      (placedIn encoding.units number line tokens)
      ((tokens.filter fun token => token.category ≠ .plain).map fun token =>
        ⟨number, line, token⟩) := by
  induction tokens with
  | nil => exact .nil
  | cons token tokens ih =>
    by_cases plain : token.category = .plain
    · have hidden : token.category.styleIndex? = none := by rw [plain]; rfl
      rw [placedIn, List.filterMap_cons_none (by rw [hidden]; rfl),
        List.filter_cons_of_neg (by simpa using plain)]
      exact ih
    · obtain ⟨index, name, place, named, styled⟩ := Category.styleIndex?_spec plain
      rw [placedIn, List.filterMap_cons_some (by rw [place]; rfl),
        List.filter_cons_of_pos (by simpa using plain), List.map_cons]
      exact .cons ⟨rfl, rfl, rfl, ⟨index, name, rfl, named, styled⟩, rfl⟩ ih

/-- The placed tokens of a script show its tokens that are not plain. -/
theorem shows_placed (source : Text) :
    List.Forall₂ (fun placed shown => placed.entry.Shows encoding shown)
      (placed encoding.units source) (styledTokens source) := by
  rw [placed, styledTokens, placedFrom_eq_flatMap]
  generalize (source.lines.zip (Lexer.tokenize source []).1).zipIdx = lines
  induction lines with
  | nil => exact .nil
  | cons line lines ih =>
    rw [List.flatMap_cons, List.flatMap_cons]
    exact List.rel_append (shows_placedIn encoding line.2 line.1.1 line.1.2) ih

/-- The units in front of a token and its own are the units up to its end. -/
theorem units_take_stop {line : Text} {token : Token} (within : token.Within line 0) :
    encoding.units (line.take token.start.toNat) + encoding.units token.text =
      encoding.units (line.take token.stop.toNat) := by
  have wide := within.wide
  obtain ⟨start, first⟩ := Int.eq_ofNat_of_zero_le within.behind
  obtain ⟨stop, last⟩ := Int.eq_ofNat_of_zero_le (Int.le_trans within.behind (Int.le_of_lt wide))
  have ordered : start ≤ stop := by omega
  rw [within.shown, first, last, ← encoding.units_append, Int.toNat_natCast, Int.toNat_natCast,
    Text.take_append_slice line ordered]

/-- The placed tokens of a line that its tokens tile have its number, and have a size. -/
theorem of_mem_placedIn {number : Nat} {line : Text} {tokens : List Token} {placed : Placed}
    (tiled : Tiles line 0 tokens) (inside : placed ∈ placedIn encoding.units number line tokens) :
    placed.line = number ∧ 0 < placed.size := by
  obtain ⟨token, member, found⟩ := List.mem_filterMap.1 inside
  obtain ⟨style, -, rfl⟩ := Option.map_eq_some_iff.1 found
  exact ⟨rfl, encoding.units_pos (tiled.within.2 token member).nonempty⟩

/-- The placed tokens of a line that its tokens tile are ordered. -/
theorem before_placedIn {number : Nat} {line : Text} {tokens : List Token}
    (tiled : Tiles line 0 tokens) :
    (placedIn encoding.units number line tokens).Pairwise fun first second =>
      first.entry.Before second.entry := by
  rw [placedIn, List.pairwise_filterMap]
  refine tiled.apart.imp_of_mem fun {a b} here _ apart first found second other => ?_
  obtain ⟨_, -, rfl⟩ := Option.map_eq_some_iff.1 found
  obtain ⟨_, -, rfl⟩ := Option.map_eq_some_iff.1 other
  have within := tiled.within.2 a here
  have size := encoding.units_pos within.nonempty
  have ends := units_take_stop encoding within
  have later : encoding.units (line.take a.stop.toNat) ≤ encoding.units (line.take b.start.toNat) :=
    encoding.units_take_mono line (Int.toNat_le_toNat apart)
  refine .inr ⟨rfl, ?_, ?_⟩
  · simp only [Placed.entry]
    omega
  · simp only [Placed.entry]
    omega

/-- The placed tokens of lines that their tokens tile are ordered and have a size. -/
theorem ordered_placedFrom (number : Nat) {lines : List (Text × List Token)}
    (tiled : ∀ line ∈ lines, Tiles line.1 0 line.2) :
    ((placedFrom encoding.units number lines).Pairwise fun first second =>
        first.entry.Before second.entry) ∧
      ∀ token ∈ placedFrom encoding.units number lines, number ≤ token.line ∧ 0 < token.size := by
  induction lines generalizing number with
  | nil => exact ⟨List.Pairwise.nil, by simp [placedFrom]⟩
  | cons line lines ih =>
    obtain ⟨line, tokens⟩ := line
    have here := tiled (line, tokens) List.mem_cons_self
    obtain ⟨ordered, later⟩ := ih (number + 1) fun other inside =>
      tiled other (List.mem_cons_of_mem _ inside)
    rw [placedFrom]
    constructor
    · refine List.pairwise_append.2 ⟨before_placedIn encoding here, ordered, ?_⟩
      intro first inside second behind
      have own := (of_mem_placedIn encoding here inside).1
      have next := (later second behind).1
      refine .inl ?_
      simp only [Placed.entry]
      omega
    · intro token inside
      rcases List.mem_append.1 inside with first | behind
      · obtain ⟨same, size⟩ := of_mem_placedIn encoding here first
        exact ⟨Nat.le_of_eq same.symm, size⟩
      · obtain ⟨next, size⟩ := later token behind
        exact ⟨by omega, size⟩

/-- The numbers of ordered tokens behind a place are not negative. -/
theorem relative_nonneg (line start : Nat) {tokens : List Placed}
    (behind : ∀ token ∈ tokens, line < token.line ∨ line = token.line ∧ start ≤ token.start)
    (ordered : tokens.Pairwise fun first second => first.entry.Before second.entry) :
    ∀ number ∈ relative line start tokens, 0 ≤ number := by
  induction tokens generalizing line start with
  | nil => simp [relative]
  | cons token tokens ih =>
    obtain ⟨after, ordered⟩ := List.pairwise_cons.1 ordered
    have here := behind token List.mem_cons_self
    have later := ih token.line token.start (fun other inside => by
      have before := after other inside
      simp only [Entry.Before, Placed.entry] at before
      omega) ordered
    have lines : 0 ≤ (token.line : Int) - line := by omega
    have passed : 0 ≤ if token.line = line then (token.start : Int) - start else token.start := by
      split <;> omega
    intro number inside
    simp only [relative, List.cons_append, List.nil_append, List.mem_cons] at inside
    rcases inside with rfl | rfl | rfl | rfl | rfl | rest
    · exact lines
    · exact passed
    · exact Int.natCast_nonneg _
    · exact Int.natCast_nonneg _
    · exact Int.le_refl 0
    · exact later number rest

/-- On every host that counts in the code units of an encoding, an editor reads off the semantic
tokens of a document, in order, one entry for each token of the script that is not plain, with its
line, its place and its size in code units and the place of its style class. No number is negative,
every entry has a size, and the entries are ordered and do not overlap. -/
theorem highlight_read_back (host : Host) (encoding : Encoding) (counts : host.Counts encoding)
    (name source : Text) (found : host.document name = .ok source) :
    ∃ data entries, host.highlight name = .ok data ∧ readEntries 0 0 data = some entries ∧
      List.Forall₂ (Entry.Shows encoding) entries (styledTokens source) ∧
      (∀ number ∈ data, 0 ≤ number) ∧ (∀ entry ∈ entries, 0 < entry.size) ∧
      entries.Pairwise Entry.Before := by
  have highlighted : host.highlight name = .ok (semanticTokens encoding.units source) := by
    rw [Host.highlight, found, funext counts.units]
    rfl
  have tiled : ∀ line ∈ source.lines.zip (Lexer.tokenize source []).1, Tiles line.1 0 line.2 :=
    fun _ inside => Lexer.tiles_of_mem_zip inside
  obtain ⟨ordered, sized⟩ := ordered_placedFrom encoding 0 tiled
  refine ⟨_, (placed encoding.units source).map Placed.entry, highlighted,
    readEntries_relative 0 0 _, ?_, ?_, ?_, ?_⟩
  · exact List.forall₂_map_left_iff.2 (shows_placed encoding source)
  · exact relative_nonneg 0 0 (fun _ _ => by omega) ordered
  · intro entry inside
    obtain ⟨token, member, rfl⟩ := List.mem_map.1 inside
    exact Int.natCast_pos.2 (sized token member).2
  · exact List.pairwise_map.2 ordered

/-- In a document of the service, a character of two units, an empty line and a region over two
lines are read back. -/
theorem highlight_read_back_over_lines :
    let source : Text := "'😀' x=1\r\n\r\n%(a\nb)".toList
    let service := (Service.fresh .utf16).keep "a.bat".toList source
    service.host.Counts .utf16 ∧ service.document "a.bat".toList = .ok source ∧
      service.highlight "a.bat".toList = .ok
        [0, 0, 4, 7, 0, 0, 5, 1, 6, 0, 0, 1, 1, 3, 0, 0, 1, 1, 5, 0, 2, 0, 3, 8, 0, 1, 0, 2, 8, 0] ∧
      ∃ data entries, service.highlight "a.bat".toList = .ok data ∧
        readEntries 0 0 data = some entries ∧
        List.Forall₂ (Entry.Shows .utf16) entries (styledTokens source) ∧
        (∀ number ∈ data, 0 ≤ number) ∧ (∀ entry ∈ entries, 0 < entry.size) ∧
        entries.Pairwise Entry.Before := by
  intro source service
  exact ⟨service.counts, rfl, by decide +kernel,
    highlight_read_back service.host _ service.counts "a.bat".toList source rfl⟩

end Editor

end BatchScript
