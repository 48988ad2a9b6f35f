import BatchScript.Proofs.Editor.Completion
import BatchScript.Proofs.Hint.Candidates
import BatchScript.Proofs.Settings.StoredNames

/-!
# Sort keys of completion items

An editor may sort the items of a completion by their keys, which are their ranks in decimal digits
with zeros in front up to five digits. Digits of one length are ordered as the numbers that they
stand for, so the items keep their ranks for as long as no rank needs a sixth digit. The first one
that does comes before the rank in front of it.
-/
namespace BatchScript

namespace Text

/-- A text comes before another one in the order of code points: where they differ first it has the
lesser character, or it ends there. -/
def Precedes (first second : Text) : Prop :=
  List.Lex (fun c d => c.toNat < d.toNat) first second

/-- The first digit counts as often as there are numbers that the others can stand for. -/
theorem ofDigitChars_cons (c : Char) (cs : Text) :
    Nat.ofDigitChars 10 (c :: cs) 0 =
      Nat.pow 10 cs.length * (c.toNat - '0'.toNat) + Nat.ofDigitChars 10 cs 0 := by
  rw [Nat.ofDigitChars_cons, Nat.ofDigitChars_eq_ofDigitChars_zero, Nat.mul_zero, Nat.zero_add]
  rfl

/-- So many digits stand for one of so many numbers. -/
theorem ofDigitChars_lt_pow {digits : Text} (decimal : ∀ c ∈ digits, c.isDigit = true) :
    Nat.ofDigitChars 10 digits 0 < Nat.pow 10 digits.length := by
  induction digits with
  | nil => exact Nat.zero_lt_one
  | cons c cs ih =>
    have rest := ih fun d member => decimal d (List.mem_cons_of_mem c member)
    have bounds : 48 ≤ c.toNat ∧ c.toNat ≤ 57 :=
      Char.isDigit_iff_toNat.1 (decimal c List.mem_cons_self)
    have first : c.toNat - '0'.toNat ≤ 9 := Nat.sub_le_of_le_add bounds.2
    have scaled := Nat.mul_le_mul_left (Nat.pow 10 cs.length) first
    have width : Nat.pow 10 (c :: cs).length = Nat.pow 10 cs.length * 10 := rfl
    rw [ofDigitChars_cons, width]
    omega

/-- Of two texts of as many digits, the one that stands for the lesser number comes first. -/
theorem precedes_of_lt {first second : Text} (same : first.length = second.length)
    (firstDecimal : ∀ c ∈ first, c.isDigit = true) (secondDecimal : ∀ c ∈ second, c.isDigit = true)
    (less : Nat.ofDigitChars 10 first 0 < Nat.ofDigitChars 10 second 0) :
    Precedes first second := by
  induction first generalizing second with
  | nil =>
    obtain rfl := List.eq_nil_of_length_eq_zero same.symm
    exact absurd less (Nat.lt_irrefl _)
  | cons c cs ih =>
    cases second with
    | nil => cases same
    | cons d ds =>
      have rest : cs.length = ds.length := Nat.succ.inj same
      have lower := fun e member => firstDecimal e (List.mem_cons_of_mem c member)
      have upper := fun e member => secondDecimal e (List.mem_cons_of_mem d member)
      rw [ofDigitChars_cons, ofDigitChars_cons, rest] at less
      rcases Nat.lt_trichotomy c.toNat d.toNat with before | equal | behind
      · exact .rel before
      · obtain rfl := Char.toNat_inj.1 equal
        exact .cons (ih rest lower upper (Nat.lt_of_add_lt_add_left less))
      · -- A greater first digit outweighs all others.
        have bound := ofDigitChars_lt_pow upper
        have bounds : 48 ≤ d.toNat ∧ d.toNat ≤ 57 :=
          Char.isDigit_iff_toNat.1 (secondDecimal d List.mem_cons_self)
        have greater : (d.toNat - '0'.toNat) + 1 ≤ c.toNat - '0'.toNat := by
          change (d.toNat - 48) + 1 ≤ c.toNat - 48
          omega
        have scaled := Nat.mul_le_mul_left (Nat.pow 10 ds.length) greater
        rw [Nat.mul_add, Nat.mul_one] at scaled
        omega

/-- A number with zeros in front of it up to a width is made up of digits, has that width and stands
for the number, unless the number is longer. -/
theorem padZeros_ofNat (width n : Nat) (fits : (ofNat n).length ≤ width) :
    (∀ c ∈ padZeros width (ofNat n), c.isDigit = true) ∧
      (padZeros width (ofNat n)).length = width ∧
      Nat.ofDigitChars 10 (padZeros width (ofNat n)) 0 = n := by
  refine ⟨fun c member => ?_, ?_, ?_⟩
  · rcases List.mem_append.1 member with zero | digit
    · rw [List.eq_of_mem_replicate zero]
      rfl
    · exact Nat.isDigit_of_mem_toDigits (by decide) (by decide) digit
  · rw [padZeros, List.length_append, List.length_replicate, Nat.sub_add_cancel fits]
  · rw [padZeros, Nat.ofDigitChars_append, Nat.ofDigitChars_replicate_zero, Nat.mul_zero]
    exact Nat.ofDigitChars_ten_toDigits

/-- Numbers with zeros in front of them up to a width are ordered as numbers. -/
theorem padZeros_precedes {width less greater : Nat} (fits : (ofNat less).length ≤ width)
    (greaterFits : (ofNat greater).length ≤ width) (ordered : less < greater) :
    Precedes (padZeros width (ofNat less)) (padZeros width (ofNat greater)) := by
  obtain ⟨digits, length, value⟩ := padZeros_ofNat width less fits
  obtain ⟨greaterDigits, greaterLength, greaterValue⟩ := padZeros_ofNat width greater greaterFits
  refine precedes_of_lt (length.trans greaterLength.symm) digits greaterDigits ?_
  rw [value, greaterValue]
  exact ordered

end Text

namespace Editor

/-- There is one item for each candidate. -/
theorem length_itemsFrom (start stop : Position) (rank : Nat) (candidates : List Text) :
    (itemsFrom start stop rank candidates).length = candidates.length := by
  have labels := congrArg List.length (itemsFrom_show start stop rank candidates).1
  rwa [List.length_map] at labels

/-- The keys of the items are those of their ranks. -/
theorem sortText_itemsFrom (start stop : Position) (rank : Nat) (candidates : List Text) :
    (itemsFrom start stop rank candidates).map Item.sortText =
      (List.range' rank candidates.length).map sortKey := by
  induction candidates generalizing rank with
  | nil => rfl
  | cons candidate rest ih =>
    rw [itemsFrom, List.map_cons, ih, List.length_cons, List.range'_succ, List.map_cons]

/-- The key of the first rank with six digits does not come behind the key of the rank before. -/
theorem not_precedes_sixth_digit : ¬ Text.Precedes (sortKey 99999) (sortKey 100000) := by
  have last : sortKey 99999 = "99999".toList := by decide
  have next : sortKey 100000 = "100000".toList := by decide
  rw [last, next]
  intro before
  rcases List.cons_lex_cons_iff.1 before with less | ⟨same, -⟩
  · exact absurd less (by decide)
  · exact absurd same (by decide)

/-- The keys of the ranks below a number are in order exactly if none of them needs a sixth
digit. -/
theorem pairwise_sortKey_iff (count : Nat) :
    ((List.range' 0 count).map sortKey).Pairwise Text.Precedes ↔ count ≤ 100000 := by
  rw [List.pairwise_map]
  constructor
  · intro ordered
    refine Nat.le_of_not_lt fun more => not_precedes_sixth_digit ?_
    have length : (List.range' 0 count).length = count := List.length_range'
    have next := List.pairwise_iff_getElem.1 ordered 99999 100000 (by omega) (by omega) (by decide)
    rw [List.getElem_range', List.getElem_range'] at next
    exact next
  · intro few
    have fits {rank : Nat} (listed : rank ∈ List.range' 0 count) :
        (Text.ofNat rank).length ≤ 5 := by
      have below : rank < 0 + count := (List.mem_range'_1.1 listed).2
      have small : rank < 100000 := by omega
      exact (Nat.length_toDigits_le_iff (by decide) (by decide)).2 small
    have ranks : (List.range' 0 count).Pairwise (· < ·) := List.pairwise_lt_range'
    exact ranks.imp_of_mem fun first second less =>
      Text.padZeros_precedes (fits first) (fits second) less

/-- A service that stores so many special variables for the letter that its only document consists
of. -/
def Service.withVariables (count : Nat) : Service :=
  { Service.fresh .utf16 with
    store := ⟨none, some (Text.join [','] (List.replicate count "%~e".toList))⟩ }.keep
      "a.bat".toList "e".toList

open Service (withVariables)

/-- Its special variables are read back from the store. -/
theorem specialVariables_withVariables (count : Nat) :
    Hint.specialVariables (withVariables count).store = List.replicate count "%~e".toList := by
  refine (Settings.specialVariables_join_eq_iff _ none).2 ⟨fun name member => ?_, fun alone => ?_⟩
  · rw [List.eq_of_mem_replicate member]
    decide
  · have empty : [] ∈ List.replicate count "%~e".toList := by
      rw [alone]
      exact List.mem_singleton_self []
    exact absurd (List.eq_of_mem_replicate empty) (by decide)

/-- It answers with at least as many items. -/
theorem exists_items_withVariables (count : Nat) :
    ∃ items log, (withVariables count).complete "a.bat".toList ⟨0, 1⟩ = .ok (some items, log) ∧
      count ≤ items.length := by
  let request : Hint.Request := ⟨"e".toList, 0, 1⟩
  let source : Option Hint.WordSource := some (Hint.bufferWords Hint.defaultRange)
  let token : Token := ⟨.plain, 0, 1, "e".toList⟩
  obtain ⟨words, given⟩ : ∃ words, Hint.GivesWords source request words := ⟨_, rfl⟩
  have stored : Hint.customCommands (withVariables count).store = .ok ([], []) := rfl
  have lexed : Lexer.tokenAt "e".toList 1 [] = token := by decide +kernel
  have nonempty : token.text ≠ [] := by decide
  obtain ⟨log, completed⟩ := Hint.complete_eq_answer nonempty stored given
  have hinted :
      Hint.hint (withVariables count).store source request (withVariables count).nesting =
        Hint.complete (withVariables count).store source (Lexer.tokenAt "e".toList 1 []) request :=
    rfl
  rw [lexed, completed] at hinted
  have named : Position.check ⟨0, 1⟩ = .ok () := rfl
  have found : (withVariables count).document "a.bat".toList = .ok "e".toList := rfl
  have cursor : (withVariables count).host.fromClient "e".toList ⟨0, 1⟩ = ⟨0, 1⟩ := rfl
  have answered : (withVariables count).complete "a.bat".toList ⟨0, 1⟩ = _ :=
    Host.complete_of_named named found
  rw [cursor, hinted] at answered
  refine ⟨_, _, answered, ?_⟩
  have kept : (List.replicate count "%~e".toList).filter
      (Hint.matchesTyped token.text Hint.sigilLength) = List.replicate count "%~e".toList :=
    List.filter_replicate_of_pos (by decide +kernel)
  obtain ⟨further, whole, -⟩ := Hint.firstOccurrences_addWords
    (Hint.knownCandidates token.text [] (List.replicate count "%~e".toList)) words
  rw [length_itemsFrom, specialVariables_withVariables, whole, Hint.knownCandidates,
    Hint.addVariables_eq_append, kept, List.length_append, List.length_append,
    List.length_replicate]
  omega

/-- Whatever list of items completion answers with, on whatever host, their keys come one before the
other, in the order of code points, exactly if there are at most a hundred thousand items. -/
theorem sort_keys_in_order_iff (host : Host) (store : Store) (nesting : Data.Nesting) (name : Text)
    (position : Position) (items : List Item) (log : List Log.Record)
    (answered : host.complete store nesting name position = .ok (some items, log)) :
    (items.map Item.sortText).Pairwise Text.Precedes ↔ items.length ≤ 100000 := by
  obtain ⟨source, response, -, -, rfl⟩ := Host.items_of_complete answered
  rw [sortText_itemsFrom, pairwise_sortKey_iff, length_itemsFrom]

/-- With a hundred thousand and one special variables for the letter in the document, the keys are
out of order. -/
theorem sort_keys_out_of_order :
    ∃ items log, (withVariables 100001).complete "a.bat".toList ⟨0, 1⟩ = .ok (some items, log) ∧
      100000 < items.length ∧ ¬ (items.map Item.sortText).Pairwise Text.Precedes := by
  obtain ⟨items, log, answered, many⟩ := exists_items_withVariables 100001
  refine ⟨items, log, answered, many, fun ordered => ?_⟩
  have few := (sort_keys_in_order_iff _ _ _ _ _ items log answered).1 ordered
  omega

end Editor

end BatchScript
