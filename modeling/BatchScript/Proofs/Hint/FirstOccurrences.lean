import BatchScript.Hint.BufferWords
import Mathlib.Data.List.Basic
import Mathlib.Data.List.Induction

/-!
# First occurrences

Candidates are gathered one after the other, and one that is there already is not added again. What
has been gathered that way is every text once, in the order in which the texts occur first. The
order is stated by the places of the first occurrences, and the induction follows the gathering: the
step adds one text behind those before it.
-/
namespace BatchScript.Hint

/-- Every one of some texts once, in the order in which they occur first. -/
structure FirstOccurrences (texts kept : List Text) : Prop where
  /-- Exactly these texts are kept. -/
  same : ∀ text, text ∈ kept ↔ text ∈ texts
  /-- What is kept earlier occurs first at an earlier place. -/
  ordered : kept.Pairwise fun earlier later => texts.idxOf earlier < texts.idxOf later

namespace FirstOccurrences

variable {texts kept : List Text}

/-- Nothing is kept twice. -/
theorem nodup (first : FirstOccurrences texts kept) : kept.Nodup := by
  refine first.ordered.imp fun {earlier later} before same => ?_
  rw [same] at before
  exact Nat.lt_irrefl _ before

/-- One more text is kept behind the others unless it has occurred. -/
theorem concat (first : FirstOccurrences texts kept) (text : Text) :
    FirstOccurrences (texts ++ [text]) (if text ∈ texts then kept else kept ++ [text]) := by
  have place {other : Text} (member : other ∈ texts) :
      (texts ++ [text]).idxOf other = texts.idxOf other := List.idxOf_append_of_mem member
  have ordered : kept.Pairwise fun earlier later =>
      (texts ++ [text]).idxOf earlier < (texts ++ [text]).idxOf later := by
    refine first.ordered.imp_of_mem fun {earlier later} inside within before => ?_
    rw [place ((first.same earlier).1 inside), place ((first.same later).1 within)]
    exact before
  by_cases occurred : text ∈ texts
  · rw [if_pos occurred]
    refine ⟨fun other => ?_, ordered⟩
    rw [first.same, List.mem_append, List.mem_singleton]
    exact ⟨.inl, fun found => found.elim id fun same => same ▸ occurred⟩
  · rw [if_neg occurred]
    refine ⟨fun other => ?_, List.pairwise_append.2 ⟨ordered, List.pairwise_singleton _ _, ?_⟩⟩
    · rw [List.mem_append, List.mem_append, first.same]
    · intro earlier inside later last
      obtain rfl := List.mem_singleton.1 last
      have member := (first.same earlier).1 inside
      have behind : (texts ++ [later]).idxOf later = texts.length := by
        rw [List.idxOf_append_of_notMem occurred, List.idxOf_cons_self, Nat.add_zero]
      rw [place member, behind]
      exact List.idxOf_lt_length_of_mem member

/-- A text that is kept has an occurrence in front of which no text occurs that is kept later. -/
theorem split (first : FirstOccurrences texts kept) :
    kept.Pairwise fun earlier later =>
      ∃ front rest, texts = front ++ earlier :: rest ∧ later ∉ front ∧ later ≠ earlier := by
  refine first.ordered.imp_of_mem fun {earlier later} inside _ before => ?_
  obtain ⟨front, rest, whole, without⟩ :=
    List.eq_append_cons_of_mem ((first.same earlier).1 inside)
  have place : texts.idxOf earlier = front.length := by
    rw [whole, List.idxOf_append_of_notMem without, List.idxOf_cons_self, Nat.add_zero]
  refine ⟨front, rest, whole, fun ahead => ?_, fun same => ?_⟩
  · have sooner : texts.idxOf later < front.length := by
      rw [whole, List.idxOf_append_of_mem ahead]
      exact List.idxOf_lt_length_of_mem ahead
    omega
  · rw [same] at before
    exact Nat.lt_irrefl _ before

end FirstOccurrences

/-- What is added one after the other to some texts, unless it is there already, is every other text
where it occurs first. -/
theorem firstOccurrences_foldl_addNew (known texts : List Text) :
    ∃ further, texts.foldl addNew known = known ++ further ∧
      FirstOccurrences (texts.filter fun text => text ∉ known) further := by
  induction texts using List.reverseRecOn with
  | nil => exact ⟨[], (List.append_nil known).symm, fun _ => Iff.rfl, List.Pairwise.nil⟩
  | append_singleton texts text ih =>
    obtain ⟨further, gathered, first⟩ := ih
    rw [List.foldl_append, gathered, List.filter_append]
    by_cases old : text ∈ known
    · refine ⟨further, ?_, ?_⟩
      · exact if_pos (List.mem_append_left further old)
      · have none : [text].filter (fun text => text ∉ known) = [] := by simp [old]
        rw [none, List.append_nil]
        exact first
    · have single : [text].filter (fun text => text ∉ known) = [text] := by simp [old]
      have there : text ∈ known ++ further ↔ text ∈ texts.filter fun text => text ∉ known := by
        rw [List.mem_append, first.same, or_iff_right old]
      rw [single]
      refine ⟨_, ?_, first.concat text⟩
      change addNew (known ++ further) text = _
      rw [addNew]
      by_cases occurred : text ∈ texts.filter fun text => text ∉ known
      · rw [if_pos occurred, if_pos (there.2 occurred)]
      · rw [if_neg occurred, if_neg (mt there.1 occurred), List.append_assoc]

/-- Texts that are added one after the other to none are kept where they occur first. -/
theorem firstOccurrences_gathered (texts : List Text) :
    FirstOccurrences texts (texts.foldl addNew []) := by
  obtain ⟨further, gathered, first⟩ := firstOccurrences_foldl_addNew [] texts
  have all : (texts.filter fun text => text ∉ ([] : List Text)) = texts := by simp
  rw [all] at first
  rw [gathered, List.nil_append]
  exact first

end BatchScript.Hint
