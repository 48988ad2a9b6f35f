import BatchScript.Editor.Service
import BatchScript.Proofs.Editor.Units

/-!
# Positions of the service

The service keeps the laws of a host: it counts in the code units of its encoding, and it converts
positions on the lines of its documents. A position is converted by passing characters until the
code units of its column have been passed, which is where the column is found.
-/
namespace BatchScript.Editor

variable (encoding : Encoding)

/-- No more characters are passed than there are. -/
theorem charactersBefore_le_length (target : Int) (passed : Nat) (text : Text) :
    charactersBefore encoding target passed text ≤ text.length := by
  fun_induction charactersBefore encoding target passed text with
  | case1 => exact Nat.le_refl 0
  | case2 passed c rest ahead ih => exact Nat.succ_le_succ ih
  | case3 => exact Nat.zero_le _

/-- In front of a character that is passed, the target has not been reached. -/
theorem units_take_lt_target {target : Int} {passed : Nat} {text : Text} {column : Nat}
    (before : column < charactersBefore encoding target passed text) :
    ((passed + encoding.units (text.take column) : Nat) : Int) < target := by
  fun_induction charactersBefore encoding target passed text generalizing column with
  | case1 => exact absurd before (Nat.not_lt_zero column)
  | case2 passed c rest ahead ih =>
    cases column with
    | zero => simpa [Encoding.units] using ahead
    | succ column =>
      have later := ih (Nat.lt_of_succ_lt_succ before)
      rw [List.take_succ_cons, encoding.units_cons]
      omega
  | case3 => exact absurd before (Nat.not_lt_zero column)

/-- Behind the characters that are passed, the target has been reached, if the text reaches it. -/
theorem target_le_units_take {target : Int} {passed : Nat} {text : Text}
    (reached : target ≤ ((passed + encoding.units text : Nat) : Int)) :
    target ≤ ((passed +
      encoding.units (text.take (charactersBefore encoding target passed text)) : Nat) : Int) := by
  fun_induction charactersBefore encoding target passed text with
  | case1 => exact reached
  | case2 passed c rest ahead ih =>
    rw [encoding.units_cons] at reached
    rw [List.take_succ_cons, encoding.units_cons]
    have later := ih (by omega)
    omega
  | case3 passed c rest there =>
    simp only [List.take_zero, Encoding.units, List.foldr_nil]
    omega

variable {source shown : Text} {l : Nat}

/-- In a line of a document the characters are passed that an editor counts there. -/
theorem fromClient_inside (found : (documentLines source)[l]? = some shown) (column : Int) :
    fromClient encoding source ⟨l, column⟩ =
      ⟨l, charactersBefore encoding
        (if (encoding.units (countedLine shown) : Int) < column
          then encoding.units (countedLine shown) - 1 else column) 0 (countedLine shown)⟩ := by
  obtain ⟨inside, -⟩ := List.getElem?_eq_some_iff.1 found
  obtain ⟨last, ended⟩ : ∃ last, (documentLines source).getLast? = some last := by
    cases lines : documentLines source with
    | nil => simp [lines] at inside
    | cons first rest => exact ⟨_, List.getLast?_cons⟩
  have before : ¬ ((documentLines source).length : Int) ≤ (l : Int) := by omega
  simp only [fromClient, ended, before, ↓reduceIte, Int.toNat_natCast, found, Option.getD_some]

/-- A position in a line of a document is taken to the column that is found for it. -/
theorem fromClient_found (found : (documentLines source)[l]? = some shown) (c : Nat) :
    ∃ column : Nat, fromClient encoding source ⟨l, c⟩ = ⟨l, column⟩ ∧
      FoundColumn encoding (countedLine shown) c column := by
  refine ⟨_, fromClient_inside encoding found c, charactersBefore_le_length .., ?_, ?_⟩
  · intro k earlier
    have passed := units_take_lt_target encoding earlier
    split at passed <;> omega
  · intro enough
    have fits : ¬ (encoding.units (countedLine shown) : Int) < (c : Int) := by omega
    rw [if_neg fits]
    have whole : (c : Int) ≤ ((0 + encoding.units (countedLine shown) : Nat) : Int) := by omega
    have reached := target_le_units_take encoding whole
    omega

/-- Behind the last line of a document a position is taken back to the end of that line. -/
theorem fromClient_behind {last : Text} (ended : (documentLines source).getLast? = some last)
    (behind : (documentLines source).length ≤ l) (column : Int) :
    fromClient encoding source ⟨l, column⟩ =
      ⟨(documentLines source).length - 1, encoding.units last⟩ := by
  have after : ((documentLines source).length : Int) ≤ (l : Int) := by omega
  simp only [fromClient, ended, after, ↓reduceIte]

/-- A column of a line of a document is converted to the units in front of it. -/
theorem toClient_inside (found : (documentLines source)[l]? = some shown) (column : Int) :
    toClient encoding source ⟨l, column⟩ = ⟨l, encoding.units (shown.take column.toNat)⟩ := by
  simp only [toClient, Int.toNat_natCast, found]

/-- The service counts in the code units of its encoding. -/
theorem Service.counts (service : Service) : service.host.Counts service.encoding :=
  ⟨fun _ => rfl⟩

/-- The service converts positions on the lines of its documents. -/
theorem Service.converts (service : Service) : service.host.Converts service.encoding where
  inside := fromClient_found service.encoding
  behind ended behind c := fromClient_behind service.encoding ended behind c
  empty none position := by
    simp only [host, fromClient, none, List.getLast?_nil]
  back found column := toClient_inside service.encoding found column

end BatchScript.Editor
