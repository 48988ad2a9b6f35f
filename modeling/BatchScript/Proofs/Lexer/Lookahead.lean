import BatchScript.Proofs.Lexer.Passages

/-!
# How far a token looks ahead

A scanner inspects at most two characters behind the token it settles: the one that ends it, and
behind a dollar sign that may open an expansion the one after it. So two lines with a common
beginning have the same tokens there, and the same stacks between them, up to two characters in
front of the place where the lines part.

Below, `u` is the common beginning, and `v` and `w` are what follows it in the two lines.
-/
namespace BatchScript

/-- Two settled tokens are alike in front of `v` and of `w`: they differ only in that. -/
def Scanned.Alike (v w : Text) (left right : Scanned) : Prop :=
  ∃ category shared stack,
    left = ⟨category, shared ++ v, stack⟩ ∧ right = ⟨category, shared ++ w, stack⟩

/-- Two steps are alike in front of `v` and of `w`: both settle alike tokens, or both hand over the
same stack with as much of the common text left. -/
def Step.Alike (v w : Text) (left right : Step) : Prop :=
  (∃ first second, left = .settled first ∧ right = .settled second ∧ first.Alike v w second) ∨
    ∃ shared stack, left = .handedOver (shared ++ v) stack ∧ right = .handedOver (shared ++ w) stack

/-- Tokens that leave the same common text are alike. -/
theorem Scanned.alike_mk {v w : Text} (category : Category) (shared : Text) (stack : Stack) :
    Alike v w ⟨category, shared ++ v, stack⟩ ⟨category, shared ++ w, stack⟩ :=
  ⟨category, shared, stack, rfl, rfl⟩

/-- Steps that settle alike tokens are alike. -/
theorem Scanned.Alike.settled {v w : Text} {first second : Scanned}
    (alike : first.Alike v w second) :
    (Step.settled first).Alike v w (.settled second) :=
  .inl ⟨first, second, rfl, rfl, alike⟩

/-- Steps that hand over the same common text are alike. -/
theorem Step.alike_handedOver {v w : Text} (shared : Text) (stack : Stack) :
    Alike v w (.handedOver (shared ++ v) stack) (.handedOver (shared ++ w) stack) :=
  .inr ⟨shared, stack, rfl, rfl⟩

namespace Scanner

variable {current other : Text → Text} {u v w : Text}

/-- Two readings of the token so far agree in front of `v` and of `w`, wherever in `u` it may
end. -/
def SharedReading (current other : Text → Text) (v w u : Text) : Prop :=
  ∀ shared, shared <:+ u → current (shared ++ v) = other (shared ++ w)

/-- Agreement holds further on in the common text. -/
theorem SharedReading.mono {shared : Text} (same : SharedReading current other v w u)
    (left : shared <:+ u) : SharedReading current other v w shared :=
  fun later behind => same later (behind.trans left)

/-- What is longer than `v` by two has two characters in front of it. -/
theorem two_of_far {rest : Text} (left : rest <:+ u ++ v) (far : v.length + 2 ≤ rest.length) :
    ∃ c d us, u = c :: d :: us := by
  have long := left.length_le
  rw [List.length_append] at long
  match u, long with
  | [], long | [_], long =>
    simp only [List.length_cons, List.length_nil] at long
    omega
  | c :: d :: us, _ => exact ⟨c, d, us, rfl⟩

/-- A run of characters that stops inside the common text stops there whatever follows. -/
theorem dropWhile_shared {p : Char → Bool} (far : v.length < ((u ++ v).dropWhile p).length) :
    u.dropWhile p ≠ [] ∧ ∀ behind, (u ++ behind).dropWhile p = u.dropWhile p ++ behind := by
  have stops : u.dropWhile p ≠ [] := by
    intro empty
    rw [List.dropWhile_append, empty] at far
    have short := (List.dropWhile_suffix (l := v) p).length_le
    simp only [List.isEmpty_nil, ↓reduceIte] at far
    omega
  refine ⟨stops, fun behind => ?_⟩
  simp [List.dropWhile_append, stops]

/-- A sign is dropped from the common text alone, if some of that is left. -/
theorem dropFront_shared (c : Char) (nonempty : u ≠ []) (behind : Text) :
    dropFront c (u ++ behind) = dropFront c u ++ behind := by
  match u, nonempty with
  | d :: us, _ =>
    rw [List.cons_append, dropFront, dropFront]
    split <;> rfl

/-- The next character is that of the common text, if some of that is left. -/
theorem head?_shared (nonempty : u ≠ []) (behind : Text) : (u ++ behind).head? = u.head? := by
  match u, nonempty with
  | d :: us, _ => rfl

/-- A name that ends inside the common text is settled alike. -/
theorem settleName_alike (nonempty : u ≠ []) (same : SharedReading current other v w u)
    (stack : Stack) :
    (settleName current (u ++ v) stack).Alike v w (settleName other (u ++ w) stack) := by
  simp only [settleName, head?_shared nonempty, same u (List.suffix_refl u)]
  split
  · exact Scanned.alike_mk _ u stack
  · exact Scanned.alike_mk _ u stack

/-- Settling a name leaves the text behind it. -/
theorem rest_settleName (current : Text → Text) (rest : Text) (stack : Stack) :
    (settleName current rest stack).rest = rest := by
  unfold settleName
  split <;> rfl

/-- A name that stops inside the common text is read alike. -/
theorem scanName_alike (same : SharedReading current other v w u) (stack : Stack)
    (far : v.length < (scanName current (u ++ v) stack).rest.length) :
    (scanName current (u ++ v) stack).Alike v w (scanName other (u ++ w) stack) := by
  rw [scanName, rest_settleName] at far
  obtain ⟨stops, shared⟩ := dropWhile_shared far
  rw [scanName, scanName, shared, shared]
  exact settleName_alike stops (same.mono (List.dropWhile_suffix isNameChar)) stack

/-- Digits that end inside the common text are settled alike. -/
theorem settleNumber_alike (nonempty : u ≠ []) (same : SharedReading current other v w u)
    (stack : Stack) (far : v.length < (settleNumber current (u ++ v) stack).rest.length) :
    (settleNumber current (u ++ v) stack).Alike v w (settleNumber other (u ++ w) stack) := by
  simp only [settleNumber, head?_shared nonempty] at far ⊢
  by_cases word : u.head?.any isWordChar
  · simp only [word, ↓reduceIte] at far ⊢
    exact scanName_alike same stack far
  · simp only [word, Bool.false_eq_true, ↓reduceIte]
    exact Scanned.alike_mk .number u stack

/-- A variable whose name ends inside the common text is settled alike. -/
theorem settleReference_alike (nonempty : u ≠ []) (same : SharedReading current other v w u)
    (c : Char) (below : Stack) :
    (settleReference current c (u ++ v) below).Alike v w
      (settleReference other c (u ++ w) below) := by
  simp only [settleReference, same u (List.suffix_refl u), dropFront_shared '%' nonempty]
  split
  · exact Scanned.alike_mk _ (dropFront '%' u) below
  · exact Scanned.alike_mk _ u below

/-- Plain text that stops two characters inside the common text does the same whatever follows. -/
theorem scanPlain_alike (same : SharedReading current other v w u) (stack : Stack)
    (far : v.length + 2 ≤ (scanPlain current stack (u ++ v)).rest.length) :
    (scanPlain current stack (u ++ v)).Alike v w (scanPlain other stack (u ++ w)) := by
  obtain ⟨c, d, us, rfl⟩ := two_of_far (scanPlain_suffix current stack (u ++ v)) far
  have nonempty := List.cons_ne_nil d us
  have behind := same.mono (List.suffix_cons c (d :: us))
  have front (later : Text) : c :: d :: us ++ later = c :: (d :: us ++ later) := rfl
  simp only [front, scanPlain, head?_shared nonempty] at far ⊢
  by_cases blank : isBlank c
  · simp only [blank, ↓reduceIte, Step.rest] at far ⊢
    obtain ⟨-, shared⟩ := dropWhile_shared (Nat.lt_of_succ_lt far)
    rw [shared, shared]
    exact (Scanned.alike_mk _ _ _).settled
  simp only [blank, ↓reduceIte, Bool.false_eq_true] at far ⊢
  by_cases quote : c ∈ Text.quotes
  · simp only [quote, ↓reduceIte]
    exact Step.alike_handedOver (d :: us) _
  simp only [quote, ↓reduceIte] at far ⊢
  by_cases comment : c = ':' ∧ (d :: us).head? = some ':'
  · simp only [comment, ↓reduceIte, Step.rest, and_self] at far
    simp at far
  simp only [comment, ↓reduceIte] at far ⊢
  by_cases percent : c = '%'
  · simp only [percent, ↓reduceIte]
    exact Step.alike_handedOver (d :: us) _
  simp only [percent, ↓reduceIte] at far ⊢
  by_cases operator : c = '+' ∨ c = '=' ∨ c = '@'
  · simp only [operator, ↓reduceIte]
    exact (Scanned.alike_mk _ (d :: us) _).settled
  simp only [operator, ↓reduceIte] at far ⊢
  by_cases hyphen : c = '-'
  · simp only [hyphen, ↓reduceIte, Step.rest, dropFront_shared '-' nonempty] at far ⊢
    obtain ⟨-, shared⟩ := dropWhile_shared (Nat.lt_of_succ_lt far)
    rw [shared, shared]
    exact (Scanned.alike_mk _ _ _).settled
  simp only [hyphen, ↓reduceIte] at far ⊢
  by_cases number : isDigit c ∨ c = '.'
  · simp only [number, ↓reduceIte, Step.rest] at far ⊢
    have digits := Nat.le_trans far (settleNumber_suffix current _ stack).length_le
    obtain ⟨stops, shared⟩ := dropWhile_shared (Nat.lt_of_succ_lt digits)
    rw [shared] at far
    rw [shared, shared]
    exact (settleNumber_alike stops (behind.mono (List.dropWhile_suffix isDigit)) stack
      (Nat.lt_of_succ_lt far)).settled
  simp only [number, ↓reduceIte, Step.rest] at far ⊢
  exact (scanName_alike behind stack (Nat.lt_of_succ_lt far)).settled

/-- What stands behind the sign of an expansion does the same whatever follows the common text, if
it stops two characters inside. -/
theorem scanReference_alike (same : SharedReading current other v w u) (below : Stack)
    (far : v.length + 2 ≤ (scanReference current below (u ++ v)).rest.length) :
    (scanReference current below (u ++ v)).Alike v w (scanReference other below (u ++ w)) := by
  obtain ⟨c, d, us, rfl⟩ := two_of_far (scanReference_suffix current below (u ++ v)) far
  have behind := same.mono (List.suffix_cons c (d :: us))
  have front (later : Text) : c :: d :: us ++ later = c :: (d :: us ++ later) := rfl
  simp only [front, scanReference] at far ⊢
  cases found : Mode.expanded? c with
  | some region => exact Step.alike_handedOver (d :: us) _
  | none =>
    simp only [found] at far ⊢
    by_cases digit : isDigit c
    · simp only [digit, ↓reduceIte]
      exact (Scanned.alike_mk _ (d :: us) _).settled
    simp only [digit, Bool.false_eq_true, ↓reduceIte, Step.rest] at far ⊢
    have word := Nat.le_trans far (settleReference_suffix current c _ below).length_le
    obtain ⟨stops, shared⟩ := dropWhile_shared (Nat.lt_of_succ_lt word)
    rw [shared, shared]
    exact (settleReference_alike stops (behind.mono (List.dropWhile_suffix isWordChar)) c
      below).settled

/-- An expansion does the same whatever follows the common text, if it stops two characters
inside. -/
theorem scanExpansion_alike (same : SharedReading current other v w u) (below : Stack)
    (far : v.length + 2 ≤ (scanExpansion current below (u ++ v)).rest.length) :
    (scanExpansion current below (u ++ v)).Alike v w (scanExpansion other below (u ++ w)) := by
  obtain ⟨c, d, us, rfl⟩ := two_of_far (scan_suffix current (u ++ v) (.expansion :: below)) far
  unfold scanExpansion at far ⊢
  split at far
  · rename_i alone
    simp only [alone, ↓reduceIte]
    exact scanReference_alike same below far
  · rename_i above
    rw [dropFront_shared '$' (List.cons_ne_nil c _)] at far
    simp only [above, Bool.false_eq_true, ↓reduceIte, dropFront_shared '$' (List.cons_ne_nil c _)]
    exact scanReference_alike (same.mono (dropFront_suffix '$' _)) below far

/-- A text of which a suffix is longer than `v` by two starts with the common text, and the
character behind the first one is common too. -/
theorem front_of_far {c : Char} {cs rest : Text} (whole : u ++ v = c :: cs)
    (left : rest <:+ c :: cs)
    (far : v.length + 2 ≤ rest.length) : ∃ d us, u = c :: d :: us ∧ cs = d :: us ++ v := by
  obtain ⟨first, d, us, rfl⟩ := two_of_far (whole ▸ left) far
  injection whole with same behind
  exact ⟨d, us, by rw [same], behind.symm⟩

/-- A region does the same whatever follows the common text, if it stops two characters inside. Two,
since behind a dollar sign it looks one character further. -/
theorem scanRegion_alike (closer : Text) (category : Category) (below : Stack)
    (far : v.length + 2 ≤ (scanRegion closer category (u ++ v) below).rest.length) :
    (scanRegion closer category (u ++ v) below).Alike v w
      (scanRegion closer category (u ++ w) below) := by
  have front (c : Char) (cs : Text) : c :: cs ++ w = c :: (cs ++ w) := rfl
  have peek (d : Char) (us later : Text) : (d :: us ++ later).take 1 = [d] := rfl
  generalize whole : u ++ v = unread at far ⊢
  fun_induction scanRegion closer category unread below generalizing u with
  | case1 below | case6 below => simp at far
  | case2 c cs below closed =>
    obtain ⟨d, us, rfl, rfl⟩ := front_of_far whole (List.suffix_cons c cs) far
    rw [front, scanRegion_cons, if_pos closed]
    exact Scanned.alike_mk category (d :: us) below
  | case3 c cs below closed dollar =>
    obtain ⟨d, us, rfl, rfl⟩ := front_of_far whole (List.suffix_refl _) far
    rw [peek] at dollar
    rw [front, scanRegion_cons, peek, if_neg closed, if_pos dollar]
    exact Scanned.alike_mk category (c :: d :: us) _
  | case4 c cs below closed dollar opened nested =>
    have left := scanRegion_suffix closer category cs (.region closer category false :: below)
    obtain ⟨d, us, rfl, rfl⟩ := front_of_far whole (left.trans (List.suffix_cons c cs)) far
    rw [peek] at dollar
    rw [front, scanRegion_cons, peek, if_neg closed, if_neg dollar, if_pos opened]
    exact nested rfl far
  | case5 c cs below closed dollar opened quote =>
    obtain ⟨d, us, rfl, rfl⟩ := front_of_far whole (List.suffix_refl _) far
    rw [peek] at dollar
    rw [front, scanRegion_cons, peek, if_neg closed, if_neg dollar, if_neg opened, if_pos quote]
    exact Scanned.alike_mk category (c :: d :: us) _
  | case7 below hidden cs closed opened quote dollar read =>
    have left := (scanRegion_suffix closer category cs below).trans (List.suffix_cons hidden cs)
    obtain ⟨d, us, rfl, same⟩ := front_of_far whole (left.trans (List.suffix_cons _ _)) far
    rw [List.cons_append, List.cons.injEq] at same
    obtain ⟨rfl, rfl⟩ := same
    rw [← List.cons_append, peek] at dollar
    rw [front, scanRegion_cons, peek, if_neg closed, if_neg dollar, if_neg opened, if_neg quote,
      if_pos rfl]
    exact read rfl far
  | case8 c cs below closed dollar opened quote escape read =>
    have left := scanRegion_suffix closer category cs below
    obtain ⟨d, us, rfl, rfl⟩ := front_of_far whole (left.trans (List.suffix_cons c cs)) far
    rw [peek] at dollar
    rw [front, scanRegion_cons, peek, if_neg closed, if_neg dollar, if_neg opened, if_neg quote,
      if_neg escape]
    exact read rfl far

/-- A scanner does the same whatever follows the common text, if it stops two characters inside. -/
theorem scan_alike (same : SharedReading current other v w u) (stack : Stack)
    (far : v.length + 2 ≤ (scan current (u ++ v) stack).rest.length) :
    (scan current (u ++ v) stack).Alike v w (scan other (u ++ w) stack) := by
  match stack with
  | [] => exact scanPlain_alike same [] far
  | .plain :: below => exact scanPlain_alike same (.plain :: below) far
  | .expansion :: below => exact scanExpansion_alike same below far
  | .region closer category true :: below =>
    obtain ⟨c, d, us, rfl⟩ := two_of_far (List.drop_suffix 1 (u ++ v)) far
    exact Step.alike_handedOver (d :: us) _
  | .region closer category false :: below =>
    exact (scanRegion_alike closer category below far).settled

/-- What is left in front of `v` is left of the common text. -/
theorem suffix_of_append_suffix {shared : Text} (left : shared ++ v <:+ u ++ v) : shared <:+ u := by
  obtain ⟨read, whole⟩ := left
  rw [← List.append_assoc] at whole
  exact ⟨read, List.append_cancel_right whole⟩

/-- Handing over does the same whatever follows the common text, if it ends two characters
inside. -/
theorem dispatch_alike (same : SharedReading current other v w u) (stack : Stack)
    (far : v.length + 2 ≤ (dispatch current (u ++ v) stack).rest.length) :
    (dispatch current (u ++ v) stack).Alike v w (dispatch other (u ++ w) stack) := by
  generalize whole : u ++ v = unread at far ⊢
  fun_induction dispatch current unread stack generalizing u with
  | case1 unread stack result settled =>
    subst whole
    rcases scan_alike same stack (by rw [settled]; exact far) with
      ⟨first, second, left, right, alike⟩ | ⟨shared, next, left, -⟩
    · rw [settled, Step.settled.injEq] at left
      rw [left, dispatch_settled right]
      exact alike
    · rw [settled] at left
      contradiction
  | case2 unread stack rest next handed ih =>
    subst whole
    have long := Nat.le_trans far (dispatch_suffix current rest next).length_le
    have kept := scan_suffix current (u ++ v) stack
    rw [handed] at kept
    rcases scan_alike same stack (by rw [handed]; exact long) with
      ⟨first, second, left, -, -⟩ | ⟨shared, after, left, right⟩
    · rw [handed] at left
      contradiction
    · rw [handed, Step.handedOver.injEq] at left
      obtain ⟨rfl, rfl⟩ := left
      rw [dispatch_handedOver right]
      exact ih (same.mono (suffix_of_append_suffix kept)) rfl far

/-- A token is the same whatever follows the common text, if it ends two characters inside. -/
theorem scanToken_alike {c : Char} {us : Text} (same : SharedReading current other v w (c :: us))
    (stack : Stack) (far : v.length + 2 ≤ (scanToken current c (us ++ v) stack).rest.length) :
    (scanToken current c (us ++ v) stack).Alike v w (scanToken other c (us ++ w) stack) := by
  fun_induction scanToken current c (us ++ v) stack with
  | case1 stack scanned read =>
    obtain ⟨category, shared, next, left, right⟩ := dispatch_alike (u := c :: us) same stack far
    have short : (dispatch other (c :: (us ++ w)) stack).rest.length ≤ (us ++ w).length := by
      change scanned = _ at left
      change dispatch other (c :: (us ++ w)) stack = _ at right
      rw [left] at read
      rw [right]
      simp only [List.length_append] at read ⊢
      omega
    rw [scanToken_of_read short]
    exact ⟨category, shared, next, left, right⟩
  | case2 stack scanned stalled ih =>
    have later := (scanToken_advances current c (us ++ v) scanned.stack).length_le
    have long : v.length + 2 ≤ (dispatch current (c :: us ++ v) stack).rest.length := by
      change v.length + 2 ≤ scanned.rest.length
      omega
    obtain ⟨category, shared, next, left, right⟩ := dispatch_alike (u := c :: us) same stack long
    change scanned = _ at left
    change dispatch other (c :: (us ++ w)) stack = _ at right
    have stuck : ¬ (dispatch other (c :: (us ++ w)) stack).rest.length ≤ (us ++ w).length := by
      rw [left] at stalled
      rw [right]
      simp only [List.length_append] at stalled ⊢
      omega
    rw [scanToken_of_stalled stuck, right]
    rw [left] at ih far ⊢
    exact ih far

end Scanner

namespace Lexer

/-- The next token of a line is the same whatever follows the common text, if it ends two characters
inside. -/
theorem nextScanned_alike {c : Char} {us v w : Text} (stack : Stack)
    (far : v.length + 2 ≤ (nextScanned c (us ++ v) stack).rest.length) :
    (nextScanned c (us ++ v) stack).Alike v w (nextScanned c (us ++ w) stack) := by
  apply Scanner.scanToken_alike _ stack far
  rintro shared ⟨read, whole⟩
  rw [← List.cons_append, ← List.cons_append, ← whole, List.append_assoc, List.append_assoc,
    readSoFar_append, readSoFar_append]

/-- If some token stops two characters inside the common text, then so does the first one. -/
theorem far_of_mem_passagesFrom {c : Char} {us v : Text} {column : Nat} {stack : Stack}
    {passage : Passage} (inside : passage ∈ passagesFrom column (c :: us ++ v) stack)
    (near : passage.token.stop + 2 ≤ column + (c :: us).length) :
    v.length + 2 ≤ (nextScanned c (us ++ v) stack).rest.length := by
  obtain ⟨read, -, whole, text⟩ := nextScanned_reads c (us ++ v) stack
  have first : (column : Int) + read.length ≤ passage.token.stop := by
    rw [List.cons_append, passagesFrom_cons text] at inside
    rcases List.mem_cons.1 inside with rfl | later
    · exact Int.le_refl _
    · have behind := lt_stop_of_mem_passagesFrom later
      omega
  have length := congrArg List.length whole
  simp only [List.length_append, List.length_cons] at length near
  omega

/-- If some token stops two characters inside the common text, then the first passage and what is
left of the common text behind it are the same whatever follows that text. -/
theorem passagesFrom_shared {u v : Text} (w : Text) {column : Nat} {stack : Stack}
    {passage : Passage} (inside : passage ∈ passagesFrom column (u ++ v) stack)
    (near : passage.token.stop + 2 ≤ column + u.length) :
    ∃ first read shared next, read ++ shared = u ∧
      passagesFrom column (u ++ v) stack =
        first :: passagesFrom (column + read.length) (shared ++ v) next ∧
      passagesFrom column (u ++ w) stack =
        first :: passagesFrom (column + read.length) (shared ++ w) next := by
  match u with
  | [] =>
    have behind := lt_stop_of_mem_passagesFrom inside
    simp only [List.length_nil] at near
    omega
  | c :: us =>
    have far := far_of_mem_passagesFrom inside near
    obtain ⟨category, shared, next, left, right⟩ := nextScanned_alike (w := w) stack far
    have kept : shared ++ v <:+ c :: us ++ v := by
      have behind := Scanner.scanToken_advances (readSoFar (c :: (us ++ v))) c (us ++ v) stack
      rw [← nextScanned, left] at behind
      exact behind.trans (List.suffix_cons c (us ++ v))
    obtain ⟨read, whole⟩ := Scanner.suffix_of_append_suffix kept
    have passed (behind : Text)
        (found : nextScanned c (us ++ behind) stack = ⟨category, shared ++ behind, next⟩) :
        passagesFrom column (c :: us ++ behind) stack =
          ⟨⟨category, column, column + read.length, read⟩, stack, next⟩ ::
            passagesFrom (column + read.length) (shared ++ behind) next := by
      have text : readSoFar (c :: (us ++ behind)) (nextScanned c (us ++ behind) stack).rest =
          read := by
        rw [found, ← List.cons_append, ← whole, List.append_assoc, readSoFar_append]
      rw [List.cons_append, passagesFrom_cons text, found]
    exact ⟨_, read, shared, next, whole, passed v left, passed w right⟩

/-- A passage whose token stops two characters inside the common text is found at the same place
whatever follows that text. -/
theorem getElem?_passagesFrom_shared {u v : Text} (w : Text) {column i : Nat} {stack : Stack}
    {passage : Passage} (found : (passagesFrom column (u ++ v) stack)[i]? = some passage)
    (near : passage.token.stop + 2 ≤ column + u.length) :
    (passagesFrom column (u ++ w) stack)[i]? = some passage := by
  induction i generalizing u column stack with
  | zero =>
    obtain ⟨first, read, shared, next, -, left, right⟩ :=
      passagesFrom_shared w (List.mem_of_getElem? found) near
    rw [left] at found
    rw [right]
    exact found
  | succ i ih =>
    obtain ⟨first, read, shared, next, whole, left, right⟩ :=
      passagesFrom_shared w (List.mem_of_getElem? found) near
    have length := congrArg List.length whole
    rw [List.length_append] at length
    rw [left, List.getElem?_cons_succ] at found
    rw [right, List.getElem?_cons_succ]
    exact ih found (by omega)

/-- Two lines with a common beginning have the same tokens at the same places, with the same stacks
behind them, as long as the tokens stop two characters in front of the end of that beginning. -/
theorem tokens_before_change_kept (stack : Stack) (u v w : Text) (i : Nat) (token : Token)
    (found : (tokenizeLine (u ++ v) stack).1[i]? = some token)
    (near : token.stop ≤ (u.length : Int) - 2) :
    (tokenizeLine (u ++ w) stack).1[i]? = some token ∧
      ∃ behind, stackBehind? (u ++ v) stack i = some behind ∧
        stackBehind? (u ++ w) stack i = some behind := by
  have tokens (line : Text) :
      (tokenizeLine line stack).1[i]? = (passages line stack)[i]?.map Passage.token := by
    rw [tokenizeLine, tokenizeFrom_eq_passagesFrom, List.getElem?_map, passages]
  rw [tokens, Option.map_eq_some_iff] at found
  obtain ⟨passage, placed, rfl⟩ := found
  have kept : (passages (u ++ w) stack)[i]? = some passage :=
    getElem?_passagesFrom_shared w placed (by omega)
  refine ⟨?_, passage.behind, ?_, ?_⟩
  · rw [tokens, kept, Option.map_some]
  · rw [stackBehind?, placed, Option.map_some]
  · rw [stackBehind?, kept, Option.map_some]

/-- A string that a dollar sign interrupts stays as it is when the name behind the sign grows. -/
theorem tokens_before_change_kept_at_dollar :
    (tokenizeLine ("\"ab$x".toList ++ []) []).1[0]? = some ⟨.string, 0, 3, "\"ab".toList⟩ ∧
      (3 : Int) ≤ ("\"ab$x".toList.length : Int) - 2 ∧
      (tokenizeLine ("\"ab$x".toList ++ "1 y".toList) []).1[0]? =
        some ⟨.string, 0, 3, "\"ab".toList⟩ ∧
      ∃ behind, stackBehind? ("\"ab$x".toList ++ []) [] 0 = some behind ∧
        stackBehind? ("\"ab$x".toList ++ "1 y".toList) [] 0 = some behind := by
  have found : (tokenizeLine ("\"ab$x".toList ++ []) []).1[0]? =
      some ⟨.string, 0, 3, "\"ab".toList⟩ := by decide +kernel
  have near : (3 : Int) ≤ ("\"ab$x".toList.length : Int) - 2 := by decide
  exact ⟨found, near, tokens_before_change_kept [] "\"ab$x".toList [] "1 y".toList 0 _ found near⟩

-- One character is not enough: a quote behind the dollar sign makes the sign part of the string.
example : (tokenizeLine ("\"ab$".toList ++ ['x']) []).1[0]? = some ⟨.string, 0, 3, "\"ab".toList⟩ ∧
    (tokenizeLine ("\"ab$".toList ++ ['"']) []).1[0]? = some ⟨.string, 0, 5, "\"ab$\"".toList⟩ := by
  decide +kernel

end Lexer

end BatchScript
