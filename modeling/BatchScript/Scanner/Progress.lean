import BatchScript.Scanner

/-!
# Progress of the scanners

What a scanner leaves is a suffix of what it had, so nothing is given back that was read before it.
A scanner that can hand over reads at least one character; an open region reads one too, unless it
has just put a mode on the stack that reads one in its place. So a second attempt always gets ahead,
and `scanToken` ends.
-/
namespace BatchScript.Scanner

/-- At most the first character is dropped. -/
theorem dropFront_suffix (c : Char) (text : Text) : dropFront c text <:+ text := by
  unfold dropFront
  split
  · exact List.suffix_refl _
  · split
    · exact List.suffix_cons _ _
    · exact List.suffix_refl _

/-- A name leaves a suffix. -/
theorem scanName_suffix (current : Text → Text) (unread : Text) (stack : Stack) :
    (scanName current unread stack).rest <:+ unread := by
  unfold scanName settleName
  split <;> exact List.dropWhile_suffix isNameChar

/-- A number leaves a suffix. -/
theorem settleNumber_suffix (current : Text → Text) (rest : Text) (stack : Stack) :
    (settleNumber current rest stack).rest <:+ rest := by
  unfold settleNumber
  split
  · exact scanName_suffix current rest stack
  · exact List.suffix_refl _

/-- The expansion of a variable leaves a suffix. -/
theorem settleReference_suffix (current : Text → Text) (c : Char) (rest : Text) (below : Stack) :
    (settleReference current c rest below).rest <:+ rest := by
  unfold settleReference
  split
  · exact dropFront_suffix '%' rest
  · exact List.suffix_refl _

/-- A region leaves a suffix. -/
theorem scanRegion_suffix (closer : Text) (category : Category) (unread : Text) (below : Stack) :
    (scanRegion closer category unread below).rest <:+ unread := by
  fun_induction scanRegion closer category unread below with
  | case1 | case3 | case5 => exact List.suffix_refl _
  | case2 => exact List.suffix_cons _ _
  | case4 c cs _ _ _ _ nested => exact nested.trans (List.suffix_cons c cs)
  | case6 => exact List.nil_suffix
  | case7 _ hidden cs _ _ _ _ read =>
    exact read.trans ((List.suffix_cons hidden cs).trans (List.suffix_cons '\\' _))
  | case8 c cs _ _ _ _ _ _ read => exact read.trans (List.suffix_cons c cs)

/-- An open region reads a character, or it opens a mode in front of the one it has. -/
theorem scanRegion_advances (closer : Text) (category : Category) (c : Char) (cs : Text)
    (below : Stack) :
    (scanRegion closer category (c :: cs) below).rest <:+ cs ∨
      (scanRegion closer category (c :: cs) below).stack =
        .expansion :: .region closer category false :: below ∨
      (scanRegion closer category (c :: cs) below).stack =
        .region [c] .string true :: .region closer category false :: below := by
  unfold scanRegion
  split
  · exact .inl (List.suffix_refl _)
  · split
    · exact .inr (.inl rfl)
    · split
      · exact .inl (scanRegion_suffix closer category cs _)
      · split
        · exact .inr (.inr rfl)
        · split
          · split
            · exact .inl (List.suffix_refl _)
            · exact .inl ((scanRegion_suffix closer category _ below).trans (List.suffix_cons _ _))
          · exact .inl (scanRegion_suffix closer category cs below)

/-- Plain text always yields a character. -/
theorem scanPlain_advances (current : Text → Text) (stack : Stack) (c : Char) (cs : Text) :
    (scanPlain current stack (c :: cs)).rest <:+ cs := by
  rw [scanPlain]
  split
  · exact List.dropWhile_suffix isBlank
  · split
    · exact List.suffix_refl _
    · split
      · exact List.nil_suffix
      · split
        · exact List.suffix_refl _
        · split
          · exact List.suffix_refl _
          · split
            · exact (List.dropWhile_suffix isWordChar).trans (dropFront_suffix '-' cs)
            · split
              · exact (settleNumber_suffix current _ stack).trans (List.dropWhile_suffix isDigit)
              · exact scanName_suffix current cs stack

/-- What stands behind the sign of an expansion yields a character, if there is one. -/
theorem scanReference_advances (current : Text → Text) (below : Stack) (c : Char) (cs : Text) :
    (scanReference current below (c :: cs)).rest <:+ cs := by
  rw [scanReference]
  split
  · exact List.suffix_refl _
  · split
    · exact List.suffix_refl _
    · exact (settleReference_suffix current c _ below).trans (List.dropWhile_suffix isWordChar)

/-- An expansion yields a character, if there is one. -/
theorem scanExpansion_advances (current : Text → Text) (below : Stack) (c : Char) (cs : Text) :
    (scanExpansion current below (c :: cs)).rest <:+ cs := by
  unfold scanExpansion
  split
  · exact scanReference_advances current below c cs
  · rw [dropFront]
    split
    · cases cs with
      | nil => exact List.nil_suffix
      | cons d ds =>
        exact (scanReference_advances current below d ds).trans (List.suffix_cons d ds)
    · exact scanReference_advances current below c cs

/-- A mode that can hand over reads a character before it does, and before it settles. -/
theorem scan_advances (current : Text → Text) (c : Char) (cs : Text) (stack : Stack)
    (movable : 0 < handovers stack) : (scan current (c :: cs) stack).rest <:+ cs := by
  unfold scan
  split
  · exact scanPlain_advances current [] c cs
  · exact scanPlain_advances current _ c cs
  · exact scanExpansion_advances current _ c cs
  · exact List.suffix_refl _
  · simp [handovers] at movable

/-- Plain text leaves a suffix. -/
theorem scanPlain_suffix (current : Text → Text) (stack : Stack) (unread : Text) :
    (scanPlain current stack unread).rest <:+ unread := by
  cases unread with
  | nil => exact List.suffix_refl _
  | cons c cs => exact (scanPlain_advances current stack c cs).trans (List.suffix_cons c cs)

/-- What stands behind the sign of an expansion leaves a suffix. -/
theorem scanReference_suffix (current : Text → Text) (below : Stack) (unread : Text) :
    (scanReference current below unread).rest <:+ unread := by
  cases unread with
  | nil => exact List.suffix_refl _
  | cons c cs => exact (scanReference_advances current below c cs).trans (List.suffix_cons c cs)

/-- No scanner reaches back. -/
theorem scan_suffix (current : Text → Text) (unread : Text) (stack : Stack) :
    (scan current unread stack).rest <:+ unread := by
  unfold scan
  split
  · exact scanPlain_suffix current [] unread
  · exact scanPlain_suffix current _ unread
  · unfold scanExpansion
    split
    · exact scanReference_suffix current _ unread
    · exact (scanReference_suffix current _ _).trans (dropFront_suffix '$' unread)
  · exact List.drop_suffix 1 unread
  · exact scanRegion_suffix _ _ unread _

/-- Handing over never reaches back. -/
theorem dispatch_suffix (current : Text → Text) (unread : Text) (stack : Stack) :
    (dispatch current unread stack).rest <:+ unread := by
  fun_induction dispatch current unread stack with
  | case1 unread stack result settled =>
    have step := scan_suffix current unread stack
    rw [settled] at step
    exact step
  | case2 unread stack rest next handed ih =>
    have step := scan_suffix current unread stack
    rw [handed] at step
    exact ih.trans step

/-- A token that starts in a mode that can hand over has a character. -/
theorem dispatch_advances (current : Text → Text) (c : Char) (cs : Text) (stack : Stack)
    (movable : 0 < handovers stack) : (dispatch current (c :: cs) stack).rest <:+ cs := by
  have step := scan_advances current c cs stack movable
  unfold dispatch
  split
  · rename_i result settled
    rw [settled] at step
    exact step
  · rename_i rest next handed
    rw [handed] at step
    exact (dispatch_suffix current rest next).trans step

/-- A token in an open region has a character, unless a mode that can hand over has been put on the
stack. -/
theorem dispatch_region_advances (current : Text → Text) (c : Char) (cs : Text) (stack : Stack)
    (settles : handovers stack = 0) :
    (dispatch current (c :: cs) stack).rest <:+ cs ∨
      0 < handovers (dispatch current (c :: cs) stack).stack := by
  match stack, settles with
  | .region closer category false :: below, _ =>
    unfold dispatch scan
    rcases scanRegion_advances closer category c cs below with read | opened | opened
    · exact .inl read
    · exact .inr (by simp [opened, handovers])
    · exact .inr (by simp [opened, handovers])

/-- Runs the scanners until something has been read. -/
def scanToken (current : Text → Text) (c : Char) (cs : Text) (stack : Stack) : Scanned :=
  let scanned := dispatch current (c :: cs) stack
  if scanned.rest.length ≤ cs.length then scanned else scanToken current c cs scanned.stack
termination_by if handovers stack = 0 then 1 else 0
decreasing_by
  rename_i stalled
  by_cases settles : handovers stack = 0
  · have movable := (dispatch_region_advances current c cs stack settles).resolve_left
      fun read => stalled read.length_le
    simp [settles, Nat.ne_of_gt movable]
  · exact absurd (dispatch_advances current c cs stack (Nat.pos_of_ne_zero settles)).length_le
      stalled

/-- What has been read stands after the first attempt. -/
theorem scanToken_of_read {current : Text → Text} {c : Char} {cs : Text} {stack : Stack}
    (read : (dispatch current (c :: cs) stack).rest.length ≤ cs.length) :
    scanToken current c cs stack = dispatch current (c :: cs) stack := by
  rw [scanToken]
  simp only [read, ↓reduceIte]

/-- Where nothing has been read, the mode just opened has its turn. -/
theorem scanToken_of_stalled {current : Text → Text} {c : Char} {cs : Text} {stack : Stack}
    (stalled : ¬ (dispatch current (c :: cs) stack).rest.length ≤ cs.length) :
    scanToken current c cs stack =
      scanToken current c cs (dispatch current (c :: cs) stack).stack := by
  rw [scanToken]
  simp only [stalled, ↓reduceIte]

/-- A suffix that is no shorter than the text is the text. -/
theorem eq_cons_of_stalled {c : Char} {cs rest : Text} (left : rest <:+ c :: cs)
    (stalled : ¬ rest.length ≤ cs.length) : rest = c :: cs :=
  (List.suffix_cons_iff.1 left).resolve_right fun shorter => stalled shorter.length_le

/-- A token reads at least one character. -/
theorem scanToken_advances (current : Text → Text) (c : Char) (cs : Text) (stack : Stack) :
    (scanToken current c cs stack).rest <:+ cs := by
  fun_induction scanToken current c cs stack with
  | case1 stack _ read =>
    rcases List.suffix_cons_iff.1 (dispatch_suffix current (c :: cs) stack) with whole | shorter
    · rw [whole] at read
      exact absurd read (Nat.not_succ_le_self _)
    · exact shorter
  | case2 _ _ _ ih => exact ih

end BatchScript.Scanner
