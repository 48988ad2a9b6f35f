import BatchScript.Proofs.Lexer.Reading

/-!
# Tokens that a region settles

A token in an open region is what the region reads, or, where the region stops at its first
character, what the mode reads that it has opened there. A quote or the two signs of an expansion
are part of the token whose text they open.
-/
namespace BatchScript.Lexer

open Scanner

variable {c : Char} {cs closer rest : Text} {category : Category} {stack below : Stack}

/-- A token that is handed over to a region further on is what the region reads there. -/
theorem nextScanned_of_region (left : rest <:+ cs)
    (handed : dispatch (readSoFar (c :: cs)) (c :: cs) stack =
      scanRegion closer category rest below) :
    nextScanned c cs stack = scanRegion closer category rest below := by
  have read : (dispatch (readSoFar (c :: cs)) (c :: cs) stack).rest.length ≤ cs.length := by
    rw [handed]
    exact ((scanRegion_suffix closer category rest below).trans left).length_le
  rw [nextScanned, scanToken_of_read read, handed]

/-- A token in a region that reads something is what it reads. -/
theorem nextScanned_region_of_read
    (read : (scanRegion closer category (c :: cs) below).rest.length ≤ cs.length) :
    nextScanned c cs (.region closer category false :: below) =
      scanRegion closer category (c :: cs) below := by
  have attempt : dispatch (readSoFar (c :: cs)) (c :: cs) (.region closer category false :: below) =
      scanRegion closer category (c :: cs) below := dispatch_settled rfl
  rw [nextScanned, scanToken_of_read (by rw [attempt]; exact read), attempt]

/-- Where a region reads nothing, the token is left to the mode that it has opened. -/
theorem nextScanned_region_of_stalled
    (stalled : (scanRegion closer category (c :: cs) below).rest = c :: cs) :
    nextScanned c cs (.region closer category false :: below) =
      nextScanned c cs (scanRegion closer category (c :: cs) below).stack := by
  have attempt : dispatch (readSoFar (c :: cs)) (c :: cs) (.region closer category false :: below) =
      scanRegion closer category (c :: cs) below := dispatch_settled rfl
  have stuck : ¬ (dispatch (readSoFar (c :: cs)) (c :: cs)
      (.region closer category false :: below)).rest.length ≤ cs.length := by
    rw [attempt, stalled, List.length_cons]
    omega
  rw [nextScanned, scanToken_of_stalled stuck, attempt, nextScanned]

/-- A quote in plain text is part of the string that it opens. -/
theorem nextScanned_quote (quote : c ∈ Text.quotes) (cs : Text) :
    nextScanned c cs [] = scanRegion [c] .string cs [] := by
  have blank : isBlank c = false := by
    simp only [Text.quotes, List.mem_cons, List.not_mem_nil, or_false] at quote
    rcases quote with rfl | rfl <;> decide
  have opened (current : Text → Text) : scan current (c :: cs) [] =
      .handedOver cs [.region [c] .string false] := by
    simp [scan, scanPlain, blank, quote]
  apply nextScanned_of_region (List.suffix_refl cs)
  rw [dispatch_handedOver (opened _)]
  exact dispatch_settled rfl

/-- A percent sign in plain text and the first character of a region are part of the token that the
region reads. -/
theorem nextScanned_percent (found : Mode.expanded? c = some (.region closer category false))
    (cs : Text) : nextScanned '%' (c :: cs) [] = scanRegion closer category cs [] := by
  have sign (current : Text → Text) : scan current ('%' :: c :: cs) [] =
      .handedOver (c :: cs) [.expansion] := by
    simp [scan, scanPlain, Text.quotes, show isBlank '%' = false by decide]
  have region (current : Text → Text) : scan current (c :: cs) [.expansion] =
      .handedOver cs [.region closer category false] := by
    simp [scan, scanExpansion, scanReference, found]
  apply nextScanned_of_region (List.suffix_cons c cs)
  rw [dispatch_handedOver (sign _), dispatch_handedOver (region _)]
  exact dispatch_settled rfl

/-- So are a dollar sign, above another mode, and the first character of a region. -/
theorem nextScanned_dollar_region (found : Mode.expanded? c = some (.region closer category false))
    (cs : Text) (top : Mode) (below : Stack) :
    nextScanned '$' (c :: cs) (.expansion :: top :: below) =
      scanRegion closer category cs (top :: below) := by
  have region (current : Text → Text) : scan current ('$' :: c :: cs) (.expansion :: top :: below) =
      .handedOver cs (.region closer category false :: top :: below) := by
    simp [scan, scanExpansion, scanReference, dropFront, found]
  apply nextScanned_of_region (List.suffix_cons c cs)
  rw [dispatch_handedOver (region _)]
  exact dispatch_settled rfl

/-- A dollar sign at the end of a line is a definition, and so is one with a name behind it: a
digit, or a character that starts no region and the word behind that. -/
theorem nextScanned_dollar_name (cs : Text) (top : Mode) (below : Stack)
    (name : ∀ c ∈ cs.head?, Mode.expanded? c = none) :
    nextScanned '$' cs (.expansion :: top :: below) =
      ⟨.definition,
        if cs.head?.any isDigit then cs.drop 1 else (cs.drop 1).dropWhile isWordChar,
        top :: below⟩ := by
  have settled : scan (readSoFar ('$' :: cs)) ('$' :: cs) (.expansion :: top :: below) =
      .settled ⟨.definition,
        if cs.head?.any isDigit then cs.drop 1 else (cs.drop 1).dropWhile isWordChar,
        top :: below⟩ := by
    cases cs with
    | nil => rfl
    | cons c cs =>
      have other : Mode.expanded? c = none := name c rfl
      have first : (readSoFar ('$' :: c :: cs) (cs.dropWhile isWordChar)).head? = some '$' := by
        have whole : c :: cs.takeWhile isWordChar ++ cs.dropWhile isWordChar = c :: cs :=
          congrArg (c :: ·) List.takeWhile_append_dropWhile
        rw [readSoFar_front whole, List.head?_cons]
      by_cases digit : isDigit c
      · simp [scan, scanExpansion, scanReference, dropFront, other, digit]
      · simp [scan, scanExpansion, scanReference, dropFront, other, digit, settleReference, first]
  have read := dispatch_advances (readSoFar ('$' :: cs)) '$' cs (.expansion :: top :: below)
    Nat.zero_lt_one
  rw [nextScanned, scanToken_of_read read.length_le]
  exact dispatch_settled settled

end BatchScript.Lexer
