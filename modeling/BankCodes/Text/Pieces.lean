/-!
# Texts cut at a separator

`pieces` cuts a text at every occurrence of a character. There is always a first piece, perhaps an
empty one, and one more behind each separator; put together again they are the text.
-/

namespace BankCodes.Text

/-- The text before the first separator, and the texts behind the separators. -/
def pieces (separator : Char) : List Char → List Char × List (List Char)
  | [] => ([], [])
  | c :: cs =>
    let (p, ps) := pieces separator cs
    if c = separator then ([], p :: ps) else (c :: p, ps)

/-- Texts put together, each behind the separator. -/
def rejoined (separator : Char) (ps : List (List Char)) : List Char := ps.flatMap (separator :: ·)

/-- The pieces make up the text. -/
theorem append_rejoined_pieces (separator : Char) (cs : List Char) :
    (pieces separator cs).1 ++ rejoined separator (pieces separator cs).2 = cs := by
  induction cs with
  | nil => rfl
  | cons c cs ih =>
    by_cases h : c = separator
    · simpa [pieces, h, rejoined] using ih
    · simpa [pieces, h] using ih

/-- No piece holds a separator. -/
theorem separator_notMem_pieces (separator : Char) (cs : List Char) :
    ∀ p ∈ (pieces separator cs).1 :: (pieces separator cs).2, separator ∉ p := by
  induction cs with
  | nil => simp [pieces]
  | cons c cs ih =>
    by_cases h : c = separator
    · simpa [pieces, h] using ih
    · have ne : separator ≠ c := fun e => h e.symm
      simpa [pieces, h, ne] using ih

/-- A text without a separator is its only piece. -/
theorem pieces_eq_self {separator : Char} {cs : List Char} (h : separator ∉ cs) :
    pieces separator cs = (cs, []) := by
  induction cs with
  | nil => rfl
  | cons c cs ih =>
    rw [List.mem_cons, not_or] at h
    have ne : ¬c = separator := fun e => h.1 e.symm
    simp [pieces, ih h.2, ne]

/-- What stands before the first separator belongs to the first piece. -/
theorem pieces_append {separator : Char} {p : List Char} (h : separator ∉ p) (cs : List Char) :
    pieces separator (p ++ cs) = (p ++ (pieces separator cs).1, (pieces separator cs).2) := by
  induction p with
  | nil => rfl
  | cons c p ih =>
    rw [List.mem_cons, not_or] at h
    have ne : ¬c = separator := fun e => h.1 e.symm
    simp [pieces, ih h.2, ne]

/-- Pieces without a separator, put together, are cut into the same pieces. -/
theorem pieces_append_rejoined {separator : Char} {p : List Char} {ps : List (List Char)}
    (h : ∀ q ∈ p :: ps, separator ∉ q) : pieces separator (p ++ rejoined separator ps) = (p, ps) := by
  induction ps generalizing p with
  | nil =>
    rw [rejoined, List.flatMap_nil, List.append_nil]
    exact pieces_eq_self (h p (by simp))
  | cons q qs ih =>
    rw [List.forall_mem_cons] at h
    have hbehind : pieces separator (rejoined separator (q :: qs)) = ([], q :: qs) := by
      show pieces separator (separator :: (q ++ rejoined separator qs)) = _
      simp [pieces, ih h.2]
    rw [pieces_append h.1, hbehind, List.append_nil]

/-- Two pieces with a separator between them. -/
theorem pieces_append_cons {separator : Char} {p q : List Char} (hp : separator ∉ p)
    (hq : separator ∉ q) : pieces separator (p ++ separator :: q) = (p, [q]) := by
  have h : ∀ r ∈ [p, q], separator ∉ r := by simp [hp, hq]
  simpa [rejoined] using pieces_append_rejoined h

end BankCodes.Text
