/-!
# Texts in order

Texts are ordered by their code points. `sorted` puts a list of texts into ascending order.
-/

namespace BankCodes.Text

/-- Puts a text in its place among texts in ascending order. -/
def insertSorted (s : String) : List String → List String
  | [] => [s]
  | t :: ts => if t < s then t :: insertSorted s ts else s :: t :: ts

/-- The texts in ascending order. -/
def sorted (ts : List String) : List String := ts.foldr insertSorted []

theorem insertSorted_perm (s : String) (ts : List String) : (insertSorted s ts).Perm (s :: ts) := by
  induction ts with
  | nil => exact .refl _
  | cons t ts ih =>
    unfold insertSorted
    split
    · exact (ih.cons t).trans (.swap s t ts)
    · exact .refl _

theorem sorted_perm (ts : List String) : (sorted ts).Perm ts := by
  induction ts with
  | nil => exact .refl _
  | cons t ts ih => exact (insertSorted_perm t _).trans (ih.cons t)

/-- Of two texts neither of which is below the other, one is the other. -/
private theorem lt_of_not_lt {s t : String} (h : ¬ t < s) (hne : s ≠ t) : s < t := by
  rw [← String.not_le]
  exact fun hle => hne (String.le_antisymm (String.not_lt.1 h) hle)

theorem pairwise_insertSorted {s : String} {ts : List String} (h : ts.Pairwise (· < ·))
    (hs : s ∉ ts) : (insertSorted s ts).Pairwise (· < ·) := by
  induction ts with
  | nil => exact List.pairwise_singleton _ _
  | cons t ts ih =>
    obtain ⟨ht, hts⟩ := List.pairwise_cons.1 h
    rw [List.mem_cons, not_or] at hs
    unfold insertSorted
    split
    · next hlt =>
      apply List.pairwise_cons.2
      refine ⟨fun u hu => ?_, ih hts hs.2⟩
      rcases List.mem_cons.1 ((insertSorted_perm s ts).mem_iff.1 hu) with rfl | hu
      · exact hlt
      · exact ht u hu
    · next hge =>
      have hlt := lt_of_not_lt hge hs.1
      apply List.pairwise_cons.2
      refine ⟨fun u hu => ?_, h⟩
      rcases List.mem_cons.1 hu with rfl | hu
      · exact hlt
      · exact String.lt_trans hlt (ht u hu)

/-- If no text is there twice, each text is above the one before it. -/
theorem pairwise_sorted {ts : List String} (h : ts.Nodup) : (sorted ts).Pairwise (· < ·) := by
  induction ts with
  | nil => exact .nil
  | cons t ts ih =>
    obtain ⟨ht, hts⟩ := List.nodup_cons.1 h
    exact pairwise_insertSorted (ih hts) (mt (sorted_perm ts).mem_iff.1 ht)

end BankCodes.Text
