import BankCodes.Text.Canonical

/-!
# Texts that are typed differently

Two texts have the same canonical form if and only if one is the other typed differently: with other
blanks, and with its ASCII letters in another case.

    canonical s = canonical t ↔ Retyped s.toList t.toList

Both ways to change a text by hand are cases of this: to write it in small letters, and to put blanks
into it.
-/

namespace BankCodes.Text

/-! ## Small and capital letters -/

/-- Only capital letters have another lower-case form in ASCII. -/
theorem toLower_eq_self {c : Char} (h : c.isUpper = false) : c.toLower = c := by
  unfold Char.toLower
  split
  · next hc =>
    have upper : c.isUpper = true := isUpper_iff.2 ⟨hc.1, hc.2⟩
    rw [h] at upper
    cases upper
  · rfl

/-- The case in which a letter is typed is lost in either case. -/
theorem toUpper_toLower (c : Char) :
    c.toLower.toUpper = c.toUpper ∧ c.toUpper.toLower = c.toLower := by
  by_cases hascii : c.toNat < 128
  · exact forall_ascii (P := fun c => c.toLower.toUpper = c.toUpper ∧
      c.toUpper.toLower = c.toLower) (by decide) hascii
  · have hlower : c.isLower = false := by
      rw [← Bool.not_eq_true, isLower_iff]
      omega
    have hupper : c.isUpper = false := by
      rw [← Bool.not_eq_true, isUpper_iff]
      omega
    rw [toUpper_eq_self hlower, toLower_eq_self hupper]
    exact ⟨toUpper_eq_self hlower, rfl⟩

theorem toUpper_eq_toUpper_iff {c d : Char} : c.toUpper = d.toUpper ↔ c.toLower = d.toLower := by
  constructor
  · intro h
    rw [← (toUpper_toLower c).2, h, (toUpper_toLower d).2]
  · intro h
    rw [← (toUpper_toLower c).1, h, (toUpper_toLower d).1]

/-! ## The canonical form, character by character -/

theorem canonical_eq_iff {s t : String} :
    canonical s = canonical t ↔ canonicalChars s.toList = canonicalChars t.toList := by
  rw [← String.toList_inj, toList_canonical, toList_canonical]

theorem canonicalChars_cons (c : Char) (cs : List Char) :
    canonicalChars (c :: cs) =
      if isBlank c then canonicalChars cs else c.toUpper :: canonicalChars cs := by
  unfold canonicalChars
  cases h : isBlank c <;> simp [h]

/-- Two texts that differ only in their blanks and in the case of their ASCII letters. -/
inductive Retyped : List Char → List Char → Prop where
  | nil : Retyped [] []
  | blankLeft {b : Char} {cs ds : List Char} :
      isBlank b = true → Retyped cs ds → Retyped (b :: cs) ds
  | blankRight {b : Char} {cs ds : List Char} :
      isBlank b = true → Retyped cs ds → Retyped cs (b :: ds)
  | symbol {c d : Char} {cs ds : List Char} :
      c.toLower = d.toLower → Retyped cs ds → Retyped (c :: cs) (d :: ds)

theorem Retyped.canonicalChars_eq {cs ds : List Char} (h : Retyped cs ds) :
    canonicalChars cs = canonicalChars ds := by
  induction h with
  | nil => rfl
  | blankLeft hb _ ih => rw [canonicalChars_cons, if_pos hb, ih]
  | blankRight hb _ ih => rw [canonicalChars_cons, if_pos hb, ih]
  | @symbol c d cs ds hcase _ ih =>
    have hupper := toUpper_eq_toUpper_iff.2 hcase
    have hblank : isBlank c = isBlank d := by
      rw [← (toUpper_stable c).2, hupper, (toUpper_stable d).2]
    rw [canonicalChars_cons, canonicalChars_cons, hblank, hupper, ih]

/-- Blanks are taken from both texts until a symbol of one stands against a symbol of the other. -/
theorem retyped_of_canonicalChars_eq {cs ds : List Char}
    (h : canonicalChars cs = canonicalChars ds) : Retyped cs ds := by
  induction cs generalizing ds with
  | nil =>
    induction ds with
    | nil => exact .nil
    | cons d ds ih =>
      rw [canonicalChars_cons] at h
      split at h
      · next hd => exact .blankRight hd (ih h)
      · cases h
  | cons c cs ihc =>
    by_cases hc : isBlank c = true
    · rw [canonicalChars_cons, if_pos hc] at h
      exact .blankLeft hc (ihc h)
    · induction ds with
      | nil =>
        rw [canonicalChars_cons, if_neg hc] at h
        cases h
      | cons d ds ihd =>
        by_cases hd : isBlank d = true
        · rw [canonicalChars_cons d, if_pos hd] at h
          exact .blankRight hd (ihd h)
        · rw [canonicalChars_cons, canonicalChars_cons, if_neg hc, if_neg hd, List.cons.injEq] at h
          exact .symbol (toUpper_eq_toUpper_iff.1 h.1) (ihc h.2)

/-- Texts have the same canonical form if and only if one is the other typed differently. -/
theorem canonical_eq_iff_retyped {s t : String} :
    canonical s = canonical t ↔ Retyped s.toList t.toList := by
  rw [canonical_eq_iff]
  exact ⟨retyped_of_canonicalChars_eq, Retyped.canonicalChars_eq⟩

/-! ## Small letters, and blanks put in -/

theorem retyped_map_toLower (cs : List Char) : Retyped (cs.map Char.toLower) cs := by
  induction cs with
  | nil => exact .nil
  | cons c cs ih =>
    refine .symbol ?_ ih
    rw [← toUpper_eq_toUpper_iff, (toUpper_toLower c).1]

/-- A text with blanks put in is this text typed differently. -/
theorem retyped_filter (cs : List Char) : Retyped cs (cs.filter (!isBlank ·)) := by
  induction cs with
  | nil => exact .nil
  | cons c cs ih =>
    cases hc : isBlank c with
    | true => simpa [hc] using Retyped.blankLeft hc ih
    | false => simpa [hc] using Retyped.symbol rfl ih

end BankCodes.Text
