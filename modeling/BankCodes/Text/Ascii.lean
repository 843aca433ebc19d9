/-!
# Facts about ASCII characters

A fact about all ASCII characters is decided by looking at each of the 128 of them. Beyond ASCII
there are no digits, capital letters or small letters in the sense of the character classes here.
-/

namespace BankCodes.Text

/-- What holds of the characters of the first 128 code points holds of all ASCII characters. -/
theorem forall_ascii {P : Char → Prop} (h : ∀ n < 128, P (Char.ofNat n)) {c : Char}
    (hc : c.toNat < 128) : P c := by
  have := h c.toNat hc
  rwa [Char.ofNat_toNat] at this

private theorem between_iff {c a b : Char} :
    (decide (a.val ≤ c.val) && decide (c.val ≤ b.val)) = true ↔
      a.toNat ≤ c.toNat ∧ c.toNat ≤ b.toNat := by
  rw [Bool.and_eq_true, decide_eq_true_eq, decide_eq_true_eq, UInt32.le_iff_toNat_le,
    UInt32.le_iff_toNat_le]
  rfl

theorem isLower_iff {c : Char} : c.isLower = true ↔ 97 ≤ c.toNat ∧ c.toNat ≤ 122 :=
  between_iff (a := 'a') (b := 'z')

theorem isUpper_iff {c : Char} : c.isUpper = true ↔ 65 ≤ c.toNat ∧ c.toNat ≤ 90 := by
  have eq : c.isUpper = decide ('A'.val ≤ c.val ∧ c.val ≤ 'Z'.val) := rfl
  rw [eq, decide_eq_true_eq, UInt32.le_iff_toNat_le, UInt32.le_iff_toNat_le]
  rfl

theorem isDigit_iff {c : Char} : c.isDigit = true ↔ 48 ≤ c.toNat ∧ c.toNat ≤ 57 :=
  between_iff (a := '0') (b := '9')

theorem isAlphanum_iff {c : Char} :
    c.isAlphanum = true ↔ (c.isUpper = true ∨ c.isLower = true) ∨ c.isDigit = true := by
  have eq : c.isAlphanum = ((c.isUpper || c.isLower) || c.isDigit) := rfl
  rw [eq, Bool.or_eq_true, Bool.or_eq_true]

theorem isAlphanum_of_capital {c : Char} (h : c.isUpper = true ∨ c.isDigit = true) :
    c.isAlphanum = true :=
  isAlphanum_iff.2 (h.imp .inl id)

/-- ASCII letters and digits are ASCII. -/
theorem lt_of_isAlphanum {c : Char} (h : c.isAlphanum = true) : c.toNat < 128 := by
  rw [isAlphanum_iff, isUpper_iff, isLower_iff, isDigit_iff] at h
  omega

/-- Only small letters have another upper-case form in ASCII. -/
theorem toUpper_eq_self {c : Char} (h : c.isLower = false) : c.toUpper = c := by
  unfold Char.toUpper
  split
  · next hc =>
    have lower : c.isLower = true := isLower_iff.2 ⟨hc.1, hc.2⟩
    rw [h] at lower
    cases lower
  · rfl

end BankCodes.Text
