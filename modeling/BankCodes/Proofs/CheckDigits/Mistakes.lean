import BankCodes.Proofs.CheckDigits.Issue
import Mathlib.Data.Nat.ModEq

/-!
# What typing mistakes do to the remainder

Two mistakes are common where a number is typed: a symbol is replaced by another one, and two
neighbours change places. Either mistake puts a piece of the same length in the place of a piece of
the written numeral, and then the remainder modulo 97 stays if and only if that of the piece does
(`numeralValue_mod_eq_iff`), since 10 has an inverse.

* `eq_of_replaced`: a symbol that is replaced by another one of its kind is noticed;
* `exchanged_mod_eq_iff`: two neighbours that change places are noticed, unless they are a digit and
  a letter of the eleven-fold value;
* `eq_of_exchanged_ends`: so are the first and the last digit of a numeral that is not too long, as
  no power of 10 below the 96th leaves the remainder 1.
-/

namespace BankCodes.CheckDigits

open Text

/-! ## A piece of a numeral -/

/-- The powers of 10 have an inverse modulo 97. -/
theorem coprime_pow_ten (k : Nat) : Nat.Coprime 97 (10 ^ k) := by
  apply Nat.Coprime.pow_right
  decide

/-- The order of 10 modulo 97 is 96 at least. -/
theorem coprime_pow_ten_sub_one : ∀ k < 96, 0 < k → Nat.Coprime 97 (10 ^ k - 1) := by
  decide +kernel

/-- A piece of a numeral in the place of one of the same length leaves the remainder if and only if
the two have the same remainder. -/
theorem numeralValue_mod_eq_iff {front piece piece' back : List Char}
    (hlen : piece.length = piece'.length) :
    numeralValue (front ++ piece ++ back) % 97 = numeralValue (front ++ piece' ++ back) % 97 ↔
      numeralValue piece % 97 = numeralValue piece' % 97 := by
  simp only [numeralValue_append, hlen]
  constructor
  · intro h
    have hshifted := Nat.ModEq.add_right_cancel' _ h
    have hpieces := Nat.ModEq.cancel_left_of_coprime (coprime_pow_ten back.length) hshifted
    exact Nat.ModEq.add_left_cancel' _ hpieces
  · intro h
    apply Nat.ModEq.add_right
    apply Nat.ModEq.mul_left
    exact Nat.ModEq.add_left _ h

/-! ## Values and widths -/

/-- Capital letters and digits stand in the places of their values. -/
theorem getElem?_symbols {c : Char} (h : c.isUpper = true ∨ c.isDigit = true) :
    symbols[symbolValue c]? = some c :=
  forall_ascii (P := fun c => c.isUpper = true ∨ c.isDigit = true →
    symbols[symbolValue c]? = some c) (by decide +kernel)
    (lt_of_isAlphanum (isAlphanum_of_capital h)) h

/-- Capital letters and digits are known by their values. -/
theorem symbolValue_inj {c d : Char} (hc : c.isUpper = true ∨ c.isDigit = true)
    (hd : d.isUpper = true ∨ d.isDigit = true) (h : symbolValue c = symbolValue d) : c = d := by
  have hsome := getElem?_symbols hc
  rw [h, getElem?_symbols hd] at hsome
  exact (Option.some.inj hsome).symm

/-- The values below ten are those of the digits, and are written in one place. -/
theorem digit_bounds {c : Char} (h : c.isDigit = true) :
    symbolValue c < 10 ∧ (numeral (symbolValue c)).length = 1 :=
  forall_ascii (P := fun c => c.isDigit = true →
    symbolValue c < 10 ∧ (numeral (symbolValue c)).length = 1) (by decide +kernel)
    (lt_of_isAlphanum (isAlphanum_iff.2 (.inr h))) h

/-- The values from ten to 35 are those of the letters, and are written in two places. -/
theorem upper_bounds {c : Char} (h : c.isUpper = true) :
    10 ≤ symbolValue c ∧ symbolValue c < 36 ∧ (numeral (symbolValue c)).length = 2 :=
  forall_ascii (P := fun c => c.isUpper = true →
    10 ≤ symbolValue c ∧ symbolValue c < 36 ∧ (numeral (symbolValue c)).length = 2)
    (by decide +kernel) (lt_of_isAlphanum (isAlphanum_of_capital (.inl h))) h

theorem expansion_cons (c : Char) (cs : List Char) :
    expansion (c :: cs) = numeral (symbolValue c) ++ expansion cs :=
  List.flatMap_cons

/-- No symbol takes more than two places. -/
theorem length_expansion_le {cs : List Char} (h : ∀ c ∈ cs, c.isUpper = true ∨ c.isDigit = true) :
    (expansion cs).length ≤ 2 * cs.length := by
  induction cs with
  | nil => exact Nat.le_refl 0
  | cons c cs ih =>
    have hcs := ih fun d hd => h d (by simp [hd])
    have hwidth : (numeral (symbolValue c)).length ≤ 2 := by
      rcases h c (by simp) with hc | hc
      · exact Nat.le_of_eq (upper_bounds hc).2.2
      · rw [(digit_bounds hc).2]
        decide
    rw [expansion_cons, List.length_append, List.length_cons]
    omega

/-! ## A symbol that is replaced -/

/-- Two digits, or two capital letters. -/
def SameKind (c d : Char) : Prop :=
  (c.isDigit = true ∧ d.isDigit = true) ∨ (c.isUpper = true ∧ d.isUpper = true)

theorem SameKind.capitals {c d : Char} (h : SameKind c d) :
    (c.isUpper = true ∨ c.isDigit = true) ∧ (d.isUpper = true ∨ d.isDigit = true) := by
  rcases h with ⟨hc, hd⟩ | ⟨hc, hd⟩
  · exact ⟨.inr hc, .inr hd⟩
  · exact ⟨.inl hc, .inl hd⟩

theorem SameKind.symm {c d : Char} (h : SameKind c d) : SameKind d c := by
  rcases h with ⟨hc, hd⟩ | ⟨hc, hd⟩
  · exact .inl ⟨hd, hc⟩
  · exact .inr ⟨hd, hc⟩

theorem numeralValue_expansion_singleton (c : Char) :
    numeralValue (expansion [c]) = symbolValue c := by
  rw [expansion_cons, show expansion [] = [] from rfl, List.append_nil, numeralValue_numeral]

/-- A symbol that is replaced by another one of its kind changes the remainder. -/
theorem eq_of_replaced {front back : List Char} {c d : Char} (hkind : SameKind c d)
    (h : numeralValue (expansion (front ++ [c] ++ back)) % 97 =
      numeralValue (expansion (front ++ [d] ++ back)) % 97) : c = d := by
  -- symbols of one kind have values of the same width, less than 97 apart
  have hwidth : (expansion [c]).length = (expansion [d]).length ∧
      symbolValue c < 97 ∧ symbolValue d < 97 := by
    simp only [expansion_cons, List.length_append]
    rcases hkind with ⟨hc, hd⟩ | ⟨hc, hd⟩
    · have := digit_bounds hc
      have := digit_bounds hd
      omega
    · have := upper_bounds hc
      have := upper_bounds hd
      omega
  simp only [expansion_append] at h
  rw [numeralValue_mod_eq_iff hwidth.1, numeralValue_expansion_singleton,
    numeralValue_expansion_singleton] at h
  apply symbolValue_inj hkind.capitals.1 hkind.capitals.2
  omega

/-! ## Neighbours that change places -/

/-- The digits with the letters that they may change places with unnoticed. -/
def blindPairs : List (Char × Char) := [('1', 'B'), ('2', 'M'), ('3', 'X')]

/-- The two symbols, in one order or the other, may change places unnoticed. -/
def Blind (a b : Char) : Prop := (a, b) ∈ blindPairs ∨ (b, a) ∈ blindPairs

instance (a b : Char) : Decidable (Blind a b) := inferInstanceAs (Decidable (_ ∨ _))

theorem blind_comm {a b : Char} : Blind a b ↔ Blind b a := or_comm

/-- The pairs are those of a digit and a letter with eleven times its value. -/
theorem mem_blindPairs_iff {a b : Char} (ha : a.isDigit = true) (hb : b.isUpper = true) :
    (a, b) ∈ blindPairs ↔ symbolValue b = 11 * symbolValue a := by
  constructor
  · have hvalues : ∀ p ∈ blindPairs, symbolValue p.2 = 11 * symbolValue p.1 := by decide +kernel
    exact hvalues (a, b)
  · intro h
    have hbounds := upper_bounds hb
    have hletter := getElem?_symbols (.inl hb)
    have hdigit := getElem?_symbols (.inr ha)
    rw [h] at hbounds hletter
    have hthree : symbolValue a = 1 ∨ symbolValue a = 2 ∨ symbolValue a = 3 := by omega
    rcases hthree with hvalue | hvalue | hvalue
    all_goals
      rw [hvalue] at hdigit hletter
      cases hdigit
      cases hletter
      decide

theorem isDigit_and_isUpper_of_mem_blindPairs {a b : Char} (h : (a, b) ∈ blindPairs) :
    a.isDigit = true ∧ b.isUpper = true := by
  have hall : ∀ p ∈ blindPairs, p.1.isDigit = true ∧ p.2.isUpper = true := by decide
  exact hall (a, b) h

theorem not_isDigit_of_isUpper {c : Char} (h : c.isUpper = true) : ¬ c.isDigit = true := by
  rw [isDigit_iff]
  rw [isUpper_iff] at h
  omega

theorem SameKind.not_mem_blindPairs {a b : Char} (h : SameKind a b) : (a, b) ∉ blindPairs := by
  intro hmem
  obtain ⟨hdigit, hupper⟩ := isDigit_and_isUpper_of_mem_blindPairs hmem
  rcases h with ⟨-, hb⟩ | ⟨ha, -⟩
  · exact not_isDigit_of_isUpper hupper hb
  · exact not_isDigit_of_isUpper ha hdigit

theorem SameKind.not_blind {a b : Char} (h : SameKind a b) : ¬ Blind a b := by
  rintro (hmem | hmem)
  · exact h.not_mem_blindPairs hmem
  · exact h.symm.not_mem_blindPairs hmem

/-- Two symbols write the value of the first one, moved up by the width of the second one, and the
value of the second one. -/
theorem numeralValue_expansion_pair (a b : Char) :
    numeralValue (expansion [a, b]) =
      10 ^ (numeral (symbolValue b)).length * symbolValue a + symbolValue b := by
  have hcut : expansion [a, b] = numeral (symbolValue a) ++ numeral (symbolValue b) := by
    simp [expansion]
  rw [hcut, numeralValue_append, numeralValue_numeral, numeralValue_numeral]

/-- Two neighbours that change places leave the remainder if and only if the pair alone does. -/
theorem exchanged_mod_eq_iff_pair {front back : List Char} {a b : Char} :
    numeralValue (expansion (front ++ [a, b] ++ back)) % 97 =
        numeralValue (expansion (front ++ [b, a] ++ back)) % 97 ↔
      numeralValue (expansion [a, b]) % 97 = numeralValue (expansion [b, a]) % 97 := by
  have hlen : (expansion [a, b]).length = (expansion [b, a]).length := by
    simp only [expansion_cons, List.length_append]
    omega
  simp only [expansion_append]
  exact numeralValue_mod_eq_iff hlen

/-- Two digits, or two letters: their difference counts nine times, or 99 times. -/
theorem SameKind.exchanged_mod_eq_iff {a b : Char} (h : SameKind a b) :
    numeralValue (expansion [a, b]) % 97 = numeralValue (expansion [b, a]) % 97 ↔ a = b := by
  constructor
  · intro hmod
    apply symbolValue_inj h.capitals.1 h.capitals.2
    rw [numeralValue_expansion_pair, numeralValue_expansion_pair] at hmod
    rcases h with ⟨ha, hb⟩ | ⟨ha, hb⟩
    · obtain ⟨hlt, hwidth⟩ := digit_bounds ha
      obtain ⟨hlt', hwidth'⟩ := digit_bounds hb
      rw [hwidth, hwidth'] at hmod
      omega
    · obtain ⟨-, hlt, hwidth⟩ := upper_bounds ha
      obtain ⟨-, hlt', hwidth'⟩ := upper_bounds hb
      rw [hwidth, hwidth'] at hmod
      omega
  · rintro rfl
    rfl

/-- A digit and a letter: what counts is nine times the difference of the letter to eleven digits. -/
theorem exchanged_digit_mod_eq_iff {a b : Char} (ha : a.isDigit = true) (hb : b.isUpper = true) :
    numeralValue (expansion [a, b]) % 97 = numeralValue (expansion [b, a]) % 97 ↔
      (a, b) ∈ blindPairs := by
  obtain ⟨hlt, hwidth⟩ := digit_bounds ha
  obtain ⟨hge, hlt', hwidth'⟩ := upper_bounds hb
  rw [numeralValue_expansion_pair, numeralValue_expansion_pair, mem_blindPairs_iff ha hb, hwidth,
    hwidth']
  omega

/-- Two neighbours that change places are noticed, unless they are the same or a blind pair. -/
theorem exchanged_mod_eq_iff {front back : List Char} {a b : Char}
    (ha : a.isUpper = true ∨ a.isDigit = true) (hb : b.isUpper = true ∨ b.isDigit = true) :
    numeralValue (expansion (front ++ [a, b] ++ back)) % 97 =
        numeralValue (expansion (front ++ [b, a] ++ back)) % 97 ↔
      a = b ∨ Blind a b := by
  have hmixed : ∀ {a b : Char}, a.isDigit = true → b.isUpper = true →
      (numeralValue (expansion [a, b]) % 97 = numeralValue (expansion [b, a]) % 97 ↔
        a = b ∨ Blind a b) := by
    intro a b ha hb
    have hne : a ≠ b := by
      rintro rfl
      exact not_isDigit_of_isUpper hb ha
    have hother : (b, a) ∉ blindPairs := fun hmem =>
      not_isDigit_of_isUpper hb (isDigit_and_isUpper_of_mem_blindPairs hmem).1
    rw [exchanged_digit_mod_eq_iff ha hb, Blind, or_iff_right hne, or_iff_left hother]
  have hsame : SameKind a b → (numeralValue (expansion [a, b]) % 97 =
      numeralValue (expansion [b, a]) % 97 ↔ a = b ∨ Blind a b) := by
    intro h
    rw [h.exchanged_mod_eq_iff, or_iff_left h.not_blind]
  rw [exchanged_mod_eq_iff_pair]
  rcases ha with ha | ha <;> rcases hb with hb | hb
  · exact hsame (.inr ⟨ha, hb⟩)
  · rw [eq_comm, hmixed hb ha, eq_comm, blind_comm]
  · exact hmixed ha hb
  · exact hsame (.inl ⟨ha, hb⟩)

theorem Blind.capitals {a b : Char} (h : Blind a b) :
    (a.isUpper = true ∨ a.isDigit = true) ∧ (b.isUpper = true ∨ b.isDigit = true) := by
  rcases h with hmem | hmem
  · obtain ⟨ha, hb⟩ := isDigit_and_isUpper_of_mem_blindPairs hmem
    exact ⟨.inr ha, .inl hb⟩
  · obtain ⟨hb, ha⟩ := isDigit_and_isUpper_of_mem_blindPairs hmem
    exact ⟨.inl ha, .inr hb⟩

/-- A blind pair that changes places in a body has no influence on the check digits. -/
theorem issued_exchanged {code front back : List Char} {a b : Char} (h : Blind a b) :
    issued code (front ++ [a, b] ++ back) = issued code (front ++ [b, a] ++ back) := by
  unfold issued
  rw [List.append_assoc _ back, List.append_assoc _ back]
  have hmod : numeralValue (expansion (front ++ [a, b] ++ (back ++ code))) % 97 =
      numeralValue (expansion (front ++ [b, a] ++ (back ++ code))) % 97 :=
    (exchanged_mod_eq_iff h.capitals.1 h.capitals.2).2 (.inr h)
  omega

/-! ## The ends of a numeral -/

/-- The value of a numeral between two digits. -/
theorem numeralValue_expansion_ends (middle : List Char) {a b : Char} (hb : b.isDigit = true) :
    numeralValue (expansion ([a] ++ middle ++ [b])) =
      10 ^ ((expansion middle).length + 1) * symbolValue a +
        (10 * numeralValue (expansion middle) + symbolValue b) := by
  have hcut : expansion ([a] ++ middle ++ [b]) =
      numeral (symbolValue a) ++ (expansion middle ++ numeral (symbolValue b)) := by
    simp [expansion]
  simp only [hcut, numeralValue_append, numeralValue_numeral, List.length_append,
    (digit_bounds hb).2, Nat.pow_one]

/-- The first and the last digit of a numeral of at most 96 places, if they change places, leave
the remainder only if they are the same. -/
theorem eq_of_exchanged_ends {middle : List Char} {a b : Char} (ha : a.isDigit = true)
    (hb : b.isDigit = true) (hlen : (expansion middle).length < 95)
    (h : numeralValue (expansion ([a] ++ middle ++ [b])) % 97 =
      numeralValue (expansion ([b] ++ middle ++ [a])) % 97) : a = b := by
  rw [numeralValue_expansion_ends middle hb, numeralValue_expansion_ends middle ha] at h
  -- what is gained at the front, less what is lost at the end, is a multiple of this number
  have hcoprime := coprime_pow_ten_sub_one ((expansion middle).length + 1) (by omega) (by omega)
  obtain ⟨q, hq⟩ : ∃ q, 10 ^ ((expansion middle).length + 1) = q + 1 :=
    Nat.exists_eq_add_one_of_ne_zero (by simp)
  rw [hq, Nat.add_sub_cancel] at hcoprime
  rw [hq] at h
  have hmultiple : q * symbolValue a ≡ q * symbolValue b [MOD 97] := by
    apply Nat.ModEq.add_right_cancel'
      (symbolValue a + 10 * numeralValue (expansion middle) + symbolValue b)
    unfold Nat.ModEq
    rw [Nat.add_one_mul q, Nat.add_one_mul q] at h
    omega
  have hvalues := Nat.ModEq.cancel_left_of_coprime hcoprime hmultiple
  obtain ⟨hlt, -⟩ := digit_bounds ha
  obtain ⟨hlt', -⟩ := digit_bounds hb
  apply symbolValue_inj (.inr ha) (.inr hb)
  exact hvalues.eq_of_lt_of_lt (by omega) (by omega)

end BankCodes.CheckDigits
