import BankCodes.Candidate
import BankCodes.Proofs.CheckDigits.Remainder
import Mathlib.Algebra.Group.Nat.Defs

/-!
# The check digits that are issued

The check digits of a code and a body are computed with zeros in their place, as `98 - r` for the
remainder `r` of body, code and zeros. They are tested by computing them again. Both come down to
the number written by the body, the code and the digits themselves:

    digits = the computed ones ↔ 2 ≤ digits ≤ 98 ∧ the written number is 1 modulo 97

The digits stand at the end of that number, so that they only add their value to it. Outside the
range they are still valid where they differ from the computed ones by 97.
-/

namespace BankCodes.CheckDigits

open Text

/-! ## Numerals of digits -/

/-- The decimal digits. -/
private def decimals : List Char := ['0', '1', '2', '3', '4', '5', '6', '7', '8', '9']

private theorem mem_decimals {c : Char} (h : c.isDigit = true) : c ∈ decimals :=
  forall_ascii (P := fun c => c.isDigit = true → c ∈ decimals) (by decide +kernel)
    (by have := isDigit_iff.1 h; omega) h

private theorem numeral_symbolValue_digit {c : Char} (h : c.isDigit = true) :
    numeral (symbolValue c) = [c] :=
  forall_ascii (P := fun c => c.isDigit = true → numeral (symbolValue c) = [c])
    (by decide +kernel) (by have := isDigit_iff.1 h; omega) h

/-- A digit is its own numeral. -/
theorem expansion_digits {ds : List Char} (h : ∀ d ∈ ds, d.isDigit = true) : expansion ds = ds := by
  induction ds with
  | nil => rfl
  | cons d ds ih =>
    rw [expansion, List.flatMap_cons, numeral_symbolValue_digit (h d (by simp)), ← expansion,
      ih fun e he => h e (by simp [he])]
    rfl

/-- A numeral behind another one moves it up by as many places as it has. -/
theorem numeralValue_append (cs ds : List Char) :
    numeralValue (cs ++ ds) = 10 ^ ds.length * numeralValue cs + numeralValue ds := by
  unfold numeralValue
  rw [Nat.ofDigitChars_append, Nat.ofDigitChars_eq_ofDigitChars_zero]

/-! ## Pairs of digits -/

/-- Two decimal digits. -/
structure TwoDigits (ds : List Char) : Prop where
  length_eq : ds.length = 2
  digits : ∀ d ∈ ds, d.isDigit = true

/-- Two digits behind a numeral only add their value to its hundreds. -/
theorem TwoDigits.numeralValue_append {ds : List Char} (h : TwoDigits ds) (cs : List Char) :
    numeralValue (cs ++ ds) = 100 * numeralValue cs + numeralValue ds := by
  have hhundred : 10 ^ ds.length = 100 := by simp [h.length_eq]
  rw [CheckDigits.numeralValue_append, hhundred]

/-- A number of two digits, filled up with a zero if it has but one. -/
theorem padded_spec {n : Nat} (hn : n < 100) :
    TwoDigits (padded 10 2 n) ∧ numeralValue (padded 10 2 n) = n := by
  have hall : ∀ n < 100, (padded 10 2 n).length = 2 ∧
      (padded 10 2 n).all Char.isDigit = true ∧ numeralValue (padded 10 2 n) = n := by
    decide +kernel
  obtain ⟨hlen, hdigits, hvalue⟩ := hall n hn
  exact ⟨⟨hlen, List.all_eq_true.1 hdigits⟩, hvalue⟩

/-- What holds of every two decimal digits can be looked up. -/
private theorem TwoDigits.forall_decimals {P : List Char → Prop} [DecidablePred P]
    (hall : decimals.all (fun a => decimals.all fun b => decide (P [a, b])) = true)
    {ds : List Char} (h : TwoDigits ds) : P ds := by
  obtain ⟨hlen, hdigits⟩ := h
  obtain ⟨a, b, rfl⟩ : ∃ a b, ds = [a, b] := by
    match ds, hlen with
    | [a, b], _ => exact ⟨a, b, rfl⟩
  have ha := mem_decimals (hdigits a (by simp))
  have hb := mem_decimals (hdigits b (by simp))
  exact of_decide_eq_true (List.all_eq_true.1 (List.all_eq_true.1 hall a ha) b hb)

/-- Two digits are known by their value. -/
theorem TwoDigits.eq_padded {ds : List Char} (h : TwoDigits ds) :
    ds = padded 10 2 (numeralValue ds) :=
  h.forall_decimals (P := fun ds => ds = padded 10 2 (numeralValue ds)) (by decide +kernel)

theorem TwoDigits.numeralValue_lt {ds : List Char} (h : TwoDigits ds) : numeralValue ds < 100 :=
  h.forall_decimals (P := fun ds => numeralValue ds < 100) (by decide +kernel)

theorem TwoDigits.eq_padded_iff {ds : List Char} (h : TwoDigits ds) {n : Nat} (hn : n < 100) :
    ds = padded 10 2 n ↔ numeralValue ds = n := by
  constructor
  · rintro rfl
    exact (padded_spec hn).2
  · rintro rfl
    exact h.eq_padded

/-! ## The written number -/

/-- The number that a body and a code write with digits behind them. -/
def writtenNumber (code body digits : List Char) : Nat :=
  numeralValue (expansion (body ++ code ++ digits))

/-- The digits only add their value to what body and code write. -/
theorem writtenNumber_eq {code body ds : List Char} (h : TwoDigits ds) :
    writtenNumber code body ds =
      100 * numeralValue (expansion (body ++ code)) + numeralValue ds := by
  rw [writtenNumber, expansion_append, expansion_digits h.digits, h.numeralValue_append]

/-- The number that the check digits of a code and a body write. -/
def issued (code body : List Char) : Nat :=
  98 - 100 * numeralValue (expansion (body ++ code)) % 97

/-- The check digits 00, 01 and 99 are never issued. -/
theorem issued_bounds (code body : List Char) : 2 ≤ issued code body ∧ issued code body ≤ 98 := by
  unfold issued
  omega

/-- The check digits of a code and a body are two digits that write the number issued. -/
theorem padded_issued_spec (code body : List Char) :
    TwoDigits (padded 10 2 (issued code body)) ∧
      numeralValue (padded 10 2 (issued code body)) = issued code body := by
  have hbounds := issued_bounds code body
  exact padded_spec (by omega)

/-- Digits are those issued for code and body if they lie in the range and leave the remainder 1. -/
theorem eq_issued_iff {code body ds : List Char} (h : TwoDigits ds) :
    numeralValue ds = issued code body ↔
      2 ≤ numeralValue ds ∧ numeralValue ds ≤ 98 ∧ writtenNumber code body ds % 97 = 1 := by
  rw [writtenNumber_eq h, issued]
  omega

/-- The remainder is 1 for the digits issued, and for those that differ from them by the modulus. -/
theorem writtenNumber_mod_eq_one_iff {code body ds : List Char} (h : TwoDigits ds) :
    writtenNumber code body ds % 97 = 1 ↔
      numeralValue ds = issued code body ∨ numeralValue ds + 97 = issued code body ∨
        numeralValue ds = issued code body + 97 := by
  have hlt := h.numeralValue_lt
  rw [writtenNumber_eq h, issued]
  omega

/-! ## Computing and testing check digits -/

/-- The head of a text goes to its end, so that a code, two digits and a body leave the remainder of
the number which body, code and digits write. -/
theorem remainder_segments {code digits body : List Char} (hcode : code.length = 2)
    (hdigits : TwoDigits digits) (hbody : body ≠ [])
    (hsymbols : ∀ c ∈ code ++ body, c.isAlphanum = true) :
    remainder (code ++ digits ++ body) = .ok (writtenNumber code body digits % 97) := by
  have hhead : (code ++ digits).length = 4 := by
    rw [List.length_append, hcode, hdigits.length_eq]
  have hlen : ¬ (code ++ digits ++ body).length ≤ 4 := by
    have := List.length_pos_iff.2 hbody
    rw [List.length_append, hhead]
    omega
  have hnone : (body ++ (code ++ digits)).find? (fun c => !c.isAlphanum) = none := by
    rw [List.find?_eq_none]
    intro c hc
    simp only [List.mem_append] at hc
    rcases hc with hc | hc | hc
    · simp [hsymbols c (by simp [hc])]
    · simp [hsymbols c (by simp [hc])]
    · simp [isAlphanum_iff.2 (.inr (hdigits.digits c hc))]
  rw [remainder_eq, if_neg hlen, List.drop_left' hhead, List.take_left' hhead, hnone, writtenNumber,
    List.append_assoc]

/-- A code of two symbols and a body of symbols have check digits, and these are the issued ones. -/
theorem compute_eq {s : String} {code body : List Char} (hs : s.toList = code ++ ['0', '0'] ++ body)
    (hcode : code.length = 2) (hbody : body ≠ [])
    (hsymbols : ∀ c ∈ code ++ body, c.isAlphanum = true) :
    compute s = .ok (String.ofList (padded 10 2 (issued code body))) := by
  have hzeros : TwoDigits ['0', '0'] := ⟨rfl, List.all_eq_true.1 rfl⟩
  have hzero : numeralValue ['0', '0'] = 0 := by decide
  rw [compute, hs, remainder_segments hcode hzeros hbody hsymbols, writtenNumber_eq hzeros, hzero]
  rfl

/-- The test of the digits in their place. -/
theorem isValid_eq {s : String} {code digits body : List Char}
    (hs : s.toList = code ++ digits ++ body) (hcode : code.length = 2)
    (hdigits : TwoDigits digits) (hbody : body ≠ [])
    (hsymbols : ∀ c ∈ code ++ body, c.isAlphanum = true) :
    isValid s = .ok (writtenNumber code body digits % 97 == 1) := by
  rw [isValid, hs, remainder_segments hcode hdigits hbody hsymbols]
  rfl

end BankCodes.CheckDigits

namespace BankCodes

open CheckDigits Text

/-- A body of symbols has check digits in every country. -/
theorem checkDigitsOf_eq {country : Country} {body : String} (hbody : body.toList ≠ [])
    (hsymbols : ∀ c ∈ body.toList, c.isAlphanum = true) :
    checkDigitsOf country body =
      .ok (String.ofList (padded 10 2 (issued country.code.toList body.toList))) := by
  have hletters : ∀ c ∈ country.code.toList, c.isAlphanum = true := fun c hc =>
    isAlphanum_iff.2 (.inl (.inl (Country.isUpper_of_mem_code c hc)))
  have htext : (country.code ++ "00" ++ body).toList =
      country.code.toList ++ ['0', '0'] ++ body.toList := by simp
  have hall : ∀ c ∈ country.code.toList ++ body.toList, c.isAlphanum = true := fun c hc =>
    (List.mem_append.1 hc).elim (hletters c) (hsymbols c)
  rw [checkDigitsOf, compute_eq htext (by simp) hbody hall]
  rfl

end BankCodes
