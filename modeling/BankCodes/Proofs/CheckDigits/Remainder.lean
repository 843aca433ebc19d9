import BankCodes.CheckDigits
import BankCodes.Text.Ascii

/-!
# The remainder is that of the written number

`remainder` never forms the number that a text writes: it absorbs one weight after the other, by one
place or by two, and reduces the total whenever it has grown past nine digits. Here that number is
written out, as the decimal numerals of the symbols side by side (`expansion`), and the fold is
shown to give its remainder.

* one step: absorbing a weight is, modulo 97, writing its numeral at the right end (`absorb_mod`,
  `shift_eq_ofDigitChars`);
* a whole run: `foldl_absorb_mod` and `foldl_shift`, by induction on the weights;
* every text: `remainder_eq` gives the remainder, or the fault that is named instead, and
  `remainder_map_toUpper` tells that case does not matter.
-/

namespace BankCodes.CheckDigits

open Text

/-! ## The number that a text writes -/

/-- The digits and the capital letters, each in the place of its value. -/
def symbols : List Char :=
  ['0', '1', '2', '3', '4', '5', '6', '7', '8', '9', 'A', 'B', 'C', 'D', 'E', 'F', 'G', 'H', 'I',
    'J', 'K', 'L', 'M', 'N', 'O', 'P', 'Q', 'R', 'S', 'T', 'U', 'V', 'W', 'X', 'Y', 'Z']

/-- The value of a symbol. A small letter has that of its capital. -/
def symbolValue (c : Char) : Nat := symbols.idxOf c.toUpper

/-- The values of the symbols of a text, as decimal numerals side by side. -/
def expansion (cs : List Char) : List Char := cs.flatMap fun c => numeral (symbolValue c)

@[simp] theorem expansion_append (cs ds : List Char) :
    expansion (cs ++ ds) = expansion cs ++ expansion ds := by
  simp [expansion]

/-! ## Weights -/

/-- The symbols have their values as weights, and nothing else has a weight. -/
theorem weight?_eq (c : Char) :
    weight? c = if c.isAlphanum then some (symbolValue c) else none := by
  -- in ASCII by looking at each character, beyond it because no class holds any
  by_cases hc : c.toNat < 128
  · exact forall_ascii (P := fun c => weight? c =
      if c.isAlphanum then some (symbolValue c) else none) (by decide +kernel) hc
  · have hd : c.isDigit = false := by
      rw [Bool.eq_false_iff, ne_eq, isDigit_iff]
      omega
    have hu : c.isUpper = false := by
      rw [Bool.eq_false_iff, ne_eq, isUpper_iff]
      omega
    have hl : c.isLower = false := by
      rw [Bool.eq_false_iff, ne_eq, isLower_iff]
      omega
    have ha : c.isAlphanum = false := by
      rw [Bool.eq_false_iff, ne_eq, isAlphanum_iff]
      simp [hd, hu, hl]
    simp [weight?, hd, hu, hl, ha]

/-- A value takes at most two places. -/
theorem symbolValue_lt {c : Char} (h : c.isAlphanum = true) : symbolValue c < 36 :=
  forall_ascii (P := fun c => c.isAlphanum = true → symbolValue c < 36) (by decide +kernel)
    (lt_of_isAlphanum h) h

/-- The weights of a text, unless there is a character without one: then the first such. -/
theorem weights_eq (cs : List Char) :
    weights cs = match cs.find? (fun c => !c.isAlphanum) with
      | some c => .error (.noWeight c)
      | none => .ok (cs.map symbolValue) := by
  induction cs with
  | nil => rfl
  | cons c cs ih =>
    rw [weights, weight?_eq]
    cases hc : c.isAlphanum with
    | false => simp [hc]
    | true =>
      simp only [if_true, ih, List.find?_cons, hc, Bool.not_true]
      cases cs.find? fun c => !c.isAlphanum <;> rfl

/-! ## One step of the fold -/

/-- Shifting in a weight of at most two digits writes its numeral at the right end. -/
theorem shift_eq_ofDigitChars {w : Nat} (hw : w < 100) (total : Nat) :
    shift total w = Nat.ofDigitChars 10 (numeral w) total := by
  unfold shift numeral
  by_cases h : w < 10
  · rw [if_neg (by omega), Nat.toDigits_of_lt_base h,
      Nat.ofDigitChars_cons_digitChar_of_lt_ten h, Nat.ofDigitChars_nil, Nat.mul_comm]
  · have hq : w / 10 < 10 := by omega
    have hr : w % 10 < 10 := by omega
    rw [if_pos (by omega), Nat.toDigits_of_base_le (by decide) (by omega),
      Nat.toDigits_of_lt_base hq, List.singleton_append,
      Nat.ofDigitChars_cons_digitChar_of_lt_ten hq, Nat.ofDigitChars_cons_digitChar_of_lt_ten hr,
      Nat.ofDigitChars_nil]
    omega

/-- Shifting respects congruence. -/
theorem shift_mod {s t : Nat} (h : s % modulus = t % modulus) (w : Nat) :
    shift s w % modulus = shift t w % modulus := by
  unfold shift modulus at *
  split <;> omega

/-- Absorbing a weight is shifting it in, up to a multiple of the modulus. -/
theorem absorb_mod (total w : Nat) : absorb total w % modulus = shift total w % modulus := by
  unfold absorb
  split
  · exact Nat.mod_mod _ _
  · rfl

/-! ## A whole run of the fold -/

/-- The reductions on the way, wherever they fall, leave the remainder of the plain fold. -/
theorem foldl_absorb_mod {s t : Nat} (h : s % modulus = t % modulus) (ws : List Nat) :
    ws.foldl absorb s % modulus = ws.foldl shift t % modulus := by
  -- the two totals differ after a reduction, so that only their congruence can be carried along
  induction ws generalizing s t with
  | nil => exact h
  | cons w ws ih =>
    rw [List.foldl_cons, List.foldl_cons]
    apply ih
    rw [absorb_mod]
    exact shift_mod h w

/-- The plain fold reads the numerals of the weights as one numeral. -/
theorem foldl_shift {ws : List Nat} (h : ∀ w ∈ ws, w < 100) (total : Nat) :
    ws.foldl shift total = Nat.ofDigitChars 10 (ws.flatMap numeral) total := by
  induction ws generalizing total with
  | nil => rfl
  | cons w ws ih =>
    have hw : w < 100 := h w (by simp)
    have hws : ∀ v ∈ ws, v < 100 := fun v hv => h v (by simp [hv])
    rw [List.foldl_cons, shift_eq_ofDigitChars hw, ih hws, List.flatMap_cons,
      Nat.ofDigitChars_append]

/-- For symbols, the fold gives the remainder of the number that they write. -/
theorem foldl_absorb_symbolValue {cs : List Char} (h : ∀ c ∈ cs, c.isAlphanum = true) :
    (cs.map symbolValue).foldl absorb 0 % modulus = numeralValue (expansion cs) % modulus := by
  have hw : ∀ w ∈ cs.map symbolValue, w < 100 := by
    intro w hw
    obtain ⟨c, hc, rfl⟩ := List.mem_map.1 hw
    have := symbolValue_lt (h c hc)
    omega
  rw [foldl_absorb_mod rfl, foldl_shift hw, List.flatMap_map]
  rfl

/-! ## Every text -/

/-- The remainder of a text in all cases. A text that is too short is told so whatever it holds;
after that the first character of the rotated text that is no symbol is named. -/
theorem remainder_eq (cs : List Char) :
    remainder cs =
      if cs.length ≤ 4 then .error .tooShort
      else match (cs.drop 4 ++ cs.take 4).find? (fun c => !c.isAlphanum) with
        | some c => .error (.noWeight c)
        | none => .ok (numeralValue (expansion (cs.drop 4 ++ cs.take 4)) % 97) := by
  show (if cs.length ≤ 4 then _ else _) = _
  split
  · rfl
  · rw [weights_eq, show rotate cs = cs.drop 4 ++ cs.take 4 from rfl]
    cases hf : (cs.drop 4 ++ cs.take 4).find? fun c => !c.isAlphanum with
    | some c => rfl
    | none =>
      have h : ∀ c ∈ cs.drop 4 ++ cs.take 4, c.isAlphanum = true := by
        simpa using List.find?_eq_none.1 hf
      exact congrArg Except.ok (foldl_absorb_symbolValue h)

/-! ## Case -/

private theorem upper_symbol (c : Char) :
    weight? c.toUpper = weight? c ∧ (weight? c = none → c.toUpper = c) := by
  cases h : c.isLower with
  | false => simp [toUpper_eq_self h]
  | true =>
    refine forall_ascii (P := fun c => weight? c.toUpper = weight? c ∧
      (weight? c = none → c.toUpper = c)) (by decide +kernel) ?_
    have := isLower_iff.1 h
    omega

private theorem weights_map_toUpper (cs : List Char) :
    weights (cs.map Char.toUpper) = weights cs := by
  induction cs with
  | nil => rfl
  | cons c cs ih =>
    obtain ⟨hw, hn⟩ := upper_symbol c
    rw [List.map_cons, weights, weights, hw, ih]
    cases h : weight? c with
    | none => simp only [hn h]
    | some w => rfl

/-- A text and its capital form have the same remainder, or the same fault. -/
theorem remainder_map_toUpper (cs : List Char) :
    remainder (cs.map Char.toUpper) = remainder cs := by
  have hr : rotate (cs.map Char.toUpper) = (rotate cs).map Char.toUpper := by
    simp [rotate, List.map_drop, List.map_take]
  rw [remainder, remainder, hr, weights_map_toUpper, List.length_map]

/-! ## The contract of the fold -/

/-- Where every character is a symbol, the remainder is that of the number written by the rotated
text, in whichever case its letters are. Any other text has a fault: its length first, and then the
first character that is no symbol, where those behind the head come before those of the head. -/
theorem remainder_of_written_number (cs : List Char) :
    (4 < cs.length → (∀ c ∈ cs, c.isAlphanum = true) →
      remainder cs = .ok (numeralValue (expansion (cs.drop 4 ++ cs.take 4)) % 97) ∧
        ∀ ds, ds.map Char.toUpper = cs.map Char.toUpper → remainder ds = remainder cs) ∧
    (cs.length ≤ 4 → remainder cs = .error .tooShort) ∧
    (4 < cs.length → ∀ before c after, cs.drop 4 ++ cs.take 4 = before ++ c :: after →
      (∀ d ∈ before, d.isAlphanum = true) → c.isAlphanum = false →
        remainder cs = .error (.noWeight c)) ∧
    (4 < cs.length → (∃ c ∈ cs.drop 4, c.isAlphanum = false) →
      ∃ c ∈ cs.drop 4, c.isAlphanum = false ∧ remainder cs = .error (.noWeight c)) := by
  refine ⟨?_, ?_, ?_, ?_⟩
  · intro hlen hall
    have hnone : (cs.drop 4 ++ cs.take 4).find? (fun c => !c.isAlphanum) = none := by
      rw [List.find?_eq_none]
      intro c hc
      have hmem : c ∈ cs := (List.mem_append.1 hc).elim List.mem_of_mem_drop List.mem_of_mem_take
      simp [hall c hmem]
    refine ⟨by rw [remainder_eq, if_neg (by omega), hnone], fun ds hds => ?_⟩
    rw [← remainder_map_toUpper ds, hds, remainder_map_toUpper]
  · intro hlen
    rw [remainder_eq, if_pos hlen]
  · intro hlen before c after hcut hbefore hc
    have hfind : (cs.drop 4 ++ cs.take 4).find? (fun c => !c.isAlphanum) = some c := by
      rw [hcut, List.find?_append, List.find?_eq_none.2 (by simpa using hbefore)]
      simp [hc]
    rw [remainder_eq, if_neg (by omega), hfind]
  · intro hlen ⟨c, hc, hbad⟩
    cases hfind : (cs.drop 4).find? fun c => !c.isAlphanum with
    | none => simpa [hbad] using List.find?_eq_none.1 hfind c hc
    | some d =>
      have hd : d.isAlphanum = false := by simpa using List.find?_some hfind
      refine ⟨d, List.mem_of_find?_eq_some hfind, hd, ?_⟩
      rw [remainder_eq, if_neg (by omega), List.find?_append, hfind]
      rfl

/-- A text in mixed case, a text that is too short, and one that is wrong before and behind the end
of its head: there the letter with the accent is named, not the hyphen. -/
theorem remainder_of_written_number_samples :
    (remainder ['g', 'B', '0', '0', 'w', 'E', 'S', 'T', '1'] =
        .ok (numeralValue (expansion ['w', 'E', 'S', 'T', '1', 'g', 'B', '0', '0']) % 97) ∧
      remainder ['G', 'b', '0', '0', 'W', 'e', 'S', 't', '1'] =
        remainder ['g', 'B', '0', '0', 'w', 'E', 'S', 'T', '1']) ∧
    remainder ['F', '-', '1', '4'] = .error .tooShort ∧
    remainder ['F', '-', '1', '4', '2', 'É', '0'] = .error (.noWeight 'É') ∧
    ∃ c ∈ ['2', 'É', '0'], c.isAlphanum = false ∧
      remainder ['F', '-', '1', '4', '2', 'É', '0'] = .error (.noWeight c) := by
  obtain ⟨hsymbols, -, -, -⟩ :=
    remainder_of_written_number ['g', 'B', '0', '0', 'w', 'E', 'S', 'T', '1']
  obtain ⟨hvalue, hcase⟩ := hsymbols (by decide) (List.all_eq_true.1 (by decide))
  obtain ⟨-, -, hnamed, hfirst⟩ :=
    remainder_of_written_number ['F', '-', '1', '4', '2', 'É', '0']
  exact ⟨⟨hvalue, hcase _ (by decide)⟩,
    (remainder_of_written_number ['F', '-', '1', '4']).2.1 (by decide),
    hnamed (by decide) ['2'] 'É' ['0', 'F', '-', '1', '4'] rfl (List.all_eq_true.1 (by decide))
      (by decide),
    hfirst (by decide) ⟨'É', by decide, by decide⟩⟩

end BankCodes.CheckDigits
