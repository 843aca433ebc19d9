import BankCodes.Proofs.CheckDigits.Remainder
import Mathlib.Algebra.Order.Ring.Int

/-!
# The fold in words of 64 bits

The total is reduced as soon as it has more than nine digits, so that it never has more when the
next weight comes, and what comes up before a reduction has eleven digits at most. The same fold
may therefore be done in signed words of 64 bits, whose arithmetic wraps, without any of them ever
wrapping.

* one step: `absorb_le` bounds the total behind it and `shift_le` what comes up in it, and
  `Holds.absorbWord` does it in words;
* a whole run: `foldl_absorb_le` and `Holds.foldl_absorbWord`, by induction on the weights;
* every text: `remainderWord_eq` gives the remainder, or the fault, that `remainder` gives.
-/

namespace BankCodes.CheckDigits

/-! ## Bounds of the totals -/

/-- The largest value that comes up in a step, before any reduction. -/
def largestShift : Nat := 99999999935

/-- What comes up in a step is bounded, if the total before it is. -/
theorem shift_le {total w : Nat} (htotal : total ≤ largestTotal) (hw : w < 36) :
    shift total w ≤ largestShift := by
  unfold shift
  unfold largestTotal at htotal
  unfold largestShift
  split <;> omega

/-- The total behind a step is bounded, whatever it was before. -/
theorem absorb_le (total w : Nat) : absorb total w ≤ largestTotal := by
  unfold absorb
  split
  · have hlt : shift total w % modulus < modulus := Nat.mod_lt _ (by decide)
    have hle : modulus ≤ largestTotal := by decide
    omega
  · next hle => exact Nat.le_of_not_lt hle

/-- So is the total behind a whole run. -/
theorem foldl_absorb_le {total : Nat} (htotal : total ≤ largestTotal) (ws : List Nat) :
    ws.foldl absorb total ≤ largestTotal := by
  induction ws generalizing total with
  | nil => exact htotal
  | cons w ws ih => exact ih (absorb_le total w)

/-- The weights of symbols. -/
theorem lt_of_weights_eq_ok {cs : List Char} {ws : List Nat} (h : weights cs = .ok ws) :
    ∀ w ∈ ws, w < 36 := by
  rw [weights_eq] at h
  split at h
  · cases h
  · next hnone =>
    cases h
    intro w hw
    obtain ⟨c, hc, rfl⟩ := List.mem_map.1 hw
    exact symbolValue_lt (by simpa using List.find?_eq_none.1 hnone c hc)

/-! ## The fold in words -/

/-- The total with one more weight written to its right, in words. -/
def shiftWord (total w : Int64) : Int64 := (if w > 9 then total * 100 else total * 10) + w

/-- The total with one more weight, reduced if it exceeds nine digits, in words. -/
def absorbWord (total w : Int64) : Int64 :=
  if shiftWord total w > 999999999 then shiftWord total w % 97 else shiftWord total w

/-- The remainder of a text, computed in words. -/
def remainderWord (cs : List Char) : Except Fault Int64 :=
  if cs.length ≤ headLength then .error .tooShort
  else (weights (rotate cs)).map fun ws => (ws.map Int64.ofNat).foldl absorbWord 0 % 97

/-- The word has the value of the number. -/
def Holds (x : Int64) (n : Nat) : Prop := x.toInt = n

theorem holds_ofNat {n : Nat} (hn : n < 2 ^ 63) : Holds (Int64.ofNat n) n :=
  Int64.toInt_ofNat_of_lt hn

section

variable {x y : Int64} {m n : Nat} (hx : Holds x m) (hy : Holds y n)
include hx hy

/-- A sum that has room in a word does not wrap. -/
theorem Holds.add (hlt : m + n < 2 ^ 63) : Holds (x + y) (m + n) := by
  rw [Holds, Int64.toInt_add, hx, hy, ← Nat.cast_add]
  exact Int.bmod_eq_of_le (by omega) (by omega)

/-- Nor does such a product. -/
theorem Holds.mul (hlt : m * n < 2 ^ 63) : Holds (x * y) (m * n) := by
  rw [Holds, Int64.toInt_mul, hx, hy, ← Nat.cast_mul]
  exact Int.bmod_eq_of_le (by omega) (by omega)

theorem Holds.mod : Holds (x % y) (m % n) := by
  rw [Holds, Int64.toInt_mod, hx, hy]
  rfl

theorem Holds.lt_iff : x < y ↔ m < n := by
  rw [Int64.lt_iff_toInt_lt, hx, hy, Int.ofNat_lt]

end

/-- A shift of a bounded total is the same in words. -/
theorem Holds.shiftWord {x : Int64} {total w : Nat} (hx : Holds x total)
    (htotal : total ≤ largestTotal) (hw : w < 36) :
    Holds (CheckDigits.shiftWord x (Int64.ofNat w)) (shift total w) := by
  have hword : Holds (Int64.ofNat w) w := holds_ofNat (by omega)
  have hwide : Int64.ofNat w > 9 ↔ w > 9 := (holds_ofNat (by decide)).lt_iff hword
  unfold largestTotal at htotal
  unfold CheckDigits.shiftWord shift
  simp only [hwide]
  split
  · exact (hx.mul (holds_ofNat (n := 100) (by decide)) (by omega)).add hword (by omega)
  · exact (hx.mul (holds_ofNat (n := 10) (by decide)) (by omega)).add hword (by omega)

/-- A step from a bounded total is the same in words. -/
theorem Holds.absorbWord {x : Int64} {total w : Nat} (hx : Holds x total)
    (htotal : total ≤ largestTotal) (hw : w < 36) :
    Holds (CheckDigits.absorbWord x (Int64.ofNat w)) (absorb total w) := by
  have hshift := hx.shiftWord htotal hw
  have hlarge : CheckDigits.shiftWord x (Int64.ofNat w) > 999999999 ↔
      shift total w > largestTotal := (holds_ofNat (by decide)).lt_iff hshift
  unfold CheckDigits.absorbWord absorb
  simp only [hlarge]
  split
  · exact hshift.mod (holds_ofNat (by decide))
  · exact hshift

/-- A whole run is the same in words. -/
theorem Holds.foldl_absorbWord {x : Int64} {total : Nat} (hx : Holds x total)
    (htotal : total ≤ largestTotal) {ws : List Nat} (hws : ∀ w ∈ ws, w < 36) :
    Holds ((ws.map Int64.ofNat).foldl CheckDigits.absorbWord x) (ws.foldl absorb total) := by
  -- the bound of the total behind each step is what keeps the next one from wrapping
  induction ws generalizing x total with
  | nil => exact hx
  | cons w ws ih =>
    rw [List.forall_mem_cons] at hws
    exact ih (hx.absorbWord htotal hws.1) (absorb_le total w) hws.2

/-- In words, every text has the same remainder, or the same fault. -/
theorem remainderWord_eq (cs : List Char) :
    (remainderWord cs).map Int64.toInt = (remainder cs).map Nat.cast := by
  unfold remainderWord remainder
  split
  · rfl
  · cases hws : weights (rotate cs) with
    | error fault => rfl
    | ok ws =>
      have hzero : Holds 0 0 := holds_ofNat (by decide)
      have hfold := hzero.foldl_absorbWord (by decide) (lt_of_weights_eq_ok hws)
      exact congrArg Except.ok (hfold.mod (holds_ofNat (n := modulus) (by decide)))

/-! ## Every iteration -/

/-- The weights of a text of symbols are absorbed one by one. At each of them the total has nine
digits at most, before and after, and what comes up in between is at most 99999999935. So the fold
may be done in signed words of 64 bits: there the total is the same before each weight, and the
remainder in the end. -/
theorem fold_bounded (cs : List Char) (hlen : 4 < cs.length)
    (hsymbols : ∀ c ∈ cs, c.isAlphanum = true) :
    ∃ ws, weights (rotate cs) = .ok ws ∧ ws.length = cs.length ∧
      remainder cs = .ok (ws.foldl absorb 0 % 97) ∧
      (∀ before w after, ws = before ++ w :: after →
        before.foldl absorb 0 ≤ 999999999 ∧
        shift (before.foldl absorb 0) w ≤ 99999999935 ∧
        absorb (before.foldl absorb 0) w ≤ 999999999 ∧
        Holds ((before.map Int64.ofNat).foldl absorbWord 0) (before.foldl absorb 0)) ∧
      (remainderWord cs).map Int64.toInt = (remainder cs).map Nat.cast := by
  have hrotated : ∀ c ∈ rotate cs, c.isAlphanum = true := fun c hc =>
    hsymbols c ((List.mem_append.1 hc).elim List.mem_of_mem_drop List.mem_of_mem_take)
  have hnone : (rotate cs).find? (fun c => !c.isAlphanum) = none := by
    simpa [List.find?_eq_none] using hrotated
  have hweights : weights (rotate cs) = .ok ((rotate cs).map symbolValue) := by
    rw [weights_eq, hnone]
  have hremainder : remainder cs = .ok (((rotate cs).map symbolValue).foldl absorb 0 % 97) := by
    have hlong : ¬ cs.length ≤ headLength := Nat.not_le.2 hlen
    rw [remainder, if_neg hlong, hweights]
    rfl
  refine ⟨_, hweights, ?_, hremainder, fun before w after hcut => ?_, ?_⟩
  · rw [List.length_map, rotate, List.length_append, List.length_drop, List.length_take]
    omega
  · have hws := lt_of_weights_eq_ok hweights
    rw [hcut, List.forall_mem_append, List.forall_mem_cons] at hws
    have htotal : before.foldl absorb 0 ≤ largestTotal := foldl_absorb_le (Nat.zero_le _) before
    exact ⟨htotal, shift_le htotal hws.2.1, absorb_le _ w,
      (holds_ofNat (n := 0) (by decide)).foldl_absorbWord (Nat.zero_le _) hws.1⟩
  · exact remainderWord_eq cs

/-- Behind nine digits nine a letter of the largest weight comes: both bounds are reached. -/
theorem fold_bounded_sample :
    ∃ ws before after, weights (rotate "DE00999999999Z1".toList) = .ok ws ∧
      ws = before ++ 35 :: after ∧ before.foldl absorb 0 = 999999999 ∧
      shift (before.foldl absorb 0) 35 = 99999999935 ∧
      absorb (before.foldl absorb 0) 35 ≤ 999999999 ∧
      Holds ((before.map Int64.ofNat).foldl absorbWord 0) (before.foldl absorb 0) := by
  obtain ⟨ws, hws, -, -, hsteps, -⟩ :=
    fold_bounded "DE00999999999Z1".toList (by decide) (List.all_eq_true.1 (by decide))
  have hcut : weights (rotate "DE00999999999Z1".toList) =
      .ok ([9, 9, 9, 9, 9, 9, 9, 9, 9] ++ 35 :: [1, 13, 14, 0, 0]) := by decide
  obtain rfl := Except.ok.inj (hws.symm.trans hcut)
  obtain ⟨-, -, hafter, hword⟩ := hsteps _ 35 _ rfl
  exact ⟨_, _, _, hws, rfl, by decide, by decide, hafter, hword⟩

end BankCodes.CheckDigits
