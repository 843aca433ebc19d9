import BankCodes.Text.CaseTable

/-!
# Full upper case

The upper-case form of a character may be several characters: a ligature comes apart, the sharp s
becomes two letters. `upper` takes the whole text, so its result may be longer than the text.
-/

namespace BankCodes.Text

/-- The upper-case form of a character. -/
def upperChar (c : Char) : List Char :=
  if c.toNat < 0x80 then [c.toUpper]
  else match upperExpansions.lookup c.toNat with
    | some codes => codes.map Char.ofNat
    | none => match upperRuns.findSome? (·.upper? c.toNat) with
      | some code => [Char.ofNat code]
      | none => [c]

/-- The upper-case form of a text. -/
def upper (cs : List Char) : List Char := cs.flatMap upperChar

@[simp] theorem upper_append (cs ds : List Char) : upper (cs ++ ds) = upper cs ++ upper ds := by
  simp [upper]

/-- In ASCII the upper-case form is the one of the capital letters. -/
theorem upper_eq_map {cs : List Char} (h : ∀ c ∈ cs, c.toNat < 0x80) :
    upper cs = cs.map Char.toUpper := by
  induction cs with
  | nil => rfl
  | cons c cs ih =>
    have hc := h c (by simp)
    rw [upper, List.flatMap_cons, ← upper, ih fun d hd => h d (by simp [hd])]
    simp [upperChar, hc]

end BankCodes.Text
