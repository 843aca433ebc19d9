import BankCodes.Text.Ascii
import BankCodes.Text.Blank

/-!
# The canonical form of a typed identifier

Identifiers are typed in groups and in either case. Their canonical form has no blanks and only
capital letters, both in the ASCII sense: other characters stay as they are, to be refused later.

    canonical (canonical s) = canonical s
-/

namespace BankCodes.Text

/-- The characters of the canonical form. -/
def canonicalChars (cs : List Char) : List Char :=
  (cs.filter (!isBlank ·)).map Char.toUpper

/-- The text without ASCII blanks, its ASCII letters in upper case. -/
def canonical (s : String) : String := String.ofList (canonicalChars s.toList)

@[simp] theorem toList_canonical (s : String) :
    (canonical s).toList = canonicalChars s.toList := by
  simp [canonical]

@[simp] theorem canonicalChars_append (cs ds : List Char) :
    canonicalChars (cs ++ ds) = canonicalChars cs ++ canonicalChars ds := by
  simp [canonicalChars]

/-- A character that is neither blank nor a small letter is its own canonical form. -/
theorem canonicalChars_eq_self {cs : List Char}
    (h : ∀ c ∈ cs, isBlank c = false ∧ c.toUpper = c) : canonicalChars cs = cs := by
  induction cs with
  | nil => rfl
  | cons c cs ih =>
    have hc := h c (by simp)
    simp only [canonicalChars] at ih ⊢
    rw [List.filter_cons_of_pos (by simp [hc.1]), List.map_cons, hc.2,
      ih fun d hd => h d (by simp [hd])]

/-- Capital letters and digits are their own canonical form. -/
theorem canonicalChars_of_capitals {cs : List Char}
    (h : ∀ c ∈ cs, c.isUpper = true ∨ c.isDigit = true) : canonicalChars cs = cs := by
  apply canonicalChars_eq_self
  intro c hc
  have hcapital := h c hc
  refine forall_ascii (P := fun c => c.isUpper = true ∨ c.isDigit = true →
    isBlank c = false ∧ c.toUpper = c) (by decide) ?_ hcapital
  rw [isUpper_iff, isDigit_iff] at hcapital
  omega

theorem canonicalChars_ofList {cs : List Char} (h : ∀ c ∈ cs, c.isUpper = true ∨ c.isDigit = true) :
    canonicalChars (String.ofList cs).toList = cs := by
  rw [String.toList_ofList, canonicalChars_of_capitals h]

theorem canonical_of_capitals {s : String}
    (h : ∀ c ∈ s.toList, c.isUpper = true ∨ c.isDigit = true) : canonical s = s := by
  rw [← String.toList_inj, toList_canonical, canonicalChars_of_capitals h]

/-- Capital letters stay, and no letter becomes a blank. -/
theorem toUpper_stable (c : Char) :
    c.toUpper.toUpper = c.toUpper ∧ isBlank c.toUpper = isBlank c := by
  cases h : c.isLower with
  | false => simp [toUpper_eq_self h]
  | true =>
    refine forall_ascii (P := fun c => c.toUpper.toUpper = c.toUpper ∧
      isBlank c.toUpper = isBlank c) (by decide) ?_
    have := isLower_iff.1 h
    omega

/-- The canonical form of a canonical form is itself. -/
theorem canonicalChars_idem (cs : List Char) :
    canonicalChars (canonicalChars cs) = canonicalChars cs := by
  apply canonicalChars_eq_self
  intro d hd
  obtain ⟨c, hc, rfl⟩ := List.mem_map.1 hd
  rw [(toUpper_stable c).1, (toUpper_stable c).2]
  exact ⟨by simpa using (List.mem_filter.1 hc).2, rfl⟩

/-- A canonical form holds no blank and no small letter. -/
theorem of_mem_canonicalChars {c : Char} {cs : List Char} (h : c ∈ canonicalChars cs) :
    isBlank c = false ∧ c.isLower = false := by
  obtain ⟨d, hd, rfl⟩ := List.mem_map.1 h
  refine ⟨by rw [(toUpper_stable d).2]; simpa using (List.mem_filter.1 hd).2, ?_⟩
  cases hl : d.isLower with
  | false => rwa [toUpper_eq_self hl]
  | true =>
    refine forall_ascii (P := fun d => d.toUpper.isLower = false) (by decide) ?_
    have := isLower_iff.1 hl
    omega

/-- The letters of a canonical form are capitals. -/
theorem isUpper_or_isDigit_of_mem_canonicalChars {c : Char} {cs : List Char}
    (h : c ∈ canonicalChars cs) (ha : c.isAlphanum = true) :
    c.isUpper = true ∨ c.isDigit = true := by
  have hl := (of_mem_canonicalChars h).2
  rw [isAlphanum_iff, hl] at ha
  simpa using ha

theorem canonical_idem (s : String) : canonical (canonical s) = canonical s := by
  simp [canonical, canonicalChars_idem]

end BankCodes.Text
