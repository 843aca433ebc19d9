import BankCodes.Identifier
import BankCodes.Proofs.Bic.Acceptance
import BankCodes.Proofs.CreditorIdentifier.Parts

/-!
# The segments of identifiers

However an identifier has been obtained, its text is of capitals and digits, and cut at the fixed
lengths of its kind it gives the segments of the identifier:

    IBAN                  country, check digits, BBAN
    creditor identifier   country, check digits, business code, national identifier
    BIC                   institution, country, location, branch

The check digits lie in the issued range and are right for the text, without the business code if
there is one. The code that is cut out at the place of the country is the code of a country.

* `cut_append`: what is put together of pieces is cut into them again;
* `Made.segmented`, `Valid.segmented`: the three kinds;
* `Obtained.sound`, `Sound.segmented`: all ways to obtain an identifier.
-/

namespace BankCodes

open CheckDigits Text

/-! ## Cutting a text -/

namespace Text

/-- The pieces of the given lengths at the front of a text, and what is left of it. -/
def cut : List Nat → List Char → List (List Char)
  | [], cs => [cs]
  | n :: ns, cs => cs.take n :: cut ns (cs.drop n)

/-- Pieces in a row are cut out again at their lengths. -/
theorem cut_append (pieces : List (List Char)) (rest : List Char) :
    cut (pieces.map List.length) (pieces.flatten ++ rest) = pieces ++ [rest] := by
  induction pieces with
  | nil => rfl
  | cons piece pieces ih =>
    rw [List.map_cons, List.flatten_cons, List.append_assoc, cut, List.take_left, List.drop_left,
      ih]
    rfl

end Text

/-- A text of capitals and digits that consists of segments. It is cut into them at the given
lengths, and the last one has what is left. -/
structure Segments (text : String) (lengths : List Nat) (segments : List String) : Prop where
  capitals : ∀ c ∈ text.toList, c.isUpper = true ∨ c.isDigit = true
  joined : text.toList = (segments.map String.toList).flatten
  cut_eq : cut lengths text.toList = segments.map String.toList
  length_eq : segments.dropLast.map String.length = lengths

/-- Segments with the given lengths that make up a text are cut out of it. -/
theorem Segments.of_joined {text : String} {lengths : List Nat} (front : List String)
    {last : String} (hcapitals : ∀ c ∈ text.toList, c.isUpper = true ∨ c.isDigit = true)
    (hlen : front.map String.length = lengths)
    (hjoined : text.toList = ((front ++ [last]).map String.toList).flatten) :
    Segments text lengths (front ++ [last]) := by
  subst hlen
  refine ⟨hcapitals, hjoined, ?_, ?_⟩
  · have hpieces := cut_append (front.map String.toList) last.toList
    have hlengths : (front.map String.toList).map List.length = front.map String.length := by
      rw [List.map_map]
      apply List.map_congr_left
      exact fun s _ => s.length_toList
    rw [hlengths] at hpieces
    rw [hjoined, List.map_append, List.flatten_append]
    simpa using hpieces
  · rw [List.dropLast_concat]

/-- Check digits from 02 to 98 that are right for a text. -/
structure Checked (digits text : String) : Prop where
  twoDigits : TwoDigits digits.toList
  lowest : 2 ≤ numeralValue digits.toList
  highest : numeralValue digits.toList ≤ 98
  valid : CheckDigits.isValid text = .ok true

/-! ## The three kinds -/

namespace Iban

/-- What holds of the segments of every IBAN. -/
structure Segmented (x : Iban) : Prop where
  segments : Segments x.text [2, 2] [x.country.code, x.checkDigits, x.bban]
  nonempty : 1 ≤ x.bban.length
  checked : Checked x.checkDigits x.text
  country : Country.ofChars? (x.text.toList.take 2) = some x.country

theorem Made.checked {registry : Registry} {x : Iban} (h : x.Made registry) :
    Checked x.checkDigits x.text := by
  obtain ⟨rule, -, hcountry, hgenuine⟩ := h.genuine
  refine ⟨hgenuine.twoDigits, hgenuine.lowest, hgenuine.highest, ?_⟩
  have hbody : x.bban.toList ≠ [] := List.ne_nil_of_length_pos h.nonempty
  have hsymbols : ∀ c ∈ x.country.code.toList ++ x.bban.toList, c.isAlphanum = true := by
    intro c hc
    apply isAlphanum_of_capital
    rcases List.mem_append.1 hc with hc | hc
    · exact .inl (Country.isUpper_of_mem_code c hc)
    · exact h.capitals c hc
  rw [isValid_eq (toList_text x) (by simp) hgenuine.twoDigits hbody hsymbols, ← hcountry,
    hgenuine.remainder]
  rfl

/-- An IBAN that is made of parts, in any registry, is cut into these parts. -/
theorem Made.segmented {registry : Registry} {x : Iban} (h : x.Made registry) : x.Segmented := by
  have hcode : x.country.code.toList.length = 2 := by simp
  have hdigits := h.checked.twoDigits.length_eq
  refine ⟨?_, ?_, h.checked, ?_⟩
  · apply Segments.of_joined [x.country.code, x.checkDigits] h.text_capitals
    · simp only [List.map_cons, List.map_nil, ← String.length_toList, hcode, hdigits]
    · simp
  · rw [← String.length_toList]
    exact h.nonempty
  · rw [toList_text, (cut_append hcode hdigits _).1]
    exact Country.ofChars?_eq_some_iff.2 x.country.toList_code

end Iban

namespace CreditorIdentifier

/-- What holds of the segments of every creditor identifier. The check digits are right for the text
without the business code. -/
structure Segmented (y : CreditorIdentifier) : Prop where
  segments : Segments y.text [2, 2, 3] [y.country.code, y.checkDigits, y.businessCode, y.nationalId]
  nonempty : 1 ≤ y.nationalId.length
  checked : Checked y.checkDigits (String.ofList (y.text.toList.take 4 ++ y.text.toList.drop 7))
  country : Country.ofChars? (y.text.toList.take 2) = some y.country

/-- Without its fifth to seventh characters, the text is that of the IBAN without business code. -/
theorem Made.ofList_take_drop {registry : Registry} {y : CreditorIdentifier} (h : y.Made registry) :
    String.ofList (y.text.toList.take 4 ++ y.text.toList.drop 7) = y.withoutBusinessCode.text := by
  have hcode : y.country.code.toList.length = 2 := by simp
  have hfront : (y.country.code.toList ++ y.checkDigits.toList).length = 4 := by
    rw [List.length_append, hcode, h.checkDigits_length]
  obtain ⟨-, -, -, hdrop⟩ :=
    cut_append hcode h.checkDigits_length h.businessCode_length y.nationalId.toList
  rw [← String.toList_inj, String.toList_ofList, toList_text_withoutBusinessCode, toList_text,
    hdrop, List.append_assoc _ _ y.nationalId.toList, List.take_left' hfront]

theorem Made.segmented {registry : Registry} {y : CreditorIdentifier} (h : y.Made registry) :
    y.Segmented := by
  have hcode : y.country.code.toList.length = 2 := by simp
  have hdigits := h.checkDigits_length
  have hbusiness := h.businessCode_length
  refine ⟨?_, ?_, ?_, ?_⟩
  · apply Segments.of_joined [y.country.code, y.checkDigits, y.businessCode] h.text_capitals
    · simp only [List.map_cons, List.map_nil, ← String.length_toList, hcode, hdigits, hbusiness]
    · simp
  · rw [← String.length_toList]
    exact h.withoutBusinessCode.nonempty
  · rw [h.ofList_take_drop]
    exact h.withoutBusinessCode.checked
  · rw [toList_text, (cut_append hcode hdigits hbusiness _).1]
    exact Country.ofChars?_eq_some_iff.2 y.country.toList_code

end CreditorIdentifier

namespace Bic

/-- What holds of the segments of every BIC. -/
structure Segmented (x : Bic) : Prop where
  segments : Segments x.text [4, 2, 2] [x.institution, x.country.code, x.location, x.branch]
  branch_length : x.branch.length = 3
  country : Country.ofChars? ((x.text.toList.drop 4).take 2) = some x.country

/-- The text of a BIC is of capitals and digits throughout. -/
theorem Valid.text_capitals {x : Bic} (h : x.Valid) :
    ∀ c ∈ x.text.toList, c.isUpper = true ∨ c.isDigit = true := by
  intro c hc
  rw [toList_text, List.mem_append, List.mem_append, List.mem_append] at hc
  rcases hc with ((hc | hc) | hc) | hc
  · exact .inl (h.institution_letters c hc)
  · exact .inl (Country.isUpper_of_mem_code c hc)
  · exact h.location_capitals c hc
  · exact h.branch_capitals c hc

/-- A test code differs from its BIC in one character of the location, which becomes a digit. -/
theorem Valid.asTest {x : Bic} (h : x.Valid) : x.asTest.Valid := by
  refine ⟨h.institution_length, h.institution_letters, ?_, h.branch_length, h.branch_capitals⟩
  intro c hc
  rcases List.mem_cons.1 hc with rfl | hc
  · exact h.location_capitals x.site List.mem_cons_self
  · right
    rw [List.mem_singleton.1 hc]
    rfl

theorem Valid.segmented {x : Bic} (h : x.Valid) : x.Segmented := by
  have hcode : x.country.code.toList.length = 2 := by simp
  have hlocation : x.location.toList.length = 2 := by simp [location]
  refine ⟨?_, ?_, ?_⟩
  · apply Segments.of_joined [x.institution, x.country.code, x.location] h.text_capitals
    · simp only [List.map_cons, List.map_nil, ← String.length_toList, hcode, h.institution_length,
        hlocation]
    · simp [location]
  · rw [← String.length_toList]
    exact h.branch_length
  · rw [toList_text, List.append_assoc, List.append_assoc, List.drop_left' h.institution_length,
      List.take_left' hcode]
    exact Country.ofChars?_eq_some_iff.2 x.country.toList_code

end Bic

/-! ## All ways to obtain an identifier -/

namespace Identifier

/-- What holds of the segments of every identifier. -/
def Segmented : Identifier → Prop
  | iban x => x.Segmented
  | bic x => x.Segmented
  | creditor y => y.Segmented

/-- The identifiers that are read from texts, made of parts in any registry, or the test codes of
BICs that have been obtained before. -/
inductive Obtained : Identifier → Prop where
  | read {kind : Kind} {registry : Option Registry} {input : Option String} {x : Identifier} :
      ofInput kind registry input = .ok x → Obtained x
  | ibanOfParts {country : CountryArgument} {bban : Option String} {registry : Registry}
      {x : Iban} :
      Iban.ofParts country bban registry = .ok x → Obtained (iban x)
  | creditorOfParts {country : CountryArgument} {businessCode nationalId : Option String}
      {registry : Registry} {y : CreditorIdentifier} :
      CreditorIdentifier.ofParts country businessCode nationalId registry = .ok y →
      Obtained (creditor y)
  | asTest {x : Bic} : Obtained (bic x) → Obtained (bic x.asTest)

theorem Obtained.of_parse {kind : Kind} {registry : Option Registry} {input : String}
    {x : Identifier} (h : parse kind registry input = .ok x) : Obtained x := by
  have hread : ofInput kind registry (some input) = .ok x := h
  exact .read hread

theorem Obtained.of_parse_bic {input : String} {x : Bic} (h : Bic.parse input = .ok x) :
    Obtained (bic x) := by
  have hread : parse .bic none input = .ok (bic x) := by
    rw [parse_bic, h]
    rfl
  exact .of_parse hread

/-- A test code that is made of a BIC is this BIC itself, or it is read from a text. -/
theorem Obtained.toTest {x y : Bic} (h : Obtained (bic x)) (hy : x.toTest = .ok y) :
    Obtained (bic y) := by
  unfold Bic.toTest at hy
  split at hy
  · cases hy
    exact h
  · exact .of_parse_bic hy

/-- What the segments of an identifier rest on: it could have been made of parts. -/
def Sound : Identifier → Prop
  | iban x => ∃ registry, x.Made registry
  | bic x => x.Valid
  | creditor y => ∃ registry, y.Made registry

theorem Sound.segmented {x : Identifier} (h : x.Sound) : x.Segmented := by
  cases x with
  | iban x =>
    obtain ⟨registry, hmade⟩ := h
    exact hmade.segmented
  | bic x =>
    have hvalid : x.Valid := h
    exact hvalid.segmented
  | creditor y =>
    obtain ⟨registry, hmade⟩ := h
    exact hmade.segmented

/-- What is read is sound. -/
theorem sound_of_parse {kind : Kind} {registry : Option Registry} {input : String} {x : Identifier}
    (h : parse kind registry input = .ok x) : x.Sound := by
  cases kind with
  | iban =>
    rw [parse_iban] at h
    obtain ⟨x, hx, rfl⟩ := map_eq_ok_iff.1 h
    have hvalid := (Iban.parse_eq_ok_iff.1 hx).1
    exact ⟨_, (Iban.valid_iff_made.1 hvalid).1⟩
  | bic =>
    rw [parse_bic] at h
    obtain ⟨x, hx, rfl⟩ := map_eq_ok_iff.1 h
    exact Bic.valid_of_parse_eq_ok hx
  | creditor =>
    rw [parse_creditor] at h
    obtain ⟨y, hy, rfl⟩ := map_eq_ok_iff.1 h
    have hvalid := (CreditorIdentifier.parse_eq_ok_iff.1 hy).1
    exact ⟨_, (CreditorIdentifier.valid_iff_made.1 hvalid).1⟩
  | unspecified => cases h

theorem Obtained.sound {x : Identifier} (h : Obtained x) : x.Sound := by
  induction h with
  | @read kind registry input x h =>
    obtain ⟨input, -, hparse⟩ := bind_eq_ok_iff.1 h
    exact sound_of_parse hparse
  | ibanOfParts h => exact ⟨_, (Iban.ofParts_eq_ok_iff.1 h).2.2⟩
  | creditorOfParts h => exact ⟨_, (CreditorIdentifier.ofParts_eq_ok_iff.1 h).2.2.2⟩
  | asTest _ ih => exact Bic.Valid.asTest ih

end Identifier

end BankCodes
