import BankCodes.Proofs.CreditorIdentifier.Acceptance
import BankCodes.Proofs.Iban.Parts
import Mathlib.Logic.ExistsUnique

/-!
# Creditor identifiers made of parts

`CreditorIdentifier.ofParts` looks at the form of the business code, and for the rest makes an IBAN
of the country and the national identifier. The length of the national identifier is left to the
rule of the country, as that of a BBAN is:

    y.Valid registry ↔ y.Made registry ∧ y.nationalId has at most 28 characters

* `ofParts_eq_ok_iff`: which parts make a creditor identifier, and which one;
* `Made.parse_text`: what is made is read again exactly if it is not too long;
* `triples_bijective`: with the shipped layouts nothing is too long, and creditor identifiers and
  their canonical parts correspond one to one.
-/

namespace BankCodes.CreditorIdentifier

open Candidate Pattern Text

/-! ## What is made -/

/-- A creditor identifier as it is made of parts. -/
structure Made (registry : Registry) (y : CreditorIdentifier) : Prop where
  businessCode_length : y.businessCode.toList.length = 3
  businessCode_capitals : ∀ c ∈ y.businessCode.toList, c.isUpper = true ∨ c.isDigit = true
  withoutBusinessCode : y.withoutBusinessCode.Made registry

/-- What is made of parts is a valid creditor identifier if it is not too long. -/
theorem valid_iff_made {registry : Registry} {y : CreditorIdentifier} :
    y.Valid registry ↔ y.Made registry ∧ y.nationalId.toList.length ≤ 28 := by
  constructor
  · intro h
    exact ⟨⟨h.businessCode_length, h.businessCode_capitals,
      (Iban.valid_iff_made.1 h.withoutBusinessCode).1⟩, h.nationalId_length_le⟩
  · intro ⟨h, hle⟩
    have hthirty : y.withoutBusinessCode.bban.toList.length ≤ 30 := Nat.le_trans hle (by decide)
    exact ⟨h.businessCode_length, h.businessCode_capitals, hle,
      Iban.valid_iff_made.2 ⟨h.withoutBusinessCode, hthirty⟩⟩

/-- The form of a business code, on canonical texts. -/
theorem businessCodeForm_accepts_iff (s : String) :
    businessCodeForm.accepts (canonical s) = true ↔
      (canonical s).toList.length = 3 ∧
        ∀ c ∈ (canonical s).toList, c.isUpper = true ∨ c.isDigit = true := by
  have hgroups : businessCodeForm.groups = [.exactly 3 .alphanumeric] := rfl
  rw [accepts_iff_spells, hgroups, spells_singleton, toList_canonical]
  simp only [Group.Admits, Group.count_exactly, Group.kind_exactly, Group.exact_exactly, if_true]
  constructor
  · rintro ⟨hall, hlen⟩
    exact ⟨hlen, fun c hc => isUpper_or_isDigit_of_mem_canonicalChars hc (hall c hc)⟩
  · rintro ⟨hlen, hall⟩
    exact ⟨fun c hc => isAlphanum_of_capital (hall c hc), hlen⟩

/-- Making a creditor identifier of parts is making its check digits, once the business code is
found in order. -/
theorem ofParts_eq_assemble (country : CountryArgument) (businessCode nationalId : Option String)
    (registry : Registry) :
    ofParts country businessCode nationalId registry = (do
      let country ← country.resolve kind
      let typed ← given "business_code" businessCode
      let input ← given "national_id" nationalId
      Candidate.ensure ⟨kind, typed⟩ (businessCodeForm.accepts (canonical typed)) .malformed
      let digits ← Candidate.assemble ⟨kind, input⟩ registry country (canonical input)
      return ⟨country, digits, canonical typed, canonical input⟩) := by
  unfold ofParts assemble
  simp only [bind_assoc]

/-- A creditor identifier is made of parts if and only if these are its country and ways to type
its business code and its national identifier. -/
theorem ofParts_eq_ok_iff {country : CountryArgument} {businessCode nationalId : Option String}
    {registry : Registry} {y : CreditorIdentifier} :
    ofParts country businessCode nationalId registry = .ok y ↔
      country.resolve kind = .ok y.country ∧
      (∃ typed, businessCode = some typed ∧ canonical typed = y.businessCode) ∧
      (∃ input, nationalId = some input ∧ canonical input = y.nationalId) ∧ y.Made registry := by
  rw [ofParts_eq_assemble]
  simp only [bind_eq_ok_iff, given_eq_ok_iff, ensure_eq_ok_iff, Iban.assemble_eq_ok_iff_made]
  constructor
  · rintro ⟨country', hcountry, typed, rfl, input, rfl, -, hform, digits, hmade, ⟨⟩⟩
    obtain ⟨hlen, hcapitals⟩ := (businessCodeForm_accepts_iff typed).1 hform
    exact ⟨hcountry, ⟨typed, rfl, rfl⟩, ⟨input, rfl, rfl⟩, hlen, hcapitals, hmade⟩
  · rintro ⟨hcountry, ⟨typed, rfl, htyped⟩, ⟨input, rfl, hinput⟩, hlen, hcapitals, hmade⟩
    refine ⟨_, hcountry, typed, rfl, input, rfl, (), ?_, y.checkDigits, ?_, ?_⟩
    · rw [businessCodeForm_accepts_iff, htyped]
      exact ⟨hlen, hcapitals⟩
    · rwa [hinput]
    · rw [htyped, hinput]
      rfl

/-! ## Reading what is made -/

theorem Made.checkDigits_length {registry : Registry} {y : CreditorIdentifier}
    (h : y.Made registry) : y.checkDigits.toList.length = 2 := by
  obtain ⟨rule, -, -, hgenuine⟩ := h.withoutBusinessCode.genuine
  exact hgenuine.twoDigits.length_eq

/-- The text of what is made is of capitals and digits throughout. -/
theorem Made.text_capitals {registry : Registry} {y : CreditorIdentifier} (h : y.Made registry) :
    ∀ c ∈ y.text.toList, c.isUpper = true ∨ c.isDigit = true := by
  have hcapitals := h.withoutBusinessCode.text_capitals
  rw [toList_text_withoutBusinessCode] at hcapitals
  intro c hc
  rw [toList_text, List.mem_append, List.mem_append] at hc
  rcases hc with (hc | hc) | hc
  · exact hcapitals c (List.mem_append_left _ hc)
  · exact h.businessCode_capitals c hc
  · exact hcapitals c (List.mem_append_right _ hc)

/-- What is made of parts is read again, unless its national identifier is too long: then its form
is refused. -/
theorem Made.parse_text {registry : Registry} {y : CreditorIdentifier} (h : y.Made registry) :
    parse y.text registry =
      if y.nationalId.toList.length ≤ 28 then .ok y
      else .error (.rejected ⟨kind, y.text, .malformed⟩) := by
  split
  · next hle =>
    apply parse_eq_ok_iff.2
    exact ⟨valid_iff_made.2 ⟨h, hle⟩, (canonical_of_capitals h.text_capitals).symm⟩
  · next hlong =>
    apply parse_of_not_wellFormed
    rw [canonicalChars_of_capitals h.text_capitals, toList_text,
      wellFormed_append (by simp) h.checkDigits_length h.businessCode_length]
    exact fun hwell => hlong hwell.2.2.2.2.2

/-! ## Parts and what they make -/

/-- The parts that creditor identifiers are made of. -/
structure Parts where
  country : Country
  businessCode : String
  nationalId : String

/-- The parts of an identifier. -/
def parts (y : CreditorIdentifier) : Parts := ⟨y.country, y.businessCode, y.nationalId⟩

/-- What is made of the parts. -/
def Parts.make (p : Parts) (registry : Registry) : Except Failure CreditorIdentifier :=
  ofParts (.member p.country) (some p.businessCode) (some p.nationalId) registry

/-- Parts in the form in which identifiers have them. -/
structure Parts.Canonical (p : Parts) : Prop where
  businessCode : canonical p.businessCode = p.businessCode
  nationalId : canonical p.nationalId = p.nationalId

/-- Canonical parts make the identifiers that have them. -/
theorem Parts.Canonical.make_eq_ok_iff {p : Parts} (h : p.Canonical) {registry : Registry}
    {y : CreditorIdentifier} : p.make registry = .ok y ↔ p = y.parts ∧ y.Made registry := by
  obtain ⟨country, businessCode, nationalId⟩ := p
  unfold make
  rw [ofParts_eq_ok_iff]
  constructor
  · intro ⟨hcountry, ⟨typed, htyped, hbusiness⟩, ⟨input, hinput, hnational⟩, hmade⟩
    cases hcountry
    cases htyped
    cases hinput
    rw [parts, ← hbusiness, ← hnational, h.businessCode, h.nationalId]
    exact ⟨rfl, hmade⟩
  · intro ⟨hparts, hmade⟩
    cases hparts
    exact ⟨rfl, ⟨_, rfl, h.businessCode⟩, ⟨_, rfl, h.nationalId⟩, hmade⟩

section Made

variable {registry : Registry} {y z : CreditorIdentifier} (hy : y.Made registry)
include hy

theorem Made.canonical_parts : y.parts.Canonical := by
  have hbody : ∀ c ∈ y.nationalId.toList, c.isUpper = true ∨ c.isDigit = true :=
    hy.withoutBusinessCode.capitals
  exact ⟨canonical_of_capitals hy.businessCode_capitals, canonical_of_capitals hbody⟩

/-- The parts of what is made make it again. -/
theorem Made.make_parts : y.parts.make registry = .ok y :=
  hy.canonical_parts.make_eq_ok_iff.2 ⟨rfl, hy⟩

/-- What is made is known by its parts. -/
theorem Made.ext_parts (hz : z.Made registry) (h : y.parts = z.parts) : y = z := by
  have hmade := hy.make_parts
  rw [h, hz.make_parts] at hmade
  exact (Except.ok.inj hmade).symm

end Made

/-! ## The shipped layouts -/

/-- No shipped layout has room for more than 28 characters. -/
theorem capacity_le_of_mem_creditor {rule : Rule} (h : rule ∈ Registry.creditor.rules) :
    capacity rule.pattern.groups ≤ 28 := by
  have hall : ∀ rule ∈ Registry.creditor.rules, capacity rule.pattern.groups ≤ 28 := by
    decide +kernel
  exact hall rule h

/-- Nothing that is made with the shipped layouts is too long. -/
theorem Made.valid {y : CreditorIdentifier} (h : y.Made .creditor) : y.Valid .creditor := by
  obtain ⟨rule, hmem, -, hgenuine⟩ := h.withoutBusinessCode.genuine
  have hle : y.nationalId.toList.length ≤ capacity rule.pattern.groups :=
    length_le_capacity hgenuine.follows
  have hroom := capacity_le_of_mem_creditor hmem
  apply valid_iff_made.2
  exact ⟨h, by omega⟩

/-- The text of what is made with the shipped layouts is read as the same. -/
theorem Made.parse_shipped {y : CreditorIdentifier} (h : y.Made .creditor) :
    parse y.text .creditor = .ok y := by
  rw [h.parse_text, if_pos h.valid.nationalId_length_le]

/-- What is made with the shipped layouts is known by its text. -/
theorem Made.ext_text {y z : CreditorIdentifier} (hy : y.Made .creditor) (hz : z.Made .creditor)
    (h : y.text = z.text) : y = z := by
  have hread := hy.parse_shipped
  rw [h, hz.parse_shipped] at hread
  exact (Except.ok.inj hread).symm

/-- A canonical text is read if and only if it is made of canonical parts, and these are then the
only ones. -/
theorem parse_shipped_iff_existsUnique_parts (s : String) :
    (canonical s = s ∧ ∃ y, parse s .creditor = .ok y) ↔
      ∃! p : Parts, p.Canonical ∧ ∃ y, p.make .creditor = .ok y ∧ y.text = s := by
  constructor
  · intro ⟨hcanonical, y, hy⟩
    obtain ⟨hvalid, htext⟩ := parse_eq_ok_iff.1 hy
    have hmade := (valid_iff_made.1 hvalid).1
    refine ⟨y.parts, ⟨hmade.canonical_parts, y, hmade.make_parts, htext.trans hcanonical⟩, ?_⟩
    intro p ⟨hp, z, hz, htext'⟩
    obtain ⟨rfl, hmade'⟩ := hp.make_eq_ok_iff.1 hz
    have hsame : z = y := by
      apply hmade'.ext_text hmade
      rw [htext', htext, hcanonical]
    rw [hsame]
  · intro ⟨p, ⟨hp, y, hy, htext⟩, _⟩
    obtain ⟨-, hmade⟩ := hp.make_eq_ok_iff.1 hy
    have hread := hmade.parse_shipped
    rw [htext] at hread
    exact ⟨(parse_eq_ok_iff.1 hread).2.symm.trans htext, y, hread⟩

/-- What is read in any registry is made again of its parts. With the shipped layouts, what is made
of parts is read again, and has the country that was meant and the canonical forms of the business
code and the national identifier that were given. So parts that differ in one of these make
different texts, and the canonical texts that are read are those that are made, each of one choice
of canonical parts. -/
theorem triples_bijective :
    (∀ (input : String) (registry : Registry) (y : CreditorIdentifier),
      parse input registry = .ok y →
        ofParts (.member y.country) (some y.businessCode) (some y.nationalId) registry = .ok y) ∧
    (∀ (country : CountryArgument) (businessCode nationalId : Option String)
        (y : CreditorIdentifier),
      ofParts country businessCode nationalId .creditor = .ok y →
        parse y.text .creditor = .ok y ∧ country.resolve kind = .ok y.country ∧
          (∃ typed, businessCode = some typed ∧ y.businessCode = canonical typed) ∧
          ∃ input, nationalId = some input ∧ y.nationalId = canonical input) ∧
    (∀ (country country' : CountryArgument) (typed typed' input input' : String)
        (y y' : CreditorIdentifier),
      ofParts country (some typed) (some input) .creditor = .ok y →
      ofParts country' (some typed') (some input') .creditor = .ok y' →
        (y.text = y'.text ↔
          country.resolve kind = country'.resolve kind ∧ canonical typed = canonical typed' ∧
            canonical input = canonical input')) ∧
    ∀ s : String, (canonical s = s ∧ ∃ y, parse s .creditor = .ok y) ↔
      ∃! p : Parts, p.Canonical ∧ ∃ y, p.make .creditor = .ok y ∧ y.text = s := by
  refine ⟨?_, ?_, ?_, parse_shipped_iff_existsUnique_parts⟩
  · intro input registry y h
    have hvalid := (parse_eq_ok_iff.1 h).1
    exact (valid_iff_made.1 hvalid).1.make_parts
  · intro country businessCode nationalId y h
    obtain ⟨hcountry, ⟨typed, hcode, htyped⟩, ⟨input, hid, hinput⟩, hmade⟩ := ofParts_eq_ok_iff.1 h
    exact ⟨hmade.parse_shipped, hcountry, ⟨typed, hcode, htyped.symm⟩, input, hid, hinput.symm⟩
  · intro country country' typed typed' input input' y y' h h'
    obtain ⟨hcountry, ⟨_, htyped, hbusiness⟩, ⟨_, hinput, hnational⟩, hmade⟩ :=
      ofParts_eq_ok_iff.1 h
    obtain ⟨hcountry', ⟨_, htyped', hbusiness'⟩, ⟨_, hinput', hnational'⟩, hmade'⟩ :=
      ofParts_eq_ok_iff.1 h'
    cases htyped
    cases hinput
    cases htyped'
    cases hinput'
    rw [hcountry, hcountry', hbusiness, hbusiness', hnational, hnational', Except.ok.injEq]
    constructor
    · intro htext
      rw [hmade.ext_text hmade' htext]
      exact ⟨rfl, rfl, rfl⟩
    · intro ⟨hcountry, hbusiness, hnational⟩
      have hparts : y.parts = y'.parts := by
        rw [parts, hcountry, hbusiness, hnational]
        rfl
      rw [hmade.ext_parts hmade' hparts]

/-- A creditor identifier is read from a text in groups, and the same parts are typed in two ways. -/
theorem triples_bijective_samples :
    (∃ y, parse "de98 ZZZ 0999 9999 999" .creditor = .ok y ∧
      ofParts (.member y.country) (some y.businessCode) (some y.nationalId) .creditor = .ok y) ∧
    ∃ y y', ofParts (.code " de ") (some "zzz") (some "0999 9999 999") .creditor = .ok y ∧
      ofParts (.code "DE") (some "ZZZ") (some "09999999999") .creditor = .ok y' ∧
      parse y.text .creditor = .ok y ∧ y.text = y'.text := by
  obtain ⟨hread, hmade, hsame, -⟩ := triples_bijective
  obtain ⟨y, hy⟩ : ∃ y, parse "de98 ZZZ 0999 9999 999" .creditor = .ok y :=
    exists_eq_ok (by decide +kernel)
  obtain ⟨z, hz⟩ : ∃ z,
      ofParts (.code " de ") (some "zzz") (some "0999 9999 999") .creditor = .ok z :=
    exists_eq_ok (by decide +kernel)
  obtain ⟨z', hz'⟩ : ∃ z',
      ofParts (.code "DE") (some "ZZZ") (some "09999999999") .creditor = .ok z' :=
    exists_eq_ok (by decide +kernel)
  refine ⟨⟨y, hy, hread _ _ y hy⟩, z, z', hz, hz', (hmade _ _ _ z hz).1, ?_⟩
  apply (hsame _ _ _ _ _ _ z z' hz hz').2
  exact ⟨by rfl, by decide +kernel, by decide +kernel⟩

end BankCodes.CreditorIdentifier
