import BankCodes.Proofs.Assembly
import BankCodes.Proofs.Iban.Acceptance

/-!
# IBANs made of parts

`Iban.ofParts` computes the check digits for a country and a BBAN. What it makes is an IBAN in all
respects but one: nobody has looked at the length of the BBAN. `Made` says so, and

    x.Valid registry ↔ x.Made registry ∧ x.bban has at most 30 characters

* `ofParts_eq_ok_iff`: which parts make an IBAN, and which one;
* `Made.parse_text`: what is made is read again exactly if it is not too long;
* `parts_bijective`: with the shipped layouts nothing is too long, and IBANs and their parts
  correspond one to one.
-/

namespace BankCodes.Iban

open Candidate Text

/-! ## What is made -/

/-- An IBAN as it is made of parts. -/
structure Made (registry : Registry) (x : Iban) : Prop where
  nonempty : 1 ≤ x.bban.toList.length
  capitals : ∀ c ∈ x.bban.toList, c.isUpper = true ∨ c.isDigit = true
  genuine : ∃ rule ∈ registry.rules, rule.country = x.country ∧
    Genuine rule x.checkDigits.toList x.bban.toList

/-- What is made of parts is a valid IBAN if it is not too long. -/
theorem valid_iff_made {registry : Registry} {x : Iban} :
    x.Valid registry ↔ x.Made registry ∧ x.bban.toList.length ≤ 30 := by
  constructor
  · intro h
    exact ⟨⟨h.nonempty, h.capitals, h.genuine⟩, h.length_le⟩
  · intro ⟨h, hle⟩
    exact ⟨h.nonempty, hle, h.capitals, h.genuine⟩

/-- Making an IBAN of parts is making its check digits. -/
theorem ofParts_eq_assemble (country : CountryArgument) (bban : Option String)
    (registry : Registry) :
    ofParts country bban registry = (do
      let country ← country.resolve kind
      let input ← given "bban" bban
      let digits ← Candidate.assemble ⟨kind, input⟩ registry country (canonical input)
      return ⟨country, digits, canonical input⟩) := by
  unfold ofParts assemble
  simp only [bind_assoc]

/-- The check digits that are made for a body are those of an IBAN with this body. -/
theorem assemble_eq_ok_iff_made {candidate : Candidate} {registry : Registry} {country : Country}
    {input digits : String} :
    candidate.assemble registry country (canonical input) = .ok digits ↔
      Made registry ⟨country, digits, canonical input⟩ := by
  rw [assemble_eq_ok_iff]
  constructor
  · intro ⟨rule, hmem, hrule, hgenuine⟩
    obtain ⟨hne, hcapitals⟩ := capitals_of_follows hgenuine.follows fun _ => id
    rw [← toList_canonical] at hne hcapitals hgenuine
    exact ⟨List.length_pos_iff.2 hne, hcapitals, rule, hmem, hrule, hgenuine⟩
  · intro hmade
    obtain ⟨rule, hmem, hrule, hgenuine⟩ := hmade.genuine
    rw [toList_canonical] at hgenuine
    exact ⟨rule, hmem, hrule, hgenuine⟩

/-- An IBAN is made of parts if and only if these are its country and a way to type its BBAN. -/
theorem ofParts_eq_ok_iff {country : CountryArgument} {bban : Option String}
    {registry : Registry} {x : Iban} :
    ofParts country bban registry = .ok x ↔
      country.resolve kind = .ok x.country ∧
      (∃ input, bban = some input ∧ canonical input = x.bban) ∧ x.Made registry := by
  rw [ofParts_eq_assemble]
  simp only [bind_eq_ok_iff, given_eq_ok_iff, assemble_eq_ok_iff_made]
  constructor
  · rintro ⟨country', hcountry, input, rfl, digits, hmade, ⟨⟩⟩
    exact ⟨hcountry, ⟨input, rfl, rfl⟩, hmade⟩
  · rintro ⟨hcountry, ⟨input, rfl, hinput⟩, hmade⟩
    refine ⟨_, hcountry, input, rfl, x.checkDigits, ?_, ?_⟩
    · rwa [hinput]
    · rw [hinput]
      rfl

/-- The country and the BBAN of what is made make it again. -/
theorem Made.ofParts {registry : Registry} {x : Iban} (h : x.Made registry) :
    ofParts (.member x.country) (some x.bban) registry = .ok x := by
  exact ofParts_eq_ok_iff.2 ⟨rfl, ⟨x.bban, rfl, canonical_of_capitals h.capitals⟩, h⟩

/-- What is made of parts is known by its country and its BBAN. -/
theorem Made.ext_parts {registry : Registry} {x y : Iban} (hx : x.Made registry)
    (hy : y.Made registry) (hcountry : x.country = y.country) (hbban : x.bban = y.bban) :
    x = y := by
  have hmade := hx.ofParts
  rw [hcountry, hbban, hy.ofParts] at hmade
  exact (Except.ok.inj hmade).symm

/-! ## Reading what is made -/

/-- The text of what is made is of capitals and digits throughout. -/
theorem Made.text_capitals {registry : Registry} {x : Iban} (h : x.Made registry) :
    ∀ c ∈ x.text.toList, c.isUpper = true ∨ c.isDigit = true := by
  obtain ⟨rule, -, -, hgenuine⟩ := h.genuine
  intro c hc
  rw [toList_text, List.mem_append, List.mem_append] at hc
  rcases hc with (hc | hc) | hc
  · exact .inl (Country.isUpper_of_mem_code c hc)
  · exact .inr (hgenuine.twoDigits.digits c hc)
  · exact h.capitals c hc

/-- What is made of parts is read again, unless its BBAN is too long: then its form is refused. -/
theorem Made.parse_text {registry : Registry} {x : Iban} (h : x.Made registry) :
    parse x.text registry =
      if x.bban.toList.length ≤ 30 then .ok x
      else .error (.rejected ⟨kind, x.text, .malformed⟩) := by
  split
  · next hle =>
    exact (valid_iff_made.2 ⟨h, hle⟩).parse_text
  · next hlong =>
    have hnot : ¬ WellFormed (canonicalChars x.text.toList) := by
      obtain ⟨rule, -, -, hgenuine⟩ := h.genuine
      rw [canonicalChars_of_capitals h.text_capitals, toList_text,
        wellFormed_append (by simp) hgenuine.twoDigits.length_eq]
      exact fun hwell => hlong hwell.2.2.2.2
    rw [parse_eq_examine _ registry rfl, if_neg (mt (form_accepts_iff _).1 hnot)]

/-! ## The shipped layouts -/

/-- No shipped layout is too long. -/
theorem Made.valid {x : Iban} (h : x.Made .bban) : x.Valid .bban := by
  obtain ⟨rule, hmem, -, hgenuine⟩ := h.genuine
  obtain ⟨n, hn, -, hle⟩ := Registry.exists_length_of_mem_bban hmem
  have hlen := Pattern.length_of_fixedLength? hn hgenuine.follows
  exact valid_iff_made.2 ⟨h, by omega⟩

/-- What is read in any registry is made again of its parts. With the shipped layouts, what is made
of parts is read again, and has the country that was meant and the canonical form of the BBAN that
was given. So the canonical texts that are read are those that are made, and different countries or
BBANs make different texts. -/
theorem parts_bijective :
    (∀ (input : String) (registry : Registry) (x : Iban), parse input registry = .ok x →
      ofParts (.member x.country) (some x.bban) registry = .ok x) ∧
    (∀ (country : CountryArgument) (bban : Option String) (x : Iban),
      ofParts country bban .bban = .ok x →
        parse x.text .bban = .ok x ∧ country.resolve kind = .ok x.country ∧
          ∃ input, bban = some input ∧ x.bban = canonical input) ∧
    (∀ s : String, (canonical s = s ∧ ∃ x, parse s .bban = .ok x) ↔
      ∃ country bban x, ofParts country bban .bban = .ok x ∧ x.text = s) ∧
    ∀ (country country' : CountryArgument) (bban bban' : String) (x x' : Iban),
      ofParts country (some bban) .bban = .ok x → ofParts country' (some bban') .bban = .ok x' →
        (x.text = x'.text ↔
          country.resolve kind = country'.resolve kind ∧ canonical bban = canonical bban') := by
  have hread : ∀ {country bban x}, ofParts country bban .bban = .ok x →
      parse x.text .bban = .ok x := by
    intro country bban x h
    have hmade := (ofParts_eq_ok_iff.1 h).2.2
    rw [hmade.parse_text, if_pos hmade.valid.length_le]
  refine ⟨?_, ?_, ?_, ?_⟩
  · intro input registry x h
    exact (valid_iff_made.1 (parse_eq_ok_iff.1 h).1).1.ofParts
  · intro country bban x h
    obtain ⟨hcountry, ⟨input, hbban, hinput⟩, -⟩ := ofParts_eq_ok_iff.1 h
    exact ⟨hread h, hcountry, input, hbban, hinput.symm⟩
  · intro s
    constructor
    · intro ⟨hcanonical, x, hx⟩
      obtain ⟨hvalid, htext⟩ := parse_eq_ok_iff.1 hx
      exact ⟨_, _, x, (valid_iff_made.1 hvalid).1.ofParts, htext.trans hcanonical⟩
    · rintro ⟨country, bban, x, h, rfl⟩
      have hx := hread h
      exact ⟨(parse_eq_ok_iff.1 hx).2.symm, x, hx⟩
  · intro country country' bban bban' x x' h h'
    obtain ⟨hcountry, ⟨input, hbban, hinput⟩, hmade⟩ := ofParts_eq_ok_iff.1 h
    obtain ⟨hcountry', ⟨input', hbban', hinput'⟩, hmade'⟩ := ofParts_eq_ok_iff.1 h'
    cases hbban
    cases hbban'
    rw [hcountry, hcountry', hinput, hinput', Except.ok.injEq]
    constructor
    · intro htext
      rw [hmade.valid.ext_text hmade'.valid htext]
      exact ⟨rfl, rfl⟩
    · intro ⟨hsame, hsame'⟩
      rw [hmade.ext_parts hmade' hsame hsame']

/-- An IBAN that is read from a printed text, and two ways to type the same parts. -/
theorem parts_bijective_samples :
    (∃ x, parse "gb82 west 1234 5698 7654 32" .bban = .ok x ∧
      ofParts (.member x.country) (some x.bban) .bban = .ok x) ∧
    ∃ x x', ofParts (.code " gb ") (some "west 123456 98765432") .bban = .ok x ∧
      ofParts (.code "GB") (some "WEST12345698765432") .bban = .ok x' ∧
      parse x.text .bban = .ok x ∧ x.text = x'.text := by
  obtain ⟨hread, hmade, -, hsame⟩ := parts_bijective
  obtain ⟨x, hx⟩ : ∃ x, parse "gb82 west 1234 5698 7654 32" .bban = .ok x :=
    exists_eq_ok (by decide +kernel)
  obtain ⟨y, hy⟩ : ∃ y, ofParts (.code " gb ") (some "west 123456 98765432") .bban = .ok y :=
    exists_eq_ok (by decide +kernel)
  obtain ⟨y', hy'⟩ : ∃ y', ofParts (.code "GB") (some "WEST12345698765432") .bban = .ok y' :=
    exists_eq_ok (by decide +kernel)
  exact ⟨⟨x, hx, hread _ _ x hx⟩, y, y', hy, hy', (hmade _ _ y hy).1,
    (hsame _ _ _ _ y y' hy hy').2 ⟨by rfl, by decide +kernel⟩⟩

end BankCodes.Iban
