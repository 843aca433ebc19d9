import BankCodes.Proofs.CreditorIdentifier.Parts

/-!
# Reading what was made of parts

What `ofParts` makes is an identifier with a country, check digits and a body in order, but the
body may be of any length that its layout admits. `parse` looks at the general form as well, which
leaves room for 30 characters of a BBAN and 28 of a national identifier. So what is made of parts is
read again in the same registry exactly if its body is within these bounds, and a registry may well
hold a layout that is not (`exists_ofParts_malformed`).
-/

namespace BankCodes

/-- Whatever the registry and the parts, an identifier made of them is read again from its text, and
is the same, if its body has no more characters than the general form admits. Otherwise the text is
rejected for its form. -/
theorem parse_text_of_ofParts (registry : Registry) (country : CountryArgument) :
    (∀ (bban : Option String) (x : Iban), Iban.ofParts country bban registry = .ok x →
      Iban.parse x.text registry =
        if x.bban.toList.length ≤ 30 then .ok x
        else .error (.rejected ⟨Iban.kind, x.text, .malformed⟩)) ∧
    ∀ (businessCode nationalId : Option String) (y : CreditorIdentifier),
      CreditorIdentifier.ofParts country businessCode nationalId registry = .ok y →
        CreditorIdentifier.parse y.text registry =
          if y.nationalId.toList.length ≤ 28 then .ok y
          else .error (.rejected ⟨CreditorIdentifier.kind, y.text, .malformed⟩) := by
  constructor
  · intro bban x h
    obtain ⟨-, -, hmade⟩ := Iban.ofParts_eq_ok_iff.1 h
    exact hmade.parse_text
  · intro businessCode nationalId y h
    obtain ⟨-, -, -, hmade⟩ := CreditorIdentifier.ofParts_eq_ok_iff.1 h
    exact hmade.parse_text

/-- An IBAN of the longest layout that is shipped, and a creditor identifier with an open one. -/
theorem parse_text_of_ofParts_samples :
    (∃ x, Iban.ofParts (.code "ru") (some "044525225 40817 810 5380 9131 0419") .bban = .ok x ∧
      Iban.parse x.text .bban = .ok x) ∧
    ∃ y, CreditorIdentifier.ofParts (.code "be") (some "zzz") (some "0050 0000 116") .creditor =
        .ok y ∧
      CreditorIdentifier.parse y.text .creditor = .ok y := by
  constructor
  · obtain ⟨x, hx⟩ : ∃ x,
        Iban.ofParts (.code "ru") (some "044525225 40817 810 5380 9131 0419") .bban = .ok x :=
      exists_eq_ok (by decide +kernel)
    obtain ⟨-, ⟨input, hinput, hbban⟩, -⟩ := Iban.ofParts_eq_ok_iff.1 hx
    cases hinput
    refine ⟨x, hx, ?_⟩
    rw [(parse_text_of_ofParts _ _).1 _ x hx, ← hbban, if_pos (by decide +kernel)]
  · obtain ⟨y, hy⟩ : ∃ y, CreditorIdentifier.ofParts (.code "be") (some "zzz")
        (some "0050 0000 116") .creditor = .ok y :=
      exists_eq_ok (by decide +kernel)
    obtain ⟨-, -, ⟨input, hinput, hnational⟩, -⟩ := CreditorIdentifier.ofParts_eq_ok_iff.1 hy
    cases hinput
    refine ⟨y, hy, ?_⟩
    rw [(parse_text_of_ofParts _ _).2 _ _ y hy, ← hnational, if_pos (by decide +kernel)]

/-- Thirty-one digits make an IBAN in a registry with such a layout, and twenty-nine a creditor
identifier, and neither is read again in the registry that it was made in. -/
theorem exists_ofParts_malformed :
    (∃ registry x, Registry.build "IBAN" [("FR", "31!n")] = .ok registry ∧
      Iban.ofParts (.code "FR") (some "1234567890123456789012345678901") registry = .ok x ∧
      Iban.parse x.text registry = .error (.rejected ⟨Iban.kind, x.text, .malformed⟩)) ∧
    ∃ registry y, Registry.build "creditor identifier" [("FR", "29!n")] = .ok registry ∧
      CreditorIdentifier.ofParts (.code "FR") (some "ZZZ") (some "12345678901234567890123456789")
        registry = .ok y ∧
      CreditorIdentifier.parse y.text registry =
        .error (.rejected ⟨CreditorIdentifier.kind, y.text, .malformed⟩) := by
  constructor
  · have hmade : (Registry.build "IBAN" [("FR", "31!n")] >>= fun registry =>
        Iban.ofParts (.code "FR") (some "1234567890123456789012345678901") registry).isOk =
          true := by
      decide +kernel
    obtain ⟨x, hx⟩ := exists_eq_ok hmade
    obtain ⟨registry, hregistry, hx⟩ := bind_eq_ok_iff.1 hx
    obtain ⟨-, ⟨input, hinput, hbban⟩, hmade⟩ := Iban.ofParts_eq_ok_iff.1 hx
    cases hinput
    refine ⟨registry, x, hregistry, hx, ?_⟩
    rw [hmade.parse_text, ← hbban, if_neg (by decide +kernel)]
  · have hmade : (Registry.build "creditor identifier" [("FR", "29!n")] >>= fun registry =>
        CreditorIdentifier.ofParts (.code "FR") (some "ZZZ") (some "12345678901234567890123456789")
          registry).isOk = true := by
      decide +kernel
    obtain ⟨y, hy⟩ := exists_eq_ok hmade
    obtain ⟨registry, hregistry, hy⟩ := bind_eq_ok_iff.1 hy
    obtain ⟨-, -, ⟨input, hinput, hnational⟩, hmade⟩ := CreditorIdentifier.ofParts_eq_ok_iff.1 hy
    cases hinput
    refine ⟨registry, y, hregistry, hy, ?_⟩
    rw [hmade.parse_text, ← hnational, if_neg (by decide +kernel)]

end BankCodes
