import BankCodes.Proofs.Bic.Completion
import BankCodes.Proofs.Iban.Printed
import BankCodes.Proofs.Text.Retyped

/-!
# The canonical form decides

An identifier may be typed in many ways, with blanks anywhere and in either case. Whether a text is
read, as what, and of what it is rejected depends on its canonical form alone; a rejection only
keeps the text as it was typed.

* `parse_about`: two texts of one canonical form fare alike, for each kind of identifiers;
* `parse_text_of_parse`: the text of what is read is read as the same identifier;
* `canonical_form_decides`: all ways to type an identifier again, and to print an IBAN.
-/

namespace BankCodes

open Candidate Text

/-! ## Texts of one canonical form -/

theorem mapError_map (x : Except ε α) (f : α → β) (g : ε → δ) :
    (x.map f).mapError g = (x.mapError g).map f := by
  cases x <;> rfl

section

variable {input other : String} (h : canonical input = canonical other)
include h

theorem Iban.parse_about (registry : Registry) :
    (parse input registry).mapError (.about ⟨kind, other⟩) = parse other registry := by
  rw [parse_eq_examine input registry (canonical_eq_iff.1 h), parse_eq_examine other registry rfl,
    ← examine_about ⟨kind, input⟩ ⟨kind, other⟩]
  split
  · cases Candidate.examine _ registry _ _ _ <;> rfl
  · rfl

theorem CreditorIdentifier.parse_about (registry : Registry) :
    (parse input registry).mapError (.about ⟨kind, other⟩) = parse other registry := by
  rw [parse_eq_examine input registry (canonical_eq_iff.1 h), parse_eq_examine other registry rfl,
    ← examine_about ⟨kind, input⟩ ⟨kind, other⟩]
  split
  · cases Candidate.examine _ registry _ _ _ <;> rfl
  · rfl

theorem Bic.parse_about : (parse input).mapError (.about ⟨kind, other⟩) = parse other := by
  have hspec := parse_spec input
  rw [canonical_eq_iff.1 h] at hspec
  rw [eq_comm, parse_eq_iff_reading]
  generalize parse input = res at hspec
  cases hspec with
  | accepted hvalid htext => exact .accepted hvalid htext
  | malformed hnot => exact .malformed hnot
  | unknownCountry hwell hnone => exact .unknownCountry hwell hnone

/-- Two texts of one canonical form fare alike, up to the text in a rejection. -/
theorem Identifier.parse_about (kind : Kind) (registry : Option Registry) :
    (parse kind registry input).mapError (.about ⟨kind.label, other⟩) =
      parse kind registry other := by
  cases kind with
  | iban => rw [parse_iban, parse_iban, mapError_map, ← Iban.parse_about h]; rfl
  | bic => rw [parse_bic, parse_bic, mapError_map, ← Bic.parse_about h]; rfl
  | creditor =>
    rw [parse_creditor, parse_creditor, mapError_map, ← CreditorIdentifier.parse_about h]
    rfl
  | unspecified => rfl

end

namespace Identifier

/-! ## Reading again -/

variable {kind : Kind} {registry : Option Registry} {input : String} {x : Identifier}

/-- The text of what is read is read as the same identifier. -/
theorem parse_text_of_parse (h : parse kind registry input = .ok x) :
    parse kind registry x.text = .ok x := by
  cases kind with
  | iban =>
    rw [parse_iban] at h ⊢
    obtain ⟨x, hx, rfl⟩ := map_eq_ok_iff.1 h
    obtain ⟨hvalid, -⟩ := Iban.parse_eq_ok_iff.1 hx
    show (Iban.parse x.text _).map iban = _
    rw [hvalid.parse_text]
    rfl
  | bic =>
    rw [parse_bic] at h ⊢
    obtain ⟨x, hx, rfl⟩ := map_eq_ok_iff.1 h
    obtain ⟨hvalid, -⟩ := Bic.parse_eq_ok_iff.1 hx
    show (Bic.parse x.text).map bic = _
    rw [hvalid.parse_text]
    rfl
  | creditor =>
    rw [parse_creditor] at h ⊢
    obtain ⟨y, hy, rfl⟩ := map_eq_ok_iff.1 h
    obtain ⟨hvalid, htext⟩ := CreditorIdentifier.parse_eq_ok_iff.1 hy
    have hself : y.text = canonical y.text := by rw [htext, canonical_idem]
    show (CreditorIdentifier.parse y.text _).map creditor = _
    rw [CreditorIdentifier.parse_eq_ok_iff.2 ⟨hvalid, hself⟩]
    rfl
  | unspecified => cases h

/-- So is this text typed differently. -/
theorem parse_of_retyped (hx : parse kind registry x.text = .ok x) {other : String}
    (h : Retyped other.toList x.text.toList) : parse kind registry other = .ok x := by
  rw [← parse_about (canonical_eq_iff_retyped.2 h).symm, hx]
  rfl

/-- Whether a text is read, as what, and of what it is rejected depends on its canonical form alone,
which is the same for texts that differ in blanks and in the case of their letters. An identifier
that is read is read again from its text, from this in small letters, and from this with blanks put
in. An IBAN is printed in groups of four with single spaces between them, which are all that is put
in, and is read from its printed form wherever it is read from its text. -/
theorem canonical_form_decides (kind : Kind) (registry : Option Registry) :
    (∀ s t : String, canonical s = canonical t ↔ Retyped s.toList t.toList) ∧
    (∀ s t : String, canonical s = canonical t →
      parse kind registry t = (parse kind registry s).mapError (.about ⟨kind.label, t⟩)) ∧
    (∀ s x, parse kind registry s = .ok x →
      parse kind registry x.text = .ok x ∧
      parse kind registry x.text.toLower = .ok x ∧
      ∀ t : String, t.toList.filter (!isBlank ·) = x.text.toList →
        parse kind registry t = .ok x) ∧
    ∀ x : Iban, Obtained (.iban x) →
      (∃ groups, Iban.Grouped groups ∧ groups.flatten = x.text.toList ∧
        x.printable.toList = [' '].intercalate groups) ∧
      x.printable.toList.filter (· ≠ ' ') = x.text.toList ∧
      ∀ r, Iban.parse x.text r = .ok x → Iban.parse x.printable r = .ok x := by
  refine ⟨fun s t => canonical_eq_iff_retyped, fun s t h => (parse_about h kind registry).symm,
    fun s x hx => ?_, fun x hx => ⟨x.exists_groups_of_printable, ?_, fun r hr => ?_⟩⟩
  · have htext := parse_text_of_parse hx
    refine ⟨htext, parse_of_retyped htext ?_, fun t ht => parse_of_retyped htext ?_⟩
    · show Retyped (x.text.map Char.toLower).toList _
      rw [String.toList_map]
      exact retyped_map_toLower _
    · rw [← ht]
      exact retyped_filter _
  · have hcapitals : ∀ c ∈ x.text.toList, c.isUpper = true ∨ c.isDigit = true :=
      hx.sound.segmented.segments.capitals
    have hnospace : ∀ c ∈ x.text.toList, decide (c ≠ ' ') = true := by
      rintro _ hc
      rw [decide_eq_true_iff]
      rintro rfl
      exact absurd (hcapitals _ hc) (by decide)
    rw [Iban.printable, String.toList_ofList, Iban.filter_inFours (by decide),
      List.filter_eq_self.2 hnospace]
  · have hprintable : canonical x.text = canonical x.printable := by
      rw [canonical_eq_iff, Iban.printable, String.toList_ofList, Iban.canonicalChars_inFours]
    rw [← Iban.parse_about hprintable, hr]
    rfl

/-- An IBAN in small letters, with blanks in odd places, and printed; and a BIC of no country, typed
in two ways. -/
theorem canonical_form_decides_samples :
    (∃ x : Iban, parse .iban none "gb82west12345698765432" = .ok (.iban x) ∧
      parse .iban none x.text.toLower = .ok (.iban x) ∧
      parse .iban none "\tGB 82WEST1 2345698765432\n" = .ok (.iban x) ∧
      Iban.parse x.printable .bban = .ok x) ∧
    canonical "deut zz ff" = canonical "DEUT\tZZFF" ∧
      parse .bic none "DEUT\tZZFF" =
        (parse .bic none "deut zz ff").mapError (.about ⟨Kind.bic.label, "DEUT\tZZFF"⟩) := by
  obtain ⟨-, hsame, hagain, hprinted⟩ := canonical_form_decides .iban none
  constructor
  · obtain ⟨x, hx⟩ : ∃ x, Iban.parse "gb82west12345698765432" .bban = .ok x :=
      exists_eq_ok (by decide +kernel)
    have hread : parse .iban none "gb82west12345698765432" = .ok (.iban x) := by
      rw [parse_iban, Option.getD_none, hx]
      rfl
    obtain ⟨hvalid, htext⟩ := Iban.parse_eq_ok_iff.1 hx
    obtain ⟨-, hsmall, hblanks⟩ := hagain _ _ hread
    refine ⟨x, hread, hsmall, hblanks _ ?_, (hprinted x ?_).2.2 _ hvalid.parse_text⟩
    · show _ = x.text.toList
      rw [htext]
      decide +kernel
    · exact .of_parse hread
  · have hcanonical : canonical "deut zz ff" = canonical "DEUT\tZZFF" := by decide +kernel
    exact ⟨hcanonical, (canonical_form_decides .bic none).2.1 _ _ hcanonical⟩

end Identifier

end BankCodes
