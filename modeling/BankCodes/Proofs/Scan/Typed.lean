import BankCodes.Proofs.Scan.Soundness
import BankCodes.Proofs.Scan.Tokens

/-!
# What is found, as it was typed

IBANs and creditor identifiers are looked for in the upper-case form of a text, in the full sense,
but are read in the sense of ASCII. What is found comes from a piece of the text as it was typed,
and that piece is a way to type the identifier, unless it holds a letter outside ASCII whose
upper-case form is of ASCII, such as the dotless i.

* `exists_piece_of_found`: the piece, and when it may be read in place of what is found;
* `found_not_typed`: two identifiers that are found in a text no piece of which can be read as them.
-/

namespace BankCodes.Scan

open Text

/-! ## Forms of an identifier -/

/-- A part of the upper-case form of a text, of ASCII, with the canonical form of what is found. -/
structure FormIn (cs form : List Char) (found : String) : Prop where
  inside : form <:+: upper cs
  ne_nil : form ≠ []
  ascii : ∀ c ∈ form, c.toNat < 128
  canonical : canonicalChars form = found.toList

theorem lt_of_capital {c : Char} (h : c.isUpper = true ∨ c.isDigit = true) : c.toNat < 128 :=
  lt_of_isAlphanum (isAlphanum_of_capital h)

/-- An IBAN that is found stands in the upper-case form of the text in one of its two forms. -/
theorem exists_formIn_of_mem_ibans {text found : String} (h : found ∈ (ibans text).found) :
    isValid .iban found = true ∧ ∃ form, FormIn text.toList form found := by
  obtain ⟨n, hn⟩ := mem_found_iff_acceptedAt.1 h
  obtain ⟨x, hx, rfl, before, after, -, hstands⟩ := FoundAt.exists_iban hn
  have hcapitals := hx.wellFormed.capitals
  have hself : canonicalChars x.text.toList = x.text.toList := canonicalChars_of_capitals hcapitals
  refine ⟨isValid_iban_iff.2 ⟨x, hx.parse_text⟩, ?_⟩
  rcases hstands with hstands | hstands
  · refine ⟨x.text.toList, ⟨before, after, hstands.cut.symm⟩, ?_, ?_, hself⟩
    · have := hx.wellFormed.lt_length
      exact List.ne_nil_of_length_pos (by omega)
    · exact fun c hc => lt_of_capital (hcapitals c hc)
  · obtain ⟨head, groups, hlen, -, htext, hprintable⟩ := hx.exists_groups
    refine ⟨x.printable.toList, ⟨before, after, hstands.cut.symm⟩, ?_, ?_, ?_⟩
    · rw [hprintable, ne_eq, List.append_eq_nil_iff]
      rintro ⟨rfl, -⟩
      cases hlen
    · intro c hc
      rcases hx.symbols_of_mem_printable c hc with rfl | hc
      · decide
      · exact lt_of_capital hc
    · rw [hprintable, ← hself, htext]
      exact canonicalChars_spaced head groups

/-- A creditor identifier that is found stands in the upper-case form of the text as it is found. -/
theorem exists_formIn_of_mem_creditorIdentifiers {text found : String}
    (h : found ∈ (creditorIdentifiers text).found) :
    isValid .creditor found = true ∧ ∃ form, FormIn text.toList form found := by
  rw [found_creditorIdentifiers, List.mem_eraseDups, List.mem_filter] at h
  obtain ⟨hword, hvalid⟩ := h
  obtain ⟨w, hw, rfl⟩ := List.mem_map.1 hword
  obtain ⟨before, after, hstands, -⟩ := exists_stands_of_mem_words hw
  obtain ⟨y, hy⟩ := isValid_creditor_iff.1 hvalid
  obtain ⟨hy, htext⟩ := CreditorIdentifier.parse_eq_ok_iff.1 hy
  have hwell := hy.wellFormed
  rw [htext, canonical_of_mem_words hw, String.toList_ofList] at hwell
  refine ⟨hvalid, w.chars, ⟨before, after, hstands.cut.symm⟩, words_ne_nil w hw, ?_, ?_⟩
  · exact fun c hc => lt_of_capital (hwell.capitals c hc)
  · rw [canonicalChars_of_mem_words hw, String.toList_ofList]

/-! ## The piece that was typed -/

/-- A part of the upper-case form comes from a piece of the text. -/
theorem FormIn.exists_piece {cs form : List Char} {found : String} (h : FormIn cs form found) :
    ∃ piece, piece <:+: cs ∧ Covers piece form ∧
      (canonicalChars piece = found.toList ↔ ∀ c ∈ piece, c ∉ foldedToAscii) := by
  obtain ⟨before, after, hupper⟩ := h.inside
  obtain ⟨front, piece, back, rfl, hcovers⟩ := exists_covers h.ne_nil hupper.symm
  refine ⟨piece, ⟨front, back, rfl⟩, hcovers, ?_⟩
  rw [← h.canonical]
  exact hcovers.canonical_iff h.ascii

/-- Whether a text is valid is a matter of its canonical form. -/
theorem isValid_of_canonical_eq {kind : Kind} (hkind : kind = .iban ∨ kind = .creditor)
    {s t : String} (h : canonical s = canonical t) (hs : isValid kind s = true) :
    isValid kind t = true := by
  rcases hkind with rfl | rfl
  · obtain ⟨x, hx⟩ := isValid_iban_iff.1 hs
    rw [Iban.parse_eq_ok_iff, h, ← Iban.parse_eq_ok_iff] at hx
    exact isValid_iban_iff.2 ⟨x, hx⟩
  · obtain ⟨y, hy⟩ := isValid_creditor_iff.1 hs
    rw [CreditorIdentifier.parse_eq_ok_iff, h, ← CreditorIdentifier.parse_eq_ok_iff] at hy
    exact isValid_creditor_iff.2 ⟨y, hy⟩

/-- An IBAN or creditor identifier that is found is valid, and comes from a piece of the text: each
character of the piece gives some of a form of it. The piece is a way to type the identifier, and
valid itself, if and only if it holds none of the letters that come to ASCII. -/
theorem exists_piece_of_found (text : String) {kind : Kind}
    (hkind : kind = .iban ∨ kind = .creditor) {found : String}
    (hfound : found ∈ (identifiers kind text).found) :
    isValid kind found = true ∧
      ∃ piece : String, piece.toList <:+: text.toList ∧
        (∃ form, form <:+: upper text.toList ∧ canonicalChars form = found.toList ∧
          Covers piece.toList form) ∧
        (canonical piece = found ↔ ∀ c ∈ piece.toList, c ∉ foldedToAscii) ∧
        (canonical piece = found → isValid kind piece = true) := by
  have hform : isValid kind found = true ∧ ∃ form, FormIn text.toList form found := by
    rcases hkind with rfl | rfl
    · exact exists_formIn_of_mem_ibans hfound
    · exact exists_formIn_of_mem_creditorIdentifiers hfound
  obtain ⟨hvalid, form, hform⟩ := hform
  obtain ⟨piece, hpiece, hcovers, hiff⟩ := hform.exists_piece
  have hself : canonical found = found := by
    rw [← String.toList_inj, toList_canonical, ← hform.canonical, canonicalChars_idem]
  refine ⟨hvalid, String.ofList piece, ?_, ⟨form, hform.inside, hform.canonical, ?_⟩, ?_, ?_⟩
  · rwa [String.toList_ofList]
  · rwa [String.toList_ofList]
  · rw [← String.toList_inj, toList_canonical, String.toList_ofList]
    exact hiff
  · intro hcanonical
    exact isValid_of_canonical_eq hkind (hself.trans hcanonical.symm) hvalid

/-- A printed IBAN in small letters, behind a word in which a ligature stands. -/
theorem exists_piece_of_found_sample :
    "BE68539007547034" ∈ (ibans "\uFB01rst be68 5390 0754 7034").found ∧
      ∃ piece : String, piece.toList <:+: "\uFB01rst be68 5390 0754 7034".toList ∧
        (canonical piece = "BE68539007547034" ↔ ∀ c ∈ piece.toList, c ∉ foldedToAscii) := by
  have hfound : "BE68539007547034" ∈ (ibans "\uFB01rst be68 5390 0754 7034").found := by
    decide +kernel
  obtain ⟨-, piece, hpiece, -, hiff, -⟩ := exists_piece_of_found _ (.inl rfl) hfound
  exact ⟨hfound, piece, hpiece, hiff⟩

/-! ## What was not typed -/

theorem length_canonicalChars_le (cs : List Char) : (canonicalChars cs).length ≤ cs.length := by
  rw [canonicalChars, List.length_map]
  exact List.length_filter_le _ _

/-- In a text that is no longer than what is looked for, only the text itself can have its form. -/
theorem canonical_ne_of_length_le {text found : String}
    (hlen : text.toList.length ≤ found.toList.length) (hne : canonical text ≠ found) :
    ∀ t : String, t.toList <:+: text.toList → canonical t ≠ found := by
  rintro t ht rfl
  have hle : text.toList.length ≤ t.toList.length := by
    apply Nat.le_trans hlen
    rw [toList_canonical]
    exact length_canonicalChars_le _
  have heq : t = text := by
    rw [← String.toList_inj]
    exact ht.eq_of_length (Nat.le_antisymm ht.length_le hle)
  exact hne (by rw [heq])

/-- Typed with a dotless i, an IBAN and a creditor identifier are found that no piece of the text
can be read as. -/
theorem found_not_typed :
    ((ibans "\u0131e29aibk93115212345678").found = ["IE29AIBK93115212345678"] ∧
        ∀ t : String, t.toList <:+: "\u0131e29aibk93115212345678".toList →
          canonical t ≠ "IE29AIBK93115212345678") ∧
      (creditorIdentifiers "\u0131t66zzza1b2c3d4e5f6g7h8").found = ["IT66ZZZA1B2C3D4E5F6G7H8"] ∧
        ∀ t : String, t.toList <:+: "\u0131t66zzza1b2c3d4e5f6g7h8".toList →
          canonical t ≠ "IT66ZZZA1B2C3D4E5F6G7H8" := by
  refine ⟨⟨?_, ?_⟩, ?_, ?_⟩
  · decide +kernel
  · exact canonical_ne_of_length_le (by decide) (by decide +kernel)
  · decide +kernel
  · exact canonical_ne_of_length_le (by decide) (by decide +kernel)

end BankCodes.Scan
