import BankCodes.Proofs.CreditorIdentifier.Parts
import BankCodes.Proofs.Iban.Mistakes

/-!
# One wrong symbol

Where a symbol of an identifier is replaced by another one of its kind, the check digits are wrong,
wherever it stands and whatever the registry, even if it is a letter of the country code and another
rule applies from then on. The business code of a creditor identifier is the exception, since the
check digits do not cover it: there any other capital or digit is as good (`parse_replaced`).
-/

namespace BankCodes

open CheckDigits Text

/-- Where a capital or digit takes the place of a symbol, a text stays one of capitals and digits. -/
theorem capitals_replaced {before after : List Char} {a b : Char}
    (hb : b.isUpper = true ∨ b.isDigit = true)
    (h : ∀ c ∈ before ++ [a] ++ after, c.isUpper = true ∨ c.isDigit = true) :
    ∀ c ∈ before ++ [b] ++ after, c.isUpper = true ∨ c.isDigit = true := by
  simp only [List.mem_append, List.mem_singleton] at h ⊢
  rintro c ((hc | rfl) | hc)
  · exact h c (.inl (.inl hc))
  · exact hb
  · exact h c (.inr hc)

namespace CreditorIdentifier

/-! ## Around the business code -/

/-- A text is its head, the business code, and the national identifier. -/
theorem take_append_drop_append (cs : List Char) :
    cs.take 4 ++ (cs.drop 4).take 3 ++ cs.drop 7 = cs := by
  rw [List.append_assoc, ← List.drop_drop (i := 3) (j := 4), List.take_append_drop,
    List.take_append_drop]

/-- A piece of a text that lies before the business code, or behind it, stays in one piece when this
is left out. -/
theorem exists_take_append_drop_eq (before after : List Char) {n : Nat}
    (h : before.length + n ≤ 4 ∨ 7 ≤ before.length) :
    ∃ front back, ∀ piece : List Char, piece.length = n →
      (before ++ piece ++ after).take 4 ++ (before ++ piece ++ after).drop 7 =
        front ++ piece ++ back := by
  rcases h with hhead | hbody
  · refine ⟨before, after.take (4 - (before.length + n)) ++ after.drop (7 - (before.length + n)),
      fun piece hlen => ?_⟩
    have hfront : (before ++ piece).length = before.length + n := by
      rw [List.length_append, hlen]
    rw [List.take_append, List.drop_append, hfront, List.take_of_length_le (by omega),
      List.drop_of_length_le (by omega)]
    simp only [List.nil_append, List.append_assoc]
  · refine ⟨before.take 4 ++ before.drop 7, after, fun piece _ => ?_⟩
    rw [List.append_assoc, List.take_append_of_le_length (by omega),
      List.drop_append_of_le_length hbody]
    simp only [List.append_assoc]

/-- Where a symbol of the business code is replaced, the text is the same before and behind this. -/
theorem take_and_drop_replaced {before : List Char} (hge : 4 ≤ before.length)
    (hle : before.length ≤ 6) (after : List Char) (a b : Char) :
    (before ++ [b] ++ after).take 4 = (before ++ [a] ++ after).take 4 ∧
      (before ++ [b] ++ after).drop 7 = (before ++ [a] ++ after).drop 7 := by
  have htake : ∀ c : Char, (before ++ [c] ++ after).take 4 = before.take 4 := by
    intro c
    rw [List.append_assoc, List.take_append_of_le_length hge]
  have hdrop : ∀ c : Char, (before ++ [c] ++ after).drop 7 = after.drop (6 - before.length) := by
    intro c
    have hlen : (before ++ [c]).length = before.length + 1 := by simp
    rw [List.drop_append, hlen, List.drop_of_length_le (by omega), List.nil_append]
    congr 1
    omega
  rw [htake, htake, hdrop, hdrop]
  exact ⟨rfl, rfl⟩

section

variable {registry : Registry} {y : CreditorIdentifier} {before after : List Char} {a b : Char}

/-- The segments of a valid creditor identifier, cut out of its text again. -/
theorem Valid.cut (hy : y.Valid registry) :
    y.text.toList.take 4 = y.country.code.toList ++ y.checkDigits.toList ∧
      y.text.toList.drop 7 = y.nationalId.toList := by
  have hhead : (y.country.code.toList ++ y.checkDigits.toList).length = 4 := by
    simp [hy.checkDigits_length]
  have hfront : (y.country.code.toList ++ y.checkDigits.toList ++ y.businessCode.toList).length =
      7 := by
    rw [List.length_append, hhead, hy.businessCode_length]
  rw [toList_text, List.drop_left' hfront, List.append_assoc, List.take_left' hhead]
  exact ⟨rfl, rfl⟩

/-- Two valid creditor identifiers that differ only by symbols of one kind in the same place, which
is not one of the business code, do not differ. -/
theorem Valid.eq_of_replaced {z : CreditorIdentifier} (hy : y.Valid registry)
    (hz : z.Valid registry) (hplace : before.length < 4 ∨ 6 < before.length)
    (hkind : SameKind a b) (hys : y.text.toList = before ++ [a] ++ after)
    (hzs : z.text.toList = before ++ [b] ++ after) : a = b := by
  obtain ⟨front, back, hcut⟩ := exists_take_append_drop_eq before after (n := 1) (by omega)
  have hwithout : ∀ {z : CreditorIdentifier} {c : Char}, z.Valid registry →
      z.text.toList = before ++ [c] ++ after →
      z.withoutBusinessCode.text.toList = front ++ [c] ++ back := by
    intro z c hz hzs
    rw [toList_text_withoutBusinessCode, ← hcut [c] rfl, ← hzs, hz.cut.1, hz.cut.2]
  exact hy.withoutBusinessCode.eq_of_replaced hz.withoutBusinessCode hkind (hwithout hy hys)
    (hwithout hz hzs)

/-- A valid creditor identifier with another capital or digit in its business code is valid. -/
theorem Valid.replaced (hy : y.Valid registry) (hge : 4 ≤ before.length) (hle : before.length ≤ 6)
    (hb : b.isUpper = true ∨ b.isDigit = true) (hys : y.text.toList = before ++ [a] ++ after)
    {business : String} (hbusiness : business.toList = ((before ++ [b] ++ after).drop 4).take 3) :
    Valid registry { y with businessCode := business } ∧
      text { y with businessCode := business } = String.ofList (before ++ [b] ++ after) := by
  obtain ⟨htake, hdrop⟩ := take_and_drop_replaced hge hle after a b
  have hcapitals := capitals_replaced hb (hys ▸ (valid_iff_made.1 hy).1.text_capitals)
  have hlen : 7 ≤ (before ++ [b] ++ after).length := by
    have := hy.wellFormed.lt_length
    rw [hys] at this
    simp only [List.length_append, List.length_singleton] at this ⊢
    omega
  refine ⟨⟨?_, ?_, hy.nationalId_length_le, hy.withoutBusinessCode⟩, ?_⟩
  · show business.toList.length = 3
    rw [hbusiness, List.length_take, List.length_drop]
    omega
  · intro c hc
    rw [hbusiness] at hc
    exact hcapitals c (List.mem_of_mem_drop (List.mem_of_mem_take hc))
  · have hsegments := hy.cut
    rw [hys, ← htake, ← hdrop] at hsegments
    rw [← String.toList_inj, toList_text, String.toList_ofList]
    show y.country.code.toList ++ y.checkDigits.toList ++ business.toList ++ y.nationalId.toList = _
    rw [hbusiness, ← hsegments.1, ← hsegments.2, take_append_drop_append]

end

end CreditorIdentifier

/-! ## Reading an identifier with a wrong symbol -/

/-- In an identifier that is read one symbol is replaced by another one of its kind. Then an IBAN is
rejected, and so is a creditor identifier, unless the symbol belongs to its business code: with
another business code it is read, and nothing else of it changes. -/
theorem parse_replaced (registry : Registry) {s t : String} {before after : List Char} {a b : Char}
    (hs : s.toList = before ++ [a] ++ after) (ht : t.toList = before ++ [b] ++ after)
    (hcanonical : canonical s = s) (hkind : SameKind a b) (hne : a ≠ b) :
    (∀ x, Iban.parse s registry = .ok x →
      ∃ cause, Iban.parse t registry = .error (.rejected ⟨Iban.kind, t, cause⟩)) ∧
    ∀ y, CreditorIdentifier.parse s registry = .ok y →
      (before.length < 4 ∨ 6 < before.length →
        ∃ cause, CreditorIdentifier.parse t registry =
          .error (.rejected ⟨CreditorIdentifier.kind, t, cause⟩)) ∧
      (4 ≤ before.length → before.length ≤ 6 →
        CreditorIdentifier.parse t registry =
          .ok { y with businessCode := String.ofList ((t.toList.drop 4).take 3) }) := by
  -- the new symbol is a capital or a digit as well, so that the text is still canonical
  have hcanonical' : (∀ c ∈ s.toList, c.isUpper = true ∨ c.isDigit = true) → canonical t = t := by
    intro hcapitals
    apply canonical_of_capitals
    rw [hs] at hcapitals
    rw [ht]
    exact capitals_replaced hkind.capitals.2 hcapitals
  constructor
  · intro x hx
    obtain ⟨hvalid, htext⟩ := Iban.parse_eq_ok_iff.1 hx
    rw [hcanonical] at htext
    have hcanonical' := hcanonical' (htext ▸ hvalid.wellFormed.capitals)
    apply Iban.exists_rejected
    intro x' hx'
    obtain ⟨hvalid', htext'⟩ := Iban.parse_eq_ok_iff.1 hx'
    rw [hcanonical'] at htext'
    exact hne (hvalid.eq_of_replaced hvalid' hkind (by rw [htext, hs]) (by rw [htext', ht]))
  · intro y hy
    obtain ⟨hvalid, htext⟩ := CreditorIdentifier.parse_eq_ok_iff.1 hy
    rw [hcanonical] at htext
    have hys : y.text.toList = before ++ [a] ++ after := by rw [htext, hs]
    have hmade := (CreditorIdentifier.valid_iff_made.1 hvalid).1
    have hcanonical' := hcanonical' (htext ▸ hmade.text_capitals)
    constructor
    · intro hplace
      apply CreditorIdentifier.exists_rejected
      intro y' hy'
      obtain ⟨hvalid', htext'⟩ := CreditorIdentifier.parse_eq_ok_iff.1 hy'
      rw [hcanonical'] at htext'
      exact hne (hvalid.eq_of_replaced hvalid' hplace hkind hys (by rw [htext', ht]))
    · intro hge hle
      have hbusiness : (String.ofList ((t.toList.drop 4).take 3)).toList =
          ((before ++ [b] ++ after).drop 4).take 3 := by
        rw [String.toList_ofList, ht]
      obtain ⟨hvalid', htext'⟩ := hvalid.replaced hge hle hkind.capitals.2 hys hbusiness
      apply CreditorIdentifier.parse_eq_ok_iff.2
      refine ⟨hvalid', ?_⟩
      rw [htext', ← ht, String.ofList_toList, hcanonical']

/-- An IBAN of French Guiana as one of French Polynesia, with a BBAN of the same layout, and a
creditor identifier with a wrong digit and with another business code. -/
theorem parse_replaced_samples :
    (∃ cause, Iban.parse "PF4120041010050500013M02606" .bban =
      .error (.rejected ⟨Iban.kind, "PF4120041010050500013M02606", cause⟩)) ∧
    (∃ cause, CreditorIdentifier.parse "DE98ZZZ09999999998" .creditor =
      .error (.rejected ⟨CreditorIdentifier.kind, "DE98ZZZ09999999998", cause⟩)) ∧
    ∃ y, CreditorIdentifier.parse "DE98ZZZ09999999999" .creditor = .ok y ∧
      CreditorIdentifier.parse "DE98ZAZ09999999999" .creditor =
        .ok { y with businessCode := "ZAZ" } := by
  obtain ⟨x, hx⟩ : ∃ x, Iban.parse "GF4120041010050500013M02606" .bban = .ok x :=
    exists_eq_ok (by decide +kernel)
  obtain ⟨y, hy⟩ : ∃ y, CreditorIdentifier.parse "DE98ZZZ09999999999" .creditor = .ok y :=
    exists_eq_ok (by decide +kernel)
  refine ⟨?_, ?_, y, hy, ?_⟩
  · have hs : "GF4120041010050500013M02606".toList =
        [] ++ ['G'] ++ "F4120041010050500013M02606".toList := rfl
    have ht : "PF4120041010050500013M02606".toList =
        [] ++ ['P'] ++ "F4120041010050500013M02606".toList := rfl
    exact (parse_replaced .bban hs ht (by decide +kernel) (.inr ⟨rfl, rfl⟩) (by decide)).1 x hx
  · have hs : "DE98ZZZ09999999999".toList = "DE98ZZZ0999999999".toList ++ ['9'] ++ [] := rfl
    have ht : "DE98ZZZ09999999998".toList = "DE98ZZZ0999999999".toList ++ ['8'] ++ [] := rfl
    exact ((parse_replaced .creditor hs ht (by decide +kernel) (.inl ⟨rfl, rfl⟩)
      (by decide)).2 y hy).1 (.inr (by decide))
  · have hs : "DE98ZZZ09999999999".toList = "DE98Z".toList ++ ['Z'] ++ "Z09999999999".toList := rfl
    have ht : "DE98ZAZ09999999999".toList = "DE98Z".toList ++ ['A'] ++ "Z09999999999".toList := rfl
    exact ((parse_replaced .creditor hs ht (by decide +kernel) (.inr ⟨rfl, rfl⟩)
      (by decide)).2 y hy).2 (by decide) (by decide)

end BankCodes
