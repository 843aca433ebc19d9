import BankCodes.Proofs.CheckDigits.Mistakes
import BankCodes.Proofs.Iban.Acceptance

/-!
# Mistakes in IBANs

An IBAN in which one symbol is replaced by another of its kind is no IBAN any more, and neither is
one in which two different neighbours have changed places, unless they stand in the BBAN and are a
digit and a letter of eleven times its value: 1 and B, 2 and M, 3 and X.

* `Valid.eq_of_replaced` and `Valid.eq_or_blind_of_exchanged`: what two valid IBANs have in common
  that differ by one mistake only, whichever registries they are of;
* `Valid.parse_of_issued`: a body with the same check digits is a question of the layout alone;
* `parse_exchanged`: what becomes of an IBAN with two neighbours in each other's place.
-/

namespace BankCodes.Iban

open Candidate CheckDigits Pattern Text

/-! ## The rotated text -/

/-- A piece of a text that lies in its head, or behind it, stays in one piece when the text is
rotated. -/
theorem exists_rotate_eq (before after : List Char) {n : Nat}
    (h : before.length + n ≤ 4 ∨ 4 ≤ before.length) :
    ∃ front back, ∀ piece : List Char, piece.length = n →
      rotate (before ++ piece ++ after) = front ++ piece ++ back := by
  rcases h with hhead | hbody
  · refine ⟨after.drop (4 - (before.length + n)) ++ before,
      after.take (4 - (before.length + n)), fun piece hlen => ?_⟩
    have hfront : (before ++ piece).length = before.length + n := by
      rw [List.length_append, hlen]
    show (before ++ piece ++ after).drop 4 ++ (before ++ piece ++ after).take 4 = _
    rw [List.drop_append, List.take_append, hfront, List.drop_of_length_le (by omega),
      List.take_of_length_le (by omega)]
    simp only [List.nil_append, List.append_assoc]
  · refine ⟨before.drop 4, after ++ before.take 4, fun piece _ => ?_⟩
    show (before ++ piece ++ after).drop 4 ++ (before ++ piece ++ after).take 4 = _
    rw [List.append_assoc, List.drop_append_of_le_length hbody,
      List.take_append_of_le_length hbody]
    simp only [List.append_assoc]

/-- The number that the rotated text of a valid IBAN writes leaves the remainder 1. -/
theorem Valid.remainder {registry : Registry} {x : Iban} (h : x.Valid registry) :
    numeralValue (expansion (rotate x.text.toList)) % 97 = 1 := by
  obtain ⟨rule, -, hcountry, hgenuine⟩ := h.genuine
  have hrotated : rotate x.text.toList =
      x.bban.toList ++ x.country.code.toList ++ x.checkDigits.toList := by
    obtain ⟨hcode, hdigits, hbody⟩ := h.cut
    show x.text.toList.drop 4 ++ x.text.toList.take 4 = _
    rw [hbody, show x.text.toList.take 4 = x.text.toList.take (2 + 2) from rfl, List.take_add,
      hcode, hdigits, List.append_assoc]
  rw [hrotated, ← hcountry]
  exact hgenuine.remainder

/-! ## Two valid IBANs -/

section

variable {registry registry' : Registry} {x y : Iban} {before after : List Char} {a b : Char}
  (hx : x.Valid registry) (hy : y.Valid registry')
include hx hy

/-- Two valid IBANs that differ only by symbols of one kind in the same place do not differ. -/
theorem Valid.eq_of_replaced (hkind : SameKind a b)
    (hxs : x.text.toList = before ++ [a] ++ after)
    (hys : y.text.toList = before ++ [b] ++ after) : a = b := by
  obtain ⟨front, back, hrotate⟩ := exists_rotate_eq before after (n := 1) (by omega)
  have hsame := hx.remainder.trans hy.remainder.symm
  rw [hxs, hys, hrotate [a] rfl, hrotate [b] rfl] at hsame
  exact CheckDigits.eq_of_replaced hkind hsame

/-- Two valid IBANs that differ only by the order of two neighbours have a blind pair there, where
the two go to the same end of the number. -/
theorem Valid.eq_or_blind_of_exchanged_together (hplace : before.length + 2 ≤ 4 ∨ 4 ≤ before.length)
    (hxs : x.text.toList = before ++ [a, b] ++ after)
    (hys : y.text.toList = before ++ [b, a] ++ after) : a = b ∨ Blind a b := by
  obtain ⟨front, back, hrotate⟩ := exists_rotate_eq before after hplace
  have hsame := hx.remainder.trans hy.remainder.symm
  rw [hxs, hys, hrotate [a, b] rfl, hrotate [b, a] rfl] at hsame
  have hcapitals := hx.wellFormed.capitals
  rw [hxs] at hcapitals
  exact (exchanged_mod_eq_iff (hcapitals a (by simp)) (hcapitals b (by simp))).1 hsame

/-- Two valid IBANs that differ only by the last check digit and the first symbol of the BBAN, which
have changed places, do not differ. The two go to the ends of the number. -/
theorem Valid.eq_of_exchanged_ends (hlen : before.length = 3)
    (hxs : x.text.toList = before ++ [a, b] ++ after)
    (hys : y.text.toList = before ++ [b, a] ++ after) : a = b := by
  obtain ⟨p, q, r, rfl⟩ : ∃ p q r, before = [p, q, r] := by
    match before, hlen with
    | [p, q, r], _ => exact ⟨p, q, r, rfl⟩
  have hwell := hx.wellFormed
  have hwell' := hy.wellFormed
  have hsame := hx.remainder.trans hy.remainder.symm
  rw [hxs] at hwell hsame
  rw [hys] at hwell' hsame
  -- in their places both have to be digits
  have ha : a.isDigit = true := hwell.digits a (by simp)
  have hb : b.isDigit = true := hwell'.digits b (by simp)
  have hmiddle : ∀ c ∈ after ++ [p, q, r], c.isUpper = true ∨ c.isDigit = true := by
    intro c hc
    apply hwell.capitals
    rcases List.mem_append.1 hc with hc | hc
    · exact List.mem_append_right _ hc
    · exact List.mem_append_left _ (List.mem_append_left _ hc)
  have hplaces := length_expansion_le hmiddle
  have hle := hwell.length_le
  simp only [List.length_append, List.length_cons, List.length_nil] at hplaces hle
  have hrotate : ∀ c d : Char, rotate ([p, q, r] ++ [c, d] ++ after) =
      [d] ++ (after ++ [p, q, r]) ++ [c] := by
    intro c d
    show d :: after ++ [p, q, r, c] = _
    simp
  rw [hrotate, hrotate] at hsame
  exact (CheckDigits.eq_of_exchanged_ends hb ha (by omega) hsame).symm

/-- In the head of an IBAN two neighbours that are not in their places are of one kind: the second
letter and the first digit are not, so that they cannot change places. -/
theorem Valid.sameKind_of_exchanged (hlen : before.length < 3)
    (hxs : x.text.toList = before ++ [a, b] ++ after)
    (hys : y.text.toList = before ++ [b, a] ++ after) : SameKind a b := by
  have hwell := hx.wellFormed
  have hwell' := hy.wellFormed
  rw [hxs] at hwell
  rw [hys] at hwell'
  rcases before with _ | ⟨p, _ | ⟨q, _ | ⟨r, before⟩⟩⟩
  · exact .inr ⟨hwell.letters a (by simp), hwell.letters b (by simp)⟩
  · have hletter : a.isUpper = true := hwell.letters a (by simp)
    have hdigit : a.isDigit = true := hwell'.digits a (by simp)
    exact absurd hdigit (not_isDigit_of_isUpper hletter)
  · exact .inl ⟨hwell.digits a (by simp), hwell.digits b (by simp)⟩
  · simp only [List.length_cons] at hlen
    omega

/-- Two valid IBANs that differ only by the order of two neighbours have a blind pair there, and it
belongs to the BBAN. -/
theorem Valid.eq_or_blind_of_exchanged (hxs : x.text.toList = before ++ [a, b] ++ after)
    (hys : y.text.toList = before ++ [b, a] ++ after) :
    a = b ∨ (4 ≤ before.length ∧ Blind a b) := by
  by_cases hends : before.length = 3
  · exact .inl (hx.eq_of_exchanged_ends hy hends hxs hys)
  · have hpair := hx.eq_or_blind_of_exchanged_together hy (by omega) hxs hys
    by_cases hbody : 4 ≤ before.length
    · exact hpair.imp_right fun hblind => ⟨hbody, hblind⟩
    · have hkind := hx.sameKind_of_exchanged hy (by omega) hxs hys
      exact .inl (hpair.resolve_right hkind.not_blind)

end

/-! ## Reading an IBAN with a mistake -/

/-- What is read as no IBAN is rejected. -/
theorem exists_rejected {input : String} {registry : Registry}
    (h : ∀ x, parse input registry ≠ .ok x) :
    ∃ cause, parse input registry = .error (.rejected ⟨kind, input, cause⟩) := by
  cases hparse : parse input registry with
  | ok x => exact absurd hparse (h x)
  | error failure =>
    obtain ⟨cause, rfl, -⟩ := exists_cause_of_parse_eq_error hparse
    exact ⟨cause, rfl⟩

/-- The check digits of a valid IBAN are those issued for its country and its BBAN. -/
theorem Valid.checkDigits_eq {registry : Registry} {x : Iban} (h : x.Valid registry) :
    x.checkDigits.toList = padded 10 2 (issued x.country.code.toList x.bban.toList) := by
  obtain ⟨rule, -, hcountry, hgenuine⟩ := h.genuine
  rw [← hcountry]
  exact (Genuine.iff_issued hgenuine.twoDigits hgenuine.follows).1 hgenuine

/-- When a blind pair changes places in the BBAN, head and check digits stay as they are. -/
theorem Valid.exchanged_segments {registry : Registry} {x : Iban} (hx : x.Valid registry)
    {before after : List Char} {a b : Char} (hbody : 4 ≤ before.length) (hblind : Blind a b)
    (hxs : x.text.toList = before ++ [a, b] ++ after) :
    ∃ bban : List Char, bban.length = x.bban.toList.length ∧
      before ++ [b, a] ++ after = x.country.code.toList ++ x.checkDigits.toList ++ bban ∧
      x.checkDigits.toList = padded 10 2 (issued x.country.code.toList bban) := by
  have hhead : (x.country.code.toList ++ x.checkDigits.toList).length = 4 := by
    obtain ⟨rule, -, -, hgenuine⟩ := hx.genuine
    simp [hgenuine.twoDigits.length_eq]
  have hfront : before = x.country.code.toList ++ x.checkDigits.toList ++ before.drop 4 := by
    have htake := congrArg (List.take 4) hxs
    rw [toList_text, List.take_left' hhead, List.append_assoc,
      List.take_append_of_le_length hbody] at htake
    rw [htake, List.take_append_drop]
  have hbban : x.bban.toList = before.drop 4 ++ [a, b] ++ after := by
    rw [← hx.cut.2.2, hxs, List.append_assoc, List.drop_append_of_le_length hbody,
      List.append_assoc]
  refine ⟨before.drop 4 ++ [b, a] ++ after, by simp [hbban], ?_, ?_⟩
  · rw [← List.append_assoc, ← List.append_assoc, ← hfront]
  · rw [← issued_exchanged hblind, ← hbban, hx.checkDigits_eq]

/-- With another body that has the same check digits, it is the layout of the country alone that
decides what becomes of the IBAN. -/
theorem Valid.parse_of_issued {registry : Registry} {x : Iban} (hx : x.Valid registry) {t : String}
    {bban : List Char}
    (ht : t.toList = x.country.code.toList ++ x.checkDigits.toList ++ bban)
    (hlen : bban.length = x.bban.toList.length)
    (hcapitals : ∀ c ∈ t.toList, c.isUpper = true ∨ c.isDigit = true)
    (hdigits : x.checkDigits.toList = padded 10 2 (issued x.country.code.toList bban)) :
    ∃ rule ∈ registry.rules, rule.country = x.country ∧
      checkDigitsOf x.country (String.ofList bban) = .ok x.checkDigits ∧
      parse t registry =
        if rule.accepts (String.ofList bban) then .ok ⟨x.country, x.checkDigits, String.ofList bban⟩
        else .error (.rejected ⟨kind, t, .wrongStructure rule.label⟩) := by
  obtain ⟨rule, hmem, hcountry, hgenuine⟩ := hx.genuine
  have hpos : 1 ≤ bban.length := hlen ▸ hx.nonempty
  have hle : bban.length ≤ 30 := hlen ▸ hx.length_le
  have hbban : ∀ c ∈ bban, c.isUpper = true ∨ c.isDigit = true := fun c hc =>
    hcapitals c (ht ▸ List.mem_append_right _ hc)
  rw [← hcountry] at ht hdigits ⊢
  have hcs : canonicalChars t.toList =
      rule.country.code.toList ++ x.checkDigits.toList ++ bban := by
    rw [canonicalChars_of_capitals hcapitals, ht]
  refine ⟨rule, hmem, rfl, ?_, ?_⟩
  · rw [checkDigitsOf_eq, String.toList_ofList, ← hdigits, String.ofList_toList]
    · rw [String.toList_ofList]
      exact List.length_pos_iff.1 hpos
    · rw [String.toList_ofList]
      exact fun c hc => isAlphanum_of_capital (hbban c hc)
  · split
    · next haccepts =>
      rw [Rule.accepts_iff_spells, String.toList_ofList] at haccepts
      rw [parse_of_follows hmem hcs hgenuine.twoDigits hle haccepts, if_pos hdigits,
        String.ofList_toList]
    · next hrefused =>
      rw [Rule.accepts_iff_spells, String.toList_ofList] at hrefused
      have hwell : WellFormed (canonicalChars t.toList) := by
        rw [hcs, wellFormed_append (by simp) hgenuine.twoDigits.length_eq]
        exact ⟨Country.isUpper_of_mem_code, hgenuine.twoDigits.digits, hbban, hpos, hle⟩
      exact parse_of_not_follows hmem hcs hwell hgenuine.twoDigits.length_eq hrefused

/-- In an IBAN two different neighbours change places. Then it is rejected, unless they belong to the
BBAN and are a blind pair. In this case the check digits agree as before, and what becomes of the
IBAN is decided by the layout of its country alone. -/
theorem parse_exchanged (registry : Registry) {s t : String} {before after : List Char} {a b : Char}
    (hs : s.toList = before ++ [a, b] ++ after) (ht : t.toList = before ++ [b, a] ++ after)
    (hcanonical : canonical s = s) (hne : a ≠ b) {x : Iban} (hx : parse s registry = .ok x) :
    (¬ (4 ≤ before.length ∧ Blind a b) →
      ∃ cause, parse t registry = .error (.rejected ⟨kind, t, cause⟩)) ∧
    (4 ≤ before.length → Blind a b →
      ∃ rule ∈ registry.rules, rule.country = x.country ∧ ∃ bban : String,
        t = x.country.code ++ x.checkDigits ++ bban ∧
        checkDigitsOf x.country bban = .ok x.checkDigits ∧
        parse t registry =
          if rule.accepts bban then .ok ⟨x.country, x.checkDigits, bban⟩
          else .error (.rejected ⟨kind, t, .wrongStructure rule.label⟩)) := by
  obtain ⟨hvalid, htext⟩ := parse_eq_ok_iff.1 hx
  have hxs : x.text.toList = before ++ [a, b] ++ after := by rw [htext, hcanonical, hs]
  have hcapitals : ∀ c ∈ t.toList, c.isUpper = true ∨ c.isDigit = true := by
    have hperm : t.toList.Perm x.text.toList := by
      rw [ht, hxs]
      exact ((List.Perm.swap a b []).append_left before).append_right after
    exact fun c hc => hvalid.wellFormed.capitals c (hperm.mem_iff.1 hc)
  constructor
  · intro hnot
    apply exists_rejected
    intro y hy
    obtain ⟨hvalid', htext'⟩ := parse_eq_ok_iff.1 hy
    have hys : y.text.toList = before ++ [b, a] ++ after := by
      rw [htext', canonical_of_capitals hcapitals, ht]
    rcases hvalid.eq_or_blind_of_exchanged hvalid' hxs hys with hsame | hblind
    · exact hne hsame
    · exact hnot hblind
  · intro hbody hblind
    obtain ⟨bban, hlen, hcut, hdigits⟩ := hvalid.exchanged_segments hbody hblind hxs
    rw [← ht] at hcut
    obtain ⟨rule, hmem, hcountry, hissued, hparse⟩ :=
      hvalid.parse_of_issued hcut hlen hcapitals hdigits
    refine ⟨rule, hmem, hcountry, String.ofList bban, ?_, hissued, hparse⟩
    rw [← String.toList_inj, hcut]
    simp

/-- An IBAN of Gibraltar with two letters in each other's place, the same with its last letter and
digit in each other's place, and an IBAN of France where a letter must not come so late. -/
theorem parse_exchanged_samples :
    (∃ x, parse "GI62NWBK00000000709941B" .bban = .ok x ∧
      (∃ cause, parse "GI62NBWK00000000709941B" .bban =
        .error (.rejected ⟨kind, "GI62NBWK00000000709941B", cause⟩)) ∧
      ∃ bban, checkDigitsOf x.country bban = .ok x.checkDigits ∧
        parse "GI62NWBK0000000070994B1" .bban = .ok ⟨x.country, x.checkDigits, bban⟩) ∧
    ∃ x, parse "FR5420041010050500013M02B16" .bban = .ok x ∧ ∃ bban,
      checkDigitsOf x.country bban = .ok x.checkDigits ∧ ∃ rule ∈ Registry.bban.rules,
        parse "FR5420041010050500013M021B6" .bban =
          .error (.rejected ⟨kind, "FR5420041010050500013M021B6", .wrongStructure rule.label⟩) := by
  constructor
  · have hcanonical : canonical "GI62NWBK00000000709941B" = "GI62NWBK00000000709941B" := by
      decide +kernel
    obtain ⟨x, hx⟩ : ∃ x, parse "GI62NWBK00000000709941B" .bban = .ok x :=
      exists_eq_ok (by decide +kernel)
    have hs : "GI62NWBK00000000709941B".toList =
        "GI62N".toList ++ ['W', 'B'] ++ "K00000000709941B".toList := rfl
    have ht : "GI62NBWK00000000709941B".toList =
        "GI62N".toList ++ ['B', 'W'] ++ "K00000000709941B".toList := rfl
    have hletters := (parse_exchanged .bban hs ht hcanonical (by decide) hx).1
    have hs : "GI62NWBK00000000709941B".toList = "GI62NWBK0000000070994".toList ++ ['1', 'B'] ++ [] :=
      rfl
    have ht : "GI62NWBK0000000070994B1".toList = "GI62NWBK0000000070994".toList ++ ['B', '1'] ++ [] :=
      rfl
    obtain ⟨rule, -, -, bban, -, hdigits, hparse⟩ :=
      (parse_exchanged .bban hs ht hcanonical (by decide) hx).2 (by decide) (by decide)
    refine ⟨x, hx, hletters fun h => absurd h.2 (by decide), bban, hdigits, ?_⟩
    obtain ⟨y, hy⟩ : ∃ y, parse "GI62NWBK0000000070994B1" .bban = .ok y :=
      exists_eq_ok (by decide +kernel)
    rw [hparse] at hy ⊢
    split at hy
    · next haccepts => rw [if_pos haccepts]
    · cases hy
  · obtain ⟨x, hx⟩ : ∃ x, parse "FR5420041010050500013M02B16" .bban = .ok x :=
      exists_eq_ok (by decide +kernel)
    have hs : "FR5420041010050500013M02B16".toList =
        "FR5420041010050500013M02".toList ++ ['B', '1'] ++ ['6'] := rfl
    have ht : "FR5420041010050500013M021B6".toList =
        "FR5420041010050500013M02".toList ++ ['1', 'B'] ++ ['6'] := rfl
    obtain ⟨rule, hmem, -, bban, -, hdigits, hparse⟩ :=
      (parse_exchanged .bban hs ht (by decide +kernel) (by decide) hx).2 (by decide) (by decide)
    have hrefused : (parse "FR5420041010050500013M021B6" .bban).isOk = false := by decide +kernel
    refine ⟨x, hx, bban, hdigits, rule, hmem, ?_⟩
    rw [hparse] at hrefused ⊢
    split at hrefused
    · cases hrefused
    · next hnot => rw [if_neg hnot]

end BankCodes.Iban
