import BankCodes.Proofs.Scan.RunsOn
import BankCodes.Proofs.Scan.Search

/-!
# Which IBANs are found

A valid IBAN is found where it stands free in a text, but not in every place. In compact form it is
found wherever it stands. In printed form it is found unless the scan passes its head over, because
a printed text before it runs on over its groups (`RunsOn`).

* `exists_candidate_iff_stands`: the candidates of printed sites are the printed texts that stand
  free and that no other one runs on over;
* `firstAccepted_eq_some_iff_mem`: a site gives a valid IBAN if and only if it is a candidate there;
* `mem_found_iff_stands`: the two forms together say which IBANs are found.
-/

namespace BankCodes.Scan

open Iban (Grouped Valid)
open Text

/-! ## Reading a candidate -/

/-- Capitals and decimal digits are their own canonical form. -/
theorem canonicalChars_of_symbols {cs : List Char}
    (h : ∀ c ∈ cs, isDecimal c = true ∨ isCapitalOrDigit c = true) : canonicalChars cs = cs := by
  apply canonicalChars_eq_self
  intro c hc
  by_cases hascii : c.toNat < 128
  · exact forall_ascii (P := fun c => isDecimal c = true ∨ isCapitalOrDigit c = true →
      isBlank c = false ∧ c.toUpper = c) (by decide) hascii (h c hc)
  · constructor
    · rw [← Bool.not_eq_true]
      intro hblank
      exact hascii (lt_of_isBlank hblank)
    · apply toUpper_eq_self
      rw [← Bool.not_eq_true, isLower_iff]
      omega

/-- A candidate of capitals and digits is accepted if and only if it is the text of a valid IBAN. -/
theorem read_eq_ok_iff {c : List Char} {t : String}
    (hc : ∀ d ∈ c, isDecimal d = true ∨ isCapitalOrDigit d = true) :
    (Iban.parse (String.ofList c)).map Iban.text = .ok t ↔
      ∃ x : Iban, x.Valid .bban ∧ x.text = t ∧ t.toList = c := by
  have hcanonical : (canonical (String.ofList c)).toList = c := by
    rw [toList_canonical, String.toList_ofList, canonicalChars_of_symbols hc]
  constructor
  · intro h
    cases hx : Iban.parse (String.ofList c) with
    | error failure =>
      rw [hx] at h
      cases h
    | ok x =>
      rw [hx] at h
      cases h
      obtain ⟨hvalid, htext⟩ := Iban.parse_eq_ok_iff.1 hx
      exact ⟨x, hvalid, rfl, by rw [htext, hcanonical]⟩
  · rintro ⟨x, hvalid, rfl, htext⟩
    have hx : Iban.parse (String.ofList c) = .ok x := by
      apply Iban.parse_eq_ok_iff.2
      exact ⟨hvalid, by rw [← String.toList_inj, hcanonical, htext]⟩
    rw [hx]
    rfl

/-! ## Printed sites -/

/-- A printed text gives a candidate if and only if it stands free somewhere and no other printed
text runs on over it there. -/
theorem exists_candidate_iff_stands (cs : List Char) {head : List Char} {groups : List (List Char)}
    (hhead : IsHead head) (hgroups : Grouped groups)
    (hcapitals : ∀ c ∈ groups.flatten, isCapitalOrDigit c = true)
    (hge : 4 ≤ groups.flatten.length) (hle : groups.flatten.length ≤ 31) :
    (∃ site ∈ printedSites 0 (words cs), head ++ groups.flatten ∈ site.candidates) ↔
      ∃ before after, Stands cs before (spaced head groups) after ∧
        ¬ (FourGroup head ∧ RunsOn before) := by
  have hall : ∀ g ∈ groups, ∀ c ∈ g, isCapitalOrDigit c = true := fun g hg c hc =>
    hcapitals c (List.mem_flatten.2 ⟨g, hg, hc⟩)
  obtain ⟨hne, hchars⟩ := words_of_printed hhead hgroups hall
  rw [exists_site_iff words_ne_nil]
  constructor
  · intro ⟨ws, w, us, vs, hwords, hskip, hwhead, hin, _, _, hcut⟩
    obtain ⟨rfl, rfl⟩ := hin.eq_of_append_eq hwhead hhead hgroups hcut
    obtain ⟨tail, hlaid⟩ := laid_words cs
    rw [hwords] at hlaid
    obtain ⟨before, after, hstands, -, hbefore, -⟩ := hlaid.stands hin.gaps
    refine ⟨before, after, hstands, ?_⟩
    rw [← skipAfter_pos_iff_runsOn (us ++ vs) hbefore hhead.length_eq, hskip]
    exact Nat.lt_irrefl 0
  · intro ⟨before, after, hstands, hrun⟩
    obtain ⟨ws, w, us, vs, _, hlaid, hbefore, -, rfl, rfl, hgaps⟩ :=
      hstands.laid hne hchars
    have hin : InGroups us := ⟨hgaps, fun u hu => hall _ (List.mem_map_of_mem hu), hgroups⟩
    rw [← skipAfter_pos_iff_runsOn (us ++ vs) hbefore hhead.length_eq] at hrun
    rw [← chars_eq_flatten] at hge hle ⊢
    exact ⟨ws, w, us, vs, words_eq_of_laid hlaid, Nat.eq_zero_of_not_pos hrun, hhead, hin, hge, hle,
      rfl⟩

/-- The characters of a printed candidate. -/
theorem symbols_of_mem_candidates {cs c : List Char} {site : Site}
    (hsite : site ∈ printedSites 0 (words cs)) (hc : c ∈ site.candidates) :
    ∀ d ∈ c, isDecimal d = true ∨ isCapitalOrDigit d = true := by
  obtain ⟨ws, w, us, vs, -, -, hhead, hin, -, -, rfl⟩ :=
    (exists_site_iff words_ne_nil).1 ⟨site, hsite, hc⟩
  intro d hd
  rcases List.mem_append.1 hd with hd | hd
  · exact hhead.symbols d hd
  · obtain ⟨u, hu, hd⟩ := List.mem_flatMap.1 hd
    exact .inr (hin.capitals u hu d hd)

/-- Two IBANs that a text begins with are the same, since every layout has one length. -/
theorem eq_of_beginnings_bban {x y : Iban} {cs : List Char} (hx : x.Valid .bban)
    (hy : y.Valid .bban) (hxs : x.text.toList <+: cs) (hys : y.text.toList <+: cs) : x = y := by
  refine hx.eq_of_beginnings (fun rule hrule => ?_) hy hxs hys
  obtain ⟨n, hn, -⟩ := Registry.exists_length_of_mem_bban hrule
  exact ⟨n, hn⟩

/-- Two IBANs among the candidates of a site are the same, since each is a beginning of its words.
-/
theorem eq_of_mem_candidates {ws : List Word} {site : Site} {x y : Iban}
    (hsite : site ∈ printedSites 0 ws) (hx : x.Valid .bban) (hy : y.Valid .bban)
    (hxs : x.text.toList ∈ site.candidates) (hys : y.text.toList ∈ site.candidates) : x = y := by
  obtain ⟨_, _, _, head, groups, -, -, -, rfl⟩ := mem_printedSites.1 hsite
  have hbegins : ∀ {c}, c ∈ trimmed head groups → c <+: head ++ groups.flatten := by
    intro c hc
    obtain ⟨taken, -, ⟨rest, rfl⟩, rfl⟩ := mem_trimmed.1 hc
    exact ⟨rest.flatten, by simp⟩
  exact eq_of_beginnings_bban hx hy (hbegins hxs) (hbegins hys)

/-- A printed site gives a valid IBAN if and only if this is one of its candidates. -/
theorem firstAccepted_eq_some_iff_mem {cs : List Char} {site : Site} {x : Iban}
    (hsite : site ∈ printedSites 0 (words cs)) (hx : x.Valid .bban) :
    (firstAccepted (fun s => (Iban.parse s).map Iban.text) site.candidates).1 = some x.text ↔
      x.text.toList ∈ site.candidates := by
  have hread : ∀ {c}, c ∈ site.candidates → ∀ {t},
      ((Iban.parse (String.ofList c)).map Iban.text = .ok t ↔
        ∃ y : Iban, y.Valid .bban ∧ y.text = t ∧ t.toList = c) := fun hc _ =>
    read_eq_ok_iff (symbols_of_mem_candidates hsite hc)
  rw [firstAccepted_eq_some_iff_of_unique]
  · constructor
    · intro ⟨c, hc, hok⟩
      obtain ⟨_, _, _, hcut⟩ := (hread hc).1 hok
      rwa [hcut]
    · intro hmem
      exact ⟨_, hmem, (hread hmem).2 ⟨x, hx, rfl, rfl⟩⟩
  · intro c hc d hd s t hs ht
    obtain ⟨y, hy, rfl, rfl⟩ := (hread hc).1 hs
    obtain ⟨z, hz, rfl, rfl⟩ := (hread hd).1 ht
    rw [eq_of_mem_candidates hsite hy hz hc hd]

/-! ## The parts of an IBAN -/

/-- A valid IBAN has the head and the groups of a printed text. -/
theorem exists_parts_of_valid {x : Iban} (hx : x.Valid .bban) :
    ∃ head groups, IsHead head ∧ FourGroup head ∧ Grouped groups ∧
      (∀ c ∈ groups.flatten, isCapitalOrDigit c = true) ∧
      (4 ≤ groups.flatten.length ∧ groups.flatten.length ≤ 30) ∧
      x.text.toList = head ++ groups.flatten ∧ x.printable.toList = spaced head groups := by
  obtain ⟨head, groups, hlen, hgroups, htext, hprintable⟩ := hx.exists_groups
  obtain ⟨hletters, hdigits, hbody, -, hle⟩ := hx.wellFormed
  obtain ⟨rule, hrule, -, hgenuine⟩ := hx.genuine
  obtain ⟨n, hn, hge, -⟩ := Registry.exists_length_of_mem_bban hrule
  have hbban := Pattern.length_of_fixedLength? hn hgenuine.follows
  rw [← hx.cut.2.2, htext, List.drop_left' hlen] at hbban
  rw [htext] at hletters hdigits hbody hle
  rw [List.take_append_of_le_length (by omega)] at hletters
  rw [List.drop_append_of_le_length (by omega), List.take_left' (by simp [hlen])] at hdigits
  rw [List.drop_left' hlen] at hbody
  have hhead : IsHead head := ⟨hlen, hletters, fun c hc => isDecimal_of_isDigit (hdigits c hc)⟩
  have hfour : ∀ c ∈ head, isCapitalOrDigit c = true := by
    intro c hc
    rw [← List.take_append_drop 2 head, List.mem_append] at hc
    rcases hc with hc | hc
    · exact isCapitalOrDigit_iff.2 (.inl (hletters c hc))
    · exact isCapitalOrDigit_iff.2 (.inr (hdigits c hc))
  refine ⟨head, groups, hhead, ⟨hlen, hfour⟩, hgroups, fun c hc => ?_, ⟨?_, ?_⟩, htext,
    hprintable⟩
  · exact isCapitalOrDigit_iff.2 (hbody c hc)
  · omega
  · rw [List.length_append] at hle
    omega

/-- The text of a valid IBAN has the shape of a compact one. -/
theorem isIbanWord_of_valid {x : Iban} (hx : x.Valid .bban) : isIbanWord x.text.toList = true := by
  obtain ⟨head, groups, hhead, -, -, hcapitals, ⟨hge, hle⟩, htext, -⟩ := exists_parts_of_valid hx
  exact hasShape_iff.2 ⟨head, groups.flatten, htext, hhead, ⟨by omega, hle⟩, hcapitals⟩

/-- It is a word. -/
theorem isWordChar_of_valid {x : Iban} (hx : x.Valid .bban) :
    ∀ c ∈ x.text.toList, isWordChar c = true := by
  intro c hc
  rcases symbols_of_hasShape (isIbanWord_of_valid hx) c hc with hc | hc
  · exact isWordChar_of_isDecimal hc
  · exact isWordChar_of_isCapitalOrDigit hc

/-! ## The two forms -/

/-- A valid IBAN is given by a printed site if and only if its printed form stands free where no
other printed text runs on over it. -/
theorem exists_printedSite_iff {cs : List Char} {x : Iban} (hx : x.Valid .bban) :
    (∃ site ∈ printedSites 0 (words cs),
        (firstAccepted (fun s => (Iban.parse s).map Iban.text) site.candidates).1 = some x.text) ↔
      ∃ before after, Stands cs before x.printable.toList after ∧ ¬ RunsOn before := by
  obtain ⟨head, groups, hhead, hfour, hgroups, hcapitals, ⟨hge, hle⟩, htext, hprintable⟩ :=
    exists_parts_of_valid hx
  have hsites := exists_candidate_iff_stands cs hhead hgroups hcapitals hge (by omega)
  simp only [hfour, true_and, ← htext, ← hprintable] at hsites
  rw [← hsites]
  constructor
  · intro ⟨site, hsite, hok⟩
    exact ⟨site, hsite, (firstAccepted_eq_some_iff_mem hsite hx).1 hok⟩
  · intro ⟨site, hsite, hmem⟩
    exact ⟨site, hsite, (firstAccepted_eq_some_iff_mem hsite hx).2 hmem⟩

/-- A valid IBAN is given by a compact site if and only if its compact form stands free. -/
theorem exists_compactSite_iff {cs : List Char} {x : Iban} (hx : x.Valid .bban) :
    (∃ site ∈ compactSites isIbanWord (words cs),
        (firstAccepted (fun s => (Iban.parse s).map Iban.text) site.candidates).1 = some x.text) ↔
      ∃ before after, Stands cs before x.text.toList after := by
  have hne : x.text.toList ≠ [] := List.ne_nil_of_length_pos (by
    have := hx.wellFormed.lt_length
    omega)
  rw [← exists_word_iff hne (isWordChar_of_valid hx)]
  -- the only candidate of a compact site is its word
  have hsite : ∀ w : Word, isIbanWord w.chars = true →
      ((firstAccepted (fun s => (Iban.parse s).map Iban.text) [w.chars]).1 = some x.text ↔
        w.chars = x.text.toList) := by
    intro w hw
    rw [firstAccepted_singleton, read_eq_ok_iff (symbols_of_hasShape hw)]
    constructor
    · intro ⟨_, _, _, hchars⟩
      exact hchars.symm
    · intro hchars
      exact ⟨x, hx, rfl, hchars.symm⟩
  constructor
  · intro ⟨site, hmem, hok⟩
    obtain ⟨w, hw, rfl⟩ := List.mem_map.1 hmem
    obtain ⟨hw, hshape⟩ := List.mem_filter.1 hw
    exact ⟨w, hw, (hsite w hshape).1 hok⟩
  · intro ⟨w, hw, hchars⟩
    have hshape : isIbanWord w.chars = true := hchars ▸ isIbanWord_of_valid hx
    exact ⟨_, List.mem_map_of_mem (List.mem_filter.2 ⟨hw, hshape⟩), (hsite w hshape).2 hchars⟩

/-! ## What is found -/

/-- A valid IBAN is found if and only if its compact form stands free somewhere in the text in
capitals, or its printed form does so where no other printed text runs on over it. -/
theorem mem_found_iff_stands {input : String} {x : Iban} (hx : Iban.parse input = .ok x)
    (text : String) :
    x.text ∈ (ibans text).found ↔
      (∃ before after, Stands (upper text.toList) before x.text.toList after) ∨
      ∃ before after, Stands (upper text.toList) before x.printable.toList after ∧
        ¬ RunsOn before := by
  have hvalid := (Iban.parse_eq_ok_iff.1 hx).1
  rw [← exists_compactSite_iff hvalid, ← exists_printedSite_iff hvalid]
  show x.text ∈ (search _ _ (_ ++ _)).found ↔ _
  simp only [mem_found, List.mem_append]
  constructor
  · intro ⟨site, hsite, hok⟩
    rcases hsite with hsite | hsite
    · exact .inr ⟨site, hsite, hok⟩
    · exact .inl ⟨site, hsite, hok⟩
  · intro h
    rcases h with ⟨site, hsite, hok⟩ | ⟨site, hsite, hok⟩
    · exact ⟨site, .inr hsite, hok⟩
    · exact ⟨site, .inl hsite, hok⟩

/-- An IBAN in printed form with a word of three letters before it. -/
theorem mem_found_iff_stands_sample :
    ∃ x, Iban.parse "GB82WEST12345698765432" = .ok x ∧
      x.text ∈ (ibans "pay GB82 WEST 1234 5698 7654 32.").found := by
  obtain ⟨x, hx⟩ : ∃ x, Iban.parse "GB82WEST12345698765432" = .ok x :=
    Iban.exists_parse_eq_ok (by decide +kernel)
  have htext : x.text = canonical "GB82WEST12345698765432" := (Iban.parse_eq_ok_iff.1 hx).2
  refine ⟨x, hx, (mem_found_iff_stands hx _).2 ?_⟩
  refine .inr ⟨['P', 'A', 'Y', ' '], ['.'], ⟨?_, ?_, ?_⟩, ?_⟩
  · rw [Iban.printable, htext]
    decide +kernel
  · exact endsFree_concat ['P', 'A', 'Y'] (by decide)
  · exact startsFree_cons.2 (by decide)
  · intro hrun
    exact absurd hrun.five_le_length (by decide)

/-- Of two printed IBANs with a space between them only the first one is found. -/
theorem not_mem_found_behind_printed :
    ∃ x, Iban.parse "DE89370400440532013000" = .ok x ∧
      Stands (upper "BE68 5390 0754 7034 DE89 3704 0044 0532 0130 00".toList)
        ("BE68 5390 0754 7034".toList ++ [' ']) x.printable.toList [] ∧
      (ibans "BE68 5390 0754 7034 DE89 3704 0044 0532 0130 00").found = ["BE68539007547034"] ∧
      x.text ∉ (ibans "BE68 5390 0754 7034 DE89 3704 0044 0532 0130 00").found := by
  obtain ⟨x, hx⟩ : ∃ x, Iban.parse "DE89370400440532013000" = .ok x :=
    Iban.exists_parse_eq_ok (by decide +kernel)
  have htext : x.text = canonical "DE89370400440532013000" := (Iban.parse_eq_ok_iff.1 hx).2
  have hfound : (ibans "BE68 5390 0754 7034 DE89 3704 0044 0532 0130 00").found =
      ["BE68539007547034"] := by decide +kernel
  refine ⟨x, hx, ⟨?_, ?_, startsFree_nil⟩, hfound, ?_⟩
  · rw [Iban.printable, htext]
    decide +kernel
  · exact endsFree_concat _ (by decide)
  · rw [hfound, htext]
    decide +kernel

end BankCodes.Scan
