import BankCodes.Proofs.Scan.Matches
import BankCodes.Proofs.Scan.Recall

/-!
# What is found is there, in its order

Whatever text is searched, each IBAN that is found is valid and stands free in the text in capitals,
in one of its two forms, at a place where it was accepted. The IBANs come in the order of the first
such places.

* `FoundAt.exists_iban`: an IBAN stands where it is accepted;
* `found_sound`: all that holds of what is found.
-/

namespace BankCodes.Scan

open Iban (Valid)
open Text

/-! ## Places where an IBAN is accepted -/

/-- The text is accepted as an IBAN at the place. -/
def FoundAt (text found : String) (n : Nat) : Prop :=
  AcceptedAt (fun s => (Iban.parse s).map Iban.text) (ibanSites (words (upper text.toList))) found n

/-- A candidate of a printed site stands free in the text in its printed form, from the place on
where the site starts. -/
theorem stands_of_mem_candidates {cs : List Char} {site : Site} {x : Iban}
    (hsite : site ∈ printedSites 0 (words cs)) (hx : x.Valid .bban)
    (hmem : x.text.toList ∈ site.candidates) :
    ∃ before after, Stands cs before x.printable.toList after ∧ before.length = site.start := by
  obtain ⟨ws, w, behind, _, _, hwords, -, hgroups, rfl⟩ := mem_printedSites.1 hsite
  obtain ⟨tail, hlaid⟩ := laid_words cs
  rw [hwords] at hlaid
  obtain ⟨us, vs, rfl, hwhead, hin, -, -, hcut⟩ := (exists_candidate_iff fun u hu =>
    words_ne_nil u (by rw [hwords]; simp [hu])).1 ⟨_, _, hgroups, hmem⟩
  obtain ⟨head, groups, hhead, -, hgrouped, -, -, htext, hprintable⟩ := exists_parts_of_valid hx
  obtain ⟨rfl, rfl⟩ := hin.eq_of_append_eq hwhead hhead hgrouped (htext.symm.trans hcut)
  obtain ⟨before, after, hstands, hstart, -⟩ := hlaid.stands hin.gaps
  rw [← hprintable] at hstands
  exact ⟨before, after, hstands, by simpa using hstart.symm⟩

/-- What is accepted at a place is the text of a valid IBAN, which stands free there in one of its
two forms. -/
theorem FoundAt.exists_iban {text found : String} {n : Nat} (h : FoundAt text found n) :
    ∃ x : Iban, x.Valid .bban ∧ x.text = found ∧ ∃ before after, before.length = n ∧
      (Stands (upper text.toList) before x.text.toList after ∨
        Stands (upper text.toList) before x.printable.toList after) := by
  obtain ⟨site, hsite, rfl, hok⟩ := h
  rcases List.mem_append.1 hsite with hsite | hsite
  · obtain ⟨_, c, _, hcs, -, hread⟩ := firstAccepted_eq_some_iff.1 hok
    have hc : c ∈ site.candidates := by simp [hcs]
    obtain ⟨x, hx, rfl, rfl⟩ := (read_eq_ok_iff (symbols_of_mem_candidates hsite hc)).1 hread
    obtain ⟨before, after, hstands, hlen⟩ := stands_of_mem_candidates hsite hx hc
    exact ⟨x, hx, rfl, before, after, hlen, .inr hstands⟩
  · obtain ⟨w, hw, rfl⟩ := List.mem_map.1 hsite
    obtain ⟨hw, hshape⟩ := List.mem_filter.1 hw
    rw [firstAccepted_singleton, read_eq_ok_iff (symbols_of_hasShape hshape)] at hok
    obtain ⟨x, hx, rfl, hchars⟩ := hok
    obtain ⟨before, after, hstands, hlen⟩ := exists_stands_of_mem_words hw
    exact ⟨x, hx, rfl, before, after, hlen, .inl (hchars ▸ hstands)⟩

/-! ## The order of what is found -/

/-- Nothing is found twice, and what is found is what is accepted at some place of the text. What is
accepted at a place is valid, reads as itself, and stands free there in one of its two forms. What
is found comes in the order of the first places where it is accepted. The matches of the two scans
do not overlap, so that no two of their sites start in the same place. -/
theorem found_sound (text : String) :
    (ibans text).found.Nodup ∧
    (∀ found, found ∈ (ibans text).found ↔ ∃ n, FoundAt text found n) ∧
    (∀ found n, FoundAt text found n →
      Verdict.on .iban none (some found) = .ok ⟨true, []⟩ ∧
      ∃ x, Iban.parse found = .ok x ∧ x.text = found ∧
        ∃ before after, before.length = n ∧
          (Stands (upper text.toList) before found.toList after ∨
            Stands (upper text.toList) before x.printable.toList after)) ∧
    (∃ firsts : List Hit, firsts.map Hit.text = (ibans text).found ∧
      (firsts.Pairwise fun a b => a.start < b.start) ∧
      ∀ first ∈ firsts, IsLeast {n | FoundAt text first.text n} first.start) ∧
    (∃ ms : List Match,
      printedSites 0 (words (upper text.toList)) = (ms.filter Match.isPrinted).map Match.site ∧
      compactSites isIbanWord (words (upper text.toList)) =
        (ms.filter fun m => !m.isPrinted).map Match.site ∧
      (∀ m ∈ ms, ∃ before after,
        Stands (upper text.toList) before m.text after ∧ before.length = m.start) ∧
      ms.Pairwise fun a b => a.stop < b.start) ∧
    ((ibanSites (words (upper text.toList))).map Site.start).Nodup := by
  have hne : ∀ w ∈ words (upper text.toList), w.chars ≠ [] := words_ne_nil
  obtain ⟨ms, hms⟩ := exists_matched hne
  obtain ⟨tail, hlaid⟩ := laid_words (upper text.toList)
  have hsorted := hms.sites_pairwise hlaid
  refine ⟨nodup_eraseDups _, fun _ => mem_found_iff_acceptedAt, fun found n hn => ?_,
    exists_firsts_of_perm hms.perm_sites hsorted,
    ⟨ms, hms.printedSites_eq, hms.compactSites_eq, fun m hm => hms.stands hlaid hm,
      hms.pairwise_stop hlaid⟩, ?_⟩
  · obtain ⟨x, hx, rfl, hstands⟩ := hn.exists_iban
    have hread := hx.parse_text
    refine ⟨?_, x, hread, rfl, hstands⟩
    rw [Verdict.on, Identifier.parse, Option.getD_none, hread]
    rfl
  · apply ((hms.perm_sites.map Site.start).nodup_iff).2
    rw [List.Nodup, List.pairwise_map]
    exact hsorted.imp Nat.ne_of_lt

/-- A printed IBAN with a word behind it that looks like one more group, and two compact ones, the
second of them for the second time. -/
theorem found_sound_sample :
    ∃ firsts : List Hit,
      firsts.map Hit.text = ["BE68539007547034", "DE89370400440532013000"] ∧
      (firsts.Pairwise fun a b => a.start < b.start) ∧
      ∀ first ∈ firsts, IsLeast
        {n | FoundAt "be68 5390 0754 7034 paid; de89370400440532013000, BE68539007547034" first.text n}
        first.start := by
  have hfound : (ibans "be68 5390 0754 7034 paid; de89370400440532013000, BE68539007547034").found =
      ["BE68539007547034", "DE89370400440532013000"] := by decide +kernel
  rw [← hfound]
  exact (found_sound _).2.2.2.1

end BankCodes.Scan
