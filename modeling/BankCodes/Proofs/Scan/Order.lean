import BankCodes.Proofs.Scan.Search
import Mathlib.Data.List.Nodup
import Mathlib.Order.Bounds.Basic

/-!
# The order of what is found

What a search finds comes in the order of the hits in the text, each text once, and in the place of
its first hit.

* `inOrder_pairwise` and `inOrder_eq_of_perm`: hits are put in the order of their starts;
* `nodup_eraseDups` and `exists_firsts`: leaving out what was found before leaves nothing twice, and
  keeps the first hit of each text;
* `exists_firsts_of_perm`: where no two sites start in the same place, what is found is listed in the
  order of the first places where it is accepted.
-/

namespace BankCodes.Scan

/-! ## Hits in the order of their starts -/

theorem insertHit_pairwise {hit : Hit} {hits : List Hit}
    (h : hits.Pairwise fun a b => a.start ≤ b.start) :
    (insertHit hit hits).Pairwise fun a b => a.start ≤ b.start := by
  induction hits with
  | nil => exact List.pairwise_singleton _ _
  | cons first hits ih =>
    obtain ⟨hfirst, hrest⟩ := List.pairwise_cons.1 h
    unfold insertHit
    split
    · next hlt =>
      apply List.pairwise_cons.2
      refine ⟨fun other hother => ?_, ih hrest⟩
      rcases List.mem_cons.1 ((insertHit_perm hit hits).mem_iff.1 hother) with rfl | hother
      · exact Nat.le_of_lt hlt
      · exact hfirst other hother
    · next hge =>
      apply List.pairwise_cons.2
      refine ⟨fun other hother => ?_, h⟩
      rcases List.mem_cons.1 hother with rfl | hother
      · exact Nat.le_of_not_lt hge
      · exact Nat.le_trans (Nat.le_of_not_lt hge) (hfirst other hother)

theorem inOrder_pairwise (hits : List Hit) :
    (inOrder hits).Pairwise fun a b => a.start ≤ b.start := by
  induction hits with
  | nil => exact .nil
  | cons hit hits ih => exact insertHit_pairwise ih

/-- Hits with different starts are in one order only. -/
theorem inOrder_eq_of_perm {hits hits' : List Hit} (hperm : hits.Perm hits')
    (hsorted : hits'.Pairwise fun a b => a.start < b.start) : inOrder hits = hits' := by
  have hperm' := (inOrder_perm hits).trans hperm
  have hnodup : (hits'.map Hit.start).Nodup := List.pairwise_map.2 (hsorted.imp Nat.ne_of_lt)
  apply List.Perm.eq_of_pairwise _ (inOrder_pairwise hits) (hsorted.imp Nat.le_of_lt) hperm'
  intro a b ha hb hle hge
  exact List.inj_on_of_nodup_map hnodup (hperm'.mem_iff.1 ha) hb (Nat.le_antisymm hle hge)

/-! ## Each text once -/

/-- Leaving out what came before leaves nothing twice. -/
theorem nodup_eraseDups {α : Type} [BEq α] [LawfulBEq α] (xs : List α) : xs.eraseDups.Nodup := by
  cases xs with
  | nil => simp
  | cons x xs =>
    rw [List.eraseDups_cons, List.nodup_cons]
    exact ⟨by simp, nodup_eraseDups _⟩
termination_by xs.length
decreasing_by exact Nat.lt_succ_of_le (List.length_filter_le _ _)

/-- Of hits from left to right, leaving out the texts that came before keeps the first hit of each
text. -/
theorem exists_firsts {hits : List Hit} (h : hits.Pairwise fun a b => a.start < b.start) :
    ∃ firsts : List Hit, firsts.map Hit.text = (hits.map Hit.text).eraseDups ∧
      firsts.Sublist hits ∧
      ∀ first ∈ firsts, ∀ hit ∈ hits, hit.text = first.text → first.start ≤ hit.start := by
  match hits, h with
  | [], _ => exact ⟨[], by simp⟩
  | hit :: hits, h =>
    obtain ⟨hlt, hrest⟩ := List.pairwise_cons.1 h
    -- behind the first hit only the hits of other texts count
    have hothers : (hits.filter (!·.text == hit.text)).Pairwise fun a b => a.start < b.start :=
      hrest.sublist List.filter_sublist
    obtain ⟨firsts, htexts, hsub, hleast⟩ := exists_firsts hothers
    refine ⟨hit :: firsts, ?_, (hsub.trans List.filter_sublist).cons_cons hit, ?_⟩
    · rw [List.map_cons, List.map_cons, List.eraseDups_cons, htexts, List.filter_map]
      rfl
    · intro first hfirst other hother htext
      rcases List.mem_cons.1 hfirst with rfl | hfirst
      · rcases List.mem_cons.1 hother with rfl | hother
        · exact Nat.le_refl _
        · exact Nat.le_of_lt (hlt other hother)
      · have hother_text := List.mem_filter.1 (hsub.subset hfirst)
        rcases List.mem_cons.1 hother with rfl | hother
        · simp [htext] at hother_text
        · exact hleast first hfirst other
            (List.mem_filter.2 ⟨hother, by simpa [htext] using hother_text.2⟩) htext
termination_by hits.length
decreasing_by exact Nat.lt_succ_of_le (List.length_filter_le _ _)

/-! ## What a search finds, in order -/

/-- The text is accepted at the place: it is the first accepted candidate of a site that starts
there. -/
def AcceptedAt (read : String → Except Failure String) (sites : List Site) (text : String)
    (n : Nat) : Prop :=
  ∃ site ∈ sites, site.start = n ∧ (firstAccepted read site.candidates).1 = some text

section

variable {kind : String} {read : String → Except Failure String} {sites sites' : List Site}

theorem hit?_eq_some_iff {site : Site} {hit : Hit} :
    hit? read site = some hit ↔
      site.start = hit.start ∧ (firstAccepted read site.candidates).1 = some hit.text := by
  obtain ⟨start, text⟩ := hit
  rw [hit?, Option.map_eq_some_iff]
  constructor
  · rintro ⟨t, ht, heq⟩
    cases heq
    exact ⟨rfl, ht⟩
  · rintro ⟨rfl, ht⟩
    exact ⟨text, ht, rfl⟩

theorem acceptedAt_iff {text : String} {n : Nat} :
    AcceptedAt read sites text n ↔ ⟨n, text⟩ ∈ sites.filterMap (hit? read) := by
  simp only [AcceptedAt, List.mem_filterMap, hit?_eq_some_iff]

theorem mem_found_iff_acceptedAt {text : String} :
    text ∈ (search kind read sites).found ↔ ∃ n, AcceptedAt read sites text n := by
  rw [mem_found]
  constructor
  · intro ⟨site, hsite, hok⟩
    exact ⟨site.start, site, hsite, rfl, hok⟩
  · intro ⟨_, site, hsite, _, hok⟩
    exact ⟨site, hsite, hok⟩

theorem hits_pairwise (hsorted : sites.Pairwise fun a b => a.start < b.start) :
    (sites.filterMap (hit? read)).Pairwise fun a b => a.start < b.start := by
  apply hsorted.filterMap
  intro a b hlt hit hhit hit' hhit'
  rw [← (hit?_eq_some_iff.1 hhit).1, ← (hit?_eq_some_iff.1 hhit').1]
  exact hlt

/-- What is found, if the sites are put in the order of their starts first. -/
theorem found_eq_of_perm (hperm : sites.Perm sites')
    (hsorted : sites'.Pairwise fun a b => a.start < b.start) :
    (search kind read sites).found =
      ((sites'.filterMap (hit? read)).map Hit.text).eraseDups := by
  show ((inOrder (sites.filterMap (hit? read))).map Hit.text).eraseDups = _
  rw [inOrder_eq_of_perm (hperm.filterMap _) (hits_pairwise hsorted)]

/-- What is found comes in the order of the first places where it is accepted. -/
theorem exists_firsts_of_perm (hperm : sites.Perm sites')
    (hsorted : sites'.Pairwise fun a b => a.start < b.start) :
    ∃ firsts : List Hit, firsts.map Hit.text = (search kind read sites).found ∧
      (firsts.Pairwise fun a b => a.start < b.start) ∧
      ∀ first ∈ firsts, IsLeast {n | AcceptedAt read sites first.text n} first.start := by
  have hhits : (sites'.filterMap (hit? read)).Pairwise fun a b => a.start < b.start :=
    hits_pairwise hsorted
  obtain ⟨firsts, htexts, hsub, hleast⟩ := exists_firsts hhits
  have hmem : ∀ {text n}, AcceptedAt read sites text n ↔
      ⟨n, text⟩ ∈ sites'.filterMap (hit? read) := by
    intro text n
    rw [acceptedAt_iff]
    exact (hperm.filterMap _).mem_iff
  refine ⟨firsts, htexts.trans (found_eq_of_perm hperm hsorted).symm, hhits.sublist hsub, ?_⟩
  intro first hfirst
  constructor
  · exact hmem.2 (hsub.subset hfirst)
  · intro n hn
    exact hleast first hfirst _ (hmem.1 hn) rfl

end

end BankCodes.Scan
