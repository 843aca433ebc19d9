import BankCodes.Proofs.Scan.LongestMatch
import BankCodes.Proofs.Scan.Tokens

/-!
# Trimming a printed match

The last groups of a match may be words of the sentence, so its first groups are tried as IBANs,
from all of them down to two. The order is of no account, since one number of groups at most gives a
valid IBAN: the country is in the head, the country has one layout, and the layout one length.

* `ValidFront.unique`: there is one such number at most;
* `read_front_iff`: the first groups are read as they stand, if they are valid;
* `accepted_of_match`: so it does not matter in which order they are tried, and a match gives nothing
  only if none of them is valid.
-/

namespace BankCodes.Scan

open Text Text.Expression

/-! ## The first groups -/

/-- The first `n` groups, two or more, are a valid IBAN. -/
structure ValidFront (groups : List (List Char)) (n : Nat) : Prop where
  two_le : 2 ≤ n
  le_length : n ≤ groups.length
  valid : isValid .iban (String.ofList (front groups n)) = true

theorem mem_joinedGroups {groups : List (List Char)} {c : List Char} :
    c ∈ joinedGroups groups ↔ ∃ n, 2 ≤ n ∧ n ≤ groups.length ∧ c = front groups n := by
  simp only [joinedGroups, List.mem_map, List.mem_reverse, List.mem_range]
  constructor
  · rintro ⟨n, hn, rfl⟩
    exact ⟨n + 2, by omega, by omega, rfl⟩
  · rintro ⟨n, hge, hle, rfl⟩
    exact ⟨n - 2, by omega, by rw [Nat.sub_add_cancel hge]⟩

theorem front_prefix (groups : List (List Char)) (n : Nat) : front groups n <+: groups.flatten :=
  (List.take_prefix n groups).flatten

/-- More groups are longer. -/
theorem length_front_lt {groups : List (List Char)} (hne : ∀ g ∈ groups, g ≠ []) {m n : Nat}
    (hlt : m < n) (hle : n ≤ groups.length) :
    (front groups m).length < (front groups n).length := by
  induction groups generalizing m n with
  | nil =>
    rw [List.length_nil] at hle
    omega
  | cons g gs ih =>
    obtain ⟨n, rfl⟩ := Nat.exists_eq_succ_of_ne_zero (Nat.ne_zero_of_lt hlt)
    rw [List.forall_mem_cons] at hne
    have hg := List.length_pos_iff.2 hne.1
    cases m with
    | zero =>
      rw [front, front, List.take_zero, List.take_succ_cons, List.flatten_cons, List.length_append]
      exact Nat.lt_add_right _ hg
    | succ m =>
      have := ih hne.2 (Nat.lt_of_succ_lt_succ hlt) (Nat.le_of_succ_le_succ hle)
      simpa [front] using this

/-! ## What is accepted -/

/-- What an IBAN finder reads a candidate as. -/
def ibanText (s : String) : Except Failure String := (Iban.parse s).map Iban.text

section

variable {groups : List (List Char)}
  (hsymbols : ∀ g ∈ groups, ∀ c ∈ g, isDecimal c = true ∨ isCapitalOrDigit c = true)
include hsymbols

theorem symbols_of_front (n : Nat) :
    ∀ c ∈ front groups n, isDecimal c = true ∨ isCapitalOrDigit c = true := by
  intro c hc
  obtain ⟨g, hg, hc⟩ := List.mem_flatten.1 hc
  exact hsymbols g (List.mem_of_mem_take hg) c hc

/-- The first groups are read as they stand, if they are valid. -/
theorem read_front_iff {n : Nat} {t : String} :
    ibanText (String.ofList (front groups n)) = .ok t ↔
      isValid .iban (String.ofList (front groups n)) = true ∧ t = String.ofList (front groups n) := by
  have hself : ∀ {t}, ibanText (String.ofList (front groups n)) = .ok t →
      t = String.ofList (front groups n) := by
    intro t ht
    obtain ⟨-, -, -, htext⟩ := (read_eq_ok_iff (symbols_of_front hsymbols n)).1 ht
    rw [← htext, String.ofList_toList]
  rw [isValid_iban_iff, ← exists_map_eq_ok_iff (f := Iban.text)]
  constructor
  · intro h
    exact ⟨⟨t, h⟩, hself h⟩
  · rintro ⟨⟨s, hs⟩, rfl⟩
    obtain rfl := hself hs
    exact hs

/-- They are the text of the IBAN then. -/
theorem ValidFront.exists_iban {n : Nat} (h : ValidFront groups n) :
    ∃ x : Iban, x.Valid .bban ∧ x.text.toList = front groups n := by
  obtain ⟨x, hx, hself, htext⟩ := (read_eq_ok_iff (symbols_of_front hsymbols n)).1
    ((read_front_iff hsymbols).2 ⟨h.valid, rfl⟩)
  exact ⟨x, hx, by rw [hself, htext]⟩

variable (hne : ∀ g ∈ groups, g ≠ [])
include hne

/-- There is one number of groups at most for which they are valid. -/
theorem ValidFront.unique {m n : Nat} (hm : ValidFront groups m) (hn : ValidFront groups n) :
    m = n := by
  obtain ⟨x, hx, hxfront⟩ := hm.exists_iban hsymbols
  obtain ⟨y, hy, hyfront⟩ := hn.exists_iban hsymbols
  have hxy : x = y := eq_of_beginnings_bban hx hy (hxfront ▸ front_prefix groups m)
    (hyfront ▸ front_prefix groups n)
  have hlen : (front groups m).length = (front groups n).length := by
    rw [← hxfront, ← hyfront, hxy]
  rcases Nat.lt_trichotomy m n with hlt | heq | hgt
  · have := length_front_lt hne hlt hn.le_length
    omega
  · exact heq
  · have := length_front_lt hne hgt hm.le_length
    omega

/-- What the candidates are read as is the same for all that are read. -/
theorem eq_of_read_joinedGroups {c d : List Char} {s t : String} (hc : c ∈ joinedGroups groups)
    (hd : d ∈ joinedGroups groups) (hs : ibanText (String.ofList c) = .ok s)
    (ht : ibanText (String.ofList d) = .ok t) : s = t := by
  obtain ⟨m, hge, hle, rfl⟩ := mem_joinedGroups.1 hc
  obtain ⟨n, hge', hle', rfl⟩ := mem_joinedGroups.1 hd
  obtain ⟨hvalid, rfl⟩ := (read_front_iff hsymbols).1 hs
  obtain ⟨hvalid', rfl⟩ := (read_front_iff hsymbols).1 ht
  rw [ValidFront.unique hsymbols hne ⟨hge, hle, hvalid⟩ ⟨hge', hle', hvalid'⟩]

/-- The candidates give the valid ones among the first groups. -/
theorem firstAccepted_joinedGroups_iff {t : String} :
    (firstAccepted ibanText (joinedGroups groups)).1 = some t ↔
      ∃ n, ValidFront groups n ∧ t = String.ofList (front groups n) := by
  rw [firstAccepted_eq_some_iff_of_unique fun c hc d hd s t =>
    eq_of_read_joinedGroups hsymbols hne hc hd]
  constructor
  · rintro ⟨c, hc, ht⟩
    obtain ⟨n, hge, hle, rfl⟩ := mem_joinedGroups.1 hc
    obtain ⟨hvalid, rfl⟩ := (read_front_iff hsymbols).1 ht
    exact ⟨n, ⟨hge, hle, hvalid⟩, rfl⟩
  · rintro ⟨n, ⟨hge, hle, hvalid⟩, rfl⟩
    exact ⟨_, mem_joinedGroups.2 ⟨n, hge, hle, rfl⟩, (read_front_iff hsymbols).2 ⟨hvalid, rfl⟩⟩

end

/-! ## The match -/

/-- The groups of a printed form. -/
theorem groups_of_printedForm {piece : List Char} (h : PrintedForm piece) :
    (∀ g ∈ groupsOf piece, g ≠ []) ∧
      ∀ g ∈ groupsOf piece, ∀ c ∈ g, isDecimal c = true ∨ isCapitalOrDigit c = true := by
  obtain ⟨head, groups, hhead, hgroups, hcapitals, -, -, rfl⟩ := printedForm_iff.1 h
  obtain ⟨hne, hchars⟩ := words_of_printed hhead hgroups hcapitals
  rw [groupsOf_spaced hchars]
  exact ⟨hne, List.forall_mem_cons.2 ⟨hhead.symbols, fun g hg c hc => .inr (hcapitals g hg c hc)⟩⟩

/-- Of the first groups of a match, two or more, one number at most gives a valid IBAN. So it does
not matter whether they are tried from the longest or from the shortest: both accept this one, and a
match gives nothing exactly if none of them is valid. -/
theorem accepted_of_match {cs : List Char} {o : Occurrence}
    (ho : o ∈ printedExpression.occurrences cs) :
    printedSite o ∈ printedSites 0 (words cs) ∧
      (∀ m n, ValidFront (groupsOf o.chars) m → ValidFront (groupsOf o.chars) n → m = n) ∧
      (firstAccepted ibanText (printedSite o).candidates.reverse).1 =
        (firstAccepted ibanText (printedSite o).candidates).1 ∧
      (∀ t, (firstAccepted ibanText (printedSite o).candidates).1 = some t ↔
        ∃ n, ValidFront (groupsOf o.chars) n ∧ t = String.ofList (front (groupsOf o.chars) n)) ∧
      ((firstAccepted ibanText (printedSite o).candidates).1 = none ↔
        ∀ n, ¬ ValidFront (groupsOf o.chars) n) := by
  obtain ⟨hne, hsymbols⟩ := groups_of_printedForm (mem_of_mem_occurrences reads_printedBody ho)
  have hgives : ∀ t, _ ↔ _ := fun t => firstAccepted_joinedGroups_iff hsymbols hne (t := t)
  refine ⟨?_, fun m n hm hn => hm.unique hsymbols hne hn, ?_, hgives, ?_⟩
  · rw [printedSites_eq_occurrences]
    exact List.mem_map_of_mem ho
  · exact firstAccepted_reverse fun c hc d hd s t => eq_of_read_joinedGroups hsymbols hne hc hd
  · rw [Option.eq_none_iff_forall_ne_some]
    constructor
    · intro hnone n hn
      exact hnone _ ((hgives _).2 ⟨n, hn, rfl⟩)
    · intro hnone t ht
      obtain ⟨n, hn, -⟩ := (hgives t).1 ht
      exact hnone n hn

/-- A word of four letters is taken for the last group, and the groups before it are the IBAN. -/
theorem accepted_of_match_sample :
    (⟨0, "BE68 5390 0754 7034 PAID".toList⟩ : Occurrence) ∈
        printedExpression.occurrences "BE68 5390 0754 7034 PAID".toList ∧
      ∀ n, ValidFront (groupsOf "BE68 5390 0754 7034 PAID".toList) n → n = 4 := by
  have ho : (⟨0, "BE68 5390 0754 7034 PAID".toList⟩ : Occurrence) ∈
      printedExpression.occurrences "BE68 5390 0754 7034 PAID".toList := by decide +kernel
  refine ⟨ho, fun n hn => ?_⟩
  exact (accepted_of_match ho).2.1 n 4 hn ⟨by decide, by decide +kernel, by decide +kernel⟩

end BankCodes.Scan
