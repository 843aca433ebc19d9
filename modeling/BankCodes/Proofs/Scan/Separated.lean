import BankCodes.Proofs.Scan.Matches
import BankCodes.Proofs.Scan.Recall

/-!
# IBANs that are set apart

A text that holds IBANs and nothing else, each in compact or in printed form, is read back exactly
if there is something other than a single space between each two of them. `Separated xs cs` says
that `cs` is such a text of the IBANs `xs`. As the words of its IBANs are laid out, each IBAN makes
one match.

* `exists_match_of_text` and `exists_match_of_printable`: the words of an IBAN, before a word that is
  not one space apart, make a match whose first accepted candidate is the IBAN;
* `Separated.exists_matched`: so the matches of the text give its IBANs in their order;
* `found_separated`: and this is what is found.
-/

namespace BankCodes.Scan

open Iban (Grouped Valid)
open Text

/-! ## Texts of IBANs -/

/-- The text holds the IBANs, each in one of its forms and with a separator behind it. A separator is
without word characters, and where another IBAN comes it is neither empty nor a single space. -/
inductive Separated : List Iban → List Char → Prop where
  | nil {separator : List Char} :
      (∀ c ∈ separator, isWordChar c = false) → Separated [] separator
  | cons {input : String} {x : Iban} {xs : List Iban} {form separator rest : List Char} :
      Iban.parse input = .ok x → form = x.text.toList ∨ form = x.printable.toList →
      (∀ c ∈ separator, isWordChar c = false) →
      (xs ≠ [] → separator ≠ [] ∧ separator ≠ [' ']) → Separated xs rest →
      Separated (x :: xs) (form ++ separator ++ rest)

/-! ## The match of an IBAN -/

/-- The first candidate of a printed site is the whole of it. -/
theorem exists_trimmed_eq (head : List Char) {groups : List (List Char)} (h : groups ≠ []) :
    ∃ rest, trimmed head groups = (head ++ groups.flatten) :: rest := by
  induction groups generalizing head with
  | nil => exact absurd rfl h
  | cons g gs ih =>
    cases gs with
    | nil => exact ⟨[], by simp [trimmed]⟩
    | cons g' gs =>
      obtain ⟨rest, hrest⟩ := ih (head ++ g) (by simp)
      exact ⟨rest ++ [head ++ g], by rw [trimmed, hrest]; simp⟩

/-- The first accepted candidate of the match is the IBAN. -/
def Match.Gives (m : Match) (x : Iban) : Prop :=
  (firstAccepted (fun s => (Iban.parse s).map Iban.text) m.site.candidates).1 = some x.text

/-- A match gives a valid IBAN that is its first candidate. -/
theorem Match.gives_of_candidates_eq {m : Match} {x : Iban} {rest : List (List Char)}
    (hx : x.Valid .bban) (h : m.site.candidates = x.text.toList :: rest) : m.Gives x := by
  rw [Match.Gives, h, firstAccepted, String.ofList_toList, hx.parse_text]
  rfl

section

variable {x : Iban} {n : Nat} {gap after tail : List Char} {vs : List Word} {ms : List Match}

/-- The text of an IBAN is a word that makes a compact match. -/
theorem exists_match_of_text (hx : x.Valid .bban) (hgap : ∀ c ∈ gap, isWordChar c = false)
    (hfree : StartsFree after) (hafter : Laid (n + gap.length + x.text.toList.length) vs tail after)
    (hms : Matched vs ms) :
    ∃ m : Match, m.Gives x ∧ m.first.gap = gap ∧
      Laid n (m.first :: (m.groups ++ vs)) tail (gap ++ x.text.toList ++ after) ∧
      Matched (m.first :: (m.groups ++ vs)) (m :: ms) := by
  have hshape := isIbanWord_of_valid hx
  have hne : x.text.toList ≠ [] := by
    intro hnil
    rw [hnil] at hshape
    cases hshape
  refine ⟨⟨⟨n + gap.length, gap, x.text.toList⟩, []⟩, Match.gives_of_candidates_eq hx rfl, rfl, ?_,
    ?_⟩
  · exact .cons hgap hne (isWordChar_of_valid hx) hfree hafter
  · exact .compact hshape hms

/-- The words of an IBAN in printed form make a printed match, if the word behind them is not one
space apart. -/
theorem exists_match_of_printable (hx : x.Valid .bban) (hgap : ∀ c ∈ gap, isWordChar c = false)
    (hfree : StartsFree after)
    (hafter : Laid (n + gap.length + x.printable.toList.length) vs tail after)
    (hnext : ∀ v, vs.head? = some v → v.gap ≠ [' ']) (hms : Matched vs ms) :
    ∃ m : Match, m.Gives x ∧ m.first.gap = gap ∧
      Laid n (m.first :: (m.groups ++ vs)) tail (gap ++ x.printable.toList ++ after) ∧
      Matched (m.first :: (m.groups ++ vs)) (m :: ms) := by
  obtain ⟨head, groups, hhead, -, hgroups, hcapitals, ⟨hge, hle⟩, htext, hprintable⟩ :=
    exists_parts_of_valid hx
  have hall : ∀ g ∈ groups, ∀ c ∈ g, isCapitalOrDigit c = true := fun g hg c hc =>
    hcapitals c (List.mem_flatten.2 ⟨g, hg, hc⟩)
  have hwords : ∀ g ∈ groups, ∀ c ∈ g, isWordChar c = true := fun g hg c hc =>
    isWordChar_of_isCapitalOrDigit (hall g hg c hc)
  obtain ⟨us, rfl, hgaps, hspaced⟩ := exists_laid_spaced hgroups.ne_nil_of_mem hwords hfree
    (n + gap.length + head.length)
  have hin : InGroups us := ⟨hgaps, fun u hu => hall _ (List.mem_map_of_mem hu), hgroups⟩
  rw [hprintable, spaced, List.length_append, ← Nat.add_assoc] at hafter
  have hbehind := hspaced vs tail hafter
  obtain ⟨rest, hcandidates⟩ := exists_trimmed_eq head hgroups.ne_nil
  have hsite : (Match.site ⟨⟨n + gap.length, gap, head⟩, us⟩).candidates =
      x.text.toList :: rest := by
    rw [Match.site_printed hin.ne_nil, hcandidates, ← htext]
  rw [← chars_eq_flatten] at hge hle
  refine ⟨_, Match.gives_of_candidates_eq hx hsite, rfl, ?_, .printed ?_ hin hms⟩
  · rw [hprintable, spaced]
    simpa using Laid.cons hgap hhead.ne_nil hhead.isWordChar (startsFree_spaced _ hfree) hbehind
  · exact printedGroups_eq_of_inGroups hhead hin hge (Nat.le_trans hle (by decide)) hbehind.ne_nil
      hnext

end

/-! ## The matches of a text of IBANs -/

theorem Separated.startsFree {xs : List Iban} {rest separator : List Char}
    (h : Separated xs rest) (hsep : ∀ c ∈ separator, isWordChar c = false)
    (hinner : xs ≠ [] → separator ≠ []) : StartsFree (separator ++ rest) := by
  cases h with
  | nil hrest =>
    apply startsFree_of_forall
    simpa [or_imp, forall_and] using ⟨hsep, hrest⟩
  | cons =>
    rw [startsFree_append (hinner (by simp))]
    exact startsFree_of_forall hsep

/-- The matches of such a text give its IBANs, and its first word stands behind the first gap. -/
theorem Separated.exists_matched {xs : List Iban} {rest : List Char} (h : Separated xs rest) (n : Nat)
    {gap : List Char} (hgap : ∀ c ∈ gap, isWordChar c = false) :
    ∃ ws tail ms, Laid n ws tail (gap ++ rest) ∧ Matched ws ms ∧
      (∀ w, ws.head? = some w → xs ≠ [] ∧ w.gap = gap) ∧ List.Forall₂ Match.Gives ms xs := by
  induction h generalizing n gap with
  | @nil separator hsep =>
    refine ⟨[], _, [], .nil ?_, .nil, by simp, .nil⟩
    simpa [or_imp, forall_and] using ⟨hgap, hsep⟩
  | @cons input x xs form separator rest hx hform hsep hinner hrest ih =>
    obtain ⟨vs, tail, ms, hlaid, hms, hfirst, hgives⟩ := ih (n + gap.length + form.length) hsep
    have hvalid := (Iban.parse_eq_ok_iff.1 hx).1
    have hfree := hrest.startsFree hsep fun hxs => (hinner hxs).1
    -- the first word behind the separator is not one space apart
    have hnext : ∀ v, vs.head? = some v → v.gap ≠ [' '] := by
      intro v hv
      obtain ⟨hxs, hgap'⟩ := hfirst v hv
      rw [hgap']
      exact (hinner hxs).2
    obtain ⟨m, hm, hmgap, hlaid', hms'⟩ : ∃ m : Match, m.Gives x ∧ m.first.gap = gap ∧
        Laid n (m.first :: (m.groups ++ vs)) tail (gap ++ form ++ (separator ++ rest)) ∧
        Matched (m.first :: (m.groups ++ vs)) (m :: ms) := by
      rcases hform with hform | hform
      · rw [hform] at hlaid ⊢
        exact exists_match_of_text hvalid hgap hfree hlaid hms
      · rw [hform] at hlaid ⊢
        exact exists_match_of_printable hvalid hgap hfree hlaid hnext hms
    refine ⟨_, tail, m :: ms, ?_, hms', ?_, .cons hm hgives⟩
    · simpa using hlaid'
    · rintro w ⟨⟩
      exact ⟨by simp, hmgap⟩

/-! ## What is found in a text of IBANs -/

/-- The hits of matches are the texts of the IBANs that they give. -/
theorem texts_of_gives {ms : List Match} {xs : List Iban} (h : List.Forall₂ Match.Gives ms xs) :
    ((ms.map Match.site).filterMap (hit? fun s => (Iban.parse s).map Iban.text)).map Hit.text =
      xs.map Iban.text := by
  induction h with
  | nil => rfl
  | @cons m x ms xs hm _ ih =>
    have hhit : hit? (fun s => (Iban.parse s).map Iban.text) m.site = some ⟨m.start, x.text⟩ :=
      hit?_eq_some_iff.2 ⟨rfl, hm⟩
    rw [List.map_cons, List.filterMap_cons_some hhit, List.map_cons, ih, List.map_cons]

/-- What stands in a text of IBANs is found, each IBAN in the place of the first time. -/
theorem Separated.found_eq {text : String} {xs : List Iban} {lead rest : List Char}
    (h : Separated xs rest) (hlead : ∀ c ∈ lead, isWordChar c = false)
    (htext : upper text.toList = lead ++ rest) :
    (ibans text).found = (xs.map Iban.text).eraseDups := by
  obtain ⟨ws, tail, ms, hlaid, hms, -, hgives⟩ := h.exists_matched 0 hlead
  have hwords : words (upper text.toList) = ws := by rw [htext, words_eq_of_laid hlaid]
  show (search Iban.kind _ (ibanSites (words (upper text.toList)))).found = _
  rw [hwords, found_eq_of_perm hms.perm_sites (hms.sites_pairwise hlaid), texts_of_gives hgives]

/-- Spaces, capitals and digits are their own upper-case form. -/
theorem upper_eq_self {cs : List Char}
    (h : ∀ c ∈ cs, c = ' ' ∨ c.isUpper = true ∨ c.isDigit = true) : upper cs = cs := by
  have hchar : ∀ c ∈ cs, c.toNat < 128 ∧ c.toUpper = c := by
    intro c hc
    have hascii : c.toNat < 128 := by
      rcases h c hc with rfl | hc
      · decide
      · rw [isUpper_iff, isDigit_iff] at hc
        omega
    exact ⟨hascii, forall_ascii (P := fun c => c = ' ' ∨ c.isUpper = true ∨ c.isDigit = true →
      c.toUpper = c) (by decide) hascii (h c hc)⟩
  rw [upper_eq_map fun c hc => (hchar c hc).1]
  exact (List.map_congr_left fun c hc => (hchar c hc).2).trans (List.map_id' cs)

/-- A text that is in capitals nothing but one form of an IBAN gives this IBAN. -/
theorem found_form {input : String} {x : Iban} (hx : Iban.parse input = .ok x) {text : String}
    (hform : text.toList = x.text.toList ∨ text.toList = x.printable.toList) :
    (ibans text).found = [x.text] := by
  have hvalid := (Iban.parse_eq_ok_iff.1 hx).1
  have hupper : upper text.toList = [] ++ (text.toList ++ [] ++ []) := by
    rw [List.append_nil, List.append_nil, List.nil_append]
    apply upper_eq_self
    rcases hform with hform | hform
    · rw [hform]
      exact fun c hc => .inr (hvalid.wellFormed.capitals c hc)
    · rw [hform]
      exact hvalid.symbols_of_mem_printable
  have halone : Separated [x] (text.toList ++ [] ++ []) :=
    .cons hx hform (by simp) (by simp) (.nil (by simp))
  rw [halone.found_eq (by simp) hupper]
  rfl

/-- In a text of IBANs that are set apart exactly these IBANs are found, each in the place of the
first time. In particular a single IBAN is found in both of its forms. -/
theorem found_separated :
    (∀ (text : String) (lead rest : List Char) (xs : List Iban),
      upper text.toList = lead ++ rest → (∀ c ∈ lead, isWordChar c = false) → Separated xs rest →
        (ibans text).found = (xs.map Iban.text).eraseDups) ∧
    ∀ (input : String) (x : Iban), Iban.parse input = .ok x →
      (ibans x.printable).found = [x.text] ∧ (ibans x.text).found = [x.text] := by
  constructor
  · intro text lead rest xs htext hlead hrest
    exact hrest.found_eq hlead htext
  · intro input x hx
    exact ⟨found_form hx (.inr rfl), found_form hx (.inl rfl)⟩

/-- A printed IBAN, a compact one and the first one again in compact form, with signs between them.
-/
theorem found_separated_sample :
    ∃ x y, Iban.parse "BE68539007547034" = .ok x ∧ Iban.parse "DE89370400440532013000" = .ok y ∧
      (ibans "(be68 5390 0754 7034), de89370400440532013000 / BE68539007547034.").found =
        [x.text, y.text] ∧
      (ibans y.printable).found = [y.text] := by
  obtain ⟨x, hx⟩ : ∃ x, Iban.parse "BE68539007547034" = .ok x :=
    Iban.exists_parse_eq_ok (by decide +kernel)
  obtain ⟨y, hy⟩ : ∃ y, Iban.parse "DE89370400440532013000" = .ok y :=
    Iban.exists_parse_eq_ok (by decide +kernel)
  have hxtext : x.text = canonical "BE68539007547034" := (Iban.parse_eq_ok_iff.1 hx).2
  have hytext : y.text = canonical "DE89370400440532013000" := (Iban.parse_eq_ok_iff.1 hy).2
  have hsigns : ∀ {cs : List Char}, (cs.all fun c => !isWordChar c) = true →
      ∀ c ∈ cs, isWordChar c = false := fun h => by simpa using h
  have hlast : Separated [x] (x.text.toList ++ ['.'] ++ []) :=
    .cons hx (.inl rfl) (hsigns (by decide)) (by simp) (.nil (by simp))
  have hmiddle : Separated [y, x] (y.text.toList ++ [' ', '/', ' '] ++ _) :=
    .cons hy (.inl rfl) (hsigns (by decide)) (fun _ => by decide) hlast
  have hall : Separated [x, y, x] (x.printable.toList ++ [')', ',', ' '] ++ _) :=
    .cons hx (.inr rfl) (hsigns (by decide)) (fun _ => by decide) hmiddle
  refine ⟨x, y, hx, hy, ?_, (found_separated.2 _ y hy).1⟩
  rw [found_separated.1 _ ['('] _ _ ?_ (hsigns (by decide)) hall]
  · rw [List.map_cons, List.map_cons, List.map_cons, hxtext, hytext]
    decide +kernel
  · rw [Iban.printable, hxtext, hytext]
    decide +kernel

end BankCodes.Scan
