import BankCodes.Scan

/-!
# What a search finds

A search reads the candidates of a site in order and keeps the first one that is accepted. What it
finds is put in the order of the sites, each text once, so that nothing is lost and nothing is
added: `mem_found`.

* `firstAccepted_eq_some_iff`: the accepted candidate is the first one;
* `firstAccepted_eq_some_iff_of_unique` and `firstAccepted_reverse`: where all accepted candidates
  read alike, the order in which they are tried is of no account.
-/

namespace BankCodes.Scan

/-! ## Order -/

theorem insertHit_perm (hit : Hit) (hits : List Hit) :
    (insertHit hit hits).Perm (hit :: hits) := by
  induction hits with
  | nil => exact .refl _
  | cons h hits ih =>
    unfold insertHit
    split
    · exact (ih.cons h).trans (List.Perm.swap hit h hits)
    · exact .refl _

theorem inOrder_perm (hits : List Hit) : (inOrder hits).Perm hits := by
  induction hits with
  | nil => exact .refl _
  | cons h hits ih => exact (insertHit_perm h _).trans (ih.cons h)

/-! ## The first accepted candidate -/

section

variable {read : String → Except Failure String}

/-- The first accepted candidate stands behind rejected ones only. -/
theorem firstAccepted_eq_some_iff {cs : List (List Char)} {text : String} :
    (firstAccepted read cs).1 = some text ↔ ∃ before c after, cs = before ++ c :: after ∧
      (∀ b ∈ before, ∃ failure, read (String.ofList b) = .error failure) ∧
      read (String.ofList c) = .ok text := by
  induction cs with
  | nil => simp [firstAccepted]
  | cons first cs ih =>
    rw [firstAccepted]
    cases hfirst : read (String.ofList first) with
    | ok t =>
      constructor
      · intro h
        cases h
        exact ⟨[], first, cs, rfl, by simp, hfirst⟩
      · intro ⟨before, c, after, hcs, hbefore, hc⟩
        cases before with
        | nil =>
          cases hcs
          rw [hfirst] at hc
          cases hc
          rfl
        | cons b before =>
          cases hcs
          obtain ⟨failure, hb⟩ := hbefore first (by simp)
          rw [hfirst] at hb
          cases hb
    | error failure =>
      show (firstAccepted read cs).1 = some text ↔ _
      rw [ih]
      constructor
      · rintro ⟨before, c, after, rfl, hbefore, hc⟩
        refine ⟨first :: before, c, after, rfl, fun b hb => ?_, hc⟩
        rcases List.mem_cons.1 hb with rfl | hb
        · exact ⟨failure, hfirst⟩
        · exact hbefore b hb
      · intro ⟨before, c, after, hcs, hbefore, hc⟩
        cases before with
        | nil =>
          cases hcs
          rw [hfirst] at hc
          cases hc
        | cons b before =>
          cases hcs
          exact ⟨before, c, after, rfl, fun b hb => hbefore b (by simp [hb]), hc⟩

theorem firstAccepted_singleton {c : List Char} {text : String} :
    (firstAccepted read [c]).1 = some text ↔ read (String.ofList c) = .ok text := by
  rw [firstAccepted]
  cases read (String.ofList c) <;> simp [firstAccepted]

/-- There is no accepted candidate if and only if all of them are rejected. -/
theorem firstAccepted_eq_none_iff {cs : List (List Char)} :
    (firstAccepted read cs).1 = none ↔
      ∀ c ∈ cs, ∃ failure, read (String.ofList c) = .error failure := by
  induction cs with
  | nil => simp [firstAccepted]
  | cons first cs ih =>
    rw [firstAccepted]
    cases hfirst : read (String.ofList first) with
    | ok t => simp [hfirst]
    | error failure =>
      show (firstAccepted read cs).1 = none ↔ _
      rw [ih]
      simp [hfirst]

/-- Where the accepted candidates all read alike, one of them is as good as the first. -/
theorem firstAccepted_eq_some_iff_of_unique {cs : List (List Char)} {text : String}
    (hunique : ∀ c ∈ cs, ∀ d ∈ cs, ∀ s t, read (String.ofList c) = .ok s →
      read (String.ofList d) = .ok t → s = t) :
    (firstAccepted read cs).1 = some text ↔ ∃ c ∈ cs, read (String.ofList c) = .ok text := by
  constructor
  · intro h
    obtain ⟨before, c, after, rfl, -, hc⟩ := firstAccepted_eq_some_iff.1 h
    exact ⟨c, by simp, hc⟩
  · intro ⟨c, hmem, hc⟩
    cases h : (firstAccepted read cs).1 with
    | none =>
      obtain ⟨failure, hfailure⟩ := firstAccepted_eq_none_iff.1 h c hmem
      rw [hc] at hfailure
      cases hfailure
    | some t =>
      obtain ⟨before, d, after, rfl, -, hd⟩ := firstAccepted_eq_some_iff.1 h
      rw [hunique c hmem d (by simp) text t hc hd]

/-- So they may be tried the other way round. -/
theorem firstAccepted_reverse {cs : List (List Char)}
    (hunique : ∀ c ∈ cs, ∀ d ∈ cs, ∀ s t, read (String.ofList c) = .ok s →
      read (String.ofList d) = .ok t → s = t) :
    (firstAccepted read cs.reverse).1 = (firstAccepted read cs).1 := by
  apply Option.ext
  intro text
  rw [firstAccepted_eq_some_iff_of_unique hunique, firstAccepted_eq_some_iff_of_unique]
  · simp only [List.mem_reverse]
  · simpa only [List.mem_reverse] using hunique

/-! ## What is found -/

/-- A text is found if and only if it is the first accepted one of some site. -/
theorem mem_found {kind : String} {sites : List Site} {text : String} :
    text ∈ (search kind read sites).found ↔
      ∃ site ∈ sites, (firstAccepted read site.candidates).1 = some text := by
  show text ∈ ((inOrder (sites.filterMap (hit? read))).map Hit.text).eraseDups ↔ _
  rw [List.mem_eraseDups, List.mem_map]
  constructor
  · rintro ⟨hit, hhit, rfl⟩
    obtain ⟨site, hsite, hread⟩ := List.mem_filterMap.1 ((inOrder_perm _).mem_iff.1 hhit)
    obtain ⟨t, ht, rfl⟩ := Option.map_eq_some_iff.1 hread
    exact ⟨site, hsite, ht⟩
  · intro ⟨site, hsite, hread⟩
    refine ⟨⟨site.start, text⟩, (inOrder_perm _).mem_iff.2 (List.mem_filterMap.2 ?_), rfl⟩
    exact ⟨site, hsite, by rw [hit?, hread]; rfl⟩

end

end BankCodes.Scan
