import BankCodes.Text.Canonical
import BankCodes.Text.Word

/-!
# Words and the text around them

`words` is a function whose reverse is a layout of a text: gaps and words in turn, with a gap at the
end. `Laid n ws tail cs` says that `cs`, standing at place `n`, is laid out in this way.

* `laid_words`: a text is laid out as its words;
* `Laid.unique`: there is one layout, so that `words_eq_of_laid`;
* `Laid.split` and `Laid.insert`: a word of the layout, between what is before it and what is
  behind;
* `Laid.stands` and `Stands.laid`: the words of a layout are the words that stand free in the text,
  also when there are more of them, one space apart.
-/

namespace BankCodes.Text

/-! ## Ends of texts -/

/-- No word comes up to the end of the text. -/
def EndsFree (cs : List Char) : Prop := ∀ c, cs.getLast? = some c → isWordChar c = false

/-- No word begins at the front of the text. -/
def StartsFree (cs : List Char) : Prop := ∀ c, cs.head? = some c → isWordChar c = false

theorem startsFree_nil : StartsFree [] := by
  intro c h
  cases h

theorem startsFree_cons {c : Char} {cs : List Char} :
    StartsFree (c :: cs) ↔ isWordChar c = false := by
  simp [StartsFree]

theorem startsFree_append {cs ds : List Char} (h : cs ≠ []) :
    StartsFree (cs ++ ds) ↔ StartsFree cs := by
  cases cs with
  | nil => exact absurd rfl h
  | cons c cs => rw [List.cons_append, startsFree_cons, startsFree_cons]

theorem endsFree_append {cs ds : List Char} (h : ds ≠ []) :
    EndsFree (cs ++ ds) ↔ EndsFree ds := by
  have hlast := List.getLast?_eq_some_getLast h
  rw [EndsFree, EndsFree, List.getLast?_append, hlast]
  rfl

theorem endsFree_concat (cs : List Char) {c : Char} (h : isWordChar c = false) :
    EndsFree (cs ++ [c]) := by
  intro d hd
  rw [List.getLast?_concat] at hd
  cases hd
  exact h

/-- A text without word characters is free at both ends. -/
theorem endsFree_of_forall {cs : List Char} (h : ∀ c ∈ cs, isWordChar c = false) : EndsFree cs :=
  fun c hc => h c (List.mem_of_getLast? hc)

theorem startsFree_of_forall {cs : List Char} (h : ∀ c ∈ cs, isWordChar c = false) :
    StartsFree cs :=
  fun c hc => h c (List.mem_of_head? hc)

/-- Behind a word the text is not free. -/
theorem not_endsFree_word {cs : List Char} (hne : cs ≠ [])
    (h : ∀ c ∈ cs, isWordChar c = true) : ¬ EndsFree cs := by
  intro hfree
  have hlast := hfree _ (List.getLast?_eq_some_getLast hne)
  rw [h _ (List.getLast_mem hne)] at hlast
  cases hlast

/-- In front of a word the text is not free. -/
theorem not_startsFree_word {cs ds : List Char} (hne : cs ≠ [])
    (h : ∀ c ∈ cs, isWordChar c = true) : ¬ StartsFree (cs ++ ds) := by
  cases cs with
  | nil => exact absurd rfl hne
  | cons c cs =>
    rw [List.cons_append, startsFree_cons, h c (by simp)]
    exact Bool.noConfusion

/-- Before a word the text ends free, if no word comes up to the gap before it. -/
theorem endsFree_gap {before gap chars rest : List Char} (hgap : ∀ c ∈ gap, isWordChar c = false)
    (hne : chars ≠ []) (hchars : ∀ c ∈ chars, isWordChar c = true)
    (hfree : EndsFree before ∨ StartsFree (gap ++ chars ++ rest)) : EndsFree (before ++ gap) := by
  by_cases hnil : gap = []
  · subst hnil
    rw [List.append_nil]
    rcases hfree with hfree | hfree
    · exact hfree
    · exact absurd hfree (not_startsFree_word hne hchars)
  · rw [endsFree_append hnil]
    exact endsFree_of_forall hgap

/-! ## Runs -/

/-- Runs as they come from a text: none is empty, each holds characters of its own sort only, and
neighbours are of different sorts. -/
inductive Alternating : List Run → Prop where
  | nil : Alternating []
  | cons {r : Run} {rs : List Run} :
      r.chars ≠ [] → (∀ c ∈ r.chars, isWordChar c = r.word) →
      (∀ s, rs.head? = some s → s.word = !r.word) → Alternating rs → Alternating (r :: rs)

theorem alternating_runs (cs : List Char) : Alternating (runs cs) := by
  induction cs with
  | nil => exact .nil
  | cons c cs ih =>
    rw [runs, List.foldr_cons, ← runs]
    cases hr : runs cs with
    | nil => exact .cons (by simp) (by simp) (by simp) .nil
    | cons r rs =>
      rw [hr] at ih
      obtain _ | ⟨hne, hsort, hnext, halt⟩ := ih
      -- the character joins the first run, or makes a run of the other sort before it
      simp only [Run.push]
      split
      · next hsame =>
        refine .cons (by simp) (fun d hd => ?_) hnext halt
        rcases List.mem_cons.1 hd with rfl | hd
        · exact hsame.symm
        · exact hsort d hd
      · next hdiff =>
        refine .cons (by simp) (by simp) (fun s hs => ?_) (.cons hne hsort hnext halt)
        cases hs
        exact Bool.eq_not_of_ne hdiff

/-! ## Layouts -/

/-- The text is laid out, from place `n` on, as gaps and words in turn, and ends in a gap. Only the
first gap and the last one may be empty. -/
inductive Laid : Nat → List Word → List Char → List Char → Prop where
  | nil {n : Nat} {tail : List Char} :
      (∀ c ∈ tail, isWordChar c = false) → Laid n [] tail tail
  | cons {n : Nat} {gap chars tail rest : List Char} {ws : List Word} :
      (∀ c ∈ gap, isWordChar c = false) → chars ≠ [] → (∀ c ∈ chars, isWordChar c = true) →
      StartsFree rest → Laid (n + gap.length + chars.length) ws tail rest →
      Laid n (⟨n + gap.length, gap, chars⟩ :: ws) tail (gap ++ chars ++ rest)

private theorem laid_wordsOfRuns {rs : List Run} (halt : Alternating rs) (n : Nat) (gap : List Char)
    (hgap : ∀ c ∈ gap, isWordChar c = false)
    (hhead : ∀ r, rs.head? = some r → r.word = false → gap = []) :
    ∃ tail, Laid n (wordsOfRuns (n + gap.length) gap rs) tail (gap ++ rs.flatMap Run.chars) := by
  -- the gap is what has been read since the last word: nothing, or the run just before `rs`
  induction halt generalizing n gap with
  | nil => exact ⟨gap, by simpa [wordsOfRuns] using Laid.nil hgap⟩
  | @cons r rs hne hsort hnext halt ih =>
    rw [List.flatMap_cons, wordsOfRuns]
    split
    · next hword =>
      obtain ⟨tail, hrest⟩ := ih (n + gap.length + r.chars.length) [] (by simp) (by simp)
      have hfree : StartsFree (rs.flatMap Run.chars) := by
        cases halt with
        | nil => exact startsFree_nil
        | @cons s rs hne' hsort' _ _ =>
          have hs : s.word = false := by simpa [hword] using hnext s rfl
          rw [List.flatMap_cons, startsFree_append hne']
          exact startsFree_of_forall fun c hc => (hsort' c hc).trans hs
      refine ⟨tail, ?_⟩
      rw [← List.append_assoc]
      exact .cons hgap hne (fun c hc => (hsort c hc).trans hword) hfree (by simpa using hrest)
    · next hword =>
      have hword : r.word = false := by simpa using hword
      have hempty : gap = [] := hhead r rfl hword
      subst hempty
      refine ih n _ (fun c hc => (hsort c hc).trans hword) fun s hs hsw => ?_
      have := hnext s hs
      simp [hsw, hword] at this

/-- At any place there is a layout of a text, and at the first place it is that of its words. -/
theorem exists_laid (n : Nat) (cs : List Char) :
    ∃ tail, Laid n (wordsOfRuns n [] (runs cs)) tail cs := by
  obtain ⟨tail, h⟩ := laid_wordsOfRuns (alternating_runs cs) n [] (by simp) (by simp)
  rw [List.nil_append, flatMap_runs] at h
  exact ⟨tail, h⟩

theorem laid_words (cs : List Char) : ∃ tail, Laid 0 (words cs) tail cs :=
  exists_laid 0 cs

theorem Laid.ne_nil {n : Nat} {ws : List Word} {tail cs : List Char} (h : Laid n ws tail cs) :
    ∀ w ∈ ws, w.chars ≠ [] := by
  induction h with
  | nil => simp
  | cons _ hne _ _ _ ih => simpa [hne] using ih

/-- No word is empty. -/
theorem words_ne_nil {cs : List Char} : ∀ w ∈ words cs, w.chars ≠ [] := by
  obtain ⟨tail, hlaid⟩ := laid_words cs
  exact hlaid.ne_nil

theorem Laid.wordChars {n : Nat} {ws : List Word} {tail cs : List Char} (h : Laid n ws tail cs) :
    ∀ w ∈ ws, ∀ c ∈ w.chars, isWordChar c = true := by
  induction h with
  | nil => simp
  | cons _ _ hchars _ _ ih => exact List.forall_mem_cons.2 ⟨hchars, ih⟩

/-- Words are of word characters. -/
theorem isWordChar_of_mem_words {cs : List Char} :
    ∀ w ∈ words cs, ∀ c ∈ w.chars, isWordChar c = true := by
  obtain ⟨tail, hlaid⟩ := laid_words cs
  exact hlaid.wordChars

/-- Behind a word the next ones begin further on. -/
theorem Laid.lt_start {n : Nat} {ws : List Word} {tail cs : List Char} (h : Laid n ws tail cs)
    (hfree : StartsFree cs) : ∀ w ∈ ws, n < w.start := by
  induction h with
  | nil => simp
  | @cons n gap chars tail rest ws hgap hne hchars hrest _ ih =>
    have hpos : 0 < gap.length := by
      rw [List.length_pos_iff]
      rintro rfl
      exact not_startsFree_word hne hchars hfree
    intro w hw
    rcases List.mem_cons.1 hw with rfl | hw
    · exact Nat.lt_add_of_pos_right hpos
    · have := ih hrest w hw
      omega

/-- The words of a layout end within the text. -/
theorem Laid.stop_le {n : Nat} {ws : List Word} {tail cs : List Char} (h : Laid n ws tail cs) :
    ∀ w ∈ ws, w.start + w.chars.length ≤ n + cs.length := by
  induction h with
  | nil => simp
  | @cons n gap chars tail rest ws _ _ _ _ _ ih =>
    intro w hw
    simp only [List.length_append]
    rcases List.mem_cons.1 hw with rfl | hw
    · show n + gap.length + chars.length ≤ _
      omega
    · have := ih w hw
      omega

/-- The words of a layout are in the order of their starts. -/
theorem Laid.pairwise_start {n : Nat} {ws : List Word} {tail cs : List Char}
    (h : Laid n ws tail cs) : ws.Pairwise fun v w => v.start < w.start := by
  induction h with
  | nil => exact .nil
  | cons _ _ _ hrest hlaid ih =>
    refine List.pairwise_cons.2 ⟨fun w hw => ?_, ih⟩
    exact Nat.lt_of_le_of_lt (Nat.le_add_right _ _) (hlaid.lt_start hrest w hw)

/-- A text without words is the gap at its end. -/
theorem Laid.eq_tail {n : Nat} {tail cs : List Char} (h : Laid n [] tail cs) : cs = tail := by
  cases h
  rfl

/-! ## One layout for a text -/

/-- A front of characters of one sort, up to the first one that is not, is the only such front. -/
theorem front_unique {p : Char → Bool} {as bs cs ds : List Char}
    (ha : ∀ c ∈ as, p c = true) (hb : ∀ c, bs.head? = some c → p c = false)
    (hc : ∀ c ∈ cs, p c = true) (hd : ∀ c, ds.head? = some c → p c = false)
    (h : as ++ bs = cs ++ ds) : as = cs ∧ bs = ds := by
  have htake : ∀ {as bs : List Char}, (∀ c ∈ as, p c = true) →
      (∀ c, bs.head? = some c → p c = false) → (as ++ bs).takeWhile p = as := by
    intro as bs ha hb
    rw [List.takeWhile_append_of_pos ha]
    cases bs with
    | nil => simp
    | cons b bs => simp [hb b rfl]
  have hfront : as = cs := by rw [← htake ha hb, h, htake hc hd]
  subst hfront
  exact ⟨rfl, List.append_cancel_left h⟩

private theorem begins_with_word {chars rest : List Char} (hne : chars ≠ [])
    (hchars : ∀ c ∈ chars, isWordChar c = true) :
    ∀ c, (chars ++ rest).head? = some c → (!isWordChar c) = false := by
  intro c hc
  cases chars with
  | nil => exact absurd rfl hne
  | cons d chars =>
    cases hc
    simp [hchars c (by simp)]

/-- There is one layout of a text at a place. -/
theorem Laid.unique {n : Nat} {ws vs : List Word} {tail tail' cs : List Char}
    (h : Laid n ws tail cs) (h' : Laid n vs tail' cs) : ws = vs ∧ tail = tail' := by
  have hword : ∀ {gap chars rest : List Char}, chars ≠ [] → (∀ c ∈ chars, isWordChar c = true) →
      ¬ ∀ c ∈ gap ++ chars ++ rest, isWordChar c = false := by
    intro gap chars rest hne hchars hall
    obtain ⟨c, hc⟩ := List.exists_mem_of_ne_nil chars hne
    have := hall c (by simp [hc])
    rw [hchars c hc] at this
    cases this
  induction h generalizing vs with
  | nil htail =>
    cases h' with
    | nil => exact ⟨rfl, rfl⟩
    | cons _ hne hchars => exact absurd htail (hword hne hchars)
  | @cons n gap chars tail rest ws hgap hne hchars hfree _ ih =>
    generalize htext : gap ++ chars ++ rest = cs at h'
    cases h' with
    | nil htail => exact absurd (htext ▸ htail) (hword hne hchars)
    | @cons _ gap' chars' _ rest' vs hgap' hne' hchars' hfree' hrest' =>
      rw [List.append_assoc, List.append_assoc] at htext
      -- the gaps end where the first word begins, and the words where the text is free again
      obtain ⟨hgaps, hcut⟩ := front_unique (p := fun c => !isWordChar c) (by simpa using hgap)
        (begins_with_word hne hchars) (by simpa using hgap') (begins_with_word hne' hchars') htext
      obtain ⟨hwords, hafter⟩ := front_unique hchars hfree hchars' hfree' hcut
      rw [← hgaps, ← hwords, ← hafter] at hrest'
      obtain ⟨hws, htails⟩ := ih hrest'
      exact ⟨by rw [hgaps, hwords, hws], htails⟩

/-- A layout of a text shows its words. -/
theorem words_eq_of_laid {ws : List Word} {tail cs : List Char} (h : Laid 0 ws tail cs) :
    words cs = ws := by
  obtain ⟨tail', h'⟩ := laid_words cs
  exact (h'.unique h).1

/-! ## Words that stand free -/

/-- A word set free into a text, between a layout of what is before it and one of what is behind. -/
theorem Laid.insert {n : Nat} {ws vs : List Word} {gap tail before chars after : List Char}
    (hbefore : Laid n ws gap before) (hends : EndsFree before) (hne : chars ≠ [])
    (hchars : ∀ c ∈ chars, isWordChar c = true) (hstarts : StartsFree after)
    (hafter : Laid (n + before.length + chars.length) vs tail after) :
    Laid n (ws ++ ⟨n + before.length, gap, chars⟩ :: vs) tail (before ++ chars ++ after) := by
  -- the gap at the end of the layout before becomes the gap of the new word
  induction hbefore with
  | nil hgap => exact .cons hgap hne hchars hstarts hafter
  | @cons n gap₀ chars₀ gap rest ws hgap₀ hne₀ hchars₀ hfree₀ _ ih =>
    -- a text that ends free goes on behind its last word
    have hrest : rest ≠ [] := by
      rintro rfl
      rw [List.append_nil, endsFree_append hne₀] at hends
      exact not_endsFree_word hne₀ hchars₀ hends
    rw [endsFree_append hrest] at hends
    have hlen : n + (gap₀ ++ chars₀ ++ rest).length =
        n + gap₀.length + chars₀.length + rest.length := by
      simp only [List.length_append]
      omega
    rw [hlen] at hafter ⊢
    have h := Laid.cons hgap₀ hne₀ hchars₀ ?_ (ih hends hafter)
    · simpa using h
    · rw [List.append_assoc, startsFree_append hrest]
      exact hfree₀

/-- A word of a layout stands free in the text, between the layouts of what is before it and of what
is behind. -/
theorem Laid.split {n : Nat} {ws vs : List Word} {w : Word} {tail cs : List Char}
    (h : Laid n (ws ++ w :: vs) tail cs) :
    ∃ before after, cs = before ++ w.chars ++ after ∧ EndsFree before ∧ StartsFree after ∧
      w.start = n + before.length ∧ Laid n ws w.gap before ∧
      Laid (n + before.length + w.chars.length) vs tail after ∧
      w.chars ≠ [] ∧ ∀ c ∈ w.chars, isWordChar c = true := by
  induction ws generalizing n cs with
  | nil =>
    cases h with
    | @cons _ gap chars _ rest _ hgap hne hchars hfree hrest =>
      exact ⟨gap, rest, rfl, endsFree_of_forall hgap, hfree, rfl, .nil hgap, hrest, hne, hchars⟩
  | cons v ws ih =>
    cases h with
    | @cons _ gap chars _ rest _ hgap hne hchars hfree hrest =>
      obtain ⟨before, after, rfl, hends, hstarts, hstart, hbefore, hafter, hw, hwchars⟩ := ih hrest
      -- two words do not touch
      have hb : before ≠ [] := by
        rintro rfl
        exact not_startsFree_word hw hwchars (by simpa using hfree)
      have hlen : n + (gap ++ chars ++ before).length =
          n + gap.length + chars.length + before.length := by
        simp only [List.length_append]
        omega
      refine ⟨gap ++ chars ++ before, after, by simp, ?_, hstarts, ?_, ?_, ?_, hw, hwchars⟩
      · rwa [endsFree_append hb]
      · rw [hstart, hlen]
      · refine .cons hgap hne hchars ?_ hbefore
        rwa [List.append_assoc, startsFree_append hb] at hfree
      · rwa [hlen]

/-! ## Words one space apart -/

/-- Words that stand one space behind each other are cut off the text with their spaces. -/
theorem Laid.cut_spaced {n : Nat} {us vs : List Word} {tail cs : List Char}
    (h : Laid n (us ++ vs) tail cs) (hgaps : ∀ u ∈ us, u.gap = [' ']) :
    ∃ after, cs = (us.map Word.chars).flatMap (' ' :: ·) ++ after ∧
      Laid (n + ((us.map Word.chars).flatMap (' ' :: ·)).length) vs tail after ∧
      (StartsFree cs → StartsFree after) := by
  induction us generalizing n cs with
  | nil => exact ⟨cs, rfl, h, id⟩
  | cons u us ih =>
    cases h with
    | @cons _ gap chars _ rest _ _ _ _ hfree hrest =>
      obtain ⟨after, rfl, hafter, hstarts⟩ := ih hrest fun v hv => hgaps v (by simp [hv])
      obtain rfl : gap = [' '] := hgaps _ List.mem_cons_self
      refine ⟨after, by simp, ?_, fun _ => hstarts hfree⟩
      rw [List.length_singleton, Nat.add_assoc n, Nat.add_assoc n] at hafter
      rw [List.map_cons, List.flatMap_cons, List.length_append, List.length_cons]
      rwa [Nat.add_comm chars.length 1]

/-- Behind words that are set off by spaces a text may go on with them. -/
theorem startsFree_spaced (groups : List (List Char)) {after : List Char}
    (hstarts : StartsFree after) : StartsFree (groups.flatMap (' ' :: ·) ++ after) := by
  cases groups with
  | nil => exact hstarts
  | cons g groups =>
    rw [List.flatMap_cons, List.cons_append, List.cons_append, startsFree_cons]
    decide

/-- Words set one space behind each other before a text are words of it. -/
theorem exists_laid_spaced {groups : List (List Char)} {after : List Char}
    (hne : ∀ g ∈ groups, g ≠ []) (hchars : ∀ g ∈ groups, ∀ c ∈ g, isWordChar c = true)
    (hstarts : StartsFree after) (n : Nat) :
    ∃ us : List Word, us.map Word.chars = groups ∧ (∀ u ∈ us, u.gap = [' ']) ∧
      ∀ vs tail, Laid (n + (groups.flatMap (' ' :: ·)).length) vs tail after →
        Laid n (us ++ vs) tail (groups.flatMap (' ' :: ·) ++ after) := by
  induction groups generalizing n with
  | nil => exact ⟨[], rfl, by simp, fun vs tail h => h⟩
  | cons g groups ih =>
    obtain ⟨us, hus, hgaps, hlaid⟩ := ih (fun d hd => hne d (by simp [hd]))
      (fun d hd => hchars d (by simp [hd])) (n + 1 + g.length)
    refine ⟨⟨n + 1, [' '], g⟩ :: us, by simp [hus], by simpa using hgaps, fun vs tail h => ?_⟩
    have hlen : n + ((g :: groups).flatMap (' ' :: ·)).length =
        n + 1 + g.length + (groups.flatMap (' ' :: ·)).length := by
      rw [List.flatMap_cons, List.length_append, List.length_cons]
      omega
    rw [hlen] at h
    have hfree := startsFree_spaced groups hstarts
    have hspace : ∀ c ∈ [' '], isWordChar c = false := List.forall_mem_singleton.2 (by decide)
    simpa using Laid.cons (n := n) hspace (hne g (by simp)) (hchars g (by simp)) hfree
      (hlaid vs tail h)

/-! ## What stands free in a text -/

/-- The characters stand free in the text: no word comes up to them on either side. -/
structure Stands (cs before chars after : List Char) : Prop where
  cut : cs = before ++ chars ++ after
  ends : EndsFree before
  starts : StartsFree after

/-- A word and others behind it, one space apart. -/
def spaced (first : List Char) (others : List (List Char)) : List Char :=
  first ++ others.flatMap (' ' :: ·)

@[simp] theorem spaced_nil (first : List Char) : spaced first [] = first := by
  simp [spaced]

/-- Groups set off by spaces have the canonical form of the groups alone. -/
theorem canonicalChars_spaced (first : List Char) (others : List (List Char)) :
    canonicalChars (spaced first others) = canonicalChars (first ++ others.flatten) := by
  rw [spaced, canonicalChars_append, canonicalChars_append]
  congr 1
  induction others with
  | nil => rfl
  | cons g others ih =>
    have hspace : canonicalChars (' ' :: g) = canonicalChars g := rfl
    rw [List.flatMap_cons, List.flatten_cons, canonicalChars_append, canonicalChars_append, hspace,
      ih]

/-- Words of a layout that are one space apart stand free in the text. -/
theorem Laid.stands {n : Nat} {ws us vs : List Word} {w : Word} {tail cs : List Char}
    (h : Laid n (ws ++ w :: (us ++ vs)) tail cs) (hgaps : ∀ u ∈ us, u.gap = [' ']) :
    ∃ before after, Stands cs before (spaced w.chars (us.map Word.chars)) after ∧
      w.start = n + before.length ∧ Laid n ws w.gap before ∧
      Laid (w.start + (spaced w.chars (us.map Word.chars)).length) vs tail after := by
  obtain ⟨before, rest, rfl, hends, hstarts, hstart, hbefore, hrest, -⟩ := h.split
  obtain ⟨after, rfl, hafter, hfree⟩ := hrest.cut_spaced hgaps
  refine ⟨before, after, ⟨by simp [spaced], hends, hfree hstarts⟩, hstart, hbefore, ?_⟩
  rwa [spaced, List.length_append, hstart, ← Nat.add_assoc]

/-- Words one space apart that stand free in a text are words of its layout. -/
theorem Stands.laid {cs before first after : List Char} {others : List (List Char)}
    (h : Stands cs before (spaced first others) after) (hne : ∀ g ∈ first :: others, g ≠ [])
    (hchars : ∀ g ∈ first :: others, ∀ c ∈ g, isWordChar c = true) :
    ∃ ws w us vs tail, Laid 0 (ws ++ w :: (us ++ vs)) tail cs ∧ Laid 0 ws w.gap before ∧
      Laid (before.length + (spaced first others).length) vs tail after ∧ w.chars = first ∧
      us.map Word.chars = others ∧ ∀ u ∈ us, u.gap = [' '] := by
  obtain ⟨hcut, hends, hstarts⟩ := h
  rw [List.forall_mem_cons] at hne hchars
  obtain ⟨gap, hbefore⟩ := laid_words before
  obtain ⟨us, rfl, hgaps, hspaced⟩ := exists_laid_spaced hne.2 hchars.2 hstarts
    (0 + before.length + first.length)
  have hlen : 0 + before.length + first.length +
      ((us.map Word.chars).flatMap (' ' :: ·)).length =
      before.length + (spaced first (us.map Word.chars)).length := by
    rw [spaced, List.length_append]
    omega
  obtain ⟨vs, tail, hafter⟩ : ∃ vs tail,
      Laid (before.length + (spaced first (us.map Word.chars)).length) vs tail after :=
    ⟨_, exists_laid _ after⟩
  have hlaid := hbefore.insert hends hne.1 hchars.1 (startsFree_spaced _ hstarts)
    (hspaced vs tail (hlen ▸ hafter))
  have htext : before ++ first ++ ((us.map Word.chars).flatMap (' ' :: ·) ++ after) = cs := by
    rw [hcut, spaced]
    simp only [List.append_assoc]
  rw [htext] at hlaid
  exact ⟨_, _, us, vs, tail, hlaid, hbefore, hafter, rfl, rfl, hgaps⟩

/-- A word of a text stands free in it, at the place where it starts. -/
theorem exists_stands_of_mem_words {cs : List Char} {w : Word} (hw : w ∈ words cs) :
    ∃ before after, Stands cs before w.chars after ∧ before.length = w.start := by
  obtain ⟨ws, vs, hws⟩ := List.append_of_mem hw
  obtain ⟨tail, hlaid⟩ := laid_words cs
  rw [hws, ← List.nil_append vs] at hlaid
  obtain ⟨before, after, hstands, hstart, -⟩ := hlaid.stands (by simp)
  rw [List.map_nil, spaced_nil] at hstands
  exact ⟨before, after, hstands, by rw [hstart, Nat.zero_add]⟩

theorem mem_of_mem_words {cs : List Char} {w : Word} (hw : w ∈ words cs) :
    ∀ c ∈ w.chars, c ∈ cs := by
  obtain ⟨before, after, hstands, -⟩ := exists_stands_of_mem_words hw
  intro c hc
  rw [hstands.cut]
  simp [hc]

/-- The words of a text are the words that stand free in it. -/
theorem exists_word_iff {cs chars : List Char} (hne : chars ≠ [])
    (hchars : ∀ c ∈ chars, isWordChar c = true) :
    (∃ w ∈ words cs, w.chars = chars) ↔ ∃ before after, Stands cs before chars after := by
  constructor
  · rintro ⟨w, hw, rfl⟩
    obtain ⟨before, after, hstands, -⟩ := exists_stands_of_mem_words hw
    exact ⟨before, after, hstands⟩
  · intro ⟨before, after, hstands⟩
    rw [← spaced_nil chars] at hstands
    obtain ⟨ws, w, us, vs, tail, hlaid, -, -, hwchars, -⟩ :=
      hstands.laid (by simpa using hne) (by simpa using hchars)
    rw [words_eq_of_laid hlaid]
    exact ⟨w, by simp, hwchars⟩

end BankCodes.Text
