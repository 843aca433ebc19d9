import BankCodes.Text.Canonical
import BankCodes.Text.Case

/-!
# What the upper-case form of a text is made of

The upper-case form of a character is looked up in tables, and `upperChar_spec` says once what can
come of it. It holds no small letter of ASCII, and outside ASCII there are seventeen letters whose
upper-case form has a letter of ASCII: `foldedToAscii`.

The upper-case form of a text may be longer than the text, so a piece of it need not be the form of
a piece of the text. `exists_covers` finds the characters that a piece comes from, each of which gives
a part of the piece. If each of them has a form of one character, they give the piece and nothing
else; and so they do unless one of the seventeen letters is among them (`Covers.canonical_iff`).
-/

namespace BankCodes.Text

/-! ## The form of a character -/

/-- Where the upper-case form of a character comes from. -/
inductive UpperForm (c : Char) : List Char → Prop where
  | ascii : c.toNat < 128 → UpperForm c [c.toUpper]
  | listed {codes : List Nat} :
      128 ≤ c.toNat → (c.toNat, codes) ∈ upperExpansions → UpperForm c (codes.map Char.ofNat)
  | inRun {r : CaseRun} {d : Char} :
      128 ≤ c.toNat → r ∈ upperRuns → r.first ≤ c.toNat → c.toNat ≤ r.last →
      d.toNat = r.upper + (c.toNat - r.first) → UpperForm c [d]
  | self : 128 ≤ c.toNat → UpperForm c [c]

private theorem toNat_ofNat {n : Nat} (h : n.isValidChar) : (Char.ofNat n).toNat = n := by
  rw [Char.ofNat, dif_pos h]
  rfl

/-- No run leads to a code point that is none. -/
private theorem valid_upperRuns : ∀ r ∈ upperRuns,
    r.upper + (r.last - r.first) < 0xD800 ∨
      (0xDFFF < r.upper ∧ r.upper + (r.last - r.first) < 0x110000) := by
  decide +kernel

theorem upperChar_spec (c : Char) : UpperForm c (upperChar c) := by
  unfold upperChar
  split
  · next hc => exact .ascii hc
  · next hc =>
    have hc : 128 ≤ c.toNat := Nat.le_of_not_lt hc
    split
    · next codes hcodes =>
      obtain ⟨_, _, htable, -⟩ := List.lookup_eq_some_iff.1 hcodes
      exact .listed hc (by simp [htable])
    · split
      · next code hcode =>
        obtain ⟨r, hr, hupper⟩ := List.exists_of_findSome?_eq_some hcode
        unfold CaseRun.upper? at hupper
        split at hupper
        · next hrun =>
          cases hupper
          have hvalid : (r.upper + (c.toNat - r.first)).isValidChar := by
            have := valid_upperRuns r hr
            show _ ∨ _
            omega
          exact .inRun hc hr hrun.1 hrun.2.1 (toNat_ofNat hvalid)
        · cases hupper
      · exact .self hc

theorem upperChar_ne_nil (c : Char) : upperChar c ≠ [] := by
  have hlisted : ∀ entry ∈ upperExpansions, entry.2 ≠ [] := by decide +kernel
  have hspec := upperChar_spec c
  generalize upperChar c = form at hspec ⊢
  cases hspec with
  | listed _ hentry => simpa using hlisted _ hentry
  | _ => simp

/-- An upper-case form holds no small letter of ASCII. -/
theorem isLower_of_mem_upperChar {c d : Char} (h : d ∈ upperChar c) : d.isLower = false := by
  have hlisted : ∀ entry ∈ upperExpansions, ∀ code ∈ entry.2,
      (Char.ofNat code).isLower = false := by
    decide +kernel
  have hruns : ∀ r ∈ upperRuns, 122 < r.upper ∨ r.upper + (r.last - r.first) < 97 := by
    decide +kernel
  have hspec := upperChar_spec c
  generalize upperChar c = form at h hspec
  cases hspec with
  | ascii hc =>
    obtain rfl := List.mem_singleton.1 h
    exact forall_ascii (P := fun c => c.toUpper.isLower = false) (by decide) hc
  | listed _ hentry =>
    obtain ⟨code, hcode, rfl⟩ := List.mem_map.1 h
    exact hlisted _ hentry code hcode
  | @inRun r _ _ hr _ _ hd =>
    obtain rfl := List.mem_singleton.1 h
    have := hruns r hr
    rw [← Bool.not_eq_true, isLower_iff]
    omega
  | self hc =>
    obtain rfl := List.mem_singleton.1 h
    rw [← Bool.not_eq_true, isLower_iff]
    omega

theorem isLower_of_mem_upper {cs : List Char} {d : Char} (h : d ∈ upper cs) :
    d.isLower = false := by
  obtain ⟨c, -, hd⟩ := List.mem_flatMap.1 h
  exact isLower_of_mem_upperChar hd

/-! ## Letters that come to ASCII -/

/-- The letters outside ASCII whose upper-case form has a letter of ASCII: the dotless i and the
long s, the sharp s, letters with a mark that stands apart in capitals, and the ligatures of f and s. -/
def foldedToAscii : List Char :=
  ['\u0131', '\u017F', '\u00DF', '\u0149', '\u01F0', '\u1E96', '\u1E97', '\u1E98', '\u1E99',
    '\u1E9A', '\uFB00', '\uFB01', '\uFB02', '\uFB03', '\uFB04', '\uFB05', '\uFB06']

theorem mem_foldedToAscii_iff {c : Char} :
    c ∈ foldedToAscii ↔ 128 ≤ c.toNat ∧ ∃ d ∈ upperChar c, d.toNat < 128 := by
  have hlisted : ∀ entry ∈ upperExpansions, (∃ code ∈ entry.2, (Char.ofNat code).toNat < 128) →
      Char.ofNat entry.1 ∈ foldedToAscii := by
    decide +kernel
  have hruns : ∀ r ∈ upperRuns, 128 ≤ r.last → r.upper < 128 →
      r.first = r.last ∧ Char.ofNat r.first ∈ foldedToAscii := by
    decide +kernel
  constructor
  · have hall : foldedToAscii.all (fun c =>
        decide (128 ≤ c.toNat) && (upperChar c).any fun d => decide (d.toNat < 128)) = true := by
      decide +kernel
    intro hc
    simpa using List.all_eq_true.1 hall c hc
  · rintro ⟨hc, d, hd, hlt⟩
    have hspec := upperChar_spec c
    generalize upperChar c = form at hd hspec
    cases hspec with
    | ascii hlow => omega
    | listed _ hentry =>
      obtain ⟨code, hcode, rfl⟩ := List.mem_map.1 hd
      rw [← Char.ofNat_toNat c]
      exact hlisted _ hentry ⟨code, hcode, hlt⟩
    | @inRun r _ _ hr hfirst hlast hupper =>
      obtain rfl := List.mem_singleton.1 hd
      obtain ⟨hone, hmem⟩ := hruns r hr (by omega) (by omega)
      have hcode : c.toNat = r.first := by omega
      rwa [← Char.ofNat_toNat c, hcode]
    | self =>
      obtain rfl := List.mem_singleton.1 hd
      omega

/-! ## Pieces of a form -/

/-- The piece of a text that a part of its upper-case form comes from: each of its characters gives
some of the part. -/
structure Covers (piece form : List Char) : Prop where
  inside : form <:+: upper piece
  gives : ∀ c ∈ piece, ∃ d ∈ upperChar c, d ∈ form
  whole : (∀ c ∈ piece, (upperChar c).length = 1) → upper piece = form

/-- A part of the form of one character comes from this character. -/
theorem covers_singleton {c : Char} {form : List Char} (before after : List Char)
    (hform : form ≠ []) (h : upperChar c = before ++ form ++ after) : Covers [c] form := by
  have hupper : upper [c] = upperChar c := List.flatMap_singleton _ _
  refine ⟨hupper ▸ ⟨before, after, h.symm⟩, ?_, fun hone => ?_⟩
  · rw [List.forall_mem_singleton]
    obtain ⟨d, hd⟩ := List.exists_mem_of_ne_nil form hform
    exact ⟨d, by simp [h, hd], hd⟩
  · have hlen := hone c (by simp)
    rw [h, List.length_append, List.length_append] at hlen
    have hpos := List.length_pos_iff.2 hform
    have hbefore : before = [] := List.length_eq_zero_iff.1 (by omega)
    have hafter : after = [] := List.length_eq_zero_iff.1 (by omega)
    rw [hupper, h, hbefore, hafter, List.nil_append, List.append_nil]

/-- The end of the form of a character, and a part of the form of the text behind it. -/
theorem Covers.cons {c : Char} {piece before form rest : List Char} (hform : form ≠ [])
    (hc : upperChar c = before ++ form) (h : Covers piece rest) (hrest : rest <+: upper piece) :
    Covers (c :: piece) (form ++ rest) := by
  have hupper : upper (c :: piece) = upperChar c ++ upper piece := List.flatMap_cons
  obtain ⟨after, hafter⟩ := hrest
  refine ⟨⟨before, after, ?_⟩, ?_, fun hone => ?_⟩
  · rw [hupper, hc, ← hafter]
    simp only [List.append_assoc]
  · rw [List.forall_mem_cons]
    constructor
    · obtain ⟨d, hd⟩ := List.exists_mem_of_ne_nil form hform
      exact ⟨d, by simp [hc, hd], by simp [hd]⟩
    · intro d hd
      obtain ⟨e, he, hmem⟩ := h.gives d hd
      exact ⟨e, he, List.mem_append_right _ hmem⟩
  · rw [List.forall_mem_cons, hc, List.length_append] at hone
    have hpos := List.length_pos_iff.2 hform
    have hbefore : before = [] := List.length_eq_zero_iff.1 (by omega)
    rw [hupper, hc, hbefore, h.whole hone.2, List.nil_append]

/-- What the upper-case form of a text begins with comes from a piece at its front. -/
theorem exists_covers_front {cs form after : List Char} (hform : form ≠ [])
    (h : upper cs = form ++ after) :
    ∃ piece back, cs = piece ++ back ∧ form <+: upper piece ∧ Covers piece form := by
  induction cs generalizing form with
  | nil => exact absurd (List.append_eq_nil_iff.1 h.symm).1 hform
  | cons c cs ih =>
    have hupper : upper [c] = upperChar c := List.flatMap_singleton _ _
    rw [upper, List.flatMap_cons, ← upper] at h
    obtain ⟨rest, rfl, hrest⟩ | ⟨more, hmore, -⟩ := List.append_eq_append_iff.1 h
    · by_cases hnil : rest = []
      · subst hnil
        rw [List.append_nil]
        exact ⟨[c], cs, rfl, hupper ▸ List.prefix_refl _,
          covers_singleton [] [] (upperChar_ne_nil c) (by simp)⟩
      · -- the form goes on behind the first character
        obtain ⟨piece, back, rfl, hbegins, hcovers⟩ := ih hnil hrest
        have hc : upperChar c = [] ++ upperChar c := rfl
        refine ⟨c :: piece, back, rfl, ?_, hcovers.cons (upperChar_ne_nil c) hc hbegins⟩
        exact (List.prefix_append_right_inj _).2 hbegins
    · exact ⟨[c], cs, rfl, hupper ▸ ⟨more, hmore.symm⟩,
        covers_singleton [] more hform hmore⟩

/-- Each part of the upper-case form of a text comes from a piece of the text. -/
theorem exists_covers {cs before form after : List Char} (hform : form ≠ [])
    (h : upper cs = before ++ form ++ after) :
    ∃ front piece back, cs = front ++ piece ++ back ∧ Covers piece form := by
  induction cs generalizing before with
  | nil => simp [upper, hform] at h
  | cons c cs ih =>
    rw [upper, List.flatMap_cons, ← upper, List.append_assoc] at h
    have hlater : ∀ before, upper cs = before ++ form ++ after →
        ∃ front piece back, c :: cs = front ++ piece ++ back ∧ Covers piece form := by
      intro before h
      obtain ⟨front, piece, back, rfl, hcovers⟩ := ih h
      exact ⟨c :: front, piece, back, rfl, hcovers⟩
    obtain ⟨before, rfl, hrest⟩ | ⟨more, hmore, hrest⟩ := List.append_eq_append_iff.1 h
    · exact hlater before (by rw [hrest, List.append_assoc])
    -- the form of the first character goes on behind what is before the part
    obtain ⟨others, rfl, -⟩ | ⟨rest, rfl, hlast⟩ := List.append_eq_append_iff.1 hrest
    · exact ⟨[], [c], cs, rfl, covers_singleton before others hform
        (hmore.trans (List.append_assoc _ _ _).symm)⟩
    · by_cases hmore' : more = []
      · subst hmore'
        exact hlater [] hlast
      · by_cases hnil : rest = []
        · subst hnil
          rw [List.append_nil]
          exact ⟨[], [c], cs, rfl, covers_singleton before [] hmore' (by simpa using hmore)⟩
        · obtain ⟨piece, back, rfl, hbegins, hcovers⟩ := exists_covers_front hnil hlast
          exact ⟨[], c :: piece, back, rfl, hcovers.cons hmore' hmore hbegins⟩

/-! ## Typed pieces -/

/-- The canonical form of a text of ASCII is that of its upper-case form. -/
theorem canonicalChars_upper {cs : List Char} (h : ∀ c ∈ cs, c.toNat < 128) :
    canonicalChars (upper cs) = canonicalChars cs := by
  rw [upper_eq_map h, canonicalChars, canonicalChars, List.filter_map, List.map_map]
  have hblank : ((!isBlank ·) ∘ Char.toUpper) = (!isBlank ·) := by
    funext c
    rw [Function.comp_apply, (toUpper_stable c).2]
  have hupper : Char.toUpper ∘ Char.toUpper = Char.toUpper := by
    funext c
    rw [Function.comp_apply, (toUpper_stable c).1]
  rw [hblank, hupper]

/-- A piece that gives a text of ASCII is one way to type it, unless it holds one of the letters
that come to ASCII. -/
theorem Covers.canonical_iff {piece form : List Char} (h : Covers piece form)
    (hform : ∀ c ∈ form, c.toNat < 128) :
    canonicalChars piece = canonicalChars form ↔ ∀ c ∈ piece, c ∉ foldedToAscii := by
  constructor
  · intro hcanonical c hc hfolded
    -- the canonical form keeps a character outside ASCII
    have hge := (mem_foldedToAscii_iff.1 hfolded).1
    have hblank : isBlank c = false := by
      rw [← Bool.not_eq_true]
      intro hblank
      exact Nat.not_lt.2 hge (lt_of_isBlank hblank)
    have hupper : c.toUpper = c := by
      apply toUpper_eq_self
      rw [← Bool.not_eq_true, isLower_iff]
      omega
    have hkept : c ∈ canonicalChars form := by
      rw [← hcanonical]
      exact List.mem_map.2 ⟨c, List.mem_filter.2 ⟨hc, by simp [hblank]⟩, hupper⟩
    -- but the form is of ASCII, and its canonical form with it
    obtain ⟨d, hd, hdc⟩ := List.mem_map.1 hkept
    have hlt := hform d (List.mem_filter.1 hd).1
    have hascii : d.toUpper.toNat < 128 :=
      forall_ascii (P := fun d => d.toUpper.toNat < 128) (by decide) hlt
    rw [hdc] at hascii
    omega
  · intro hnone
    have hascii : ∀ c ∈ piece, c.toNat < 128 := by
      intro c hc
      obtain ⟨d, hd, hmem⟩ := h.gives c hc
      apply Nat.lt_of_not_le
      intro hge
      exact hnone c hc (mem_foldedToAscii_iff.2 ⟨hge, d, hd, hform d hmem⟩)
    have hone : ∀ c ∈ piece, (upperChar c).length = 1 := by
      intro c hc
      rw [upperChar, if_pos (hascii c hc), List.length_singleton]
    rw [← canonicalChars_upper hascii, h.whole hone]

end BankCodes.Text
