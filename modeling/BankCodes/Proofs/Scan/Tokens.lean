import BankCodes.Proofs.Bic.Acceptance
import BankCodes.Proofs.CreditorIdentifier.Acceptance
import BankCodes.Proofs.Scan.Recall
import BankCodes.Proofs.Scan.Order
import BankCodes.Proofs.Text.Occurrences
import BankCodes.Proofs.Text.UpperCase

/-!
# What is found, word by word

The sites of a text are words of a shape, but the shapes come from expressions that are searched for
in the text, between borders of words:

    \b[A-Z]{2}\d{2}[A-Z0-9]{1,30}\b
    \b[A-Z]{2}\d{2}[A-Z0-9]{3}[A-Z0-9]{1,28}\b
    \b[A-Z]{4}[A-Z]{2}[A-Z0-9]{2}([A-Z0-9]{3})?\b

The occurrences of each are the words of its shape (`compactSites_eq_occurrences`), and every word
that is a valid identifier has the shape. So a search finds what is found by taking the words of the
text one by one and asking whether each is valid (`found_of_words`).
-/

namespace BankCodes.Scan

open Text Text.Expression

/-! ## The expressions -/

/-- `[A-Z]{2}\d{2}` -/
def headExpression : Expression := (exactly 2 Char.isUpper).andThen (exactly 2 isDecimal)

/-- `\b[A-Z]{2}\d{2}[A-Z0-9]{1,30}\b` -/
def ibanExpression : Expression := word (headExpression.andThen (between 1 30 isCapitalOrDigit))

/-- `\b[A-Z]{2}\d{2}[A-Z0-9]{3}[A-Z0-9]{1,28}\b` -/
def creditorExpression : Expression :=
  word (headExpression.andThen
    ((exactly 3 isCapitalOrDigit).andThen (between 1 28 isCapitalOrDigit)))

/-- `\b[A-Z]{4}[A-Z]{2}[A-Z0-9]{2}([A-Z0-9]{3})?\b` -/
def bicExpression : Expression :=
  word ((exactly 4 Char.isUpper).andThen ((exactly 2 Char.isUpper).andThen
    ((exactly 2 isCapitalOrDigit).andThen (optional (exactly 3 isCapitalOrDigit)))))

/-- An occurrence, as a site with its text for the only candidate. -/
def siteOf (o : Occurrence) : Site := ⟨o.start, [o.chars]⟩

theorem reads_headExpression : headExpression.Reads {cs | IsHead cs} := by
  apply ((reads_exactly 2 Char.isUpper).andThen (reads_exactly 2 isDecimal)).congr
  intro cs
  constructor
  · rintro ⟨letters, ⟨hlen, hletters⟩, digits, ⟨hlen', hdigits⟩, rfl⟩
    refine ⟨?_, ?_, ?_⟩
    · rw [List.length_append, hlen, hlen']
    · rwa [List.take_left' hlen]
    · rwa [List.drop_left' hlen]
  · intro h
    have hlen := h.length_eq
    refine ⟨cs.take 2, ⟨?_, h.letters⟩, cs.drop 2, ⟨?_, h.digits⟩, List.take_append_drop 2 cs⟩
    · rw [List.length_take]
      omega
    · rw [List.length_drop]
      omega

/-- A head before so many capitals and digits. -/
theorem reads_shape {e : Expression} {least most : Nat}
    (he : e.Reads
      {cs | (least ≤ cs.length ∧ cs.length ≤ most) ∧ ∀ c ∈ cs, isCapitalOrDigit c = true}) :
    (headExpression.andThen e).Reads {cs | hasShape least most cs = true} := by
  apply (reads_headExpression.andThen he).congr
  intro cs
  show _ ↔ hasShape least most cs = true
  rw [hasShape_iff]
  constructor
  · rintro ⟨head, hhead, rest, ⟨hlen, hall⟩, rfl⟩
    exact ⟨head, rest, rfl, hhead, hlen, hall⟩
  · rintro ⟨head, rest, rfl, hhead, hlen, hall⟩
    exact ⟨head, hhead, rest, ⟨hlen, hall⟩, rfl⟩

theorem reads_creditorBody :
    ((exactly 3 isCapitalOrDigit).andThen (between 1 28 isCapitalOrDigit)).Reads
      {cs | (4 ≤ cs.length ∧ cs.length ≤ 31) ∧ ∀ c ∈ cs, isCapitalOrDigit c = true} := by
  apply ((reads_exactly 3 isCapitalOrDigit).andThen (reads_between 1 28 isCapitalOrDigit)).congr
  intro cs
  constructor
  · rintro ⟨business, ⟨hlen, hall⟩, body, ⟨⟨hge, hle⟩, hall'⟩, rfl⟩
    refine ⟨?_, fun c hc => (List.mem_append.1 hc).elim (hall c) (hall' c)⟩
    rw [List.length_append]
    omega
  · intro ⟨⟨hge, hle⟩, hall⟩
    refine ⟨cs.take 3, ⟨?_, fun c hc => hall c (List.mem_of_mem_take hc)⟩, cs.drop 3, ⟨?_,
      fun c hc => hall c (List.mem_of_mem_drop hc)⟩, List.take_append_drop 3 cs⟩
    · rw [List.length_take]
      omega
    · rw [List.length_drop]
      omega

theorem isBicWord_iff {cs : List Char} : isBicWord cs = true ↔ Bic.WellFormed cs := by
  simp only [isBicWord, Bool.and_eq_true, Bool.or_eq_true, beq_iff_eq, List.all_eq_true,
    isCapitalOrDigit_iff]
  constructor
  · intro ⟨⟨hlen, hletters⟩, hsymbols⟩
    exact ⟨hletters, hsymbols, hlen⟩
  · intro ⟨hletters, hsymbols, hlen⟩
    exact ⟨⟨hlen, hletters⟩, hsymbols⟩

theorem reads_bic :
    ((exactly 4 Char.isUpper).andThen ((exactly 2 Char.isUpper).andThen
      ((exactly 2 isCapitalOrDigit).andThen (optional (exactly 3 isCapitalOrDigit))))).Reads
      {cs | isBicWord cs = true} := by
  have hbranch := (reads_exactly 3 isCapitalOrDigit).optional (by rintro ⟨⟨⟩, -⟩)
  apply ((reads_exactly 4 Char.isUpper).andThen ((reads_exactly 2 Char.isUpper).andThen
    ((reads_exactly 2 isCapitalOrDigit).andThen hbranch))).congr
  intro cs
  show _ ↔ isBicWord cs = true
  rw [isBicWord_iff]
  constructor
  · rintro ⟨bank, ⟨hbank, hletters⟩, _, ⟨country, ⟨hcountry, hletters'⟩, _, ⟨location,
      ⟨hlocation, hsymbols⟩, branch, hbranch, rfl⟩, rfl⟩, rfl⟩
    have hsix : (bank ++ country).length = 6 := by rw [List.length_append, hbank, hcountry]
    have hcut : bank ++ (country ++ (location ++ branch)) =
        (bank ++ country) ++ (location ++ branch) := (List.append_assoc _ _ _).symm
    show Bic.WellFormed (bank ++ (country ++ (location ++ branch)))
    rw [hcut]
    refine ⟨?_, ?_, ?_⟩
    · rw [List.take_left' hsix]
      exact fun c hc => (List.mem_append.1 hc).elim (hletters c) (hletters' c)
    · rw [List.drop_left' hsix]
      intro c hc
      rw [← isCapitalOrDigit_iff]
      rcases List.mem_append.1 hc with hc | hc
      · exact hsymbols c hc
      · rcases hbranch with rfl | ⟨-, hall⟩
        · cases hc
        · exact hall c hc
    · simp only [List.length_append, hbank, hcountry, hlocation]
      rcases hbranch with rfl | ⟨hlen, -⟩
      · exact .inl rfl
      · exact .inr (by rw [hlen])
  · intro ⟨hletters, hsymbols, hlen⟩
    have hfour : cs.take 6 = cs.take 4 ++ (cs.drop 4).take 2 := List.take_add (i := 4) (j := 2)
    have hrest : cs.drop 6 = (cs.drop 6).take 2 ++ cs.drop 8 := by
      rw [← List.drop_drop (i := 2) (j := 6), List.take_append_drop]
    have hsymbols : ∀ c ∈ cs.drop 6, isCapitalOrDigit c = true := fun c hc =>
      isCapitalOrDigit_iff.2 (hsymbols c hc)
    rw [hfour, List.forall_mem_append] at hletters
    rw [hrest, List.forall_mem_append] at hsymbols
    refine ⟨cs.take 4, ⟨?_, hletters.1⟩, cs.drop 4, ⟨(cs.drop 4).take 2, ⟨?_, hletters.2⟩,
      cs.drop 6, ⟨(cs.drop 6).take 2, ⟨?_, hsymbols.1⟩, cs.drop 8, ?_, hrest.symm⟩, ?_⟩,
      List.take_append_drop 4 cs⟩
    · rw [List.length_take]
      omega
    · rw [List.length_take, List.length_drop]
      omega
    · rw [List.length_take, List.length_drop]
      omega
    · rcases hlen with hlen | hlen
      · exact .inl (List.drop_eq_nil_iff.2 (Nat.le_of_eq hlen))
      · exact .inr ⟨by rw [List.length_drop, hlen], hsymbols.2⟩
    · show (cs.drop 4).take 2 ++ cs.drop 6 = cs.drop 4
      rw [← List.drop_drop (i := 2) (j := 4), List.take_append_drop]

/-! ## Occurrences and words -/

/-- A shape that only words have. -/
def WordShape (shape : List Char → Bool) : Prop :=
  ∀ cs, shape cs = true → cs ≠ [] ∧ ∀ c ∈ cs, isWordChar c = true

theorem wordShape_hasShape (least most : Nat) : WordShape (hasShape least most) := by
  intro cs hshape
  constructor
  · rintro rfl
    cases hshape
  · intro c hc
    rcases symbols_of_hasShape hshape c hc with hc | hc
    · exact isWordChar_of_isDecimal hc
    · exact isWordChar_of_isCapitalOrDigit hc

theorem wordShape_isBicWord : WordShape isBicWord := by
  intro cs hshape
  have hwell := isBicWord_iff.1 hshape
  constructor
  · rintro rfl
    cases hshape
  · exact fun c hc => isWordChar_of_isAlphanum (isAlphanum_of_capital (hwell.capitals c hc))

/-- The sites of a shape are the occurrences of its expression. -/
theorem compactSites_eq_occurrences {e : Expression} {shape : List Char → Bool}
    (he : e.Reads {cs | shape cs = true}) (hshape : WordShape shape) (cs : List Char) :
    compactSites shape (words cs) = ((word e).occurrences cs).map siteOf := by
  rw [occurrences_word he hshape, List.map_map]
  rfl

/-! ## What a search finds at whole words -/

/-- The words of a text, as texts. -/
def wordTexts (cs : List Char) : List String := (words cs).map (String.ofList ·.chars)

section Search

variable {kind : String} {read : String → Except Failure String} {shape : List Char → Bool}

/-- A search at the words of a shape reads these words in their order. -/
theorem found_compactSites (cs : List Char) :
    (search kind read (compactSites shape (words cs))).found =
      (((words cs).filter (shape ·.chars)).filterMap fun w =>
        (read (String.ofList w.chars)).toOption).eraseDups := by
  obtain ⟨tail, hlaid⟩ := laid_words cs
  have hsorted : (compactSites shape (words cs)).Pairwise fun a b => a.start < b.start :=
    List.pairwise_map.2 (hlaid.pairwise_start.sublist List.filter_sublist)
  rw [found_eq_of_perm (List.Perm.refl _) hsorted, compactSites, List.filterMap_map,
    List.map_filterMap]
  -- a site of one word gives what the word is read as
  have hsite : ∀ w : Word, (hit? read ⟨w.start, [w.chars]⟩).map Hit.text =
      (read (String.ofList w.chars)).toOption := by
    intro w
    unfold hit? firstAccepted
    cases read (String.ofList w.chars) <;> rfl
  simp only [Function.comp_apply, hsite]

/-- If the words that are read as something are told by another property, the shape is of no
account. -/
theorem found_eq_of_keep {cs : List Char} {keep : String → Bool}
    (h : ∀ w ∈ words cs, ∀ t, read (String.ofList w.chars) = .ok t →
      (shape w.chars = true ↔ keep (String.ofList w.chars) = true)) :
    (search kind read (compactSites shape (words cs))).found =
      (((wordTexts cs).filter keep).filterMap fun s => (read s).toOption).eraseDups := by
  rw [found_compactSites, wordTexts, List.filter_map, List.filterMap_map, List.filterMap_filter,
    List.filterMap_filter]
  congr 1
  apply List.filterMap_congr
  intro w hw
  have hw := h w hw
  simp only [Function.comp_apply]
  cases hread : read (String.ofList w.chars) with
  | error failure => simp [Except.toOption]
  | ok t =>
    have hiff := hw t hread
    simp only [hiff]

end Search

/-! ## Valid words -/

/-- The verdict on a text of a kind. -/
def isValid (kind : Kind) (s : String) : Bool :=
  match Verdict.on kind none (some s) with
  | .ok verdict => verdict.valid
  | .error _ => false

/-- Valid are the texts that are read as an identifier. -/
theorem isValid_iff {kind : Kind} {s : String} :
    isValid kind s = true ↔ ∃ x, Identifier.parse kind none s = .ok x := by
  unfold isValid
  rw [Verdict.on]
  cases Identifier.parse kind none s with
  | ok x => simp [Verdict.ofResult]
  | error failure => cases failure <;> simp [Verdict.ofResult]

theorem isValid_iban_iff {s : String} : isValid .iban s = true ↔ ∃ x, Iban.parse s = .ok x :=
  isValid_iff.trans exists_map_eq_ok_iff

theorem isValid_bic_iff {s : String} : isValid .bic s = true ↔ ∃ x, Bic.parse s = .ok x :=
  isValid_iff.trans exists_map_eq_ok_iff

theorem isValid_creditor_iff {s : String} :
    isValid .creditor s = true ↔ ∃ x, CreditorIdentifier.parse s = .ok x :=
  isValid_iff.trans exists_map_eq_ok_iff

/-- A word of an upper-case form is its own canonical form. -/
theorem canonicalChars_of_mem_words {cs : List Char} {w : Word} (hw : w ∈ words (upper cs)) :
    canonicalChars w.chars = w.chars := by
  apply canonicalChars_eq_self
  intro c hc
  constructor
  · have hword := isWordChar_of_mem_words w hw c hc
    rw [← Bool.not_eq_true]
    intro hblank
    have hnot := forall_ascii (P := fun c => isBlank c = true → isWordChar c = false) (by decide)
      (lt_of_isBlank hblank) hblank
    rw [hword] at hnot
    cases hnot
  · exact toUpper_eq_self (isLower_of_mem_upper (mem_of_mem_words hw c hc))

theorem canonical_of_mem_words {cs : List Char} {w : Word} (hw : w ∈ words (upper cs)) :
    canonical (String.ofList w.chars) = String.ofList w.chars := by
  rw [canonical, String.toList_ofList, canonicalChars_of_mem_words hw]

/-- A text with the general form of creditor identifiers has the shape of one. -/
theorem isCreditorWord_of_wellFormed {cs : List Char} (h : CreditorIdentifier.WellFormed cs) :
    isCreditorWord cs = true := by
  obtain ⟨hletters, hdigits, hsymbols, hlt, hle⟩ := h
  refine hasShape_iff.2 ⟨cs.take 4, cs.drop 4, (List.take_append_drop 4 cs).symm, ⟨?_, ?_, ?_⟩,
    ⟨?_, ?_⟩, fun c hc => isCapitalOrDigit_iff.2 (hsymbols c hc)⟩
  · rw [List.length_take]
    omega
  · rwa [List.take_take]
  · rw [List.drop_take]
    exact fun c hc => isDecimal_of_isDigit (hdigits c hc)
  · rw [List.length_drop]
    omega
  · rw [List.length_drop]
    omega

/-- A valid creditor identifier in its canonical form has the shape of one. -/
theorem isCreditorWord_of_isValid {cs : List Char} (hcs : canonicalChars cs = cs)
    (h : isValid .creditor (String.ofList cs) = true) : isCreditorWord cs = true := by
  obtain ⟨y, hy⟩ := isValid_creditor_iff.1 h
  obtain ⟨hvalid, htext⟩ := CreditorIdentifier.parse_eq_ok_iff.1 hy
  have hwell := hvalid.wellFormed
  rw [htext, toList_canonical, String.toList_ofList, hcs] at hwell
  exact isCreditorWord_of_wellFormed hwell

/-- A valid IBAN in its canonical form has the shape of one. -/
theorem isIbanWord_of_isValid {cs : List Char} (hcs : canonicalChars cs = cs)
    (h : isValid .iban (String.ofList cs) = true) : isIbanWord cs = true := by
  obtain ⟨x, hx⟩ := isValid_iban_iff.1 h
  obtain ⟨hvalid, htext⟩ := Iban.parse_eq_ok_iff.1 hx
  have hshape := isIbanWord_of_valid hvalid
  rwa [htext, toList_canonical, String.toList_ofList, hcs] at hshape

/-- A BIC is valid in its canonical form. -/
def isCanonicalBic (s : String) : Bool := canonical s == s && isValid .bic s

theorem isBicWord_of_isCanonicalBic {cs : List Char}
    (h : isCanonicalBic (String.ofList cs) = true) : isBicWord cs = true := by
  obtain ⟨hcanonical, hvalid⟩ := Bool.and_eq_true_iff.1 h
  obtain ⟨x, hx⟩ := isValid_bic_iff.1 hvalid
  have hwell := Bic.wellFormed_of_parse_eq_ok hx
  rw [← toList_canonical, eq_of_beq hcanonical, String.toList_ofList] at hwell
  exact isBicWord_iff.2 hwell

/-! ## The three searches -/

/-- Creditor identifiers are found at the words that are valid, and as these words are. -/
theorem found_creditorIdentifiers (text : String) :
    (creditorIdentifiers text).found =
      ((wordTexts (upper text.toList)).filter (isValid .creditor)).eraseDups := by
  have hfound : (creditorIdentifiers text).found =
      (((wordTexts (upper text.toList)).filter (isValid .creditor)).filterMap fun s =>
        ((CreditorIdentifier.parse s).map CreditorIdentifier.text).toOption).eraseDups := by
    apply found_eq_of_keep
    intro w hw t ht
    have hvalid := isValid_creditor_iff.2 (exists_map_eq_ok_iff.1 ⟨t, ht⟩)
    exact iff_of_true (isCreditorWord_of_isValid (canonicalChars_of_mem_words hw) hvalid) hvalid
  -- a valid word is read as itself
  have hself : ∀ s ∈ (wordTexts (upper text.toList)).filter (isValid .creditor),
      ((CreditorIdentifier.parse s).map CreditorIdentifier.text).toOption = some s := by
    intro s hs
    obtain ⟨hs, hvalid⟩ := List.mem_filter.1 hs
    obtain ⟨w, hw, rfl⟩ := List.mem_map.1 hs
    obtain ⟨y, hy⟩ := isValid_creditor_iff.1 hvalid
    have htext := (CreditorIdentifier.parse_eq_ok_iff.1 hy).2
    rw [canonical_of_mem_words hw] at htext
    rw [hy, ← htext]
    rfl
  rw [hfound, List.filterMap_congr hself, List.filterMap_some]

/-- BICs are found at the words that are valid as they stand, and in their full form. -/
theorem found_bics (text : String) :
    (bics text).found =
      (((wordTexts text.toList).filter isCanonicalBic).filterMap fun s =>
        ((Bic.parse s).map Bic.text).toOption).eraseDups := by
  apply found_eq_of_keep
  intro w hw t ht
  have hvalid := isValid_bic_iff.2 (exists_map_eq_ok_iff.1 ⟨t, ht⟩)
  constructor
  · intro hshape
    have hcanonical := canonicalChars_of_capitals (isBicWord_iff.1 hshape).capitals
    rw [isCanonicalBic, canonical, String.toList_ofList, hcanonical, hvalid, beq_self_eq_true]
    rfl
  · exact isBicWord_of_isCanonicalBic

/-- An IBAN is found at each word that is one. -/
theorem mem_found_of_isValid (text : String) {s : String} (hs : s ∈ wordTexts (upper text.toList))
    (hvalid : isValid .iban s = true) : s ∈ (ibans text).found := by
  obtain ⟨w, hw, rfl⟩ := List.mem_map.1 hs
  have hshape := isIbanWord_of_isValid (canonicalChars_of_mem_words hw) hvalid
  obtain ⟨x, hx⟩ := isValid_iban_iff.1 hvalid
  have htext := (Iban.parse_eq_ok_iff.1 hx).2
  rw [canonical_of_mem_words hw] at htext
  show _ ∈ (search _ _ (_ ++ _)).found
  rw [mem_found]
  refine ⟨⟨w.start, [w.chars]⟩, List.mem_append_right _ ?_, ?_⟩
  · exact List.mem_map.2 ⟨w, List.mem_filter.2 ⟨hw, hshape⟩, rfl⟩
  · rw [firstAccepted_singleton, hx, ← htext]
    rfl

/-- The expression takes whole words, and leaves out none that is valid. -/
structure Tokenizes (e : Expression) (shape : List Char → Bool) (valid : String → Bool)
    (cs : List Char) : Prop where
  sites : compactSites shape (words cs) = (e.occurrences cs).map siteOf
  whole : ∀ o ∈ e.occurrences cs, ∃ w ∈ words cs, w.start = o.start ∧ w.chars = o.chars
  kept : ∀ w ∈ words cs, valid (String.ofList w.chars) = true →
    ⟨w.start, w.chars⟩ ∈ e.occurrences cs

theorem tokenizes_word {e : Expression} {shape : List Char → Bool} {valid : String → Bool}
    {cs : List Char} (he : e.Reads {cs | shape cs = true}) (hshape : WordShape shape)
    (hvalid : ∀ w ∈ words cs, valid (String.ofList w.chars) = true → shape w.chars = true) :
    Tokenizes (word e) shape valid cs := by
  refine ⟨compactSites_eq_occurrences he hshape cs, ?_, ?_⟩
  · rw [occurrences_word he hshape]
    intro o ho
    obtain ⟨w, hw, rfl⟩ := List.mem_map.1 ho
    exact ⟨w, (List.mem_filter.1 hw).1, rfl, rfl⟩
  · rw [occurrences_word he hshape]
    intro w hw hword
    exact List.mem_map.2 ⟨w, List.mem_filter.2 ⟨hw, hvalid w hw hword⟩, rfl⟩

/-- What is found in a text are its words that are valid: all of them that are creditor identifiers
in capitals and all that are BICs as they stand, each once and in their order, and all IBANs in
capitals among others. The candidates are the occurrences of the three expressions, which are whole
words, and every valid word is one. -/
theorem found_of_words (text : String) :
    (creditorIdentifiers text).found =
        ((wordTexts (upper text.toList)).filter (isValid .creditor)).eraseDups ∧
      (bics text).found =
        (((wordTexts text.toList).filter isCanonicalBic).filterMap fun s =>
          ((Bic.parse s).map Bic.text).toOption).eraseDups ∧
      (∀ s ∈ wordTexts (upper text.toList), isValid .iban s = true → s ∈ (ibans text).found) ∧
      Tokenizes creditorExpression isCreditorWord (isValid .creditor) (upper text.toList) ∧
      Tokenizes bicExpression isBicWord isCanonicalBic text.toList ∧
      Tokenizes ibanExpression isIbanWord (isValid .iban) (upper text.toList) := by
  refine ⟨found_creditorIdentifiers text, found_bics text, fun s => mem_found_of_isValid text,
    ?_, ?_, ?_⟩
  · exact tokenizes_word (reads_shape reads_creditorBody) (wordShape_hasShape 4 31)
      fun w hw => isCreditorWord_of_isValid (canonicalChars_of_mem_words hw)
  · exact tokenizes_word reads_bic wordShape_isBicWord fun w _ => isBicWord_of_isCanonicalBic
  · exact tokenizes_word (reads_shape (reads_between 1 30 isCapitalOrDigit))
      (wordShape_hasShape 1 30) fun w hw => isIbanWord_of_isValid (canonicalChars_of_mem_words hw)

/-- A creditor identifier twice, and once with a letter before it, which makes another word; a BIC in
small letters, which is none, and in capitals; and an IBAN, which is an occurrence of its
expression. -/
theorem found_of_words_sample :
    let text := "xde98zzz09999999999, de98zzz09999999999 (DE98ZZZ09999999999) deutdeff DEUTDEFF " ++
      "gb82west12345698765432"
    (creditorIdentifiers text).found = ["DE98ZZZ09999999999"] ∧
    (bics text).found = ["DEUTDEFFXXX"] ∧
    "GB82WEST12345698765432" ∈ (ibans text).found ∧
    ∃ o ∈ ibanExpression.occurrences (upper text.toList),
      String.ofList o.chars = "GB82WEST12345698765432" := by
  intro text
  obtain ⟨hcreditors, hbics, hibans, -, -, htokens⟩ := found_of_words text
  have hword : "GB82WEST12345698765432" ∈ wordTexts (upper text.toList) := by decide +kernel
  have hvalid : isValid .iban "GB82WEST12345698765432" = true := by decide +kernel
  refine ⟨?_, ?_, hibans _ hword hvalid, ?_⟩
  · rw [hcreditors]
    decide +kernel
  · rw [hbics]
    decide +kernel
  · obtain ⟨w, hw, hchars⟩ := List.mem_map.1 hword
    exact ⟨_, htokens.kept w hw (hchars ▸ hvalid), hchars⟩

end BankCodes.Scan
