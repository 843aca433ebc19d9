import BankCodes.Proofs.Bic.Completion

/-!
# Test codes

The test code of a BIC is made of its text: the mark of test codes is written in the place of the
mark, and the text is read anew. Reading does not fail, whatever the BIC is, and changes nothing
else:

    x.toTest = .ok x.asTest

* `Valid.testText_eq`: the text that is read is that of the test code;
* `Valid.toTest_eq`: every BIC has a test code;
* `Valid.asTest_eq_asTest_iff`: which BICs have the same one;
* `toTest_changes_mark_only`: all of this for the BICs that can be obtained.
-/

namespace BankCodes.Bic

/-! ## The place of the mark -/

/-- What stands before the mark. -/
def front (x : Bic) : List Char := x.institution.toList ++ x.country.code.toList ++ [x.site]

theorem toList_text_front (x : Bic) : x.text.toList = x.front ++ x.mark :: x.branch.toList := by
  simp [front]

theorem asTest_eq_self_iff {x : Bic} : x.asTest = x ↔ x.isTest = true := by
  constructor
  · intro h
    rw [← h]
    rfl
  · intro h
    have hmark : x.mark = testMark := eq_of_beq h
    show { x with mark := testMark } = x
    rw [← hmark]

section Valid

variable {x : Bic} (h : x.Valid)
include h

theorem Valid.length_front : x.front.length = markPlace := by
  simp [front, h.institution_length, markPlace]

/-- The test code has the text with another mark. -/
theorem Valid.toList_text_asTest : x.asTest.text.toList = x.text.toList.set markPlace testMark := by
  have hfront : x.asTest.text.toList = x.front ++ testMark :: x.branch.toList :=
    x.asTest.toList_text_front
  rw [hfront, x.toList_text_front, List.set_append_right _ _ (Nat.le_of_eq h.length_front),
    h.length_front, Nat.sub_self, List.set_cons_zero]

/-- The text that a test code is read from is its own. -/
theorem Valid.testText_eq : x.testText = x.asTest.text := by
  have hplace : markPlace < x.text.toList.length := by
    rw [h.length_text]
    decide
  rw [← String.toList_inj, testText, String.toList_ofList, h.toList_text_asTest,
    List.set_eq_take_append_cons_drop, if_pos hplace]

/-- Every BIC has a test code. -/
theorem Valid.toTest_eq : x.toTest = .ok x.asTest := by
  unfold toTest
  split
  · next htest => rw [asTest_eq_self_iff.2 htest]
  · rw [h.testText_eq]
    exact h.asTest.parse_text

/-- The mark is in its place. -/
theorem Valid.getElem?_markPlace : x.text.toList[markPlace]? = some x.mark := by
  rw [x.toList_text_front, ← h.length_front]
  simp

/-- BICs have the same test code if they differ in nothing but the mark. -/
theorem Valid.asTest_eq_asTest_iff {y : Bic} (hy : y.Valid) :
    x.asTest = y.asTest ↔ ∀ i, i ≠ markPlace → x.text.toList[i]? = y.text.toList[i]? := by
  constructor
  · intro hsame i hi
    have htext : x.asTest.text.toList[i]? = y.asTest.text.toList[i]? := by rw [hsame]
    rw [h.toList_text_asTest, hy.toList_text_asTest, List.getElem?_set_ne hi.symm,
      List.getElem?_set_ne hi.symm] at htext
    exact htext
  · intro hagree
    apply h.asTest.ext_text hy.asTest
    rw [← String.toList_inj, h.toList_text_asTest, hy.toList_text_asTest]
    apply List.ext_getElem?
    intro i
    by_cases hi : markPlace = i
    · rw [List.getElem?_set, List.getElem?_set, h.length_text, hy.length_text]
      simp [hi]
    · rw [List.getElem?_set_ne hi, List.getElem?_set_ne hi, hagree i (Ne.symm hi)]

end Valid

/-! ## Every BIC -/

/-- What a BIC and its test code have in common, and the mark that the test code has. -/
structure TestCodeOf (x y : Bic) : Prop where
  institution : y.institution = x.institution
  country : y.country = x.country
  site : y.site = x.site
  mark : y.mark = testMark
  branch : y.branch = x.branch
  isTest : y.isTest = true
  text : y.text.toList = x.text.toList.set markPlace testMark

theorem Valid.testCodeOf_asTest {x : Bic} (h : x.Valid) : TestCodeOf x x.asTest :=
  ⟨rfl, rfl, rfl, rfl, rfl, rfl, h.toList_text_asTest⟩

/-- A BIC, however it has been obtained, either is a test code or is in use, by the mark in its
text. Its test code is made without fail, and is again a BIC that differs in nothing but the mark.
It is the BIC itself if and only if this is a test code, and so it is its own test code. Two BICs
have the same test code if and only if their texts agree everywhere but in the place of the mark. -/
theorem toTest_changes_mark_only (x : Bic) (hx : Identifier.Obtained (.bic x)) :
    (x.isTest = true ↔ x.text.toList[markPlace]? = some testMark) ∧
    (x.isTest = true ∧ x.isLive = false ∨ x.isTest = false ∧ x.isLive = true) ∧
    (∃ y, x.toTest = .ok y ∧ Identifier.Obtained (.bic y) ∧ TestCodeOf x y ∧ y.toTest = .ok y ∧
      (y = x ↔ x.isTest = true)) ∧
    ∀ x', Identifier.Obtained (.bic x') →
      (x.toTest = x'.toTest ↔ ∀ i, i ≠ markPlace → x.text.toList[i]? = x'.text.toList[i]?) := by
  have hvalid : x.Valid := hx.sound
  refine ⟨?_, ?_, ?_, ?_⟩
  · rw [hvalid.getElem?_markPlace, Option.some.injEq]
    exact beq_iff_eq
  · unfold isLive
    cases x.isTest with
    | true => exact .inl ⟨rfl, rfl⟩
    | false => exact .inr ⟨rfl, rfl⟩
  · refine ⟨x.asTest, hvalid.toTest_eq, .asTest hx, hvalid.testCodeOf_asTest, ?_,
      asTest_eq_self_iff⟩
    exact hvalid.asTest.toTest_eq
  · intro x' hx'
    have hvalid' : x'.Valid := hx'.sound
    rw [hvalid.toTest_eq, hvalid'.toTest_eq, Except.ok.injEq]
    exact hvalid.asTest_eq_asTest_iff hvalid'

/-- Two codes in use that differ in the mark. -/
theorem toTest_changes_mark_only_sample :
    ∃ x x' y, Identifier.Obtained (.bic x) ∧ Identifier.Obtained (.bic x') ∧
      x.text = "DEUTDEFF500" ∧ x'.text = "DEUTDEFL500" ∧ x.toTest = .ok y ∧ x'.toTest = .ok y ∧
      y ≠ x ∧ y.text = "DEUTDEF0500" := by
  obtain ⟨x, hx⟩ : ∃ x, parse "deut de ff 500" = .ok x := exists_eq_ok (by decide +kernel)
  obtain ⟨x', hx'⟩ : ∃ x, parse "DEUTDEFL500" = .ok x := exists_eq_ok (by decide +kernel)
  have htext : x.text.toList = "DEUTDEFF500".toList := by
    rw [(parse_eq_ok_iff.1 hx).2]
    decide +kernel
  have htext' : x'.text.toList = "DEUTDEFF500".toList.set markPlace 'L' := by
    rw [(parse_eq_ok_iff.1 hx').2]
    decide +kernel
  obtain ⟨hmark, -, ⟨y, hy, -, hcode, -, hself⟩, hsame⟩ :=
    toTest_changes_mark_only x (.of_parse_bic hx)
  refine ⟨x, x', y, .of_parse_bic hx, .of_parse_bic hx', String.toList_inj.1 htext, ?_, hy, ?_,
    ?_, ?_⟩
  · rw [← String.toList_inj, htext']
    decide +kernel
  · rw [← hy, eq_comm]
    apply (hsame x' (.of_parse_bic hx')).2
    intro i hi
    rw [htext, htext', List.getElem?_set_ne hi.symm]
  · rw [ne_eq, hself, hmark, htext]
    decide +kernel
  · rw [← String.toList_inj, hcode.text, htext]
    decide +kernel

end BankCodes.Bic
