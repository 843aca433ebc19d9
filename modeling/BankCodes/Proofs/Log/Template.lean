import BankCodes.Log.Template
import Mathlib.Data.List.Forall2

/-!
# Templates and the messages they make

A template is taken apart without loss, and marks are found from left to right. A template whose
marks ask for nothing but the texts of its arguments takes as many arguments as it has marks:

    format (p ++ "%s" ++ q₁ ++ ⋯ ++ "%s" ++ qₙ) [v₁, …, vₙ] = p ++ v₁ ++ q₁ ++ ⋯ ++ vₙ ++ qₙ

With fewer or with more arguments there is no message, and the misfit says so.

* `flatMap_text_parts`: the parts of a template are the template;
* `parts_append`, `parts_plain`: how a template is cut;
* `run_write_plain`: what is written for one mark;
* `format_shown`: the law above.
-/

namespace BankCodes.Log

open Text

namespace Template

/-! ## Nothing is lost -/

theorem text_readSize (cs : List Char) : (readSize cs).1.text ++ (readSize cs).2 = cs := by
  unfold readSize
  split
  · rfl
  · exact List.takeWhile_append_dropWhile

theorem text_readPrecision (cs : List Char) :
    precisionText (readPrecision cs).1 ++ (readPrecision cs).2 = cs := by
  unfold readPrecision
  split
  · next cs => exact congrArg ('.' :: ·) (text_readSize cs)
  · rfl

theorem text_readSizeLetter (cs : List Char) :
    (readSizeLetter cs).1 ++ (readSizeLetter cs).2 = cs := by
  unfold readSizeLetter
  split
  · rfl
  · split <;> rfl

/-- A name up to its closing parenthesis is a front of what is read. -/
theorem name_readName (depth : Nat) (cs : List Char) :
    (readName depth cs).1 ++ ((readName depth cs).2.map (')' :: ·)).getD [] = cs := by
  induction cs generalizing depth with
  | nil => rfl
  | cons c cs ih =>
    unfold readName
    split
    · next hclose =>
      obtain rfl : c = ')' := by simp_all
      rfl
    · exact congrArg (c :: ·) (ih _)

theorem text_readBehindKey (key : Option Key) (cs : List Char) :
    ∃ rest, (key.map Key.text).getD [] ++ cs = (readBehindKey key cs).text ++ rest := by
  let behindFlags := cs.dropWhile isFlag
  let behindWidth := (readSize behindFlags).2
  let behindPrecision := (readPrecision behindWidth).2
  let behindSize := (readSizeLetter behindPrecision).2
  have hletter : behindSize = behindSize.head?.toList ++ behindSize.drop 1 := by
    cases behindSize <;> rfl
  refine ⟨behindSize.drop 1, ?_⟩
  calc (key.map Key.text).getD [] ++ cs
      = (key.map Key.text).getD [] ++ (cs.takeWhile isFlag ++ behindFlags) := by
        rw [List.takeWhile_append_dropWhile]
    _ = (key.map Key.text).getD [] ++ (cs.takeWhile isFlag ++ ((readSize behindFlags).1.text ++
          (precisionText (readPrecision behindWidth).1 ++
            ((readSizeLetter behindPrecision).1 ++
              (behindSize.head?.toList ++ behindSize.drop 1))))) := by
        rw [← hletter, text_readSizeLetter, text_readPrecision, text_readSize]
    _ = (readBehindKey key cs).text ++ behindSize.drop 1 := by
        simp only [readBehindKey, Mark.text, List.append_assoc]
        rfl

/-- What is read of a mark is a front of what stands behind the percent sign. -/
theorem text_readMark (cs : List Char) : ∃ rest, cs = (readMark cs).text ++ rest := by
  unfold readMark
  split
  · next cs =>
    have hname := name_readName 0 cs
    split
    · next name rest hread =>
      obtain ⟨behind, hbehind⟩ := text_readBehindKey (some ⟨name, true⟩) rest
      refine ⟨behind, ?_⟩
      rw [hread] at hname
      rw [← hbehind, ← hname]
      simp [Key.text]
    · next name hread =>
      refine ⟨[], ?_⟩
      rw [hread] at hname
      rw [← hname]
      simp [Mark.text, Key.text, Size.text, precisionText]
  · exact text_readBehindKey none cs

theorem flatMap_text_partsFrom (skip : Nat) (cs : List Char) :
    (partsFrom skip cs).flatMap Part.text = cs.drop skip := by
  fun_induction partsFrom skip cs with
  | case1 skip => rw [List.flatMap_nil, List.drop_nil]
  | case2 c cs skip ih => exact ih
  | case3 c cs _ ih =>
    rw [List.flatMap_cons, ih]
    rfl
  | case4 c cs hmark htwo ih =>
    obtain rfl : c = '%' := Decidable.not_not.1 hmark
    obtain ⟨rest, rfl⟩ := List.head?_eq_some_iff.1 htwo
    rw [List.flatMap_cons, ih]
    rfl
  | case5 c cs hmark _ ih =>
    obtain rfl : c = '%' := Decidable.not_not.1 hmark
    obtain ⟨rest, hrest⟩ := text_readMark cs
    have hdrop : (readMark cs).text ++ cs.drop (readMark cs).text.length = cs := by
      generalize (readMark cs).text = text at hrest
      rw [hrest, List.drop_left]
    rw [List.flatMap_cons, ih, Part.text, List.cons_append, hdrop]
    rfl

/-- The parts of a template, written as they were, are the template. -/
theorem flatMap_text_parts (template : List Char) :
    (parts template).flatMap Part.text = template :=
  flatMap_text_partsFrom 0 template

/-! ## Plain marks -/

/-- The mark with nothing but a letter. -/
def plainMark (letter : Char) : Mark := ⟨none, [], .numeral [], none, [], some letter⟩

/-- What stands before the first percent sign is written as it is. -/
theorem parts_append {p : List Char} (hp : '%' ∉ p) (cs : List Char) :
    parts (p ++ cs) = p.map .char ++ parts cs := by
  induction p with
  | nil => rfl
  | cons c p ih =>
    rw [List.mem_cons, not_or] at hp
    have hc : c ≠ '%' := fun h => hp.1 h.symm
    rw [List.cons_append, parts, partsFrom, if_pos hc]
    exact congrArg (.char c :: ·) (ih hp.2)

theorem parts_plain (cs : List Char) :
    parts ('%' :: 's' :: cs) = .mark (plainMark 's') :: parts cs := rfl

/-- The text of a value is written for its mark, and the value is used up. -/
theorem run_write_plain (table : Option (List (String × Argument))) (place : Nat) (v : Argument)
    (vs : List Argument) :
    ((plainMark 's').write table place).run (v :: vs) = v.shown.map (·, vs) := by
  have hrun : ((plainMark 's').write table place).run (v :: vs) =
      (field [] none 's' (place + 1) v).map fun f => (f.padded [] 0, vs) := by
    simp [Mark.write, plainMark, select, Size.value, next, numeralValue, Mark.text, Size.text,
      precisionText]
    rfl
  have hfield : field [] none 's' (place + 1) v = v.shown.map (textField none) := by
    show (v.shown >>= fun cs => pure (textField none cs)) = _
    cases v.shown <;> rfl
  rw [hrun, hfield]
  cases v.shown with
  | error misfit => rfl
  | ok cs => simp [Except.map, textField, Field.padded]

theorem run_write_plain_nil (table : Option (List (String × Argument))) (place : Nat) :
    ((plainMark 's').write table place).run [] = .error .tooFew := rfl

/-! ## Templates of plain marks -/

theorem run_writeFrom_cons (table : Option (List (String × Argument))) (place : Nat) (p : Part)
    (ps : List Part) (vs : List Argument) :
    (writeFrom table place (p :: ps)).run vs = (p.write table place).run vs >>= fun r =>
      ((writeFrom table (place + p.text.length) ps).run r.2).map fun s => (r.1 ++ s.1, s.2) := by
  rw [writeFrom, StateT.run_bind]
  rfl

theorem run_writeFrom_chars (table : Option (List (String × Argument))) (place : Nat)
    (cs : List Char) (ps : List Part) (vs : List Argument) :
    ∃ place', (writeFrom table place (cs.map .char ++ ps)).run vs =
      ((writeFrom table place' ps).run vs).map fun r => (cs ++ r.1, r.2) := by
  induction cs generalizing place with
  | nil =>
    refine ⟨place, ?_⟩
    show (writeFrom table place ps).run vs = _
    cases (writeFrom table place ps).run vs <;> rfl
  | cons c cs ih =>
    obtain ⟨place', hplace⟩ := ih (place + 1)
    refine ⟨place', ?_⟩
    rw [List.map_cons, List.cons_append, run_writeFrom_cons]
    show ((writeFrom table (place + 1) (cs.map .char ++ ps)).run vs).map _ = _
    rw [hplace]
    cases (writeFrom table place' ps).run vs <;> rfl

/-- Texts behind marks, one for each. -/
def behindMarks (qs : List (List Char)) : List Char := qs.flatMap fun q => '%' :: 's' :: q

/-- Each mark takes one value and writes its text. Values that are left over stay. -/
theorem run_writeFrom_behindMarks {qs : List (List Char)} (hqs : ∀ q ∈ qs, '%' ∉ q)
    {vs : List Argument} {ts : List (List Char)}
    (hshown : List.Forall₂ (fun v t => v.shown = .ok t) vs ts) (place : Nat) :
    (writeFrom none place (parts (behindMarks qs))).run vs =
      if vs.length < qs.length then .error .tooFew
      else .ok ((List.zipWith (· ++ ·) ts qs).flatten, vs.drop qs.length) := by
  induction qs generalizing vs ts place with
  | nil =>
    show (writeFrom none place []).run vs = _
    rw [writeFrom, StateT.run_pure, List.length_nil, if_neg (Nat.not_lt_zero _),
      List.zipWith_nil_right]
    rfl
  | cons q qs ih =>
    rw [List.forall_mem_cons] at hqs
    have hparts : parts (behindMarks (q :: qs)) =
        .mark (plainMark 's') :: (q.map .char ++ parts (behindMarks qs)) := by
      rw [behindMarks, List.flatMap_cons, List.cons_append, List.cons_append, parts_plain,
        parts_append hqs.1]
      rfl
    rw [hparts, run_writeFrom_cons, Part.write]
    cases hshown with
    | nil => simp [run_write_plain_nil, bind, Except.bind]
    | @cons v t vs ts hv hvs =>
      obtain ⟨place', hchars⟩ := run_writeFrom_chars none
        (place + (Part.mark (plainMark 's')).text.length) q (parts (behindMarks qs)) vs
      rw [run_write_plain, hv]
      show ((writeFrom none _ _).run vs).map _ = _
      rw [hchars, ih hqs.2 hvs]
      by_cases hfew : vs.length < qs.length
      · simp [hfew, Except.map]
      · simp [hfew, Except.map, List.append_assoc]

end Template

open Template

/-- Values that are left over are too many. -/
theorem format_values (template : List Char) (vs : List Argument) :
    format template (.values vs) = (writeFrom none 0 (parts template)).run vs >>= fun r =>
      if r.2 = [] then .ok r.1 else .error .tooMany := by
  rw [format]
  congr 1
  funext ⟨cs, rest⟩
  cases rest <;> rfl

/-- A template whose marks ask for texts takes exactly as many arguments as it has marks, and the
message has the text of an argument in the place of its mark. -/
theorem format_shown {p : List Char} {qs : List (List Char)} (hp : '%' ∉ p)
    (hqs : ∀ q ∈ qs, '%' ∉ q) {vs : List Argument} {ts : List (List Char)}
    (hshown : List.Forall₂ (fun v t => v.shown = .ok t) vs ts) :
    format (p ++ behindMarks qs) (.values vs) =
      if vs.length < qs.length then .error .tooFew
      else if qs.length < vs.length then .error .tooMany
      else .ok (p ++ (List.zipWith (· ++ ·) ts qs).flatten) := by
  obtain ⟨place, hchars⟩ := run_writeFrom_chars none 0 p (parts (behindMarks qs)) vs
  rw [format_values, parts_append hp, hchars, run_writeFrom_behindMarks hqs hshown]
  by_cases hfew : vs.length < qs.length
  · rw [if_pos hfew, if_pos hfew]
    rfl
  · rw [if_neg hfew, if_neg hfew]
    show (if vs.drop qs.length = [] then _ else _) = _
    by_cases hmany : qs.length < vs.length
    · rw [if_pos hmany, if_neg]
      rw [List.drop_eq_nil_iff]
      omega
    · rw [if_neg hmany, if_pos (List.drop_eq_nil_iff.2 (Nat.not_lt.1 hmany))]

/-- Texts are their own texts. -/
theorem forall₂_shown_text (ss : List String) :
    List.Forall₂ (fun v t => v.shown = .ok t) (ss.map Argument.text) (ss.map String.toList) := by
  rw [List.forall₂_map_left_iff, List.forall₂_map_right_iff, List.forall₂_same]
  exact fun s _ => rfl

/-- As many texts as there are marks stand in their places. -/
theorem format_texts {p : List Char} {qs : List (List Char)} (hp : '%' ∉ p)
    (hqs : ∀ q ∈ qs, '%' ∉ q) {ts : List String} (hlength : ts.length = qs.length) :
    format (p ++ behindMarks qs) (.texts ts) =
      .ok (p ++ (List.zipWith (fun t q => t.toList ++ q) ts qs).flatten) := by
  rw [Arguments.texts, format_shown hp hqs (forall₂_shown_text ts), List.length_map, hlength,
    if_neg (Nat.lt_irrefl _), if_neg (Nat.lt_irrefl _), List.zipWith_map_left]

/-- Flags, a width and a star, and two ways not to fit. -/
example : [Arguments.values [.text "ab", .whole 4, .whole (-7)], .values [.whole 1, .whole 2],
    .values [.text "ab", .text "c", .whole 5]].map
      (format ['%', '5', 's', '|', '%', '0', '*', 'd'] ·) =
    [.ok [' ', ' ', ' ', 'a', 'b', '|', '-', '0', '0', '7'], .error .tooFew, .error .notSize] := by
  decide +kernel

end BankCodes.Log
