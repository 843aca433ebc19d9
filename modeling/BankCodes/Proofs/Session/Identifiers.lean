import BankCodes.Proofs.Segments
import BankCodes.Session

/-!
# The identifiers of a session

Whatever the steps of a session are, each identifier that it has an object for has been read from a
text, made of parts, or turned into a test code; copies are of what was there before. One step keeps
this (`Traced.step`), and so does a run of steps (`Traced.run`). So the identifiers of a session are
in segments as they should be, whatever has been done to obtain them (`segmented_of_obtained`).
-/

namespace BankCodes.Session

open Identifier

/-- The session has an object with the identifier as its value. -/
def Held (s : Session) (x : Identifier) : Prop :=
  ∃ entry ∈ s.objects, entry.2.value = .identifier x

/-- Each identifier of the session has been obtained in one of the known ways. -/
def Traced (s : Session) : Prop := ∀ x, s.Held x → Obtained x

theorem traced_initial : initial.Traced := by
  intro x ⟨entry, hmem, _⟩
  cases hmem

/-- The object that is bound to a name is one of the session. -/
theorem exists_entry_of_object? {s : Session} {name : String} {o : Object}
    (h : s.object? name = some o) : ∃ entry ∈ s.objects, entry.2 = o := by
  obtain ⟨front, back, hcut, -⟩ := List.lookup_eq_some_iff.1 h
  refine ⟨(name, o), ?_, rfl⟩
  rw [hcut]
  exact List.mem_append_right _ List.mem_cons_self

section Traced

variable {s : Session} (h : s.Traced)
include h

/-- An object may be bound if its value is no identifier or one that has been obtained. -/
theorem Traced.bind {o : Object} (ho : ∀ x, o.value = .identifier x → Obtained x) (name : String) :
    (s.bind name o).Traced := by
  intro x ⟨entry, hmem, hvalue⟩
  rcases List.mem_cons.1 hmem with rfl | hmem
  · exact ho x hvalue
  · exact h x ⟨entry, (List.mem_filter.1 hmem).1, hvalue⟩

theorem Traced.bindNew {value : Value} (hvalue : ∀ x, value = .identifier x → Obtained x)
    (name : String) : (s.bindNew name value).Traced :=
  h.bind (o := ⟨.own s.made, value⟩) hvalue name

theorem Traced.bindIdentifier {result : Except Failure Identifier}
    (hresult : ∀ x, result = .ok x → Obtained x) (name : String) :
    (s.bindIdentifier name result).session.Traced := by
  cases result with
  | error failure => exact h
  | ok x =>
    apply h.bindNew
    intro y hy
    cases hy
    exact hresult x rfl

theorem Traced.bindRule (registry : RegistryArgument) (name : String) (rule : Rule) :
    (s.bindRule registry name rule).Traced := by
  have hrule : ∀ x, Value.rule rule = .identifier x → Obtained x := by
    intro x hx
    cases hx
  unfold Session.bindRule
  split
  · exact h.bind hrule name
  · exact h.bindNew hrule name

/-- Building a registry on the way changes no objects. -/
theorem Traced.withRegistry {next : Session → Option Registry → Reply}
    (hnext : ∀ s' registry, s'.Traced → (next s' registry).session.Traced)
    (argument : RegistryArgument) : (s.withRegistry argument next).session.Traced := by
  cases argument with
  | usual => exact hnext s none h
  | bban => exact hnext s (some .bban) h
  | creditor => exact hnext s (some .creditor) h
  | named name =>
    simp only [Session.withRegistry]
    split
    · next registry _ => exact hnext s (some registry) h
    · exact h
  | table kind entries =>
    simp only [Session.withRegistry]
    split
    · next registry _ => exact hnext _ (some registry) h
    · exact h

theorem Traced.withObject {next : Object → Reply}
    (hnext : ∀ o, (∀ x, o.value = .identifier x → Obtained x) → (next o).session.Traced)
    (name : String) : (s.withObject name next).session.Traced := by
  unfold Session.withObject
  split
  · next o ho =>
    apply hnext
    intro x hx
    obtain ⟨entry, hmem, rfl⟩ := exists_entry_of_object? ho
    exact h x ⟨entry, hmem, hx⟩
  · exact h

theorem Traced.compile (expression : Option String) (name : String) :
    (s.compile expression name).session.Traced := by
  unfold Session.compile
  split
  · exact h
  · split
    · exact h
    · next p _ =>
      apply Traced.bind (s := { s with cache := (s.cache.take p).1 }) h
      intro x hx
      cases hx

theorem Traced.asTest (bic name : String) : (s.asTest bic name).session.Traced := by
  apply h.withObject
  intro o ho
  split
  · next x hx =>
    split
    · exact h.bind ho name
    · split
      · next y hy =>
        apply h.bindNew
        intro z hz
        cases hz
        exact (ho _ hx).toTest hy
      · exact h
  · exact h

/-- Each step keeps the identifiers of the session traced. -/
theorem Traced.step (step : Step) : (s.step step).session.Traced := by
  cases step with
  | new kind input registry name =>
    apply h.withRegistry
    intro s' registry' hs'
    exact hs'.bindIdentifier (fun x hx => .read hx) name
  | ibanOfParts country bban registry name =>
    apply h.withRegistry
    intro s' registry' hs'
    apply hs'.bindIdentifier
    intro x hx
    obtain ⟨y, hy, rfl⟩ := map_eq_ok_iff.1 hx
    exact .ibanOfParts hy
  | creditorOfParts country businessCode nationalId registry name =>
    apply h.withRegistry
    intro s' registry' hs'
    apply hs'.bindIdentifier
    intro x hx
    obtain ⟨y, hy, rfl⟩ := map_eq_ok_iff.1 hx
    exact .creditorOfParts hy
  | build kind table name =>
    apply h.withRegistry
    intro s' registry' hs'
    cases registry' with
    | none => exact hs'
    | some r => exact hs'
  | lookup registry country name =>
    apply h.withRegistry
    intro s' registry' hs'
    split
    · exact hs'.bindRule registry _ _
    · exact hs'
  | compile expression name => exact h.compile expression name
  | accepts pattern text =>
    apply h.withObject
    intro o ho
    split
    · exact h
    · exact h
  | judge kind input registry =>
    apply h.withRegistry
    intro s' registry' hs'
    split
    · exact hs'
    · exact hs'
  | find kind text => exact h
  | asTest bic name => exact h.asTest bic name
  | equal a b => exact h
  | distinct operands => exact h
  | present name =>
    apply h.withObject
    intro o ho
    split
    · exact h
    · exact h
  | change how name field =>
    apply h.withObject
    intro o ho
    exact h
  | copy object name =>
    apply h.withObject
    intro o ho
    exact h.bindNew ho name

/-- After each step of a run, all identifiers have been obtained in one of the known ways. -/
theorem Traced.run (steps : List Step) : ∀ reply ∈ s.run steps, reply.session.Traced := by
  induction steps generalizing s with
  | nil =>
    intro reply hreply
    cases hreply
  | cons step steps ih =>
    intro reply hreply
    rcases List.mem_cons.1 hreply with rfl | hreply
    · exact h.step step
    · exact ih (h.step step) reply hreply

end Traced

/-- Every identifier is in segments: whether it is read from a text, made of parts in any registry
or turned into a test code, and so whatever a session has done until it has an object for it. -/
theorem segmented_of_obtained :
    (∀ x, Obtained x → x.Segmented) ∧
      ∀ steps, ∀ reply ∈ initial.run steps, ∀ x, reply.session.Held x → x.Segmented := by
  have hobtained : ∀ x, Obtained x → x.Segmented := fun x hx => hx.sound.segmented
  refine ⟨hobtained, ?_⟩
  intro steps reply hreply x hx
  exact hobtained x (traced_initial.run steps reply hreply x hx)

/-- The test code of a BIC, and an IBAN that a session has made in a registry of its own. -/
theorem segmented_of_obtained_samples :
    (∃ x, Bic.parse "deut deff" = .ok x ∧ x.asTest.text = "DEUTDEF0XXX" ∧ x.asTest.Segmented) ∧
    ∃ reply ∈ initial.run [.ibanOfParts (.code "fr") (some "1 a") (.table "short" [("FR", "2c")])
        "account", .copy "account" "same"],
      ∃ x, reply.session.Held x ∧ x.text = "FR161A" ∧ x.Segmented := by
  obtain ⟨hobtained, hheld⟩ := segmented_of_obtained
  constructor
  · have htext : (Bic.parse "deut deff").toOption.map (fun x => x.asTest.text) =
        some "DEUTDEF0XXX" := by
      decide +kernel
    obtain ⟨x, hx⟩ : ∃ x, Bic.parse "deut deff" = .ok x := exists_eq_ok (by decide +kernel)
    rw [hx] at htext
    have hread : ofInput .bic none (some "deut deff") = .ok (bic x) := by
      show parse .bic none "deut deff" = .ok (bic x)
      rw [parse_bic, hx]
      rfl
    exact ⟨x, hx, Option.some.inj htext, hobtained (bic x.asTest) (.asTest (.read hread))⟩
  · let x : Identifier := .iban ⟨⟨'F', 'R', "France", by decide +kernel⟩, "16", "1A"⟩
    have hfound : (initial.run [.ibanOfParts (.code "fr") (some "1 a")
        (.table "short" [("FR", "2c")]) "account", .copy "account" "same"]).any (fun reply =>
          reply.session.objects.any fun entry => entry.2.value = .identifier x) = true := by
      decide +kernel
    obtain ⟨reply, hreply, hobjects⟩ := List.any_eq_true.1 hfound
    obtain ⟨entry, hentry, hvalue⟩ := List.any_eq_true.1 hobjects
    have hx : reply.session.Held x := ⟨entry, hentry, of_decide_eq_true hvalue⟩
    exact ⟨reply, hreply, x, hx, by decide +kernel, hheld _ reply hreply x hx⟩

end BankCodes.Session
