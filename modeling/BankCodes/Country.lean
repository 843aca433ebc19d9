import BankCodes.Country.Table
import BankCodes.Text.Blank
import BankCodes.Text.Case

/-!
# Countries

A country is an entry of the ISO 3166-1 table: two code letters and a name. There is exactly one
country for each code, so a country is known by its letters (`ext_letters`), and looking up the
code of a country gives it back (`ofLetters?_self`).
-/

namespace BankCodes

/-- An entry of the ISO 3166-1 table. -/
structure Country where
  first : Char
  second : Char
  name : String
  listed : (first, second, name) ∈ Country.table

namespace Country

/-- The alpha-2 code. -/
def code (c : Country) : String := String.ofList [c.first, c.second]

instance : Repr Country := ⟨fun c _ => c.code⟩

/-- All countries, in alphabetical order of their codes. -/
def all : List Country := table.attach.map fun ⟨(a, b, n), h⟩ => ⟨a, b, n, h⟩

/-- The country with the two code letters. -/
def ofLetters? (a b : Char) : Option Country :=
  match h : table.find? fun e => e.1 == a && e.2.1 == b with
  | some e => some ⟨e.1, e.2.1, e.2.2, List.mem_of_find?_eq_some h⟩
  | none => none

/-- The country whose code is the given characters. -/
def ofChars? : List Char → Option Country
  | [a, b] => ofLetters? a b
  | _ => none

/-- The country for a code in any case, with or without spaces around it. -/
def ofCode? (s : String) : Option Country := ofChars? (Text.upper (Text.strip s.toList))

/-! ### One country for each code -/

/-- A number that orders the entries of the table by their code. -/
private def place (e : Char × Char × String) : Nat := e.1.toNat * 256 + e.2.1.toNat

private def ascending : List Nat → Bool
  | m :: n :: ns => m < n && ascending (n :: ns)
  | _ => true

private theorem lt_of_ascending {m : Nat} {ns : List Nat} (h : ascending (m :: ns) = true) :
    ∀ n ∈ ns, m < n := by
  induction ns generalizing m with
  | nil => simp
  | cons k ns ih =>
    simp only [ascending, Bool.and_eq_true, decide_eq_true_eq] at h
    intro n hn
    rcases List.mem_cons.1 hn with rfl | hn
    · exact h.1
    · exact Nat.lt_trans h.1 (ih h.2 n hn)

private theorem ascending_tail {m : Nat} {ns : List Nat} (h : ascending (m :: ns) = true) :
    ascending ns = true := by
  cases ns with
  | nil => rfl
  | cons k ns =>
    simp only [ascending, Bool.and_eq_true] at h
    exact h.2

private theorem ascending_table : ascending (table.map place) = true := by decide +kernel

private theorem letters_upper : ∀ e ∈ table, e.1.isUpper = true ∧ e.2.1.isUpper = true := by
  decide +kernel

/-- The code letters are capital letters. -/
theorem isUpper_letters (c : Country) : c.first.isUpper = true ∧ c.second.isUpper = true :=
  letters_upper _ c.listed

@[simp] theorem toList_code (c : Country) : c.code.toList = [c.first, c.second] := by
  simp [code]

/-- A code is of capitals. -/
theorem isUpper_of_mem_code {country : Country} : ∀ c ∈ country.code.toList, c.isUpper = true := by
  obtain ⟨hfirst, hsecond⟩ := country.isUpper_letters
  intro c hc
  rw [toList_code, List.mem_cons, List.mem_singleton] at hc
  rcases hc with rfl | rfl
  · exact hfirst
  · exact hsecond

private theorem eq_of_place_eq {l : List (Char × Char × String)}
    (asc : ascending (l.map place) = true) {e f : Char × Char × String}
    (he : e ∈ l) (hf : f ∈ l) (h : place e = place f) : e = f := by
  induction l with
  | nil => simp at he
  | cons x l ih =>
    have lt : ∀ y ∈ l, place x < place y := fun y hy =>
      lt_of_ascending asc _ (List.mem_map_of_mem hy)
    rcases List.mem_cons.1 he with rfl | he' <;> rcases List.mem_cons.1 hf with rfl | hf'
    · rfl
    · exact absurd h (Nat.ne_of_lt (lt f hf'))
    · exact absurd h.symm (Nat.ne_of_lt (lt e he'))
    · exact ih (ascending_tail asc) he' hf'

/-- A country is known by its code letters. -/
theorem ext_letters {c d : Country} (h₁ : c.first = d.first) (h₂ : c.second = d.second) :
    c = d := by
  have h := eq_of_place_eq ascending_table c.listed d.listed (by simp [place, h₁, h₂])
  obtain ⟨a, b, n, hc⟩ := c
  obtain ⟨a', b', n', hd⟩ := d
  simp only [Prod.mk.injEq] at h
  obtain ⟨rfl, rfl, rfl⟩ := h
  rfl

/-- Countries are compared by their code letters. -/
instance : DecidableEq Country := fun c d =>
  if h : c.first = d.first ∧ c.second = d.second then isTrue (ext_letters h.1 h.2)
  else isFalse fun e => h (by simp [e])

/-- A country is known by its code. -/
theorem ext_code {c d : Country} (h : c.code = d.code) : c = d := by
  have h' : c.code.toList = d.code.toList := by rw [h]
  simp only [toList_code, List.cons.injEq, and_true] at h'
  exact ext_letters h'.1 h'.2

/-- Looking up two letters gives a country with these letters. -/
theorem letters_of_ofLetters? {a b : Char} {c : Country} (h : ofLetters? a b = some c) :
    c.first = a ∧ c.second = b := by
  unfold ofLetters? at h
  split at h
  · next e he =>
    have := List.find?_some he
    cases h
    simpa using this
  · cases h

/-- The letters of a country are those of the country itself. -/
theorem ofLetters?_self (c : Country) : ofLetters? c.first c.second = some c := by
  cases h : ofLetters? c.first c.second with
  | some d =>
    have hd := letters_of_ofLetters? h
    rw [ext_letters hd.1 hd.2]
  | none =>
    unfold ofLetters? at h
    split at h
    · cases h
    · next hn => exact absurd (List.find?_eq_none.1 hn _ c.listed) (by simp)

/-- Characters are looked up to the country whose code they are. -/
theorem ofChars?_eq_some_iff {cs : List Char} {c : Country} :
    ofChars? cs = some c ↔ cs = [c.first, c.second] := by
  constructor
  · intro h
    unfold ofChars? at h
    split at h
    · have := letters_of_ofLetters? h
      rw [this.1, this.2]
    · cases h
  · rintro rfl
    exact ofLetters?_self c

/-- Characters are looked up to no country if they are the code of none. -/
theorem ofChars?_eq_none_iff {cs : List Char} :
    ofChars? cs = none ↔ ∀ c : Country, c.code.toList ≠ cs := by
  rw [Option.eq_none_iff_forall_ne_some]
  apply forall_congr'
  intro c
  rw [ne_eq, ofChars?_eq_some_iff, toList_code, eq_comm]

end Country

end BankCodes
