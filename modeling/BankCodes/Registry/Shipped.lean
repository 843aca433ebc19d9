import BankCodes.Registry

/-!
# The shipped layouts

`Registry.bban` holds the layout of the country-specific part of IBANs, `Registry.creditor` that of
the national part of creditor identifiers. The French overseas departments and territories use the
French layout under their own codes. Where a national community does not fix its identifiers, they
may have up to 28 alphanumerics.

No entry of the two tables is lost: each gives a rule (`isSome_rule_of_mem_bbanLayouts`,
`isSome_rule_of_mem_creditorLayouts`), and no country comes twice. The layouts of IBANs are all of a
fixed length (`exists_length_of_mem_bban`).
-/

namespace BankCodes.Registry

open Pattern (Group)

/-- The letters of a country code with the groups of the layout of the country. -/
abbrev Layout := Char × Char × List Group

namespace Layout

/-- The rule of a layout, if there is such a country and the groups make an expression. -/
def rule? (l : Layout) : Option Rule :=
  match Country.ofLetters? l.1 l.2.1 with
  | some country =>
    if h : Pattern.wellFormed l.2.2 = true then some ⟨country, ⟨l.2.2, h⟩⟩ else none
  | none => none

/-- So many digits. -/
def n (count : Nat) : Group := .exactly count .digit

/-- So many capital letters. -/
def a (count : Nat) : Group := .exactly count .upper

/-- So many alphanumerics. -/
def c (count : Nat) : Group := .exactly count .alphanumeric

end Layout

/-! ### The tables -/

section

open Layout (n a c)

/-- The layout of French account numbers. -/
def layoutOfFrance : List Group := [n 5, n 5, c 11, n 2]

/-- The layout of a national identifier that its community does not fix. -/
def openLayout : List Group := [.upTo 28 .alphanumeric]

/-- The layouts of the country-specific part of IBANs. -/
def bbanLayouts : List Layout :=
  [('A', 'D', [n 4, n 4, c 12]), ('A', 'E', [n 3, n 16]), ('A', 'L', [n 8, c 16]),
   ('A', 'T', [n 5, n 11]), ('A', 'Z', [a 4, c 20]), ('B', 'A', [n 3, n 3, n 8, n 2]),
   ('B', 'E', [n 3, n 7, n 2]), ('B', 'G', [a 4, n 4, n 2, c 8]), ('B', 'H', [a 4, c 14]),
   ('B', 'I', [n 5, n 5, n 11, n 2]), ('B', 'R', [n 8, n 5, n 10, a 1, c 1]),
   ('B', 'Y', [c 4, n 4, c 16]), ('C', 'H', [n 5, c 12]), ('C', 'R', [n 4, n 14]),
   ('C', 'Y', [n 3, n 5, c 16]), ('C', 'Z', [n 4, n 6, n 10]), ('D', 'E', [n 8, n 10]),
   ('D', 'J', [n 5, n 5, n 11, n 2]), ('D', 'K', [n 4, n 9, n 1]), ('D', 'O', [c 4, n 20]),
   ('E', 'E', [n 2, n 2, n 11, n 1]), ('E', 'G', [n 4, n 4, n 17]),
   ('E', 'S', [n 4, n 4, n 1, n 1, n 10]), ('F', 'I', [n 3, n 11]), ('F', 'K', [a 2, n 12]),
   ('F', 'O', [n 4, n 9, n 1]), ('F', 'R', layoutOfFrance), ('G', 'B', [a 4, n 6, n 8]),
   ('G', 'E', [a 2, n 16]), ('G', 'I', [a 4, c 15]), ('G', 'L', [n 4, n 9, n 1]),
   ('G', 'R', [n 3, n 4, c 16]), ('G', 'T', [c 4, c 20]), ('H', 'R', [n 7, n 10]),
   ('H', 'U', [n 3, n 4, n 1, n 15, n 1]), ('I', 'E', [a 4, n 6, n 8]),
   ('I', 'L', [n 3, n 3, n 13]), ('I', 'Q', [a 4, n 3, n 12]), ('I', 'S', [n 4, n 2, n 6, n 10]),
   ('I', 'T', [a 1, n 5, n 5, c 12]), ('J', 'O', [a 4, n 4, c 18]), ('K', 'W', [a 4, c 22]),
   ('K', 'Z', [n 3, c 13]), ('L', 'B', [n 4, c 20]), ('L', 'C', [a 4, c 24]),
   ('L', 'I', [n 5, c 12]), ('L', 'T', [n 5, n 11]), ('L', 'U', [n 3, c 13]),
   ('L', 'V', [a 4, c 13]), ('L', 'Y', [n 3, n 3, n 15]), ('M', 'C', [n 5, n 5, c 11, n 2]),
   ('M', 'D', [c 2, c 18]), ('M', 'E', [n 3, n 13, n 2]), ('M', 'K', [n 3, c 10, n 2]),
   ('M', 'N', [n 4, n 12]), ('M', 'R', [n 5, n 5, n 11, n 2]), ('M', 'T', [a 4, n 5, c 18]),
   ('M', 'U', [a 4, n 2, n 2, n 12, n 3, a 3]), ('N', 'I', [a 4, n 20]), ('N', 'L', [a 4, n 10]),
   ('N', 'O', [n 4, n 6, n 1]), ('O', 'M', [n 3, c 16]), ('P', 'K', [a 4, c 16]),
   ('P', 'L', [n 8, n 16]), ('P', 'S', [a 4, c 21]), ('P', 'T', [n 4, n 4, n 11, n 2]),
   ('Q', 'A', [a 4, c 21]), ('R', 'O', [a 4, c 16]), ('R', 'S', [n 3, n 13, n 2]),
   ('R', 'U', [n 9, n 5, c 15]), ('S', 'A', [n 2, c 18]), ('S', 'C', [a 4, n 2, n 2, n 16, a 3]),
   ('S', 'D', [n 2, n 12]), ('S', 'E', [n 3, n 16, n 1]), ('S', 'I', [n 5, n 8, n 2]),
   ('S', 'K', [n 4, n 6, n 10]), ('S', 'M', [a 1, n 5, n 5, c 12]), ('S', 'O', [n 4, n 3, n 12]),
   ('S', 'T', [n 4, n 4, n 11, n 2]), ('S', 'V', [a 4, n 20]), ('T', 'L', [n 3, n 14, n 2]),
   ('T', 'N', [n 2, n 3, n 13, n 2]), ('T', 'R', [n 5, n 1, c 16]), ('U', 'A', [n 6, c 19]),
   ('V', 'A', [n 3, n 15]), ('V', 'G', [a 4, n 16]), ('Y', 'E', [a 4, n 4, c 18]),
   ('B', 'L', layoutOfFrance), ('G', 'F', layoutOfFrance), ('G', 'P', layoutOfFrance),
   ('M', 'F', layoutOfFrance), ('M', 'Q', layoutOfFrance), ('N', 'C', layoutOfFrance),
   ('P', 'F', layoutOfFrance), ('P', 'M', layoutOfFrance), ('R', 'E', layoutOfFrance),
   ('T', 'F', layoutOfFrance), ('W', 'F', layoutOfFrance), ('Y', 'T', layoutOfFrance)]

/-- The layouts of the national part of creditor identifiers. -/
def creditorLayouts : List Layout :=
  [('A', 'D', openLayout), ('A', 'T', [c 11]), ('B', 'E', openLayout), ('B', 'G', openLayout),
   ('C', 'H', openLayout), ('C', 'Y', openLayout), ('C', 'Z', openLayout), ('D', 'E', [c 11]),
   ('D', 'K', openLayout), ('E', 'E', openLayout), ('E', 'S', [c 9]), ('F', 'I', openLayout),
   ('F', 'R', [c 6]), ('G', 'B', openLayout), ('G', 'I', openLayout), ('G', 'R', openLayout),
   ('H', 'R', openLayout), ('H', 'U', openLayout), ('I', 'E', openLayout),
   ('I', 'S', openLayout), ('I', 'T', [c 16]), ('L', 'I', openLayout), ('L', 'T', openLayout),
   ('L', 'U', openLayout), ('L', 'V', openLayout), ('M', 'C', openLayout),
   ('M', 'T', openLayout), ('N', 'L', openLayout), ('N', 'O', openLayout),
   ('P', 'L', openLayout), ('P', 'T', openLayout), ('R', 'O', openLayout),
   ('S', 'E', openLayout), ('S', 'I', openLayout), ('S', 'K', openLayout),
   ('S', 'M', openLayout), ('V', 'A', openLayout)]

end

/-! ### The registries -/

/-- The layouts of IBANs. -/
def bban : Registry where
  kind := "IBAN"
  rules := bbanLayouts.filterMap Layout.rule?
  nodup := Rule.nodup_of_distinct (by decide +kernel)

/-- The layouts of creditor identifiers. -/
def creditor : Registry where
  kind := "creditor identifier"
  rules := creditorLayouts.filterMap Layout.rule?
  nodup := Rule.nodup_of_distinct (by decide +kernel)

theorem isSome_rule_of_mem_bbanLayouts : ∀ l ∈ bbanLayouts, (Layout.rule? l).isSome = true := by
  decide +kernel

theorem isSome_rule_of_mem_creditorLayouts :
    ∀ l ∈ creditorLayouts, (Layout.rule? l).isSome = true := by
  decide +kernel

/-- The layout of an IBAN fixes its length, to eleven characters at least and thirty at most. -/
theorem exists_length_of_mem_bban {rule : Rule} (h : rule ∈ bban.rules) :
    ∃ n, rule.length? = some n ∧ 11 ≤ n ∧ n ≤ 30 := by
  have hall : ∀ rule ∈ bban.rules, rule.length?.any (fun n => 11 ≤ n && n ≤ 30) = true := by
    decide +kernel
  simpa [Option.any_eq_true] using hall rule h

end BankCodes.Registry
