import BankCodes.Bic
import BankCodes.CreditorIdentifier
import BankCodes.Iban

/-!
# Identifiers of every kind

`Identifier` holds an identifier of any of the three kinds, and `Kind` names the kinds, with one
more for identifiers in general, which no text can be read as.
-/

namespace BankCodes

/-! ### Kinds -/

/-- The kinds of identifiers. -/
inductive Kind where
  | iban
  | bic
  | creditor
  /-- Identifiers in general. -/
  | unspecified
deriving DecidableEq, Repr

/-- The name of the kind, in messages. -/
def Kind.label : Kind → String
  | iban => Iban.kind
  | bic => Bic.kind
  | creditor => CreditorIdentifier.kind
  | unspecified => "identifier"

/-! ### Identifiers -/

/-- An identifier of one of the kinds. -/
inductive Identifier where
  | iban (x : Iban)
  | bic (x : Bic)
  | creditor (x : CreditorIdentifier)
deriving DecidableEq, Repr

namespace Identifier

/-- The canonical form. -/
def text : Identifier → String
  | iban x => x.text
  | bic x => x.text
  | creditor x => x.text

/-- The country. -/
def country : Identifier → Country
  | iban x => x.country
  | bic x => x.country
  | creditor x => x.country

/-- The name of the type, as it is shown. -/
def typeName : Identifier → String
  | iban _ => "Iban"
  | bic _ => "Bic"
  | creditor _ => "CreditorIdentifier"

/-- The type with the canonical form. -/
def describe (x : Identifier) : String := x.typeName ++ "(" ++ Text.quoted x.text ++ ")"

/-- Reads an identifier of a kind. Without a registry that of the kind is used. -/
def parse (kind : Kind) (registry : Option Registry) (input : String) :
    Except Failure Identifier :=
  match kind with
  | .iban => (Iban.parse input (registry.getD .bban)).map iban
  | .bic => (Bic.parse input).map bic
  | .creditor => (CreditorIdentifier.parse input (registry.getD .creditor)).map creditor
  | .unspecified => .error .unimplemented

section

variable (registry : Option Registry) (input : String)

theorem parse_iban :
    parse .iban registry input = (Iban.parse input (registry.getD .bban)).map iban := rfl

theorem parse_bic : parse .bic registry input = (Bic.parse input).map bic := rfl

theorem parse_creditor :
    parse .creditor registry input =
      (CreditorIdentifier.parse input (registry.getD .creditor)).map creditor := rfl

end

/-- Reads an identifier of a kind from a text that has to be there. -/
def ofInput (kind : Kind) (registry : Option Registry) (input : Option String) :
    Except Failure Identifier := do
  parse kind registry (← given kind.label input)

end Identifier

end BankCodes
