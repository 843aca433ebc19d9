import BankCodes.Scan
import BankCodes.Session.Cache

/-!
# Sessions

A session is a sequence of steps that make objects, bind them to names, and ask about them. Each
object has an identity of its own: two objects may be equal without being the same. Only compiled
expressions, the rules of a registry, and test codes that are test codes already, are handed out
again as the same object. No object can be changed.

`Session.step` gives the answer to a step and the session after it; a step that fails binds
nothing.
-/

namespace BankCodes

namespace Session

/-! ### Objects -/

/-- The values that objects may have. -/
inductive Value where
  | identifier (x : Identifier)
  | pattern (p : Pattern)
  | rule (r : Rule)
deriving DecidableEq

/-- The value as it is shown. -/
def Value.describe : Value → String
  | identifier x => x.describe
  | pattern p => p.describe
  | rule r => r.describe

/-- Where a rule is held: in a shipped registry, or in one that the session has built. -/
inductive Home where
  | bban
  | creditor
  | built (number : Nat)
deriving DecidableEq, Repr

/-- What makes an object the object it is: its number in the cache, its country in a registry, or a
number of its own. -/
inductive Identity where
  | cached (number : Nat)
  | listed (home : Home) (code : String)
  | own (number : Nat)
deriving DecidableEq, Repr

/-- A value with an identity. -/
structure Object where
  identity : Identity
  value : Value
deriving DecidableEq

end Session

/-- What a session has made so far. -/
structure Session where
  cache : Session.Cache
  registries : List (String × Registry)
  /-- The numbers of the registries by name. -/
  homes : List (String × Nat)
  objects : List (String × Session.Object)
  /-- How many objects and registries have been made outside the cache. -/
  made : Nat

namespace Session

/-- The session before its first step. -/
def initial : Session := ⟨.empty, [], [], [], 0⟩

/-- The object bound to a name. -/
def object? (s : Session) (name : String) : Option Object := s.objects.lookup name

/-- The names bound to the object with the identity, in ascending order. -/
def namesOf (s : Session) (identity : Identity) : List String :=
  Text.sorted ((s.objects.filter (·.2.identity = identity)).map Prod.fst)

/-- Binds an object to a name, in place of the one bound to it before. -/
def bind (s : Session) (name : String) (o : Object) : Session :=
  { s with objects := (name, o) :: s.objects.filter (·.1 ≠ name) }

/-- Binds a new object with the value to a name. -/
def bindNew (s : Session) (name : String) (value : Value) : Session :=
  { s.bind name ⟨.own s.made, value⟩ with made := s.made + 1 }

/-! ### Steps and answers -/

/-- What may be given where a registry is asked for. -/
inductive RegistryArgument where
  /-- The registry of the kind. -/
  | usual
  | bban
  | creditor
  /-- A registry of the session. -/
  | named (name : String)
  /-- A registry that is built for the step. -/
  | table (kind : String) (entries : Registry.Table)

/-- A thing to be compared: an object of the session, or a plain text. -/
inductive Operand where
  | object (name : String)
  | text (s : String)

/-- The ways to change an object, none of which is allowed. -/
inductive Change where
  | set
  | delete
deriving DecidableEq, Repr

/-- The steps of a session; the last argument of those that bind is the name. -/
inductive Step where
  | new (kind : Kind) (input : Option String) (registry : RegistryArgument) (name : String)
  | ibanOfParts (country : CountryArgument) (bban : Option String)
      (registry : RegistryArgument) (name : String)
  | creditorOfParts (country : CountryArgument) (businessCode nationalId : Option String)
      (registry : RegistryArgument) (name : String)
  | build (kind : String) (table : Registry.Table) (name : String)
  | lookup (registry : RegistryArgument) (country : CountryArgument) (name : Option String)
  | compile (expression : Option String) (name : String)
  | accepts (pattern : String) (text : Option String)
  | judge (kind : Kind) (input : Option String) (registry : RegistryArgument)
  | find (kind : Kind) (text : String)
  | asTest (bic name : String)
  | equal (a b : Operand)
  | distinct (operands : List Operand)
  | present (name : String)
  | change (how : Change) (object field : String)
  | copy (object name : String)

/-- The answers to steps. -/
inductive Answer where
  | text (s : String)
  | rule (r : Option Rule)
  /-- The regular expression of a pattern, and the names it already had. -/
  | compiled (regex : String) (names : List String)
  | decision (b : Bool)
  | found (texts : List String)
  /-- The text of a test code, and the names it already had. -/
  | testCode (text : String) (names : List String)
  /-- Whether two things are equal; their hashes are then the same, and otherwise they differ. -/
  | equality (equal : Bool)
  | count (n : Nat)
  | identifier (x : Identifier)
  /-- A copy that equals what it is a copy of. -/
  | copied (shown : String)

/-- Why a step has no answer. -/
inductive Refusal where
  | failure (f : Failure)
  /-- The objects of a type cannot be changed. -/
  | immutable (type : String)
  /-- A field of an object cannot be changed. -/
  | frozen (how : Change) (field : String)
  /-- There is no such object or registry for the step. -/
  | unbound (name : String)

/-- The text of a refusal. A name that is not bound is its own text, in quotes. -/
def Refusal.message : Refusal → String
  | failure f => f.message
  | immutable type => type ++ " is immutable"
  | frozen .set field => "cannot assign to field " ++ "'" ++ field ++ "'"
  | frozen .delete field => "cannot delete field " ++ "'" ++ field ++ "'"
  | unbound name => Text.quoted name

/-- The end of a step: the session after it, what is told in the log, and the answer. -/
structure Reply where
  session : Session
  log : List Log.Event
  answer : Except Refusal Answer

/-! ### Carrying out steps -/

/-- The reply to a step that tells nothing and leaves the session as it is. -/
def reply (s : Session) (answer : Except Refusal Answer) : Reply := ⟨s, [], answer⟩

/-- Goes on with the registry that is meant, where the usual one is `none`. -/
def withRegistry (s : Session) (argument : RegistryArgument)
    (next : Session → Option Registry → Reply) : Reply :=
  match argument with
  | .usual => next s none
  | .bban => next s (some .bban)
  | .creditor => next s (some .creditor)
  | .named name => match s.registries.lookup name with
    | some registry => next s (some registry)
    | none => s.reply (.error (.unbound name))
  | .table kind entries =>
    let (cache, events, built) := s.cache.build kind entries
    let s := { s with cache }
    match built with
    | .ok registry =>
      let r := next s (some registry)
      { r with log := events ++ r.log }
    | .error failure => ⟨s, events, .error (.failure failure)⟩

/-- Gives a name to a registry that has been built. -/
def bindRegistry (s : Session) (name : String) (r : Registry) : Session :=
  { s with
    registries := (name, r) :: s.registries.filter (·.1 ≠ name)
    homes := (name, s.made) :: s.homes.filter (·.1 ≠ name)
    made := s.made + 1 }

/-- The place of the rules of a registry, if it is still there after the step. -/
def home? (s : Session) : RegistryArgument → Option Home
  | .usual | .bban => some .bban
  | .creditor => some .creditor
  | .named name => (s.homes.lookup name).map .built
  | .table .. => none

/-- Binds a rule of a registry, which is the same object each time it is looked up there. -/
def bindRule (s : Session) (registry : RegistryArgument) (name : String) (rule : Rule) : Session :=
  match s.home? registry with
  | some home => s.bind name ⟨.listed home rule.country.code, .rule rule⟩
  | none => s.bindNew name (.rule rule)

/-- Binds an identifier that has been made, and answers with its text. -/
def bindIdentifier (s : Session) (name : String) : Except Failure Identifier → Reply
  | .ok x => (s.bindNew name (.identifier x)).reply (.ok (.text x.text))
  | .error failure => s.reply (.error (.failure failure))

/-- Goes on with the object of a name. -/
def withObject (s : Session) (name : String) (next : Object → Reply) : Reply :=
  match s.object? name with
  | some o => next o
  | none => s.reply (.error (.unbound name))

/-- What an operand stands for: a value, or a plain text. -/
def operand? (s : Session) : Operand → Except Refusal (Value ⊕ String)
  | .text t => .ok (.inr t)
  | .object name => match s.object? name with
    | some o => .ok (.inl o.value)
    | none => .error (.unbound name)

/-- Compiles an expression and binds the object for it. -/
def compile (s : Session) (expression : Option String) (name : String) : Reply :=
  match given "expression" expression with
  | .error failure => s.reply (.error (.failure failure))
  | .ok expression => match Pattern.compile expression with
    | .error fault => s.reply (.error (.failure (.pattern fault)))
    | .ok p =>
      let (cache, number, events) := s.cache.take p
      let names := s.namesOf (.cached number)
      ⟨{ s with cache }.bind name ⟨.cached number, .pattern p⟩, events,
        .ok (.compiled p.regex names)⟩

/-- The test code of a BIC. A test code is its own, as the same object. -/
def asTest (s : Session) (bic name : String) : Reply :=
  s.withObject bic fun o => match o.value with
    | .identifier (.bic x) =>
      if x.isTest then
        (s.bind name o).reply (.ok (.testCode x.text (s.namesOf o.identity)))
      else match x.toTest with
        | .ok y => (s.bindNew name (.identifier (.bic y))).reply (.ok (.testCode y.text []))
        | .error failure => s.reply (.error (.failure failure))
    | _ => s.reply (.error (.unbound bic))

/-- Why the field of a value cannot be changed. -/
def refuseChange (how : Change) (field : String) : Value → Refusal
  | .identifier x => .immutable x.typeName
  | .pattern _ | .rule _ => .frozen how field

/-- Carries out a step. -/
def step (s : Session) : Step → Reply
  | .new kind input registry name =>
    s.withRegistry registry fun s registry =>
      s.bindIdentifier name (Identifier.ofInput kind registry input)
  | .ibanOfParts country bban registry name =>
    s.withRegistry registry fun s registry =>
      s.bindIdentifier name ((Iban.ofParts country bban (registry.getD .bban)).map .iban)
  | .creditorOfParts country businessCode nationalId registry name =>
    s.withRegistry registry fun s registry =>
      s.bindIdentifier name
        ((CreditorIdentifier.ofParts country businessCode nationalId
          (registry.getD .creditor)).map .creditor)
  | .build kind table name =>
    s.withRegistry (.table kind table) fun s registry => match registry with
      | some r => (s.bindRegistry name r).reply (.ok (.text r.describe))
      | none => s.reply (.error (.unbound name))
  | .lookup registry country name =>
    s.withRegistry registry fun s r =>
      match (r.getD .bban).lookupArgument country, name with
      | some rule, some name => (s.bindRule registry name rule).reply (.ok (.rule (some rule)))
      | rule, _ => s.reply (.ok (.rule rule))
  | .compile expression name => s.compile expression name
  | .accepts pattern text =>
    s.withObject pattern fun o => match o.value with
      | .pattern p => s.reply (.ok (.decision (text.any p.accepts)))
      | _ => s.reply (.error (.unbound pattern))
  | .judge kind input registry =>
    s.withRegistry registry fun s registry => match Verdict.on kind registry input with
      | .ok verdict => ⟨s, verdict.log, .ok (.decision verdict.valid)⟩
      | .error failure => s.reply (.error (.failure failure))
  | .find kind text =>
    let findings := Scan.identifiers kind text
    ⟨s, findings.log, .ok (.found findings.found)⟩
  | .asTest bic name => s.asTest bic name
  | .equal a b => s.reply do return .equality ((← s.operand? a) = (← s.operand? b))
  | .distinct operands =>
    s.reply do return .count (← operands.mapM s.operand?).eraseDups.length
  | .present name =>
    s.withObject name fun o => match o.value with
      | .identifier x => s.reply (.ok (.identifier x))
      | _ => s.reply (.error (.unbound name))
  | .change how name field =>
    s.withObject name fun o => s.reply (.error (refuseChange how field o.value))
  | .copy object name =>
    s.withObject object fun o =>
      (s.bindNew name o.value).reply (.ok (.copied o.value.describe))

/-- The replies to the steps of a session, one after the other. -/
def run (s : Session) : List Step → List Reply
  | [] => []
  | step :: steps =>
    let r := s.step step
    r :: r.session.run steps

end Session

end BankCodes
