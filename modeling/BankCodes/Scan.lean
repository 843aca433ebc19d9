import BankCodes.Text.Case
import BankCodes.Text.Word
import BankCodes.Verdict

/-!
# Finding identifiers in a running text

A text is cut into words, and some of its words make sites where an identifier may stand. A compact
site is one whole word of the right shape. A printed IBAN is a word of two letters and two digits,
followed by one to seven words of four characters and perhaps a shorter one, all one space apart;
since a word of the sentence may have been taken for its last group, its candidates are the groups
and all shorter runs of them, the longest first.

At each site the candidates are read in order until one is accepted. What is found comes in the
order of the sites in the text, each identifier once; the rejections come in the order in which
the candidates were tried, those of printed sites before all others.
-/

namespace BankCodes.Scan

open Text

/-! ### Sites and findings -/

/-- A place in a text with the candidates for it, in the order in which they are tried. -/
structure Site where
  start : Nat
  candidates : List (List Char)
deriving DecidableEq, Repr

/-- An identifier with the place where it was found. -/
structure Hit where
  start : Nat
  text : String
deriving DecidableEq, Repr

/-- The identifiers of a text, and the rejections of the candidates that were none. -/
structure Findings where
  found : List String
  log : List Log.Event
deriving DecidableEq, Repr

/-- The first candidate that is accepted, and the failures of those before it. -/
def firstAccepted (read : String → Except Failure String) :
    List (List Char) → Option String × List Failure
  | [] => (none, [])
  | c :: cs => match read (String.ofList c) with
    | .ok text => (some text, [])
    | .error failure =>
      let (text, failures) := firstAccepted read cs
      (text, failure :: failures)

/-- Puts a hit in its place among hits in the order of their starts, before those with the same
start. -/
def insertHit (hit : Hit) : List Hit → List Hit
  | [] => [hit]
  | h :: hs => if h.start < hit.start then h :: insertHit hit hs else hit :: h :: hs

/-- The hits in the order of their starts; of two with the same start the first stays first. -/
def inOrder (hits : List Hit) : List Hit := hits.foldr insertHit []

/-- The hit at a site, if there is one. -/
def hit? (read : String → Except Failure String) (site : Site) : Option Hit :=
  (firstAccepted read site.candidates).1.map (⟨site.start, ·⟩)

/-- Tries the sites of a text. -/
def search (kind : String) (read : String → Except Failure String) (sites : List Site) :
    Findings where
  found := ((inOrder (sites.filterMap (hit? read))).map Hit.text).eraseDups
  log := sites.flatMap fun site =>
    (firstAccepted read site.candidates).2.map (.rejection kind)

/-! ### Compact sites -/

/-- Capital letters and digits, of ASCII. -/
def isCapitalOrDigit (c : Char) : Bool := c.isUpper || c.isDigit

/-- Two capital letters and two decimal digits before the rest, which is given back. -/
def afterHead : List Char → Option (List Char)
  | a :: b :: c :: d :: cs =>
    if a.isUpper && b.isUpper && isDecimal c && isDecimal d then some cs else none
  | _ => none

/-- Whether a word begins like an IBAN and has `least` to `most` capitals and digits after that. -/
def hasShape (least most : Nat) (word : List Char) : Bool :=
  match afterHead word with
  | some cs => least ≤ cs.length && cs.length ≤ most && cs.all isCapitalOrDigit
  | none => false

/-- Whether a word has the shape of an IBAN. -/
def isIbanWord (word : List Char) : Bool := hasShape 1 30 word

/-- Whether a word has the shape of a creditor identifier. -/
def isCreditorWord (word : List Char) : Bool := hasShape 4 31 word

/-- Whether a word has the shape of a BIC. -/
def isBicWord (word : List Char) : Bool :=
  (word.length == 8 || word.length == 11) && (word.take 6).all Char.isUpper &&
    (word.drop 6).all isCapitalOrDigit

/-- The words of a shape, as sites. -/
def compactSites (shape : List Char → Bool) (ws : List Word) : List Site :=
  (ws.filter (shape ·.chars)).map fun w => ⟨w.start, [w.chars]⟩

/-! ### Printed IBANs -/

/-- Whether a word stands one space after the word before. -/
def isNext (w : Word) : Bool := w.gap == [' ']

/-- The groups of four characters at the front, at most `limit` of them, and the words after
them. -/
def fullGroups : Nat → List Word → List (List Char) × List Word
  | limit + 1, w :: ws =>
    if isNext w && w.chars.length == 4 && w.chars.all isCapitalOrDigit then
      let (groups, rest) := fullGroups limit ws
      (w.chars :: groups, rest)
    else ([], w :: ws)
  | _, ws => ([], ws)

/-- A group of one to three characters at the front, if there is one. -/
def lastGroup : List Word → List (List Char)
  | w :: _ => if isNext w && w.chars.length < 4 && w.chars.all isCapitalOrDigit then [w.chars] else []
  | [] => []

/-- The groups of the printed IBAN at the front, its head among them, if there may be one. -/
def printedGroups : List Word → Option (List Char × List (List Char))
  | [] => none
  | w :: ws => match afterHead w.chars, fullGroups 7 ws with
    | some [], (g :: gs, rest) => some (w.chars, g :: gs ++ lastGroup rest)
    | _, _ => none

/-- The head with all of the groups, with one less, and so on down to the first one. -/
def trimmed (head : List Char) : List (List Char) → List (List Char)
  | [] => []
  | g :: gs => trimmed (head ++ g) gs ++ [head ++ g]

/-- The places of printed IBANs, from left to right. The words of one are not looked at again, and
`skip` counts those still to be passed over. -/
def printedSites (skip : Nat) : List Word → List Site
  | [] => []
  | w :: ws => match skip with
    | skip + 1 => printedSites skip ws
    | 0 => match printedGroups (w :: ws) with
      | some (head, groups) => ⟨w.start, trimmed head groups⟩ :: printedSites groups.length ws
      | none => printedSites 0 ws

/-! ### The three searches -/

/-- The IBANs of a text in either case, compact or printed. -/
def ibans (text : String) : Findings :=
  let ws := words (upper text.toList)
  search Iban.kind (fun s => (Iban.parse s).map Iban.text)
    (printedSites 0 ws ++ compactSites isIbanWord ws)

/-- The BICs of a text, in capitals only, in their full form. -/
def bics (text : String) : Findings :=
  search Bic.kind (fun s => (Bic.parse s).map Bic.text)
    (compactSites isBicWord (words text.toList))

/-- The creditor identifiers of a text in either case. -/
def creditorIdentifiers (text : String) : Findings :=
  search CreditorIdentifier.kind (fun s => (CreditorIdentifier.parse s).map CreditorIdentifier.text)
    (compactSites isCreditorWord (words (upper text.toList)))

/-- The identifiers of a kind in a text. -/
def identifiers (kind : Kind) (text : String) : Findings :=
  match kind with
  | .iban => ibans text
  | .bic => bics text
  | .creditor => creditorIdentifiers text
  | .unspecified => ⟨[], []⟩

end BankCodes.Scan
