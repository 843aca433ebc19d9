import BankCodes.Log.Event
import BankCodes.Registry

/-!
# The cache of compiled expressions

Compiling an expression for the first time makes a pattern object; compiling it again gives the
same object. The objects are numbered in the order in which they are made, so two of them are the
same if their numbers are. Making one is told in the log. An expression that does not compile
leaves no trace.
-/

namespace BankCodes.Session

/-- The patterns that have been made, each at the place of its number. -/
structure Cache where
  patterns : List Pattern
deriving DecidableEq, Repr

namespace Cache

/-- The cache before anything is compiled. -/
def empty : Cache := ⟨[]⟩

/-- The number of the object for a pattern, if it has been made. -/
def number? (c : Cache) (p : Pattern) : Option Nat := c.patterns.idxOf? p

/-- The cache with an object for the pattern, its number, and what is told if it is new. -/
def take (c : Cache) (p : Pattern) : Cache × Nat × List Log.Event :=
  match c.number? p with
  | some n => (c, n, [])
  | none => (⟨c.patterns ++ [p]⟩, c.patterns.length, [.compiled p])

/-- The cache with objects for all of the patterns, their numbers in order, and what is told about
the new ones. -/
def takeAll (c : Cache) : List Pattern → Cache × List Nat × List Log.Event
  | [] => (c, [], [])
  | p :: ps =>
    let (c, n, events) := c.take p
    let (c, ns, more) := c.takeAll ps
    (c, n :: ns, events ++ more)

/-- Builds a registry, with objects for the layouts of all entries before a wrong one. The object of
a rule's pattern is not kept beside the rule: it is the one that has its number in the cache. -/
def build (c : Cache) (kind : String) (table : Registry.Table) :
    Cache × List Log.Event × Except Failure Registry :=
  let (c, _, events) := c.takeAll ((Registry.readTable table).1.map Rule.pattern)
  (c, events, Registry.build kind table)

end Cache

end BankCodes.Session
