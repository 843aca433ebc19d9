import BankCodes.Terminal.CommandLine
import BankCodes.Terminal.Display

/-!
# The terminal

The host that the program runs on: command lines are read as options and words, and lines are shown
on a screen of a width. Nothing that is said about runs of the console rests on it, apart from
samples.
-/

namespace BankCodes.Terminal

/-- The width of a screen that does not say how wide it is. -/
def usualWidth : Nat := 80

/-- The terminal with a screen of the width. -/
def host (width : Nat) : Console.Host where
  read := readCommandLine
  shown line := String.ofList (Display.shown width line.toList)

end BankCodes.Terminal
