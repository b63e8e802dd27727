import DiceLang.CommandLine

/-!
# The program

Rolls one expression with dice that the system seeds.
-/

namespace DiceLang

/-- A seed from the system's source of randomness. -/
def systemSeed : IO UInt64 := do
  let bytes ← IO.getRandomBytes 8
  return bytes.toList.foldl (fun seed byte => seed * 256 + byte.toUInt64) 0

/-- The input that the command needs: a line if there are no arguments. -/
def readInput (arguments : List String) : IO String := do
  if arguments.isEmpty then
    (← IO.getStdin).getLine
  else
    return ""

end DiceLang

/-- Asks for an expression if the arguments hold none, and rolls it. -/
def main (arguments : List String) : IO UInt32 := do
  IO.print (DiceLang.CommandLine.prompt arguments)
  (← IO.getStdout).flush
  let input ← DiceLang.readInput arguments
  let exit := DiceLang.CommandLine.run (← DiceLang.systemSeed) arguments input
  IO.print exit.output
  IO.eprint exit.errors
  return exit.code
