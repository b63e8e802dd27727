import DiceLang.Roll

/-!
# The command line

The arguments together are one expression; without arguments it is asked for and taken from the
first line of the input. The outcome goes to the standard output, an error to the other one.
-/

namespace DiceLang.CommandLine

/-- What is shown before any input is read. -/
def prompt (arguments : List String) : String :=
  if arguments.isEmpty then "Enter dice expression: " else ""

/-- The first line of a text, without the line feed that ends it or the carriage return before
that. A carriage return at the very end of the text stays. -/
def firstLine (text : List Char) : List Char :=
  match text.span (· != '\n') with
  | (line, []) => line
  | (line, _ :: _) => if line.getLast? = some '\r' then line.dropLast else line

/-- The expression that is rolled: the arguments joined by spaces, or else the first line. -/
def expression (arguments : List String) (input : String) : String :=
  if arguments.isEmpty then
    String.ofList (firstLine input.toList)
  else
    " ".intercalate arguments

/-- What a run of the command leaves behind. -/
structure Exit where
  code : UInt32
  output : String
  errors : String

/-- The end of a run that came to the given answer. -/
def Exit.ofAnswer : Except RollError Outcome → Exit
  | .ok outcome => ⟨0, outcome.text ++ "\n", ""⟩
  | .error error => ⟨1, "", "Error: " ++ error.summary ++ "\n"⟩

/-- Rolls the expression from the arguments or the input, with fair dice from a seed. -/
def run (seed : UInt64) (arguments : List String) (input : String) : Exit :=
  Exit.ofAnswer (roll seed (expression arguments input)).answer

end DiceLang.CommandLine
