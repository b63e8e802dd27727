import DiceLang.Event
import DiceLang.Roller.Uniform
import DiceLang.Token.Lexer

/-!
# Rolling an expression

From a text to an outcome: the text is read as tokens and then as an expression, the number of
its dice is held against a limit, and only then are dice rolled. A text that is refused leaves
the roller as it was.
-/

namespace DiceLang

/-- Why a text is no expression. -/
inductive TextError where
  | lex (error : LexError)
  | parse (error : ParseError)
deriving DecidableEq

/-- Reads an expression from its text. Tokens after a complete expression are left over. -/
def Expr.ofText (text : String) : Except TextError Expr.Parsed :=
  match Token.lex text with
  | .error error => .error (.lex error)
  | .ok tokens =>
    match Expr.parse tokens with
    | .error error => .error (.parse error)
    | .ok parsed => .ok parsed

/-- Why a text was not rolled. -/
inductive Refusal where
  | text (error : TextError)
  /-- So many dice would be rolled where at most so many are allowed. -/
  | tooManyRolls (count limit : UInt64)
deriving DecidableEq

/-- Why there is no outcome. -/
inductive RollError where
  /-- Nothing was rolled. -/
  | refused (refusal : Refusal)
  /-- The roller failed on the way. -/
  | faulted (fault : Fault)
deriving DecidableEq

namespace TextError

/-- The error in words, in full. -/
def message : TextError → String
  | lex error => error.message
  | parse error => error.message

/-- The error in words, on a single line. -/
def summary : TextError → String
  | lex error => error.summary
  | parse error => error.message

end TextError

namespace Refusal

/-- The rejection of an expression with too many dice, in words. -/
def limitMessage (count limit : UInt64) : String :=
  "expression rolls " ++ Word.text count ++ " dice, but at most " ++ Word.text limit ++
    " are allowed"

/-- The refusal in words, on a single line. -/
def summary : Refusal → String
  | text error => error.summary
  | tooManyRolls count limit => limitMessage count limit

end Refusal

/-- The error in words, on a single line. -/
def RollError.summary : RollError → String
  | refused refusal => refusal.summary
  | faulted fault => fault.message

/-- What an expression is rolled with: a roller in some state and a limit on the dice. -/
structure Options (σ : Type) where
  roller : Roller σ
  state : σ
  /-- How many dice an expression may roll at most, if that is limited. -/
  limit : Option UInt64

namespace Options

variable {σ τ : Type}

/-- Options without a limit. -/
def new (roller : Roller σ) (state : σ) : Options σ :=
  ⟨roller, state, none⟩

/-- The same options with a limit. -/
def maxRolls (options : Options σ) (limit : UInt64) : Options σ :=
  { options with limit := some limit }

/-- The same limit with another roller. -/
def withRoller (options : Options σ) (roller : Roller τ) (state : τ) : Options τ :=
  ⟨roller, state, options.limit⟩

/-- The limit, if an expression exceeds it. -/
def exceeded? (options : Options σ) (expr : Expr) : Option UInt64 :=
  options.limit.filter fun limit => limit < expr.rollCount

end Options

/-- What a roll leaves: an outcome or an error, the roller's next state, and the events. -/
structure Report (σ : Type) where
  answer : Except RollError Outcome
  state : σ
  events : List Event

namespace Report

variable {σ : Type}

/-- The report on an evaluation that began after the given events. -/
def ofEvaluation (before : List Event) (result : EStateM.Result Fault (Table σ) Outcome) :
    Report σ :=
  match result with
  | .ok outcome table => ⟨.ok outcome, table.state, before ++ table.throws.map .thrown⟩
  | .error fault table =>
    ⟨.error (.faulted fault), table.state, before ++ table.throws.map .thrown⟩

end Report

variable {σ : Type}

/-- Checks an expression against the limit and evaluates it. -/
def rollParsed (options : Options σ) (parsed : Expr.Parsed) : Report σ :=
  let ignored := parsed.ignored?.toList.map Event.ignoredInput
  match options.exceeded? parsed.expr with
  | some limit =>
    ⟨.error (.refused (.tooManyRolls parsed.expr.rollCount limit)), options.state,
      ignored ++ [.overLimit parsed.expr limit]⟩
  | none =>
    Report.ofEvaluation (ignored ++ [.evaluating parsed.expr])
      (parsed.expr.eval options.roller (Table.fresh options.state))

/-- Rolls the expression that a text spells. -/
def rollWith (options : Options σ) (text : String) : Report σ :=
  match Expr.ofText text with
  | .error error => ⟨.error (.refused (.text error)), options.state, []⟩
  | .ok parsed => rollParsed options parsed

/-- Rolls an expression with fair dice from a seed, without a limit. -/
def roll (seed : UInt64) (text : String) : Report UInt64 :=
  rollWith (Options.new Roller.uniform seed) text

end DiceLang
