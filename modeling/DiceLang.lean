import DiceLang.Main
import DiceLang.Expr.Grammar
import DiceLang.Outcome.Json
import DiceLang.Roller.Source
import DiceLang.Proofs.Reading.Faithful
import DiceLang.Proofs.Reading.Soundness
import DiceLang.Proofs.Reading.Depth
import DiceLang.Proofs.Reading.Completeness
import DiceLang.Proofs.Reading.Language
import DiceLang.Proofs.Reading.Chain
import DiceLang.Proofs.Lexing.Layout
import DiceLang.Proofs.Lexing.Scan
import DiceLang.Proofs.Lexing.Attempts
import DiceLang.Proofs.Lexing.Lexemes
import DiceLang.Proofs.Lexing.Recovery
import DiceLang.Proofs.Lexing.Exactness
import DiceLang.Proofs.Lexing.Literals
import DiceLang.Proofs.Lexing.Misfits
import DiceLang.Proofs.RoundTrip
import DiceLang.Proofs.Rolling.Asking
import DiceLang.Proofs.Rolling.Evaluating
import DiceLang.Proofs.Rolling.Written
import DiceLang.Proofs.Rolling.Limit
import DiceLang.Proofs.Rolling.Replay
import DiceLang.Proofs.Rolling.Tree
import DiceLang.Proofs.Rolling.Explanation
import DiceLang.Proofs.Rolling.Recovery
import DiceLang.Proofs.Rolling.Determinism
import DiceLang.Proofs.Rolling.Session
import DiceLang.Proofs.Rolling.Events
import DiceLang.Proofs.NormalForm
import DiceLang.Proofs.Spacing
import DiceLang.Proofs.Parentheses
import DiceLang.Proofs.SinglePass
import DiceLang.Proofs.Doubles
import DiceLang.Proofs.Rolling.Keeping
import DiceLang.Proofs.Documents.Layouts
import DiceLang.Proofs.Documents.Texts
import DiceLang.Proofs.Documents.Values
import DiceLang.Proofs.Documents.Outcomes
import DiceLang.Proofs.Reading.Calls
import DiceLang.Proofs.Reading.Progress
import DiceLang.Proofs.Reading.Repeating
import DiceLang.Proofs.Reading.Unterminated
import DiceLang.Proofs.Rolling.Fairness
