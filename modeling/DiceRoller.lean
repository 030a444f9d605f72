import DiceRoller.Expression.Shape
import DiceRoller.Main
import DiceRoller.Proofs.Codes
import DiceRoller.Proofs.Concatenation
import DiceRoller.Proofs.Replay
import DiceRoller.Proofs.Outcome
import DiceRoller.Proofs.Text.Words
import DiceRoller.Proofs.Expression.Limiting
import DiceRoller.Proofs.Ranking
import DiceRoller.Proofs.Redrawing
import DiceRoller.Proofs.Desugaring
import DiceRoller.Proofs.Scoring
import DiceRoller.Proofs.Script
import DiceRoller.Proofs.Session.Calling
import DiceRoller.Proofs.Session.Deleting
import DiceRoller.Proofs.Choosing
import DiceRoller.Proofs.Duality
import DiceRoller.Proofs.Extremes
import DiceRoller.Proofs.Bounds
import DiceRoller.Proofs.Work
import DiceRoller.Proofs.Session.Logging
import DiceRoller.Proofs.Accounting
import DiceRoller.Proofs.Locality
import DiceRoller.Proofs.Explanation
import DiceRoller.Proofs.Settings
import DiceRoller.Proofs.Session.Tracing
import DiceRoller.Proofs.Expression.Spoken
import DiceRoller.Proofs.Respelling
import DiceRoller.Proofs.Expression.Spelling
