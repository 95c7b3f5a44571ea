import Keystroke.Configuration.Writing
import Keystroke.Proofs.Safety
import Keystroke.Proofs.Balance
import Keystroke.Proofs.Segments
import Keystroke.Proofs.ClosingTexts
import Keystroke.Proofs.Lines
import Keystroke.Proofs.NewLine
import Keystroke.Proofs.Escaping
import Keystroke.Proofs.Heuristics
import Keystroke.Proofs.Columns
import Keystroke.Proofs.Division
import Keystroke.Proofs.Places
import Keystroke.Proofs.Locality
import Keystroke.Proofs.Block
import Keystroke.Proofs.Entries
import Keystroke.Proofs.Offsets
import Keystroke.Proofs.Outdent
import Keystroke.Proofs.NormalForm
import Keystroke.Proofs.Positions
import Keystroke.Proofs.Erasing
import Keystroke.Proofs.Restrictions
import Keystroke.Proofs.RepeatedEnter
import Keystroke.Proofs.PrecedingToken
import Keystroke.Proofs.Accounting
import Keystroke.Proofs.RuleOrder
import Keystroke.Proofs.Literals
import Keystroke.Proofs.WholeUnits
import Keystroke.Proofs.WrittenActions
import Keystroke.Proofs.MemberOrder
