import Verdict.Main
import Verdict.Proofs.Bindings.Argument
import Verdict.Proofs.Bindings.Table
import Verdict.Proofs.Command.Override
import Verdict.Proofs.Descent.Counting
import Verdict.Proofs.Descent.Termination
import Verdict.Proofs.Evaluation.Composition
import Verdict.Proofs.Evaluation.Halt
import Verdict.Proofs.Evaluation.LetterCase
import Verdict.Proofs.Evaluation.Persistence
import Verdict.Proofs.Evaluation.Spacing
import Verdict.Proofs.Evaluation.Surfaces
import Verdict.Proofs.Expr.Meaning
import Verdict.Proofs.Expr.Names
import Verdict.Proofs.Expr.Printable
import Verdict.Proofs.Files.Directory
import Verdict.Proofs.RuleSet.Refusal
import Verdict.Proofs.Service.History
