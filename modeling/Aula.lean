import Aula.Main
import Aula.Proofs.CommandLine.Agreement
import Aula.Proofs.Header.Capture
import Aula.Proofs.Header.Loop
import Aula.Proofs.Header.Output
import Aula.Proofs.Program.FirstFault
import Aula.Proofs.Program.Respacing
import Aula.Proofs.Report.Caret
import Aula.Proofs.Scan.Joining
import Aula.Proofs.Walker.Driving
import Aula.Proofs.Scan.Stopping
import Aula.Proofs.Walker.Steps
import Aula.Proofs.Walker.Trail
import Aula.Proofs.Walker.Enclosing
import Aula.Proofs.Program.Termination
import Aula.Proofs.Header.ConditionFault
import Aula.Proofs.Program.Comments
import Aula.Proofs.Header.Statement
import Aula.Proofs.Program.Naming
import Aula.Proofs.Scan.FirstValue
import Aula.Proofs.Report.Column
import Aula.Proofs.Text.Place
import Aula.Proofs.Program.BlockLog
import Aula.Proofs.Rule.Matching
