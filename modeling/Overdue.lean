import Overdue.Main
import Overdue.Proofs.Classification.Progress
import Overdue.Proofs.Config.Excludes
import Overdue.Proofs.Declaration.Containers
import Overdue.Proofs.Declaration.Groups
import Overdue.Proofs.Declaration.Nearest
import Overdue.Proofs.Discovery.Roots
import Overdue.Proofs.Marker.Rendering
import Overdue.Proofs.Run.OutputMode
import Overdue.Proofs.Run.Priority
import Overdue.Proofs.Run.ReferenceDate
import Overdue.Proofs.Source.CommentWalk
import Overdue.Proofs.Source.Comments
import Overdue.Proofs.Source.FirstError
import Overdue.Proofs.Source.Isolation
import Overdue.Proofs.Verdict.Lines
import Overdue.Workers
