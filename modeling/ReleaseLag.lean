import ReleaseLag.Main
import ReleaseLag.Paging.Session
import ReleaseLag.Proofs.Lagging.Noninterference
import ReleaseLag.Proofs.Paging.Changing
import ReleaseLag.Proofs.Template.Braces
import ReleaseLag.Proofs.Template.Inertness
import ReleaseLag.Proofs.Template.RoundTrip
import ReleaseLag.Proofs.Template.Soundness
import ReleaseLag.Proofs.Paging.Scripted
import ReleaseLag.Proofs.Paging.Order
import ReleaseLag.Proofs.Paging.Blame
import ReleaseLag.Proofs.Cli.AllOrNothing
import ReleaseLag.Proofs.Sql.Lexing
import ReleaseLag.Proofs.Statement.FixedPoint
import ReleaseLag.Proofs.Paging.Stream
import ReleaseLag.Proofs.Paging.Race
import ReleaseLag.Proofs.Paging.Session
import ReleaseLag.Proofs.Template.Division
import ReleaseLag.Proofs.Template.Faults
import ReleaseLag.Proofs.Template.Composition
import ReleaseLag.Proofs.Template.Outline
