import Scaffold.Main
import Scaffold.Template.Library
import Scaffold.Proofs.Sql.Statement
import Scaffold.Proofs.Files.Output
import Scaffold.Proofs.Command.Confinement
import Scaffold.Proofs.Column.Default
import Scaffold.Proofs.Drift.Quoted
import Scaffold.Proofs.Template.Request
import Scaffold.Proofs.Name.Respelling
import Scaffold.Proofs.Column.Agreement
import Scaffold.Proofs.Template.Marks
import Scaffold.Proofs.Template.Lines
import Scaffold.Proofs.Template.Names
import Scaffold.Proofs.Template.Fills
import Scaffold.Proofs.Template.Identifiers
import Scaffold.Proofs.Template.Tables
import Scaffold.Proofs.Model.Joining
import Scaffold.Proofs.Model.Printing
import Scaffold.Proofs.Model.Recovery
import Scaffold.Proofs.Template.Acceptance
import Scaffold.Proofs.Route.Parameters
import Scaffold.Proofs.Sql.Names
import Scaffold.Proofs.Command.Trace
import Scaffold.Proofs.Project.Settings
import Scaffold.Proofs.Project.Sections
import Scaffold.Proofs.Column.Acceptance
import Scaffold.Proofs.Name.Recovery
import Scaffold.Proofs.Name.Inflection
import Scaffold.Proofs.Files.Containment
import Scaffold.Proofs.Repository.Names
import Scaffold.Proofs.Project.Migrations
import Scaffold.Proofs.Column.Edits
import Scaffold.Proofs.Template.Types
import Scaffold.Proofs.Template.Renderer
import Scaffold.Proofs.Text.Capitals
import Scaffold.Proofs.Name.Fixpoints
import Scaffold.Proofs.Name.Capitalised
import Scaffold.Proofs.Drift.Accessor
import Scaffold.Proofs.Project.Loaded
