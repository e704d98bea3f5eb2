import Catalog.Entity.Fields
import Catalog.Proofs.Attribution.Reference
import Catalog.Proofs.Document.Sections
import Catalog.Proofs.Entity.Listing
import Catalog.Proofs.Escape.Reading
import Catalog.Proofs.Library.Iterations
import Catalog.Proofs.Record.Conformance
import Catalog.Proofs.Record.Content
import Catalog.Proofs.Record.Leaves
import Catalog.Proofs.Record.Texts
import Catalog.Proofs.Report.Location
import Catalog.Proofs.Rewriting.Erase
import Catalog.Proofs.Rewriting.Move
import Catalog.Proofs.Rewriting.Regroup
import Catalog.Proofs.Rewriting.Wrap
import Catalog.Proofs.Scope.Discipline
import Catalog.Proofs.Substitution.Unwrap
import Catalog.Proofs.Tagging.Reading
import Catalog.Proofs.Translation.Record
import Catalog.Proofs.Traversal.Turns
import Catalog.Proofs.Value.Mistake
import Catalog.Record.Script
