import DocumentDb.Server.Service
import DocumentDb.Json.Writer
import DocumentDb.Proofs.Database.Operation
import DocumentDb.Proofs.Database.Namespaces
import DocumentDb.Proofs.Database.Failure
import DocumentDb.Proofs.View.Engine
import DocumentDb.Proofs.View.Declarations
import DocumentDb.Proofs.View.Programs
import DocumentDb.Proofs.Database.Creation
import DocumentDb.Proofs.Selector.Selection
import DocumentDb.Proofs.Server.ErrorAnswers
import DocumentDb.Proofs.Database.Finding
import DocumentDb.Proofs.MapFunction.Grammar
import DocumentDb.Proofs.MapFunction.Reading
import DocumentDb.Proofs.MapFunction.Recognition
import DocumentDb.Proofs.MapFunction.Acceptance
import DocumentDb.Proofs.MapFunction.Height
import DocumentDb.Proofs.Store.Replay
import DocumentDb.Proofs.Database.Batches
import DocumentDb.Proofs.Database.Designs
import DocumentDb.Proofs.Database.Causes
import DocumentDb.Proofs.Json.Equality
import DocumentDb.Proofs.Json.Writing
import DocumentDb.Proofs.Json.Projection
import DocumentDb.Proofs.Selector.Equality
import DocumentDb.Proofs.Database.Separation
import DocumentDb.Proofs.Database.Listings
import DocumentDb.Proofs.Server.Handlers
import DocumentDb.Proofs.Server.Readers
import DocumentDb.Proofs.Server.ReadBack
import DocumentDb.Proofs.Server.Changes
import DocumentDb.Proofs.Server.Runs
import DocumentDb.Proofs.Database.Recompiling
import DocumentDb.Proofs.Server.Gate
import DocumentDb.Proofs.Server.DesignCopies
import DocumentDb.Proofs.Number.Rounding
import DocumentDb.Proofs.Json.Comparison
import DocumentDb.Proofs.Number.Integers
import DocumentDb.Proofs.View.Paging
import DocumentDb.Proofs.View.Grouping
import DocumentDb.Proofs.Document.RoundTrip
import DocumentDb.Proofs.Database.Deletion
import DocumentDb.Proofs.MapFunction.Literals
import DocumentDb.Proofs.MapFunction.Equality
import DocumentDb.Proofs.Database.Indexes
import DocumentDb.Proofs.Selector.Grammar
import DocumentDb.Proofs.MapFunction.Division
import DocumentDb.Proofs.MapFunction.Spacing
import DocumentDb.Proofs.Json.Updating
import DocumentDb.Proofs.Text.Digits
import DocumentDb.Proofs.Number.Coercion
import DocumentDb.Proofs.View.Saturation
import DocumentDb.Proofs.Number.Interval
import DocumentDb.Proofs.Number.Shortest
import DocumentDb.Proofs.Number.Text
