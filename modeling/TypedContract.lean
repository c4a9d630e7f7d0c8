import TypedContract.Client.Source
import TypedContract.Client.TypeText
import TypedContract.Client.View
import TypedContract.Command.Basic
import TypedContract.Command.Request
import TypedContract.Command.Word
import TypedContract.Configuration
import TypedContract.Diagnostic
import TypedContract.Disk.Basic
import TypedContract.Disk.Path
import TypedContract.Document.Contract
import TypedContract.Document.Loading
import TypedContract.Double.Basic
import TypedContract.Double.Shortest
import TypedContract.Enrichment
import TypedContract.Example.Basic
import TypedContract.Example.Mapper
import TypedContract.Fault
import TypedContract.Fragments
import TypedContract.Json.Access
import TypedContract.Json.Basic
import TypedContract.Json.Node
import TypedContract.Json.Pointer
import TypedContract.Json.Reader
import TypedContract.Json.Writer
import TypedContract.Literal.Basic
import TypedContract.Literal.Expression
import TypedContract.Literal.Json
import TypedContract.Literal.Token
import TypedContract.Main
import TypedContract.Name.Distinct
import TypedContract.Name.Snake
import TypedContract.Name.Operation
import TypedContract.Parameter.Kind
import TypedContract.Proofs.Carrying
import TypedContract.Proofs.Registry.Entries
import TypedContract.Proofs.Registry.Nested
import TypedContract.Proofs.Returning
import TypedContract.Proofs.Translation.Closed
import TypedContract.Proofs.Translation.Derivation
import TypedContract.Proofs.Translation.Growth
import TypedContract.Proofs.Ty.References
import TypedContract.Registry.Basic
import TypedContract.Registry.Program
import TypedContract.Schema.Basic
import TypedContract.Session
import TypedContract.Signature.Basic
import TypedContract.Signature.Builder
import TypedContract.Symbol.Basic
import TypedContract.Symbol.Manifest
import TypedContract.Text.BaseDigit
import TypedContract.Text.Ranges
import TypedContract.Text.Case
import TypedContract.Text.CasedContext
import TypedContract.Text.CharacterName.Abugidas
import TypedContract.Text.CharacterName.Alias
import TypedContract.Text.CharacterName.Alphabets
import TypedContract.Text.CharacterName.Ancient
import TypedContract.Text.CharacterName.Basic
import TypedContract.Text.CharacterName.EastAsia
import TypedContract.Text.CharacterName.Pictographs
import TypedContract.Text.CharacterName.Signaries
import TypedContract.Text.CharacterName.Syllabics
import TypedContract.Text.CharacterName.Symbols
import TypedContract.Text.Integer
import TypedContract.Text.Markup
import TypedContract.Text.Printable
import TypedContract.Text.Quoted
import TypedContract.Text.Wrapped
import TypedContract.Translation
import TypedContract.Ty.Basic
import TypedContract.Web.Page
import TypedContract.Proofs.Signature.Rules
import TypedContract.Proofs.Signature.Closed
import TypedContract.Proofs.Fragments.Closed
import TypedContract.Proofs.Json.Standing
import TypedContract.Proofs.Schema.Parsing
import TypedContract.Proofs.Schema.Acceptance
import TypedContract.Proofs.Translation.Recordlike
import TypedContract.Proofs.Ty.Acceptance
import TypedContract.Proofs.Translation.Chronicle
import TypedContract.Proofs.Translation.Accepting
import TypedContract.Proofs.Translation.Faithful
import TypedContract.Proofs.Registry.Resolving
import TypedContract.Proofs.Registry.Cycles
import TypedContract.Proofs.Schema.Unplaced
import TypedContract.Proofs.Translation.Over
import TypedContract.Proofs.Translation.Finished
import TypedContract.Proofs.Translation.Agreement
import TypedContract.Proofs.Translation.Order
import TypedContract.Proofs.Literal.Number
import TypedContract.Proofs.Literal.Quoted
import TypedContract.Proofs.Double.Nearest
import TypedContract.Proofs.Double.Shortest
import TypedContract.Proofs.Literal.Double
import TypedContract.Proofs.Literal.Scanning
import TypedContract.Proofs.Literal.Parsing
import TypedContract.Proofs.Literal.RoundTrip
import TypedContract.Proofs.Name.Distinct
import TypedContract.Proofs.Fragments.Naming
import TypedContract.Proofs.Fragments.Steps
import TypedContract.Proofs.Translation.Nullable
import TypedContract.Proofs.Translation.Rules
import TypedContract.Proofs.Schema.Typed
import TypedContract.Proofs.Translation.Ending
import TypedContract.Proofs.Translation.Alike
import TypedContract.Proofs.Signature.Alike
import TypedContract.Proofs.Agreeing
import TypedContract.Proofs.Contract.Change
import TypedContract.Proofs.Contract.Counterpart
import TypedContract.Proofs.Contract.Enriched
import TypedContract.Proofs.Contract.Part
import TypedContract.Proofs.Contract.Plan
import TypedContract.Proofs.Editing
import TypedContract.Proofs.Enrichment.Outcome
import TypedContract.Proofs.Enrichment.Parallel
import TypedContract.Proofs.Enrichment.Steps
import TypedContract.Proofs.Example.RoundTrip
import TypedContract.Proofs.Ty.Undescribed
import TypedContract.Proofs.Contract.Reading
import TypedContract.Proofs.Schema.Nesting
import TypedContract.Proofs.Schema.Reworded
import TypedContract.Proofs.Following
import TypedContract.Proofs.Translation.Following
import TypedContract.Proofs.Example.Annotating
import TypedContract.Proofs.Example.Calls
import TypedContract.Proofs.Signature.Chain
import TypedContract.Proofs.Signature.Following
import TypedContract.Proofs.Fragments.Enriched
import TypedContract.Proofs.Translation.Registration
import TypedContract.Proofs.Translation.Hoisting
import TypedContract.Proofs.Translation.Embedding
import TypedContract.Proofs.Name.Identifier
import TypedContract.Proofs.Signature.Canonical
import TypedContract.Proofs.Client.Scopes
import TypedContract.Proofs.Literal.Delimited
import TypedContract.Proofs.Literal.Normal
import TypedContract.Proofs.Literal.Settling
import TypedContract.Proofs.Literal.Nesting
import TypedContract.Proofs.Literal.Decoding
import TypedContract.Proofs.Client.Segments
import TypedContract.Proofs.Client.Quotes
import TypedContract.Proofs.Translation.Keys
import TypedContract.Proofs.Translation.Course
import TypedContract.Proofs.Translation.Rehoisting
import TypedContract.Proofs.Translation.Descent
import TypedContract.Proofs.Translation.LeafFirst
import TypedContract.Proofs.Signature.Keeping
import TypedContract.Proofs.Fragments.LeafFirst
import TypedContract.Proofs.Registry.Routine
import TypedContract.Proofs.Registry.Overwriting
import TypedContract.Proofs.Registry.Rewinding
import TypedContract.Proofs.Symbol.Manifest
import TypedContract.Proofs.Document.Flawed
import TypedContract.Proofs.Command.Refusing
import TypedContract.Proofs.Contract.Apart
import TypedContract.Proofs.Enrichment.Sites
import TypedContract.Proofs.Enrichment.Described
import TypedContract.Proofs.Enrichment.DataOnly
import TypedContract.Proofs.Signature.Origins
import TypedContract.Proofs.Signature.Arrangement
import TypedContract.Proofs.Enrichment.Finding
import TypedContract.Proofs.Enrichment.Selection
import TypedContract.Proofs.Enrichment.Completing
import TypedContract.Proofs.Enrichment.Fitting
import TypedContract.Proofs.Enrichment.Serving
import TypedContract.Proofs.Enrichment.Fits
import TypedContract.Proofs.Fragments.Accepted
import TypedContract.Proofs.Signature.Steps
import TypedContract.Proofs.Signature.Scalar
import TypedContract.Proofs.Signature.Nilable
import TypedContract.Proofs.Signature.Tasks
import TypedContract.Proofs.Signature.Reporting
import TypedContract.Proofs.Translation.Marked
import TypedContract.Proofs.Signature.Marked
import TypedContract.Proofs.Signature.Marking
import TypedContract.Proofs.Name.Legal
import TypedContract.Proofs.Symbol.Hierarchy
import TypedContract.Proofs.Translation.Merging
import TypedContract.Proofs.Translation.Declaring
import TypedContract.Proofs.Translation.Requiredness
import TypedContract.Proofs.Translation.Ancestry
import TypedContract.Proofs.Translation.Composition
import TypedContract.Proofs.Text.Pieces
import TypedContract.Proofs.Json.Pointer
import TypedContract.Proofs.Translation.Pointing
import TypedContract.Proofs.Signature.Resolving
import TypedContract.Proofs.Text.Markup
import TypedContract.Proofs.Registry.Free
import TypedContract.Proofs.Registry.Dangling
import TypedContract.Proofs.Name.Splitting
