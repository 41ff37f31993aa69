import ApiScaffold.Main
import ApiScaffold.Proofs.Enumeration.RoundTrip
import ApiScaffold.Proofs.Json.Nodes
import ApiScaffold.Proofs.Json.Ordered
import ApiScaffold.Proofs.Description.Declarations
import ApiScaffold.Proofs.Grouping
import ApiScaffold.Proofs.Handlers
import ApiScaffold.Proofs.Routing
import ApiScaffold.Proofs.Descent
import ApiScaffold.Proofs.Resolution.Termination
import ApiScaffold.Proofs.Description.SchemaTermination
import ApiScaffold.Proofs.Description.Termination
import ApiScaffold.Proofs.Go.Rendering
import ApiScaffold.Proofs.Go.Literals
import ApiScaffold.Proofs.Go.Enumerations
import ApiScaffold.Proofs.Go.Locals
import ApiScaffold.Proofs.Go.Types
import ApiScaffold.Proofs.Go.DataImports
import ApiScaffold.Proofs.Go.HandlerImports
import ApiScaffold.Proofs.Resolution.Shapes
import ApiScaffold.Proofs.Resolution.Notes
import ApiScaffold.Proofs.Emission
import ApiScaffold.Proofs.Partition
import ApiScaffold.Proofs.Service.Compilation
import ApiScaffold.Proofs.Service.Closure
import ApiScaffold.Proofs.Service.Skipping
import ApiScaffold.Proofs.Stateful
import ApiScaffold.Proofs.Run.Trace
import ApiScaffold.Proofs.Disk.Places
import ApiScaffold.Proofs.Disk.Operations
import ApiScaffold.Proofs.Disk.Writing
import ApiScaffold.Proofs.Decimal.Shortest
import ApiScaffold.Proofs.Description.Encoded
import ApiScaffold.Proofs.Methods
import ApiScaffold.Proofs.Service.Unread
import ApiScaffold.Proofs.Service.Validation
import ApiScaffold.Proofs.Go.Errors
import ApiScaffold.Proofs.Layout
import ApiScaffold.Proofs.Fields
import ApiScaffold.Proofs.Go.DataNames
import ApiScaffold.Proofs.Go.Identifiers
import ApiScaffold.Proofs.Paths
import ApiScaffold.Proofs.Placement
import ApiScaffold.Proofs.Go.Sources
import ApiScaffold.Proofs.Go.Quoting
import ApiScaffold.Proofs.Go.Comments
import ApiScaffold.Proofs.Go.Imported
import ApiScaffold.Proofs.Go.Qualifiers
import ApiScaffold.Proofs.Text.Lines
import ApiScaffold.Proofs.Tidying
import ApiScaffold.Proofs.Parameters
import ApiScaffold.Proofs.Resolution.Chains
import ApiScaffold.Proofs.Merging
import ApiScaffold.Proofs.Presence
import ApiScaffold.Proofs.Composition
import ApiScaffold.Proofs.Kinds
import ApiScaffold.Proofs.Structs
import ApiScaffold.Proofs.Go.Integers
import ApiScaffold.Proofs.Description.Hops
import ApiScaffold.Proofs.Description.Components
import ApiScaffold.Proofs.Envelopes
import ApiScaffold.Proofs.Yaml.Conversion
import ApiScaffold.Proofs.Go.Interpreted
import ApiScaffold.Proofs.Disk.Containment
import ApiScaffold.Proofs.Disk.Completed
import ApiScaffold.Proofs.Placeholders
import ApiScaffold.Proofs.Elements
import ApiScaffold.Proofs.Spelling
import ApiScaffold.Proofs.Disk.Files
import ApiScaffold.Proofs.Disk.Leftovers
