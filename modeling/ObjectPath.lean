import ObjectPath.Explorer
import ObjectPath.Main
import ObjectPath.Showcase
import ObjectPath.Proofs.Path.Grammar
import ObjectPath.Proofs.Path.Clause
import ObjectPath.Proofs.Path.Parsing
import ObjectPath.Proofs.Resolve.Composition
import ObjectPath.Proofs.Position
import ObjectPath.Proofs.Resolve.Filtering
import ObjectPath.Proofs.Resolve.Simulation
import ObjectPath.Proofs.Entries
import ObjectPath.Proofs.Value.Key
import ObjectPath.Proofs.Value.Snapshot
import ObjectPath.Proofs.Resolve.Snapshot
import ObjectPath.Proofs.Path.Splitting
import ObjectPath.Proofs.Path.Refusal
import ObjectPath.Proofs.Path.Slicing
import ObjectPath.Proofs.Path.ErrorPosition
import ObjectPath.Proofs.Path.Finality
import ObjectPath.Proofs.Resolve.Locating
import ObjectPath.Proofs.Resolve.Presence
import ObjectPath.Proofs.Resolve.Pruning
import ObjectPath.Proofs.Json.Numbers
import ObjectPath.Proofs.Json.Strings
import ObjectPath.Proofs.Json.Reading
import ObjectPath.Proofs.Json.RoundTrip
import ObjectPath.Proofs.Resolve.Parts
import ObjectPath.Proofs.CommandLine.Piping
import ObjectPath.Proofs.Value.Indexing
import ObjectPath.Proofs.Value.Token
import ObjectPath.Proofs.Value.Mapping
import ObjectPath.Proofs.Resolve.Keyed
import ObjectPath.Proofs.Resolve.Layers
import ObjectPath.Proofs.Binary.Nearest
import ObjectPath.Proofs.Json.Equality
import ObjectPath.Proofs.Json.Exactness
import ObjectPath.Proofs.Resolve.Modes
import ObjectPath.Proofs.CommandLine.Arguments
import ObjectPath.Proofs.Resolve.Reordering
import ObjectPath.Proofs.Resolve.Recording
import ObjectPath.Proofs.Json.Printing
import ObjectPath.Proofs.CommandLine.Running
import ObjectPath.Proofs.Resolve.Records
