import Polylex.Blueprint
import Polylex.Languages.Builtin
import Polylex.Proofs.Reading
import Polylex.Proofs.Scanning
import Polylex.Tokenize
import Polylex.Proofs.Stepping
import Polylex.Proofs.Tiling
import Polylex.Proofs.Classification
import Polylex.Proofs.Constructs
import Polylex.Proofs.Acts
import Polylex.Proofs.Accounting
import Polylex.Proofs.Markdown
import Polylex.Proofs.Fencing
import Polylex.Proofs.Placing
import Polylex.Proofs.RegionMaps
import Polylex.Proofs.PlacedRegions
import Polylex.Proofs.Embedding
import Polylex.Proofs.MappedReadings
import Polylex.Proofs.Delegation
import Polylex.Proofs.Html
import Polylex.Proofs.Bounds
import Polylex.Proofs.Goals
import Polylex.Proofs.Prompting
import Polylex.Proofs.Tags
import Polylex.Proofs.Foresight
import Polylex.Proofs.Beside
import Polylex.Proofs.Waiting
import Polylex.Proofs.Isolation
import Polylex.Proofs.Undisturbed
import Polylex.Proofs.Nesting
import Polylex.Proofs.Sessions
import Polylex.Proofs.Acceptance
import Polylex.Proofs.Balanced
import Polylex.Proofs.Delivering
import Polylex.Proofs.PlainCode
import Polylex.Proofs.Faults
import Polylex.Proofs.TagHeads
import Polylex.Proofs.Handovers
import Polylex.Proofs.Literals
import Polylex.Proofs.TagBodies
import Polylex.Proofs.Typescript
import Polylex.Proofs.InlineCode
import Polylex.Proofs.Slicing
import Polylex.Proofs.Spellings
import Polylex.Proofs.LineBreaks
import Polylex.Proofs.Operands
import Polylex.Proofs.ScannerCalls
import Polylex.Proofs.FenceBodies
import Polylex.Proofs.CopiedReadings
import Polylex.Proofs.KeptConstructs
