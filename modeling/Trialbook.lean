import Trialbook.Main
import Trialbook.Proofs.Lookup
import Trialbook.Proofs.Paths
import Trialbook.Proofs.Walk
import Trialbook.Proofs.LastWrite
import Trialbook.Proofs.Leaves
import Trialbook.Proofs.RoundTrip
import Trialbook.Proofs.Pass
import Trialbook.Proofs.Step
import Trialbook.Proofs.Conservation
import Trialbook.Proofs.Conflict
import Trialbook.Proofs.Policy
import Trialbook.Proofs.Growth
import Trialbook.Proofs.Order
import Trialbook.Proofs.Search
import Trialbook.Proofs.Shape
import Trialbook.Proofs.Current
import Trialbook.Proofs.Bundled
import Trialbook.Proofs.Suite
import Trialbook.Proofs.Expansion
import Trialbook.Proofs.Strictness
import Trialbook.Proofs.Identifiers
import Trialbook.Proofs.Alike
import Trialbook.Proofs.Brackets
import Trialbook.Proofs.Enclosed
import Trialbook.Proofs.Identity
import Trialbook.Proofs.Siblings
import Trialbook.Proofs.Locality
import Trialbook.Proofs.Exhaustive
import Trialbook.Proofs.Matching
import Trialbook.Proofs.Deposits
import Trialbook.Proofs.Independence
import Trialbook.Proofs.Merging
import Trialbook.Proofs.Fresh
import Trialbook.Proofs.Dictionaries
import Trialbook.Proofs.Compilers
import Trialbook.Proofs.Tokens
import Trialbook.Proofs.Acceptance
import Trialbook.Proofs.Unambiguous
import Trialbook.Proofs.Aborts
import Trialbook.Proofs.CommandLine
import Trialbook.Proofs.Files
import Trialbook.Proofs.Runs
import Trialbook.Proofs.Makeup
import Trialbook.Proofs.InPlace
import Trialbook.Proofs.Described
import Trialbook.Proofs.Appends
import Trialbook.Proofs.References
import Trialbook.Proofs.Cycles
import Trialbook.Proofs.Destinations
import Trialbook.Proofs.Commuting
import Trialbook.Proofs.Frame
import Trialbook.Proofs.NormalForm
import Trialbook.Proofs.Matrix
import Trialbook.Proofs.Fates
import Trialbook.Proofs.Needs
import Trialbook.Proofs.Numerals
import Trialbook.Proofs.Preambles
import Trialbook.Proofs.Languages
import Trialbook.Proofs.Environment
