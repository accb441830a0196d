import Interpolation.Main
import Interpolation.Proofs.Causes
import Interpolation.Proofs.Concatenation
import Interpolation.Proofs.Depth
import Interpolation.Proofs.Editing
import Interpolation.Proofs.Extension
import Interpolation.Proofs.FixedPoint
import Interpolation.Proofs.History
import Interpolation.Proofs.Verdict
import Interpolation.Proofs.Gaps
import Interpolation.Proofs.Calls
import Interpolation.Proofs.PathOrder
import Interpolation.Proofs.Walking
import Interpolation.Proofs.Loading
import Interpolation.Proofs.Deletion
import Interpolation.Proofs.Layering
import Interpolation.Proofs.Surplus
import Interpolation.Proofs.Reordering
import Interpolation.Proofs.SourceOrder
import Interpolation.Proofs.Caret
import Interpolation.Proofs.Bundles
import Interpolation.Proofs.Attempts
import Interpolation.Proofs.TextSlices
import Interpolation.Proofs.Descent
import Interpolation.Proofs.Listings
import Interpolation.Proofs.Writing
import Interpolation.Proofs.Formatting
import Interpolation.Proofs.Collecting
import Interpolation.Proofs.Checking
