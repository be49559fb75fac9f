import Postings.Algorithm
import Postings.Command.Arguments
import Postings.Command.Benchmark
import Postings.Command.Console
import Postings.Command.Intersect
import Postings.Event
import Postings.Failure
import Postings.Input.Files
import Postings.Input.Frame
import Postings.Input.PostingFile
import Postings.Input.Stream
import Postings.Intersection.Chain
import Postings.Intersection.Gallop
import Postings.Intersection.Merge
import Postings.Intersection.Pairwise
import Postings.Intersection.Search
import Postings.Intersection.Skip
import Postings.Layout
import Postings.Main
import Postings.Outcome
import Postings.Posting
import Postings.PostingList
import Postings.PostingList.Cursor
import Postings.PostingList.Edit
import Postings.PostingList.Update
import Postings.Proofs.Command.Benchmark
import Postings.Proofs.Command.Intersect
import Postings.Proofs.Input.Bounds
import Postings.Proofs.Input.FirstFlaw
import Postings.Proofs.Input.Flaw
import Postings.Proofs.Input.Lines
import Postings.Proofs.Input.Loading
import Postings.Proofs.Input.PostingFile
import Postings.Proofs.Input.Printing
import Postings.Proofs.Input.Recut
import Postings.Proofs.Input.Trailing
import Postings.Proofs.Intersection.Agreement
import Postings.Proofs.Intersection.Capped
import Postings.Proofs.Intersection.Chain
import Postings.Proofs.Intersection.Gallop
import Postings.Proofs.Intersection.GallopProbes
import Postings.Proofs.Intersection.GallopStop
import Postings.Proofs.Intersection.GallopWindow
import Postings.Proofs.Intersection.Merge
import Postings.Proofs.Intersection.MixedLayouts
import Postings.Proofs.Intersection.Reference
import Postings.Proofs.Intersection.ReservedIds
import Postings.Proofs.Intersection.Search
import Postings.Proofs.Intersection.Skip
import Postings.Proofs.Intersection.SkipLanding
import Postings.Proofs.PostingList.Edit
import Postings.Proofs.PostingList.Invariant
import Postings.Proofs.PostingList.Reachable
import Postings.Proofs.PostingList.SkipChain
import Postings.Proofs.PostingList.Window
import Postings.Proofs.Text.Blank
import Postings.Proofs.Text.Decimal
import Postings.Proofs.Text.Quoted
import Postings.SkipTable
import Postings.Text.Blank
import Postings.Text.Column
import Postings.Text.Control
import Postings.Text.Decimal
import Postings.Text.Duration
import Postings.Text.Lines
import Postings.Text.Quoted
import Postings.Text.Unprintable
import Postings.Traced
