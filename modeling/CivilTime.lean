import CivilTime.Program
import CivilTime.Proofs.Timeline
import CivilTime.Proofs.Region.Faithful
import CivilTime.Proofs.Region.Table
import CivilTime.Proofs.Region.Season
import CivilTime.Proofs.System.Search
import CivilTime.Proofs.System.Season
import CivilTime.Proofs.System.Agreement
import CivilTime.Proofs.Sorting
import CivilTime.Proofs.Pattern.Match
import CivilTime.Proofs.Pattern.Written
import CivilTime.Proofs.Coherence
import CivilTime.Proofs.Region.Listed
import CivilTime.Proofs.Region.Ambiguity
import CivilTime.Proofs.Moments
import CivilTime.Proofs.Parsing
import CivilTime.Proofs.Dates
import CivilTime.Proofs.Sound
import CivilTime.Proofs.Run
import CivilTime.Proofs.Earliest
import CivilTime.Proofs.Derived
import CivilTime.Proofs.System.Constant
import CivilTime.Proofs.Obeying
import CivilTime.Proofs.Portable
import CivilTime.Proofs.TwoRuns
import CivilTime.Proofs.Region.InForce
import CivilTime.Proofs.Counting
import CivilTime.Proofs.WellFormed
import CivilTime.Proofs.Reassembly
import CivilTime.Proofs.Days
import CivilTime.Proofs.Shifting
import CivilTime.Proofs.Weeks
import CivilTime.Proofs.FinerCounts
import CivilTime.Proofs.Lexicographic
import CivilTime.Proofs.Text.Order
import CivilTime.Proofs.MomentOrder
import CivilTime.Proofs.Microseconds
import CivilTime.Proofs.Ends
import CivilTime.Proofs.Pattern.Explicit
import CivilTime.Proofs.Records
import CivilTime.Proofs.Logging
