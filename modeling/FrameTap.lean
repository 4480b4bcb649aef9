import FrameTap.Machine.Script
import FrameTap.Machine.Station
import FrameTap.Main
import FrameTap.Settings.Writing
import FrameTap.Proofs.Header.Extents
import FrameTap.Proofs.Header.Fields
import FrameTap.Proofs.Header.Format
import FrameTap.Proofs.Header.Prefixes
import FrameTap.Proofs.Header.Records
import FrameTap.Proofs.Header.RoundTrip
import FrameTap.Proofs.Header.Slots
import FrameTap.Proofs.Synchronizer.Ordering
import FrameTap.Proofs.Synchronizer.Copying
import FrameTap.Proofs.Synchronizer.Polling
import FrameTap.Proofs.Synchronizer.Sessions
import FrameTap.Proofs.Synchronizer.Still
import FrameTap.Proofs.Synchronizer.Reference
import FrameTap.Proofs.Synchronizer.Failures
import FrameTap.Proofs.Synchronizer.Views
import FrameTap.Proofs.Synchronizer.Mappings
import FrameTap.Proofs.Synchronizer.Modes
import FrameTap.Proofs.Synchronizer.Readable
import FrameTap.Proofs.Synchronizer.Pending
import FrameTap.Proofs.Synchronizer.Exhaustion
import FrameTap.Proofs.Synchronizer.Relevance
import FrameTap.Proofs.Synchronizer.Resets
import FrameTap.Proofs.Synchronizer.Revalidation
import FrameTap.Proofs.Synchronizer.Reads
import FrameTap.Proofs.Producer.Board
import FrameTap.Proofs.Producer.Timeline
import FrameTap.Proofs.Producer.Publishing
import FrameTap.Proofs.Producer.Rewriting
import FrameTap.Proofs.Producer.Geometry
import FrameTap.Proofs.Producer.Restarts
import FrameTap.Proofs.Receiver.Outcomes
import FrameTap.Proofs.Receiver.Requests
import FrameTap.Proofs.Receiver.History
import FrameTap.Proofs.Receiver.Refusals
import FrameTap.Proofs.Receiver.Accounting
import FrameTap.Proofs.Signals.Dialogue
import FrameTap.Proofs.Signals.Attached
import FrameTap.Proofs.Signals.Wakeups
import FrameTap.Proofs.Bitmap.Pixels
import FrameTap.Proofs.Statistics.Windows
import FrameTap.Proofs.Receiver.Naps
import FrameTap.Proofs.Demo.Retries
import FrameTap.Proofs.Receiver.Effects
import FrameTap.Proofs.Receiver.Patience
import FrameTap.Proofs.Demo.Rounds
import FrameTap.Proofs.Demo.Receiving
import FrameTap.Proofs.Signals.Deadlines
