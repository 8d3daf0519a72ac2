import DispatchChain.Clause.Reader
import DispatchChain.Enumerator.ListCursor
import DispatchChain.Family.Signature
import DispatchChain.Main
import DispatchChain.Proofs.Atomicity
import DispatchChain.Proofs.Dispatch
import DispatchChain.Proofs.Reporting
import DispatchChain.Proofs.Runs
import DispatchChain.Proofs.Unambiguity
import DispatchChain.Proofs.WholeText
import DispatchChain.Session
import DispatchChain.Sink.Limited
import DispatchChain.ValueSet.Cursor
import DispatchChain.Proofs.Conversation
import DispatchChain.Proofs.Entering
import DispatchChain.Proofs.Renewal
import DispatchChain.Proofs.Separation
import DispatchChain.Proofs.LastWriter
import DispatchChain.Proofs.Telling
import DispatchChain.Proofs.Blindness
import DispatchChain.Proofs.Turns
import DispatchChain.Proofs.Levels
import DispatchChain.Proofs.ExitStatus
import DispatchChain.Proofs.Acceptance
import DispatchChain.Proofs.Absence
import DispatchChain.Proofs.Bounding
import DispatchChain.Proofs.Freshness
import DispatchChain.Proofs.FieldAcceptance
import DispatchChain.Proofs.Placement
import DispatchChain.Proofs.SignatureReading
import DispatchChain.Proofs.Announcing
import DispatchChain.Proofs.ValuePlaces
