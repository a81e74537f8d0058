import MediaOverQuic.Datagram.Draft
import MediaOverQuic.Endpoint.Basic
import MediaOverQuic.Proofs.Control.Delivery
import MediaOverQuic.Proofs.Control.Interleaving
import MediaOverQuic.Proofs.Session.Window
import MediaOverQuic.Scenario.ControlStreams
import MediaOverQuic.Scenario.Handshakes
import MediaOverQuic.Scenario.Links
import MediaOverQuic.Scenario.Servers
import MediaOverQuic.Scenario.Sessions
import MediaOverQuic.Proofs.Model.PairGrammar
import MediaOverQuic.Proofs.Datagram.Facets
import MediaOverQuic.Proofs.Datagram.Grammar
import MediaOverQuic.Proofs.Datagram.RoundTrip
import MediaOverQuic.Proofs.Datagram.Acceptance
import MediaOverQuic.Proofs.Eventually
import MediaOverQuic.Proofs.Control.Solo
import MediaOverQuic.Proofs.Session.Interview
import MediaOverQuic.Proofs.Control.FirstFrame
import MediaOverQuic.Proofs.Session.PeerSetup
import MediaOverQuic.Proofs.Session.Phases
import MediaOverQuic.Proofs.Session.Verdict
import MediaOverQuic.Proofs.Session.ClientVerdict
import MediaOverQuic.Proofs.Session.ServerVerdict
import MediaOverQuic.Proofs.Datagram.Invariants
import MediaOverQuic.Proofs.Session.Granting
import MediaOverQuic.Proofs.Session.Grants
import MediaOverQuic.Proofs.Session.Acceptable
import MediaOverQuic.Proofs.Session.Processing
import MediaOverQuic.Proofs.Control.Payload
import MediaOverQuic.Proofs.Control.Boundaries
import MediaOverQuic.Proofs.Session.OwnSetup
import MediaOverQuic.Proofs.Session.Lifecycle
import MediaOverQuic.Proofs.Session.RunSteps
import MediaOverQuic.Proofs.Session.Establishment
import MediaOverQuic.Session.Operation
import MediaOverQuic.Proofs.Session.Ledger
import MediaOverQuic.Proofs.Control.Abandonment
import MediaOverQuic.Proofs.Server.HandOff
import MediaOverQuic.Proofs.Server.Hosting
import MediaOverQuic.Proofs.Session.Closing
import MediaOverQuic.Proofs.Server.Alone
import MediaOverQuic.Proofs.Server.Passing
import MediaOverQuic.Proofs.Server.Outcome
import MediaOverQuic.Proofs.Model.PairCodec
import MediaOverQuic.Proofs.Datagram.Objects
import MediaOverQuic.Proofs.Session.Precedence
import MediaOverQuic.Proofs.Session.TokenCache
import MediaOverQuic.Proofs.Model.TrackName
import MediaOverQuic.Proofs.Session.Requesting
import MediaOverQuic.Proofs.Transport.Slots
import MediaOverQuic.Proofs.Transport.Pairing
import MediaOverQuic.Proofs.Wire.Widths
import MediaOverQuic.Proofs.Termination
import MediaOverQuic.Proofs.Model.PairCount
import MediaOverQuic.Proofs.Control.Numbers
