import CardLink.Legacy.Link
import CardLink.Simulator
import CardLink.Main
import CardLink.Proofs.Framing.RoundTrip
import CardLink.Proofs.Framing.Handover
import CardLink.Proofs.Framing.Supplanting
import CardLink.Proofs.Framing.Resuming
import CardLink.Proofs.Stored
import CardLink.Proofs.Packet.Custody
import CardLink.Proofs.Requester.Agreement
import CardLink.Proofs.Requester.Rest
import CardLink.Proofs.Controller.Readiness
import CardLink.Proofs.Controller.Outstanding
import CardLink.Proofs.Controller.FlowControl
import CardLink.Proofs.Controller.Foreign
import CardLink.Proofs.Controller.Answers
import CardLink.Proofs.Controller.Initialization
import CardLink.Proofs.Legacy.Authority
import CardLink.Proofs.Legacy.Delivery
import CardLink.Proofs.Legacy.Cancelling
import CardLink.Proofs.Retries
import CardLink.Proofs.UsbDevice.Channels
import CardLink.Proofs.UsbDevice.Sessions
import CardLink.Proofs.Connections
import CardLink.Proofs.Controller.Failure
import CardLink.Proofs.Controller.Startup
import CardLink.Proofs.Simulator
import CardLink.Proofs.Controller.Posts
import CardLink.Proofs.Controller.Fitting
import CardLink.Proofs.Controller.Posting
import CardLink.Proofs.Controller.Commands
import CardLink.Proofs.Legacy.PowerCycles
import CardLink.Proofs.Legacy.Timeout
import CardLink.Proofs.Legacy.Permits
import CardLink.Proofs.Legacy.Waking
import CardLink.Proofs.Legacy.Handles
import CardLink.Proofs.Framing.Exclusion
import CardLink.Proofs.Framing.Fragments
import CardLink.Proofs.Framing.Progress
import CardLink.Proofs.Framing.Carrying
import CardLink.Proofs.Outgoing
import CardLink.Proofs.Controller.Acknowledging
import CardLink.Proofs.Controller.Expiry
import CardLink.Proofs.Controller.Refusals
import CardLink.Proofs.Controller.Switching
import CardLink.Proofs.Controller.Aborting
import CardLink.Proofs.Controller.Replying
import CardLink.Proofs.Controller.Bonds
import CardLink.Proofs.Controller.Statuses
import CardLink.Proofs.Pairing.Replies
import CardLink.Proofs.Framing.Bounds
import CardLink.Proofs.Framing.Holding
import CardLink.Proofs.Controller.Names
import CardLink.Proofs.Countdown
