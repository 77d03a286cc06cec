import Muster.Cluster.Query
import Muster.Main
import Muster.Proofs.Text.Pieces
import Muster.Proofs.Node.Identity
import Muster.Proofs.Roster.Members
import Muster.Proofs.Cluster.Run
import Muster.Proofs.Cluster.Replay
import Muster.Proofs.Http.Dispatch
import Muster.Proofs.Worker.Command
import Muster.Proofs.Network.Reply
import Muster.Proofs.Node.Relay
import Muster.Proofs.Roster.Collect
import Muster.Proofs.Cluster.Aggregation
import Muster.Proofs.Json.Lexing
import Muster.Proofs.Json.RoundTrip
import Muster.Proofs.Time.Timestamp
import Muster.Proofs.Json.Spelling
import Muster.Proofs.Document.Status
import Muster.Proofs.Http.LastPiece
import Muster.Proofs.Network.Kind
import Muster.Proofs.Node.Effect
import Muster.Proofs.Cluster.Broadcast
import Muster.Proofs.Text.Percent
import Muster.Proofs.Url.Segment
import Muster.Proofs.Cluster.Naming
import Muster.Proofs.Cluster.Guard
import Muster.Proofs.Network.Secret
import Muster.Proofs.Cluster.Withdrawal
import Muster.Proofs.Text.Form
import Muster.Proofs.Network.Apart
import Muster.Proofs.Document.CommonSettings
import Muster.Proofs.Cluster.Linked
import Muster.Proofs.Cluster.Joining
import Muster.Proofs.Cluster.Convergence
import Muster.Proofs.Cluster.Independence
import Muster.Proofs.Document.Credential
import Muster.Proofs.Document.ReadBack
import Muster.Proofs.Credential
import Muster.Proofs.Roster.Refusal
import Muster.Proofs.Network.Mount
import Muster.Proofs.Cluster.Remote
import Muster.Proofs.Node.Loops
import Muster.Proofs.Node.Watching
import Muster.Proofs.Node.Overlap
import Muster.Proofs.Node.Silence
import Muster.Proofs.Node.Freshness
import Muster.Proofs.Cluster.Nodes
import Muster.Proofs.Cluster.Leaving
import Muster.Proofs.Cluster.Freshness
import Muster.Proofs.Node.Outcomes
import Muster.Proofs.Cluster.Turns
import Muster.Proofs.Node.Candor
import Muster.Proofs.Cluster.Candor
import Muster.Proofs.Cluster.Serving
import Muster.Proofs.Cluster.Membership
import Muster.Proofs.Cluster.Sweep
import Muster.Proofs.Cluster.Snapshot
import Muster.Proofs.Node.Answer
import Muster.Proofs.Cluster.Inquiry
import Muster.Proofs.Cluster.Relaying
import Muster.Proofs.Credential.Rules
import Muster.Proofs.Settings.Pushes
import Muster.Proofs.Node.UnderWay
import Muster.Proofs.Node.Raised
import Muster.Proofs.Cluster.UnderWay
import Muster.Proofs.Cluster.Raised
import Muster.Proofs.Cluster.Functions
import Muster.Proofs.Settings.CommaList
import Muster.Proofs.Settings.Environment
import Muster.Proofs.Settings.Files
import Muster.Proofs.Settings.Load
import Muster.Proofs.Cluster.Completion
import Muster.Proofs.Url.Reading
import Muster.Proofs.Url.Endpoint
