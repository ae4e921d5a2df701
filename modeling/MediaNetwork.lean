import MediaNetwork.Main
import MediaNetwork.Proofs.Graph.Extension
import MediaNetwork.Proofs.Graph.JobOrder
import MediaNetwork.Proofs.Graph.Typed
import MediaNetwork.Proofs.Graph.Sockets
import MediaNetwork.Proofs.Graph.Layout
import MediaNetwork.Proofs.Graph.Joining
import MediaNetwork.Proofs.Graph.Connect
import MediaNetwork.Proofs.Graph.Declared
import MediaNetwork.Proofs.Graph.Plan
import MediaNetwork.Proofs.Graph.Built
import MediaNetwork.Proofs.Linking
import MediaNetwork.Proofs.Stages
import MediaNetwork.Proofs.Graph.Facing
import MediaNetwork.Proofs.Graph.BuildOrder
import MediaNetwork.Proofs.Graph.Steps
import MediaNetwork.Proofs.Graph.Ownership
import MediaNetwork.Proofs.Graph.Sharing
import MediaNetwork.Proofs.Graph.Shift
import MediaNetwork.Proofs.Graph.Independence
import MediaNetwork.Proofs.Route.Ids
import MediaNetwork.Proofs.Route.Table
import MediaNetwork.Proofs.Route.Acceptance
import MediaNetwork.Proofs.Route.Automatic
import MediaNetwork.Proofs.Markup.Entities
import MediaNetwork.Proofs.Markup.Tags
import MediaNetwork.Proofs.Text.Literals
import MediaNetwork.Proofs.Markup.Documents
import MediaNetwork.Proofs.Print.Attributes
import MediaNetwork.Proofs.Print.Connections
import MediaNetwork.Proofs.Print.Nodes
import MediaNetwork.Proofs.Print.Groups
import MediaNetwork.Proofs.Print.Scripts
import MediaNetwork.Proofs.Print.Drivers
import MediaNetwork.Proofs.Print.Names
import MediaNetwork.Proofs.Print.RoundTrip
import MediaNetwork.Proofs.Refusal.Located
import MediaNetwork.Proofs.Refusal.Reading
import MediaNetwork.Proofs.Refusal.Documents
import MediaNetwork.Proofs.Script.Stage
import MediaNetwork.Proofs.Driver.Records
import MediaNetwork.Proofs.Arrangement.Documents
import MediaNetwork.Proofs.Markup.Mark
import MediaNetwork.Proofs.Activity.Building
import MediaNetwork.Proofs.Activity.Documents
import MediaNetwork.Proofs.Port.Documents
import MediaNetwork.Proofs.Markup.Places
import MediaNetwork.Proofs.Markup.Writing
import MediaNetwork.Proofs.Connection.Documents
import MediaNetwork.Proofs.Text.Integers
import MediaNetwork.Proofs.Script.Pauses
import MediaNetwork.Proofs.Script.Messages
import MediaNetwork.Proofs.Driver.Expansion
import MediaNetwork.Proofs.Text.Payloads
import MediaNetwork.Proofs.Export.Values
import MediaNetwork.Proofs.Markup.Searching
import MediaNetwork.Proofs.Graph.Histories
