import Boundary.Proofs.Bridge.Guard
import Boundary.Proofs.Config.Discovery
import Boundary.Proofs.Config.Overlay
import Boundary.Proofs.Config.Saving
import Boundary.Proofs.Decoding.Designated
import Boundary.Proofs.Decoding.Misstatement
import Boundary.Proofs.Decoding.Release
import Boundary.Proofs.Decoding.Text
import Boundary.Proofs.Encoding.Failure
import Boundary.Proofs.Encoding.Form
import Boundary.Proofs.Handles.Clients
import Boundary.Proofs.Handles.Counts
import Boundary.Proofs.Handles.Exhaustion
import Boundary.Proofs.Handles.Renaming
import Boundary.Proofs.Layout.Build
import Boundary.Proofs.Layout.Capacity
import Boundary.Proofs.Layout.Export
import Boundary.Proofs.Layout.ExternalName
import Boundary.Proofs.Layout.Lookup
import Boundary.Proofs.Layout.Refusal
import Boundary.Proofs.Layout.Release
import Boundary.Proofs.Layout.ShortName
import Boundary.Proofs.Layout.TypeName
import Boundary.Proofs.Lifetime
import Boundary.Proofs.Log.Level
import Boundary.Proofs.Log.Rules
import Boundary.Proofs.Memory.Placement
import Boundary.Proofs.Memory.Turnover
import Boundary.Proofs.Registry.Reachable
import Boundary.Proofs.Registry.Response
import Boundary.Proofs.Registry.Undo
import Boundary.Proofs.RoundTrip
import Boundary.Proofs.Session
import Boundary.Proofs.Width
