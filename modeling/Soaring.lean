import Soaring.Engine.Operation
import Soaring.Record.Kind
import Soaring.Record.Reader
import Soaring.Proofs.Engine.Edges
import Soaring.Proofs.Engine.FinishLine
import Soaring.Proofs.Engine.Freshness
import Soaring.Proofs.Engine.OwnCode
import Soaring.Proofs.Engine.PowerUp
import Soaring.Proofs.Engine.TeamReference
import Soaring.Proofs.Engine.TraceOrder
import Soaring.Proofs.Numeric.FloatOrder
import Soaring.Proofs.Engine.TeamView
import Soaring.Proofs.Engine.WorkingBand
import Soaring.Proofs.Engine.TraceLog
import Soaring.Proofs.Situation.Later
import Soaring.Proofs.Engine.Later
import Soaring.Proofs.Engine.Trails
import Soaring.Proofs.Engine.Bare
import Soaring.Proofs.Engine.Dataflow
import Soaring.Proofs.Engine.Separation
import Soaring.Proofs.Engine.Resets
import Soaring.Proofs.Engine.FuelEstimate
import Soaring.Proofs.Calendar.TimeOfDay
import Soaring.Proofs.Calendar.LocalTime
import Soaring.Proofs.Record.RoundTrip
import Soaring.Proofs.Store.Recent
import Soaring.Proofs.Store.Bounded
import Soaring.Proofs.Engine.Delivery
import Soaring.Proofs.Clock.Period
import Soaring.Proofs.Clock.Delta
import Soaring.Proofs.Text.Octets
import Soaring.Proofs.Team.Typed
import Soaring.Proofs.Team.Reckoning
