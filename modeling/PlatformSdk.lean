import PlatformSdk.Machine.Observation
import PlatformSdk.Machine.Run
import PlatformSdk.Machine.Slot
import PlatformSdk.Machine.History
import PlatformSdk.Geometry
import PlatformSdk.Monitor.SubmittingVehicleMonitor
import PlatformSdk.Monitor.TelemetrySubmitter.Unset
import PlatformSdk.Monitor.TelemetrySubmitter.SingleFlight
import PlatformSdk.Monitor.TelemetrySubmitter.Progress
import PlatformSdk.Monitor.TelemetrySubmitter.Pairing
import PlatformSdk.Monitor.TelemetrySubmitter.Orphans
import PlatformSdk.Monitor.TelemetrySubmitter.Quiescence
import PlatformSdk.Monitor.TelemetrySubmitter.CleanUp
import PlatformSdk.Json
import PlatformSdk.Outcome
import PlatformSdk.Jsend
import PlatformSdk.Net.Http.Boost.Request
import PlatformSdk.Rest.Authenticator
import PlatformSdk.Mavlink.Boost.TcpRoute
import PlatformSdk.Monitor.Grpc.Service.Delivery
import PlatformSdk.Monitor.Grpc.Service.Streams
import PlatformSdk.Monitor.Grpc.Client
import PlatformSdk.Net.Mqtt.Boost.Client
import PlatformSdk.Mavlink.Channel
import PlatformSdk.Mavlink.VehicleTracker
import PlatformSdk.Codec.Json.FlightPlan
import PlatformSdk.Cmd.Login
import PlatformSdk.Codec.Grpc.Traffic
import PlatformSdk.Rest.Telemetry
import PlatformSdk.Cmd.SimulateScenario
import PlatformSdk.Rest.Authenticator.Callback
import PlatformSdk.Rest.Telemetry.Encryptor
import PlatformSdk.Codec.Json.Traffic
import PlatformSdk.Cmd.SimulateScenario.TcpRouteMonitor
import PlatformSdk.Codec.Grpc.DateTime
import PlatformSdk.Net.Http.Boost.Uri
import PlatformSdk.Net.Http.LoggingRequester
import PlatformSdk.Geometry.Object
import PlatformSdk.Compare.Equality
import PlatformSdk.Geometry.Equality
import PlatformSdk.Airspace
import PlatformSdk.Compare.Order
import PlatformSdk.Error.Variant
import PlatformSdk.Compare.OrderedMap
import PlatformSdk.Error.Order
import PlatformSdk.Error.Values
import PlatformSdk.Error.Object
import PlatformSdk.Token.Object
import PlatformSdk.RuleSet.Feature
import PlatformSdk.Variants
import PlatformSdk.Codec.Json.Airspace
import PlatformSdk.Util.CheapRuler.Real
import PlatformSdk.Util.TelemetrySimulator
import PlatformSdk.Util.Cli.TabWriter
import PlatformSdk.Monitor.Daemon.Channel
import PlatformSdk.Net.Udp.Boost.Sender
import PlatformSdk.Rest.Telemetry.Transport
import PlatformSdk.Wire.Numbered
import PlatformSdk.Monitor.Daemon.Telemetry
import PlatformSdk.Qt.Client
import PlatformSdk.Monitor.FanOutTrafficMonitor
import PlatformSdk.Mavlink.Boost.TcpRoute.Broadcast
import PlatformSdk.Monitor.Grpc.Network
import PlatformSdk.Cmd.SimulateScenario.Chains
import PlatformSdk.Cmd.SimulateScenario.Simulator
import PlatformSdk.Protobuf.Fields
import PlatformSdk.Protobuf.Encoding
import PlatformSdk.Pregenerated.Telemetry
import PlatformSdk.Pregenerated.AmdUavFlightUpdate
import PlatformSdk.Cmd.MonitorMids
import PlatformSdk.Rest.Telemetry.Messages
import PlatformSdk.Monitor.Daemon.Route
import PlatformSdk.Codec.Http.Query
