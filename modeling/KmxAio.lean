import KmxAio.Knx.Secure.SecureChannel
import KmxAio.Knx.TunnellingExchange
import KmxAio.Knx.SecureServerClear
import KmxAio.Knx.Secure.SessionBounds
import KmxAio.Knx.Secure.SessionAuthentication
import KmxAio.Knx.DataSecure.SequenceStore
import KmxAio.Knx.FrameReassembler
import KmxAio.Readiness.LostReadiness
import KmxAio.Completion.Delivery
import KmxAio.OpcUa.Resolution
import KmxAio.Knx.Secure.ClientRefusals
import KmxAio.Knx.TunnellingBudget
import KmxAio.Http3.ControlStream
import KmxAio.Tls.Pumping
import KmxAio.Knx.TunnellingSupervision
import KmxAio.Knx.TunnelAddresses
import KmxAio.Knx.Inactivity
import KmxAio.Knx.Secure.RoutingSchedule
import KmxAio.Knx.RoutingVerified
import KmxAio.Knx.DataSecure.RoundTrip
import KmxAio.Knx.MacInput
import KmxAio.Knx.Keyring.Base64
import KmxAio.Knx.CemiRoundTrip
import KmxAio.Knx.DibRoundTrip
import KmxAio.Knx.Keyring.ServerConfiguration
import KmxAio.Knx.Keyring.XmlTree
import KmxAio.Channel.Backpressure
import KmxAio.Modbus.Alignment
import KmxAio.Readiness.Deadlines
import KmxAio.Knx.SharedServices
import KmxAio.Readiness.Stream
import KmxAio.AsyncMutex
import KmxAio.Completion.BlockDevice
import KmxAio.SomeIp.Calls
import KmxAio.Gpu.Executor
import KmxAio.Completion.XdpSocket
import KmxAio.SomeIp.Subscription
import KmxAio.Avb.PrimaryClock
import KmxAio.Http2.HeaderBlock
import KmxAio.Http2.Stream
import KmxAio.Http3.Stream
import KmxAio.Scheduler
import KmxAio.Avb.PiServo
