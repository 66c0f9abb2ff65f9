import Pipa.Lib.Machine
import Pipa.Lib.Dict
import Pipa.Lib.Text
import Pipa.Lib.Utf8
import Pipa.Lib.Json
import Pipa.Lib.JsonText
import Pipa.Lib.JsonRoundTrip
import Pipa.Lib.JsonEncode
import Pipa.Lib.JsonOrder
import Pipa.Lib.JsonSize
import Pipa.Lib.Base64Url
import Pipa.Lib.Scan
import Pipa.Lib.JsonGrammar
import Pipa.Lib.ReplayCache
import Pipa.Lib.OneUse
import Pipa.Core.Protocol
import Pipa.Core.Tools
import Pipa.Core.Catalog
import Pipa.Core.Sanitizing
import Pipa.Core.PipaCore
import Pipa.Core.Effects
import Pipa.Core.Coupling
import Pipa.Core.Guarded
import Pipa.Core.Transcript
import Pipa.Core.Redaction
import Pipa.Core.Grammar
import Pipa.Core.WireJson
import Pipa.Core.RequestBinding
import Pipa.Core.Replies
import Pipa.Core.Correlation
import Pipa.Secure.Encoding
import Pipa.Secure.Hello
import Pipa.Secure.Canonical
import Pipa.Secure.Session
import Pipa.Secure.Nonces
import Pipa.Secure.Parity
import Pipa.Secure.Handshake
import Pipa.Secure.RecordLayer
import Pipa.Secure.Server
import Pipa.Secure.Connection
import Pipa.Secure.Signed
import Pipa.Secure.DeviceHandshake
import Pipa.Secure.Agreement
import Pipa.Secure.Audio
import Pipa.Secure.AudioParity
import Pipa.Secure.AudioConsumer
import Pipa.Secure.AudioTranscriber
import Pipa.Secure.AudioBridge
import Pipa.Unlock.Protocol
import Pipa.Unlock.Challenges
import Pipa.Unlock.Ticket
import Pipa.Unlock.Broker
import Pipa.Unlock.Boundary
import Pipa.Unlock.RequestBytes
import Pipa.Control.Config
import Pipa.Control.ConfigFile
import Pipa.Control.Updates
import Pipa.Control.Whatsapp
import Pipa.Serial.Gateway
import Pipa.Serial.SecureFrames
import Pipa.Firmware.Challenges
import Pipa.Firmware.FailsClosed
import Pipa.Firmware.LineFraming
import Pipa.Firmware.JsonPolicy
import Pipa.Firmware.JsonPolicyGrammar
import Pipa.Firmware.TextPolicy
import Pipa.Link.Reconnect
import Pipa.Link.Confirmation
import Pipa.Link.Captions
import Pipa.Link.Delivery
import Pipa.Link.Base64Decoders
import Pipa.Link.TextInput
import Pipa.Tools.League
import Pipa.Intents.Catalog
import Pipa.Intents.Phrases
import Pipa.Intents.Total
import Pipa.Control.Commands
import Pipa.Control.BuiltIns
import Pipa.Control.Spoken
import Pipa.Control.Pairs
import Pipa.Lib.StreamReader
import Pipa.Lib.JsonLine
import Pipa.Lib.JsonPrinted
import Pipa.Link.TcpFrames
import Pipa.Firmware.OutboundRecords
import Pipa.Unlock.Registry
import Pipa.Unlock.DeviceStore
import Pipa.Tools.Apps
import Pipa.Tools.AgentCore
import Pipa.Tools.Capabilities
import Pipa.Tools.Timers
import Pipa.Link.DestinationPolicy
import Pipa.Link.AllowedHost
import Pipa.Firmware.WakeOnLan
import Pipa.Link.WakeOnLan
import Pipa.Link.TcpGateway
import Pipa.Link.TcpSessions
import Pipa.Mobile.StrictJson
import Pipa.Mobile.Reader
import Pipa.Mobile.Catalog
import Pipa.Mobile.Capabilities
import Pipa.Mobile.ViewModel
import Pipa.Mobile.Moves
import Pipa.Mobile.Approvals
import Pipa.Mobile.Sessions
import Pipa.Mobile.Verified
import Pipa.Mobile.RecordLayer
import Pipa.Mobile.Written
import Pipa.Mobile.Channel
import Pipa.Mobile.Handshake
import Pipa.Firmware.DisplayText
