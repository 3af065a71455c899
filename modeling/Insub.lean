import Insub.Library.Outcome
import Insub.Library.HashMap
import Insub.Library.Bytes
import Insub.Library.Run
import Insub.Library.Derivation
import Insub.Library.Knowledge
import Insub.Library.ReceiveWindow
import Insub.Library.Nearest
import Insub.Library.Items
import Insub.Library.Reader
import Insub.Library.CountedMap
import Insub.Crypto.Primitives
import Insub.Crypto.Handshake
import Insub.Crypto.SampleSuite
import Insub.Crypto.Ratchet
import Insub.Crypto.ChainWindow
import Insub.Crypto.Skip
import Insub.Crypto.Atomicity
import Insub.Crypto.Agreement
import Insub.Crypto.InOrder
import Insub.Crypto.Holdings
import Insub.Crypto.Exhaustion
import Insub.Crypto.LateMessage
import Insub.Crypto.KeyHistory
import Insub.Crypto.KeyAccount
import Insub.Crypto.SingleUse
import Insub.Crypto.Reflection
import Insub.Crypto.Lineage
import Insub.Crypto.Secrecy
import Insub.Crypto.Authenticity
import Insub.Protocol.Wire
import Insub.Protocol.Packet
import Insub.Protocol.Exactness
import Insub.Transport.Fragment
import Insub.Transport.Reliable
import Insub.Transport.Acknowledgement
import Insub.Transport.Reassembly
import Insub.Transport.Split
import Insub.Transport.Capacity
import Insub.Transport.Completion
import Insub.Transport.Exchange
import Insub.Transport.Hop
import Insub.Transport.Redelivery
import Insub.Identity.Certificates
import Insub.Identity.Devices
import Insub.Identity.Keychain
import Insub.Identity.Lifecycle
import Insub.Identity.Revocation
import Insub.Protocol.Session
import Insub.Protocol.Established
import Insub.Protocol.Message
import Insub.Protocol.Introduction
import Insub.Protocol.KeyAgreement
import Insub.Protocol.Conversation
import Insub.Network.Relay
import Insub.Network.Registry
import Insub.Network.RegistryCodec
import Insub.Network.RegistryMap
import Insub.Network.Signing
import Insub.Dht.NodeId
import Insub.Dht.Routing
import Insub.Dht.Placement
import Insub.Dht.Representation
import Insub.Dht.Protocol
import Insub.Dht.Parsing
import Insub.Dht.Codec
import Insub.Dht.Truncation
import Insub.Dht.Client
import Insub.Dht.Lookup
import Insub.Dht.Shortlist
import Insub.Dht.Queries
import Insub.Dht.Answered
import Insub.Dht.Seeds
import Insub.Dht.Node
import Insub.Dht.Hearsay
import Insub.Dht.Serving
import Insub.Dht.Selection
import Insub.Dht.Staleness
import Insub.Dht.Distance
import Insub.Dht.Closest
import Insub.Dht.Contact
import Insub.Dht.ContactCodec
import Insub.Runtime.State
import Insub.Runtime.Storage
import Insub.Runtime.Handshake
import Insub.Runtime.Message
import Insub.Runtime.Calls
import Insub.Runtime.Tables
import Insub.Runtime.Authentication
import Insub.Runtime.Attribution
import Insub.Runtime.Teardown
import Insub.Runtime.Registry
import Insub.Runtime.Openings
import Insub.Runtime.Ledger
import Insub.Runtime.Frames
import Insub.Runtime.Sending
import Insub.Runtime.Receipts
import Insub.Runtime.Spoiling
import Insub.Runtime.Rejection
import Insub.Runtime.Pinning
import Insub.Runtime.Addresses
import Insub.Runtime.Replay
import Insub.Runtime.Dht
import Insub.Runtime.Relaying
import Insub.Runtime.Eviction
import Insub.Runtime.FindValue
import Insub.Runtime.FindContact
import Insub.Client.Devices
import Insub.Client.Publication
import Insub.Client.Rollback
import Insub.Client.Recovery
import Insub.Transport.Window
import Insub.Client.Enrolment
import Insub.Client.SafetyNumber
import Insub.Dht.Renewal
import Insub.Runtime.LookupNode
import Insub.Runtime.Storing
import Insub.Runtime.Decoding
import Insub.Runtime.Starting
import Insub.Identity.KeychainFile
import Insub.Dht.Acquaintance
import Insub.Runtime.DhtNetwork
import Insub.Runtime.Node
import Insub.Runtime.Contact
import Insub.Runtime.Delivery
import Insub.Runtime.Chat
import Insub.Runtime.Hearing
import Insub.Runtime.Told
import Insub.Runtime.Quiet
import Insub.Runtime.Fatal
import Insub.Library.Files
import Insub.Client.Directory
import Insub.Client.Fragments
import Insub.Client.Founding
import Insub.Client.Reopening
