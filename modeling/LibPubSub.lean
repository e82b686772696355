import LibPubSub.Library.Heap
import LibPubSub.Library.Runs
import LibPubSub.Library.Pieces
import LibPubSub.Utils
import LibPubSub.Framing
import LibPubSub.Mesh
import LibPubSub.Channel
import LibPubSub.Node
import LibPubSub.Effects
import LibPubSub.Reactions
import LibPubSub.Authority
import LibPubSub.Subscriptions
import LibPubSub.Offers
import LibPubSub.Registry
import LibPubSub.Wiring
import LibPubSub.Publications
import LibPubSub.DataConnections
import LibPubSub.Messages
import LibPubSub.Network
import LibPubSub.Writes
import LibPubSub.Agreement
import LibPubSub.Handshake
import LibPubSub.Tiebreak
import LibPubSub.Disconnection
import LibPubSub.Lifecycle
import LibPubSub.Throws
import LibPubSub.Robustness
import LibPubSub.HostTable
import LibPubSub.Statements
import LibPubSub.Handles
import LibPubSub.Descriptors
import LibPubSub.RoundTrip
import LibPubSub.Segments
import LibPubSub.Gossip
import LibPubSub.FullMesh
import LibPubSub.Crowd
import LibPubSub.Encounters
import LibPubSub.Chatter
import LibPubSub.Representation
import LibPubSub.Hearing
import LibPubSub.Waiting
import LibPubSub.Simulation
import LibPubSub.Acquaintance
import LibPubSub.Meeting
import LibPubSub.LineLoop
import LibPubSub.Library.Substitution
import LibPubSub.StrReplace
import LibPubSub.Transport
import LibPubSub.SharedMemory
import LibPubSub.PortRegistry
import LibPubSub.DirectMemory
import LibPubSub.OwnChannels
import LibPubSub.Attribution
import LibPubSub.Connections
import LibPubSub.Moves
import LibPubSub.Reconnection
import LibPubSub.Subscriptors
import LibPubSub.Cabling
import LibPubSub.Delivery
import LibPubSub.Rejoining
import LibPubSub.Addresses
import LibPubSub.Rounds
import LibPubSub.Servers
import LibPubSub.CommandLine
import LibPubSub.Endpoints
import LibPubSub.Library.Locks
import LibPubSub.Locking
import LibPubSub.Handover
import LibPubSub.TcpEnds
import LibPubSub.Unshared
