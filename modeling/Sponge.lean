import Sponge.Execution
import Sponge.BoundedFifo
import Sponge.MachineWord
import Sponge.UnorderedMap
import Sponge.FragmentMap
import Sponge.ChunkQueue
import Sponge.Buffer
import Sponge.BufferViewList
import Sponge.ByteStream
import Sponge.ByteStreamFifo
import Sponge.ByteStreamPop
import Sponge.WrappingIntegers
import Sponge.StreamReassembler
import Sponge.StreamReassemblerAssembly
import Sponge.StreamReassemblerMerge
import Sponge.StreamReassemblerLayout
import Sponge.StreamReassemblerProgress
import Sponge.StreamReassemblerIntegrity
import Sponge.StreamReassemblerExcess
import Sponge.StreamReassemblerWindow
import Sponge.StreamReassemblerCapacity
import Sponge.StreamReassemblerFragments
import Sponge.StreamReassemblerOrder
import Sponge.StreamReassemblerTop
import Sponge.StreamReassemblerReach
import Sponge.TCPSegment
import Sponge.TCPReceiver
import Sponge.TCPReceiverCorrectness
import Sponge.TCPReceiverWrap
import Sponge.TCPReceiverSynPosition
import Sponge.TCPSender
import Sponge.TCPState
import Sponge.TCPSenderFill
import Sponge.TCPSenderLog
import Sponge.TCPSenderSegmentation
import Sponge.TCPSenderOutstanding
import Sponge.TCPSenderTimer
import Sponge.TCPSenderWindow
import Sponge.TCPSenderWrap
import Sponge.TCPConnection
import Sponge.TCPEndpoint
import Sponge.TCPConnectionRun
import Sponge.TCPConnectionShutdown
import Sponge.TCPEndpointFlow
import Sponge.TCPConnectionInbound
import Sponge.TCPConnectionLinger
import Sponge.TCPConnectionTimer
import Sponge.TCPConnectionOutbound
import Sponge.TCPConnectionWindow
import Sponge.TCPConnectionReset
import Sponge.TCPConnectionBackoff
import Sponge.TCPConnectionListen
import Sponge.TCPConnectionProgress
import Sponge.TCPConnectionState
import Sponge.TCPNetwork
import Sponge.TCPNetworkRecovery
import Sponge.TCPNetworkClose
import Sponge.BigEndian
import Sponge.Reading
import Sponge.OnesComplement
import Sponge.LastMaximal
import Sponge.Records
import Sponge.NetParser
import Sponge.InternetChecksum
import Sponge.IPv4
import Sponge.IPv4Reencoding
import Sponge.TCPSegmentWire
import Sponge.Ethernet
import Sponge.PacketParsing
import Sponge.ParserSafety
import Sponge.ChecksumDetection
import Sponge.NetworkInterface
import Sponge.TCPOverIPv4
import Sponge.TCPOverIPv4Isolation
import Sponge.NetworkInterfaceRun
import Sponge.NetworkInterfaceTiming
import Sponge.EthernetSegment
import Sponge.EthernetDelivery
import Sponge.EthernetProgress
import Sponge.Router
import Sponge.RouterRun
import Sponge.RouterPrefixMatch
import Sponge.FileDescriptor
import Sponge.EventLoop
import Sponge.FdAdapter
import Sponge.PacketDamage
import Sponge.FdAdapterTransport
import Sponge.FdAdapterEthernet
import Sponge.TCPSpongeSocket
import Sponge.TCPSpongeSocketSession
import Sponge.TCPSpongeSocketOwner
import Sponge.TCPSpongeSocketNetwork
import Sponge.FdAdapterService
import Sponge.TCPSpongeSocketService
import Sponge.TCPSpongeSocketFinish
import Sponge.Internetwork
import Sponge.InternetworkSound
import Sponge.InternetworkRoutes
import Sponge.BidirectionalStreamCopy
import Sponge.BidirectionalStreamCopyRun
import Sponge.BidirectionalStreamCopyService
