import Usbip.Core.Drain
import Usbip.Core.Ledger
import Usbip.Core.Spread
import Usbip.Core.Framing
import Usbip.Stub.Order
import Usbip.Stub.Ownership
import Usbip.LibusbStub.Order
import Usbip.LibusbStub.Header
import Usbip.Vudc.Replies
import Usbip.Common.Header
import Usbip.Common.Recv
import Usbip.Common.Wire
import Usbip.Common.Padding
import Usbip.Common.Stream
import Usbip.Core.Custody
import Usbip.Vhci.Machine
import Usbip.Vhci.Custody
import Usbip.Vhci.Numbers
import Usbip.Vhci.Orphans
import Usbip.Vhci.Cleanup
import Usbip.Vhci.Matching
import Usbip.Vhci.Order
import Usbip.Stub.Success
import Usbip.Vhci.Givebacks
import Usbip.Vhci.Traffic
import Usbip.Link.Machine
import Usbip.Link.Success
import Usbip.Vudc.Device
import Usbip.Vudc.Release
import Usbip.Vhci.Isolation
import Usbip.Vudc.Isolation
import Usbip.Vhci.Receive
import Usbip.Link.Replies
import Usbip.Common.Accesses
import Usbip.Vhci.Bounds
import Usbip.Stub.Receive
import Usbip.Common.Truncation
import Usbip.Stub.Bounds
import Usbip.Event.Machine
import Usbip.Event.Steps
import Usbip.Event.Delivery
import Usbip.Event.Barrier
import Usbip.Event.Connection
import Usbip.Event.Reconnect
import Usbip.Export.StoreSockfd
import Usbip.Export.EarlyRequest
import Usbip.Vhci.Status
import Usbip.Ux.Count
import Usbip.Ux.Stream
import Usbip.Ux.Transport
import Usbip.Vudc.Receive
import Usbip.Link.Requests
import Usbip.LibusbStub.Receive
import Usbip.Stub.Busid
import Usbip.Vudc.Timer
import Usbip.Core.Codec
import Usbip.Core.Copy
import Usbip.Tools.Network
import Usbip.Tools.Devlist
import Usbip.Vudc.Transfer
import Usbip.Vudc.Flow
import Usbip.Vudc.Order
import Usbip.Vudc.Requests
import Usbip.Vudc.Bandwidth
import Usbip.Vudc.Termination
import Usbip.Vudc.DataOrder
import Usbip.Hub.Speed
import Usbip.Hub.Timeout
import Usbip.Vudc.Wedge
import Usbip.Stub.Cleanup
import Usbip.Connect.Machine
import Usbip.Connect.Stub
import Usbip.Connect.Threads
import Usbip.Connect.References
import Usbip.Ports.Machine
import Usbip.Ports.Counters
import Usbip.Ports.Detach
import Usbip.Core.Scan
import Usbip.Core.Walk
import Usbip.Tools.VhciDriver
import Usbip.LibusbStub.Payload
import Usbip.Link.Payloads
import Usbip.LibusbStub.Requests
import Usbip.LibusbStub.Connection
import Usbip.Link.Loops
import Usbip.Tools.Records
import Usbip.Ports.Named
import Usbip.Tools.AppDaemon
import Usbip.LibusbStub.Endpoints
import Usbip.Link.Special
import Usbip.LibusbStub.Replies
import Usbip.Link.Offsets
import Usbip.Core.Emptying
import Usbip.LibusbStub.Cleanup
import Usbip.Core.Memory
import Usbip.Tools.ExportedDevices
import Usbip.Link.Transparency
import Usbip.LibusbStub.Shutdown
import Usbip.Ux.Relay
import Usbip.Vhci.Pending
import Usbip.Link.Completion
import Usbip.Core.Dialogue
import Usbip.Tools.Requests
import Usbip.Tools.Import
import Usbip.Tools.Export
import Usbip.Tools.Listing
import Usbip.Tools.Conversation
import Usbip.Ports.Attach
