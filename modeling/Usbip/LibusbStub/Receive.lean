import Usbip.Core.Framing
import Usbip.LibusbStub.Machine
import Usbip.Stub.Receive

/-!
# What the libusb stub's receiving thread takes from its socket

`stub_rx_pdu` of the port to user space, as a function of the bytes it receives and of what it
finds: the table of endpoints, what can be allocated, and whether libusb takes the transfer.  The
payload goes into a `libusb_transfer`, and the two functions that receive it have the names of the
kernel's but not their bodies.

`tweak_special_requests` is left out: what it does, it does to the device.
-/

namespace Usbip.LibusbStub

open Usbip.Core Usbip.Common Usbip.Stub

/-! ## The endpoints -/

/-- The type is masked when the table is filled, so that it is one of the four.
Source: `stub.h`, `struct stub_endpoint`. -/
structure StubEndpoint where
  nr : Byte
  dir : Byte
  type : PipeType
  deriving DecidableEq

/-- Source: `stub_common.h`, `USB_ENDPOINT_NUMBER_MASK`. -/
def usbEndpointNumberMask : Byte := 0x0f

/-- Source: `stub_common.h`, `USB_DIR_IN`. -/
def usbDirIn : Byte := 0x80

/-- Source: libusb, `LIBUSB_ENDPOINT_OUT`. -/
def libusbEndpointOut : Byte := 0

/-- Source: `stub_dev.c`, `get_endpoint`. -/
def getEndpoint (eps : List StubEndpoint) (ep : Byte) : Option StubEndpoint :=
  eps.find? fun epp => epp.nr = ep &&& usbEndpointNumberMask

/-- The type of an endpoint, with `none` for the 0xff of an unknown one.
Source: `stub_dev.c`, `stub_get_transfer_type`. -/
def stubGetTransferType (eps : List StubEndpoint) (ep : Byte) : Option PipeType :=
  if ep = 0 then some .control else (getEndpoint eps ep).map StubEndpoint.type

/-- Source: `stub_dev.c`, `stub_endpoint_dir`. -/
def stubEndpointDir (eps : List StubEndpoint) (ep : Byte) : Byte :=
  match getEndpoint eps ep with
  | none => 0
  | some epp => epp.dir

/-- Source: `stub_dev.c`, `stub_endpoint_dir_out`. -/
def stubEndpointDirOut (eps : List StubEndpoint) (ep : Byte) : Bool :=
  stubEndpointDir eps ep = libusbEndpointOut

/-! ## The transfer -/

/-- Source: libusb, `struct libusb_iso_packet_descriptor`. -/
structure LibusbIsoPacketDescriptor where
  length : BitVec 32
  actualLength : BitVec 32
  status : TransferStatus
  deriving DecidableEq

/-- A transfer before it is submitted; `buffer` is empty for NULL.
Source: libusb, `struct libusb_transfer`. -/
structure LibusbTransfer where
  flags : Byte
  endpoint : Byte
  type : PipeType
  length : BitVec 32
  /-- `libusb_alloc_transfer` clears it. -/
  actualLength : BitVec 32 := 0
  buffer : List Byte
  numIsoPackets : BitVec 32
  isoPacketDesc : List LibusbIsoPacketDescriptor
  deriving DecidableEq

def ETIMEDOUT : BitVec 32 := 110
def ESHUTDOWN : BitVec 32 := 108
def EOVERFLOW : BitVec 32 := 75

/-- Source: `stub_common.c`, `error2trxstat`. -/
def error2trxstat (e : BitVec 32) : TransferStatus :=
  if e = 0 then .completed
  else if e = -ENOENT then .error
  else if e = -ECONNRESET then .cancelled
  else if e = -ETIMEDOUT then .timedOut
  else if e = -EPIPE then .stall
  else if e = -ESHUTDOWN then .noDevice
  else if e = -EOVERFLOW then .overflow
  else .error

/-- A descriptor as it is received; the offset is not stored.
Source: `stub_common.c`, `usbip_pack_iso`. -/
def usbipPackIso (iso : IsoPacketDescriptor) : LibusbIsoPacketDescriptor :=
  ⟨iso.length, iso.actualLength, error2trxstat iso.status⟩

/-! ## Flags -/

def libusbTransferShortNotOk : Byte := 0x01
def libusbTransferAddZeroPacket : Byte := 0x08

/-- Source: `stub_dev.c`, `stub_get_transfer_flags`. -/
def stubGetTransferFlags (flags : BitVec 32) : Byte :=
  (if flags &&& urbShortNotOk ≠ 0 then libusbTransferShortNotOk else 0) |||
    if flags &&& urbZeroPacket ≠ 0 then libusbTransferAddZeroPacket else 0

/-- Source: libusb stub's `stub_rx.c`, `masking_bogus_flags`. -/
def maskingBogusFlags (eps : List StubEndpoint) (trx : LibusbTransfer) : LibusbTransfer :=
  if trx.type = .control ∧ trx.buffer = [] then trx
  else
    let isOut :=
      if trx.type = .control then setupIsOut trx.buffer else stubEndpointDirOut eps trx.endpoint
    let allowed := if trx.type = .bulk ∧ isOut then libusbTransferAddZeroPacket else 0
    let allowed := if isOut then allowed else allowed ||| libusbTransferShortNotOk
    { trx with flags := trx.flags &&& allowed }

/-! ## Allocation -/

/-- Which allocations, of which sizes, `malloc` and `calloc` serve at the moment, none of them larger
than `PTRDIFF_MAX`.  Of two allocations of the same size one may be served and the other not. -/
structure Malloc where
  ok : Allocation → Nat → Bool
  lt_of_ok : ∀ a n, ok a n = true → n < 2 ^ 63

/-- Every size that can be served is. -/
def Malloc.all : Malloc where
  ok _ n := n < 2 ^ 63
  lt_of_ok _ _ := of_decide_eq_true

/-- The counts of packets that `libusb_alloc_transfer` serves at the moment, and how many
descriptors the transfer then has room for. -/
structure LibusbAllocTransfer where
  room : Int → Option Nat
  le_of_room : ∀ n r, room n = some r → n ≤ r

/-- Every count that can be served is. -/
def LibusbAllocTransfer.all : LibusbAllocTransfer where
  room n := if 0 ≤ n then some n.toNat else none
  le_of_room n r h := by
    obtain ⟨hn, hr⟩ := Option.ite_none_right_eq_some.mp h
    obtain rfl := Option.some.inj hr
    omega

/-! ## Receiving -/

/-- Source: `stub_common.c`, `usbip_recv`. -/
def usbipRecv (size : Nat) (io : List Recvmsg) : Recv :=
  if size = 0 then ⟨-1, [], io⟩ else usbipRecvLoop size [] io

/-- Why a thread does not go on as the code says. -/
inductive Fault
  /-- `memcpy` to NULL. -/
  | nullBuffer
  /-- Descriptors behind the end of the buffer they were received in. -/
  | outOfBounds
  deriving DecidableEq

/-- What a receiver of a payload returns and leaves: whether it added an event, the transfer, and
the socket. -/
structure Received where
  ret : Int
  event : Bool
  trx : LibusbTransfer
  io : List Recvmsg
  deriving DecidableEq

/-- Source: `stub_common.c`, `usbip_recv_xbuff`. -/
def usbipRecvXbuff (io : List Recvmsg) (trx : LibusbTransfer) (offset : BitVec 32) : Received :=
  let size := trx.length - offset
  if ¬ 0 < size.toInt then ⟨0, false, trx, io⟩
  else
    let r := usbipRecv size.toNat io
    let buffer := trx.buffer.take offset.toNat ++ r.buf ++
      trx.buffer.drop (offset.toNat + r.buf.length)
    ⟨r.ret, r.ret ≠ size.toInt, { trx with buffer }, r.io⟩

/-- A size that is negative as an `int` is a very large `size_t`.
Source: `stub_common.c`, `usbip_recv_iso`. -/
def usbipRecvIso (malloc : Malloc) (io : List Recvmsg) (trx : LibusbTransfer) :
    Except Fault Received :=
  let np := trx.numIsoPackets
  let size := np * 16
  if np = 0 then .ok ⟨0, false, trx, io⟩
  else if ¬ malloc.ok .recvIso (sizeT size.toInt) then .ok ⟨-1, false, trx, io⟩
  else
    let r := usbipRecv size.toNat io
    if r.ret ≠ size.toInt then .ok ⟨-1, true, trx, r.io⟩
    else if size.toInt < np.toInt * 16 then .error .outOfBounds
    else
      let iso := isoReceived np r.buf
      let trx := { trx with
        isoPacketDesc := iso.map usbipPackIso ++ trx.isoPacketDesc.drop iso.length }
      if totalLength iso ≠ trx.actualLength then .ok ⟨-1, true, trx, r.io⟩
      else .ok ⟨r.ret, false, trx, r.io⟩

/-! ## The receiving thread -/

/-- What the receiving thread finds: what can be allocated, the endpoints, whether the connection
is in use, which requests `priv_init` has, and whether `libusb_submit_transfer` takes the
transfer. -/
structure Env where
  malloc : Malloc
  allocTransfer : LibusbAllocTransfer
  privOk : Bool
  unlinkOk : Bool
  eps : List StubEndpoint
  devid : BitVec 32
  used : Bool
  pending : Seqnum → Bool
  submitOk : Bool

/-- What a pass of the loop leaves: whether it added an event, the transfer that
`libusb_submit_transfer` was called with, and the socket. -/
structure Taken where
  event : Bool
  submitted : Option LibusbTransfer := none
  io : List Recvmsg
  deriving DecidableEq

/-- The number in the header, which `stub_get_transfer_type` is called with. -/
def epNumber (pdu : Header) : Byte := pdu.base.ep.setWidth 8

/-- How many packets the transfer is allocated for. -/
def packetsOn (pdu : Header) (type : PipeType) : BitVec 32 :=
  if type = .isochronous then pdu.u.w₃ else 0

/-- Where the data is in the transfer buffer: behind the setup packet. -/
def xbuffOffset (type : PipeType) : BitVec 32 := if type = .control then 8 else 0

/-- The length of the transfer buffer, an `int`. -/
def buflen (pdu : Header) (type : PipeType) : BitVec 32 :=
  xbuffOffset type + if 0 < pdu.u.w₁.toInt then pdu.u.w₁ else 0

/-- The transfer, with its buffer and its setup packet, before the payload is received. -/
def stubTrx (pdu : Header) (type : PipeType) (room : Nat) : LibusbTransfer where
  flags := stubGetTransferFlags pdu.u.w₀
  endpoint := if pdu.base.direction = dirIn then epNumber pdu ||| usbDirIn else epNumber pdu
  type := type
  length := buflen pdu type
  buffer :=
    if type = .control then pdu.u.setup ++ List.replicate ((buflen pdu type).toNat - 8) 0
    else List.replicate (buflen pdu type).toNat 0
  numIsoPackets := packetsOn pdu type
  isoPacketDesc := List.replicate room ⟨0, 0, .completed⟩

/-- The data of an OUT transfer. -/
def recvData (pdu : Header) (io : List Recvmsg) (trx : LibusbTransfer) : Received :=
  if pdu.base.direction ≠ dirIn then usbipRecvXbuff io trx (xbuffOffset trx.type)
  else ⟨0, false, trx, io⟩

/-- The end of `stub_recv_cmd_submit`, once everything is allocated. -/
def stubRecvPayload (env : Env) (pdu : Header) (trx : LibusbTransfer) (io : List Recvmsg) :
    Except Fault Taken :=
  let x := recvData pdu io trx
  if x.ret < 0 then .ok { event := x.event, io := x.io }
  else
    match usbipRecvIso env.malloc x.io x.trx with
    | .error f => .error f
    | .ok r =>
        if r.ret < 0 then .ok { event := x.event || r.event, io := r.io }
        else
          .ok { event := x.event || r.event || ¬ env.submitOk
                submitted := some (maskingBogusFlags env.eps r.trx)
                io := r.io }

/-- The rest of `stub_recv_cmd_submit`, once there is a type. -/
def stubRecvOnType (env : Env) (pdu : Header) (type : PipeType) (io : List Recvmsg) :
    Except Fault Taken :=
  if ¬ env.privOk then .ok { event := true, io }
  else
    match env.allocTransfer.room (packetsOn pdu type).toInt with
    | none => .ok { event := true, io }
    | some room =>
        if 0 < (buflen pdu type).toInt ∧ ¬ env.malloc.ok .buffer (buflen pdu type).toNat then
          .ok { event := true, io }
        else if type = .control ∧ ¬ 0 < (buflen pdu type).toInt then .error .nullBuffer
        else stubRecvPayload env pdu (stubTrx pdu type room) io

/-- Source: libusb stub's `stub_rx.c`, `stub_recv_cmd_submit`. -/
def stubRecvCmdSubmit (env : Env) (pdu : Header) (io : List Recvmsg) : Except Fault Taken :=
  match stubGetTransferType env.eps (epNumber pdu) with
  | none => .ok { event := false, io }
  | some type => stubRecvOnType env pdu type io

/-- Source: libusb stub's `stub_rx.c`, `stub_recv_cmd_unlink`. -/
def stubRecvCmdUnlink (env : Env) (pdu : Header) (io : List Recvmsg) : Taken :=
  { event := ¬ env.pending pdu.u.w₀ ∧ ¬ env.unlinkOk, io }

/-- Source: libusb stub's `stub_rx.c`, `valid_request`. -/
def validRequest (env : Env) (pdu : Header) : Bool :=
  pdu.base.devid = env.devid ∧ env.used

end Usbip.LibusbStub
