import Usbip.Common.Accesses
import Usbip.Core.Framing

/-!
# What the stub's receiving thread takes from its socket

`stub_rx_pdu` as a function of the bytes it receives and of what it finds: the endpoints of the
device and what can be allocated.  The endpoint number and the direction come from the client, and
with an endpoint that does not exist the thread does not return: that is a `Fault`.

`tweak_special_requests` is left out: what it does, it does to the device.
-/

namespace Usbip.Stub

open Usbip.Core Usbip.Common

/-! ## The device -/

/-- The type is what the `usb_endpoint_xfer_*` functions find in `bmAttributes`.
Source: `<linux/usb/ch9.h>`, `struct usb_endpoint_descriptor`. -/
structure EndpointDescriptor where
  bEndpointAddress : Byte
  type : PipeType
  deriving DecidableEq

/-- Source: `<linux/usb/ch9.h>`, `usb_endpoint_dir_out`. -/
def EndpointDescriptor.dirOut (d : EndpointDescriptor) : Bool := ¬ d.bEndpointAddress.getLsbD 7

/-- Source: `<linux/usb.h>`, `struct usb_device`. -/
structure UsbDevice where
  devnum : BitVec 7
  epIn : Fin 16 → Option EndpointDescriptor
  epOut : Fin 16 → Option EndpointDescriptor
  /-- `state` is at least `USB_STATE_UNAUTHENTICATED`. -/
  attached : Bool := true

/-- Why a thread does not return. -/
inductive Fault
  /-- `BUG()`. -/
  | bug
  /-- An index behind the end of `ep_in` or `ep_out`. -/
  | outOfBounds (i : Nat)
  deriving DecidableEq

/-! ## Pipes -/

/-- Source: `<linux/usb.h>`, `PIPE_ISOCHRONOUS` and the others. -/
def pipeCode : PipeType → BitVec 32
  | .isochronous => 0
  | .interrupt => 1
  | .control => 2
  | .bulk => 3

/-- Source: `<linux/usb.h>`, `__create_pipe`. -/
def createPipe (udev : UsbDevice) (endpoint : BitVec 32) : BitVec 32 :=
  udev.devnum.setWidth 32 <<< 8 ||| endpoint <<< 15

/-- `usb_sndctrlpipe` and the others, for each type and with `out` set or clear. -/
def usbPipe (type : PipeType) (out : Bool) (udev : UsbDevice) (endpoint : BitVec 32) : BitVec 32 :=
  let pipe := pipeCode type <<< 30 ||| createPipe udev endpoint
  if out then pipe else pipe ||| 0x80

/-- The type in the two highest bits of a pipe. -/
def pipeTypeOfBits : Bool → Bool → PipeType
  | false, false => .isochronous
  | false, true => .interrupt
  | true, false => .control
  | true, true => .bulk

/-- What `usb_pipetype`, `usb_pipein`, `usb_pipedevice` and `usb_pipeendpoint` make of a pipe. -/
def pipeOfBits (pipe : BitVec 32) : Pipe where
  type := pipeTypeOfBits (pipe.getLsbD 31) (pipe.getLsbD 30)
  isIn := pipe.getLsbD 7
  device := pipe.extractLsb' 8 7
  endpoint := pipe.extractLsb' 15 4

/-- Source: `stub_rx.c`, `get_pipe`. -/
def getPipe (udev : UsbDevice) (epnum dir : BitVec 32) : Except Fault (BitVec 32) :=
  let table := if dir = dirIn then udev.epIn else udev.epOut
  let i := (epnum &&& 0x7f).toNat
  if h : i < 16 then
    match table ⟨i, h⟩ with
    | none => .error .bug
    | some epd => .ok (usbPipe epd.type (dir = dirOut) udev epnum)
  else .error (.outOfBounds i)

/-! ## Flags -/

def urbShortNotOk : BitVec 32 := 0x0001
def urbIsoAsap : BitVec 32 := 0x0002
def urbNoFsbr : BitVec 32 := 0x0020
def urbZeroPacket : BitVec 32 := 0x0040
def urbNoInterrupt : BitVec 32 := 0x0080
def urbFreeBuffer : BitVec 32 := 0x0100
def urbDirMask : BitVec 32 := 0x0200

/-- A control request without data, or to the device.  `setup` has at least the eight bytes of a
`struct usb_ctrlrequest`. -/
def setupIsOut (setup : List Byte) : Bool :=
  ¬ (setup.getD 0 0).getLsbD 7 ∨ setup.getD 6 0 = 0 ∧ setup.getD 7 0 = 0

/-- Source: `stub_rx.c`, `masking_bogus_flags`. -/
def maskingBogusFlags (udev : UsbDevice) (urb : Urb) : Urb :=
  if ¬ udev.attached then urb
  else
    match (if urb.pipe.isIn then udev.epIn else udev.epOut) urb.pipe.endpoint.toFin with
    | none => urb
    | some ep =>
        if ep.type = .control ∧ urb.setupPacket = none then urb
        else
          let isOut :=
            if ep.type = .control then setupIsOut (urb.setupPacket.getD []) else ep.dirOut
          let allowed := urbNoTransferDmaMap ||| urbNoInterrupt ||| urbDirMask ||| urbFreeBuffer
          let allowed :=
            if ep.type = .isochronous then allowed ||| urbIsoAsap
            else
              let allowed :=
                if ep.type = .bulk ∧ isOut then allowed ||| urbZeroPacket else allowed
              let allowed :=
                if ep.type = .bulk ∨ ep.type = .control then allowed ||| urbNoFsbr else allowed
              if isOut then allowed else allowed ||| urbShortNotOk
          { urb with transferFlags := urb.transferFlags &&& allowed }

/-! ## The receiving thread -/

/-- What the receiving thread finds: what can be allocated, the device, whether the connection is
in use, which requests `priv_init` has, and which URBs `usb_submit_urb` takes. -/
structure Env where
  kz : Kzalloc
  allocUrb : UsbAllocUrb
  privOk : Bool
  unlinkOk : Bool
  udev : UsbDevice
  devid : BitVec 32
  used : Bool
  pending : Seqnum → Bool
  submit : Urb → Bool

/-- What a pass of the loop leaves: whether it added an event, the URB that `usb_submit_urb` was
called with, how many descriptors were allocated for it and which memory was touched to fill it,
and the socket. -/
structure Taken where
  event : Bool
  submitted : Option Urb := none
  room : Nat := 0
  accesses : List Access := []
  io : List Recvmsg

/-- The URB, with its transfer buffer and its setup packet, before the payload is received. -/
def stubUrb (pdu : Header) (pipe : BitVec 32) (room : Nat) : Urb :=
  unpackCmdSubmit pdu.u
    { pipe := pipeOfBits pipe
      transferBuffer := List.replicate pdu.u.w₁.toInt.toNat 0
      setupPacket := some pdu.u.setup
      isoFrameDesc := List.replicate room ⟨0, 0, 0, 0⟩ }

/-- How many packets the URB is allocated for. -/
def packetsOn (pdu : Header) (pipe : BitVec 32) : Int :=
  if (pipeOfBits pipe).type = .isochronous then pdu.u.w₃.toInt else 0

/-- The end of `stub_recv_cmd_submit`, once everything is allocated. -/
def stubRecvPayload (env : Env) (pdu : Header) (pipe : BitVec 32) (room : Nat)
    (io : List Recvmsg) : Taken :=
  let urb := stubUrb pdu pipe room
  let accesses := recvPayloadAccesses .stub env.kz io urb
  let r := recvPayload .stub env.kz io urb
  if r.ret < 0 then { event := r.event, room, accesses, io := r.io }
  else
    let urb := maskingBogusFlags env.udev r.urb
    { event := r.event || ¬ env.submit urb, submitted := some urb, room, accesses, io := r.io }

/-- The rest of `stub_recv_cmd_submit`, once there is a pipe. -/
def stubRecvOnPipe (env : Env) (pdu : Header) (pipe : BitVec 32) (io : List Recvmsg) : Taken :=
  if ¬ env.privOk then { event := true, io }
  else
    match env.allocUrb.room (packetsOn pdu pipe) with
    | none => { event := true, io }
    | some room =>
        if 0 < pdu.u.w₁.toInt ∧ ¬ env.kz.ok .buffer pdu.u.w₁.toInt.toNat then { event := true, room, io }
        else if ¬ env.kz.ok .setup 8 then { event := true, room, io }
        else stubRecvPayload env pdu pipe room io

/-- Source: `stub_rx.c`, `stub_recv_cmd_submit`. -/
def stubRecvCmdSubmit (env : Env) (pdu : Header) (io : List Recvmsg) : Except Fault Taken :=
  match getPipe env.udev pdu.base.ep pdu.base.direction with
  | .error f => .error f
  | .ok pipe => .ok (stubRecvOnPipe env pdu pipe io)

/-- Source: `stub_rx.c`, `stub_recv_cmd_unlink`. -/
def stubRecvCmdUnlink (env : Env) (pdu : Header) (io : List Recvmsg) : Taken :=
  { event := ¬ env.pending pdu.u.w₀ ∧ ¬ env.unlinkOk, io }

/-- Source: `stub_rx.c`, `valid_request`. -/
def validRequest (env : Env) (pdu : Header) : Bool :=
  pdu.base.devid = env.devid ∧ env.used

/-- Source: `stub_rx.c`, `stub_rx_pdu`. -/
def stubRxPdu (e : Endian) (env : Env) (io : List Recvmsg) : Except Fault Taken :=
  match recvHeader e io with
  | none => .ok { event := true, io := (usbipRecv 48 io).io }
  | some (pdu, io) =>
      if ¬ validRequest env pdu then .ok { event := true, io }
      else if pdu.base.command = cmdUnlink then .ok (stubRecvCmdUnlink env pdu io)
      else if pdu.base.command = cmdSubmit then stubRecvCmdSubmit env pdu io
      else .ok { event := true, io }

/-- Source: `stub_rx.c`, `stub_rx_loop`. -/
def rxLoop (e : Endian) : RxLoop Env (List Recvmsg) (Except Fault Taken) where
  rx := stubRxPdu e
  rest
    | .ok t => t.io
    | .error _ => []
  stops
    | .ok t => t.event
    | .error _ => true

/-! ## Allocation -/

/-- Everything that is allocated before the payload is received. -/
structure Env.Allocates (env : Env) (pdu : Header) (np : Int) : Prop where
  priv : env.privOk = true
  urb : (env.allocUrb.room np).isSome = true
  buffer : 0 < pdu.u.w₁.toInt → env.kz.ok .buffer pdu.u.w₁.toInt.toNat = true
  setup : env.kz.ok .setup 8 = true

section Allocates

variable {env : Env} {pdu : Header} {pipe : BitVec 32}

/-- With its memory allocated a submit goes on to its payload. -/
lemma stubRecvOnPipe_of_allocates (io : List Recvmsg)
    (h : env.Allocates pdu (packetsOn pdu pipe)) :
    ∃ room, env.allocUrb.room (packetsOn pdu pipe) = some room ∧
      stubRecvOnPipe env pdu pipe io = stubRecvPayload env pdu pipe room io := by
  obtain ⟨room, hroom⟩ := Option.isSome_iff_exists.mp h.urb
  refine ⟨room, hroom, ?_⟩
  unfold stubRecvOnPipe
  rw [if_neg (not_not_intro h.priv), hroom]
  dsimp only
  rw [if_neg fun hfail => hfail.2 (h.buffer hfail.1), if_neg (not_not_intro h.setup)]

/-- Without its memory a submit adds an event. -/
lemma stubRecvOnPipe_of_not_allocates (io : List Recvmsg)
    (h : ¬ env.Allocates pdu (packetsOn pdu pipe)) :
    ∃ room, stubRecvOnPipe env pdu pipe io = { event := true, room, io } := by
  unfold stubRecvOnPipe
  split
  · exact ⟨0, rfl⟩
  · rename_i hpriv
    split
    · exact ⟨0, rfl⟩
    · rename_i room hroom
      split
      · exact ⟨room, rfl⟩
      · rename_i hbuffer
        split
        · exact ⟨room, rfl⟩
        · rename_i hsetup
          refine absurd ?_ h
          constructor
          · exact not_not.mp hpriv
          · rw [hroom]
            rfl
          · exact fun hpos => not_not.mp fun hfail => hbuffer ⟨hpos, hfail⟩
          · exact not_not.mp hsetup

end Allocates

/-! ## The pipe -/

section Pipe

variable (type : PipeType) (out : Bool) (udev : UsbDevice)

/-- The bits of a pipe: type, endpoint number, device number and direction. -/
lemma getLsbD_usbPipe (ep : BitVec 32) {i : Nat} (hi : i < 32) :
    (usbPipe type out udev ep).getLsbD i =
      (decide (30 ≤ i) && (pipeCode type).getLsbD (i - 30) ||
        (decide (15 ≤ i) && ep.getLsbD (i - 15) ||
          (decide (8 ≤ i) && udev.devnum.getLsbD (i - 8) || decide (i = 7) && !out))) := by
  have h7 : (0x80 : BitVec 32).getLsbD i = decide (i = 7) := by
    interval_cases i <;> rfl
  cases out
  · simp only [usbPipe, createPipe, Bool.false_eq_true, if_false, BitVec.getLsbD_or,
      BitVec.getLsbD_shiftLeft, BitVec.getLsbD_setWidth, h7]
    simp [hi, show i - 8 < 32 by omega]
    grind
  · simp only [usbPipe, createPipe, if_true, BitVec.getLsbD_or,
      BitVec.getLsbD_shiftLeft, BitVec.getLsbD_setWidth]
    simp [hi, show i - 8 < 32 by omega]
    grind

/-- The type of a pipe, with the bits of an endpoint number that are in the same place. -/
lemma type_pipeOfBits (ep : BitVec 32) :
    (pipeOfBits (usbPipe type out udev ep)).type =
      pipeTypeOfBits ((pipeCode type).getLsbD 1 || ep.getLsbD 16)
        ((pipeCode type).getLsbD 0 || ep.getLsbD 15) := by
  unfold pipeOfBits
  rw [getLsbD_usbPipe _ _ _ _ (by decide), getLsbD_usbPipe _ _ _ _ (by decide)]
  simp

/-- The bits of a large endpoint number spoil the type of an isochronous pipe. -/
lemma type_pipeOfBits_eq_isochronous (ep : BitVec 32) :
    (pipeOfBits (usbPipe type out udev ep)).type = .isochronous ↔
      type = .isochronous ∧ ep.getLsbD 15 = false ∧ ep.getLsbD 16 = false := by
  rw [type_pipeOfBits]
  generalize ep.getLsbD 15 = b
  generalize ep.getLsbD 16 = c
  cases type <;> cases b <;> cases c <;> decide

/-- The direction of a pipe is that of the request. -/
lemma isIn_pipeOfBits (ep : BitVec 32) :
    (pipeOfBits (usbPipe type out udev ep)).isIn = !out := by
  show (usbPipe type out udev ep).getLsbD 7 = _
  rw [getLsbD_usbPipe _ _ _ _ (by decide)]
  simp

/-- The pipe of an endpoint number as the USB core has them. -/
lemma pipeOfBits_usbPipe (ep : BitVec 4) :
    pipeOfBits (usbPipe type out udev (ep.setWidth 32)) = ⟨type, !out, udev.devnum, ep⟩ := by
  have htype : (pipeOfBits (usbPipe type out udev (ep.setWidth 32))).type = type := by
    rw [type_pipeOfBits]
    have h₁ : (ep.setWidth 32).getLsbD 15 = false := by simp
    have h₂ : (ep.setWidth 32).getLsbD 16 = false := by simp
    rw [h₁, h₂]
    cases type <;> rfl
  have hdevice : (usbPipe type out udev (ep.setWidth 32)).extractLsb' 8 7 = udev.devnum := by
    apply BitVec.eq_of_getLsbD_eq
    intro i hi
    have h₁ : ¬ 30 ≤ 8 + i := by omega
    have h₂ : ¬ 15 ≤ 8 + i := by omega
    have h₃ : 8 + i ≠ 7 := by omega
    rw [BitVec.getLsbD_extractLsb', getLsbD_usbPipe _ _ _ _ (by omega)]
    simp [hi, h₁, h₂, h₃]
  have hendpoint : (usbPipe type out udev (ep.setWidth 32)).extractLsb' 15 4 = ep := by
    apply BitVec.eq_of_getLsbD_eq
    intro i hi
    have h₁ : ¬ 30 ≤ 15 + i := by omega
    have h₂ : 15 + i ≠ 7 := by omega
    have h₃ : udev.devnum.getLsbD (15 + i - 8) = false := BitVec.getLsbD_of_ge _ _ (by omega)
    rw [BitVec.getLsbD_extractLsb', getLsbD_usbPipe _ _ _ _ (by omega)]
    simp [hi, h₁, h₂, h₃]
    omega
  unfold pipeOfBits
  rw [Pipe.mk.injEq]
  exact ⟨htype, isIn_pipeOfBits type out udev _, hdevice, hendpoint⟩

end Pipe

end Usbip.Stub
