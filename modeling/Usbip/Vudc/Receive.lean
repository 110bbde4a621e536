import Usbip.Common.Accesses
import Usbip.Core.Framing
import Usbip.Vudc.Machine

/-!
# What the vudc's receiving thread takes from its socket

`v_rx_pdu` as a function of the bytes it receives and of what it finds: the endpoints that the gadget
has enabled and what can be allocated.  The URB is not one of a host controller: `pipe` is set up no
further than `usbip_recv_xbuff` and `usbip_recv_iso` look at it.
-/

namespace Usbip.Vudc

open Usbip.Core Usbip.Common

/-- An endpoint as `vudc_find_endpoint` looks at it; `desc` is the `bEndpointAddress` of the
descriptor, if the endpoint has one.
Source: `vudc.h`, `struct vep`. -/
structure Endpoint where
  desc : Option Byte
  type : XferType
  deriving DecidableEq

/-- What the receiving thread finds: what can be allocated, whether the device is in use, the
endpoints, and which requests are on `urb_queue`. -/
structure Env where
  kz : Kzalloc
  allocUrb : UsbAllocUrb
  urbpOk : Bool
  unlinkOk : Bool
  used : Bool
  ep : Fin 31 → Endpoint
  queued : Seqnum → Bool

/-- What a pass of the loop leaves: its return value, whether it added an event, the URB that it
queued for the timer, and the socket. -/
structure Taken where
  ret : Int
  event : Bool
  queued : Option Urb := none
  io : List Recvmsg

/-- Source: `<linux/usb/ch9.h>`, `USB_DIR_IN`. -/
def usbDirIn : Byte := 0x80

/-- Source: `vudc_dev.c`, `vudc_find_endpoint`. -/
def vudcFindEndpoint (ep : Fin 31 → Endpoint) (address : Byte) : Option (Fin 31) :=
  if address &&& ~~~usbDirIn = 0 then some 0
  else (List.finRange 31).tail.find? fun i => (ep i).desc = some address

/-- Source: `vudc_rx.c`, `v_recv_cmd_submit`. -/
def XferType.pipeType : XferType → PipeType
  | .bulk => .bulk
  | .int => .interrupt
  | .control => .control
  | .isoc => .isochronous

/-- The URB, with its transfer buffer and its setup packet, before the payload is received. -/
def vudcUrb (pdu : Header) (type : XferType) (room : Nat) : Urb :=
  unpackCmdSubmit pdu.u
    { pipe := ⟨type.pipeType, pdu.base.direction = dirIn, 0, 0⟩
      status := -EINPROGRESS
      transferBuffer := List.replicate pdu.u.w₁.toNat 0
      setupPacket := some pdu.u.setup
      isoFrameDesc := List.replicate room ⟨0, 0, 0, 0⟩ }

/-- How many packets the URB is allocated for. -/
def packetsOn (pdu : Header) (type : XferType) : Int :=
  if type = .isoc then pdu.u.w₃.toInt else 0

/-- The URB, or `none` when something cannot be allocated.
Source: `vudc_rx.c`, `alloc_urb_from_cmd`. -/
def allocUrbFromCmd (env : Env) (pdu : Header) (type : XferType) : Option Urb :=
  match env.allocUrb.room (packetsOn pdu type) with
  | none => none
  | some room =>
      -- the length of the URB is unsigned
      if 0 < pdu.u.w₁.toNat ∧ ¬ env.kz.ok .buffer pdu.u.w₁.toNat then none
      else if ¬ env.kz.ok .setup 8 then none
      else some (vudcUrb pdu type room)

/-- Where `v_recv_cmd_submit` looks for the endpoint. -/
def requestAddress (pdu : Header) : Byte :=
  if pdu.base.direction = dirIn then pdu.base.ep.setWidth 8 ||| usbDirIn
  else pdu.base.ep.setWidth 8

/-- The gadget does not change the endpoint meanwhile.
Source: `vudc_rx.c`, `v_recv_cmd_submit`. -/
def takeCmdSubmit (env : Env) (pdu : Header) (io : List Recvmsg) : Taken :=
  if ¬ env.urbpOk then { ret := -ENOMEM.toInt, event := true, io }
  else
    match vudcFindEndpoint env.ep (requestAddress pdu) with
    | none => { ret := -EPIPE.toInt, event := true, io }
    | some i =>
        match allocUrbFromCmd env pdu (env.ep i).type with
        | none => { ret := -ENOMEM.toInt, event := true, io }
        | some urb =>
            let r := recvPayload .vudc env.kz io urb
            if r.ret < 0 then { ret := r.ret, event := r.event, io := r.io }
            else { ret := 0, event := r.event, queued := some r.urb, io := r.io }

/-- Source: `vudc_rx.c`, `v_recv_cmd_unlink`. -/
def takeCmdUnlink (env : Env) (pdu : Header) (io : List Recvmsg) : Taken :=
  { ret := 0, event := ¬ env.queued pdu.u.w₀ ∧ ¬ env.unlinkOk, io }

def EBUSY : BitVec 32 := 16

/-- Source: `vudc_rx.c`, `v_rx_pdu`. -/
def takePdu (e : Endian) (env : Env) (io : List Recvmsg) : Taken :=
  match recvHeader e io with
  | none =>
      let r := usbipRecv 48 io
      { ret := if 0 ≤ r.ret then -EPIPE.toInt else r.ret, event := true, io := r.io }
  | some (pdu, io) =>
      if ¬ env.used then { ret := -EBUSY.toInt, event := true, io }
      else if pdu.base.command = cmdUnlink then takeCmdUnlink env pdu io
      else if pdu.base.command = cmdSubmit then takeCmdSubmit env pdu io
      else { ret := -EPIPE.toInt, event := false, io }

/-- Source: `vudc_rx.c`, `v_rx_loop`. -/
def rxLoop (e : Endian) : RxLoop Env (List Recvmsg) Taken where
  rx := takePdu e
  rest := Taken.io
  stops t := t.event || decide (t.ret < 0)

/-! ## Allocation -/

/-- Everything that is allocated before the payload is received. -/
structure Env.Allocates (env : Env) (pdu : Header) (np : Int) : Prop where
  urbp : env.urbpOk = true
  urb : (env.allocUrb.room np).isSome = true
  buffer : 0 < pdu.u.w₁.toNat → env.kz.ok .buffer pdu.u.w₁.toNat = true
  setup : env.kz.ok .setup 8 = true

section Allocates

variable {env : Env} {pdu : Header} {i : Fin 31}

/-- With its memory allocated a submit goes on to its payload. -/
lemma allocUrbFromCmd_of_allocates {type : XferType}
    (h : env.Allocates pdu (packetsOn pdu type)) :
    ∃ room, env.allocUrb.room (packetsOn pdu type) = some room ∧
      allocUrbFromCmd env pdu type = some (vudcUrb pdu type room) := by
  obtain ⟨room, hroom⟩ := Option.isSome_iff_exists.mp h.urb
  refine ⟨room, hroom, ?_⟩
  unfold allocUrbFromCmd
  rw [hroom]
  dsimp only
  rw [if_neg fun hfail => hfail.2 (h.buffer hfail.1), if_neg (not_not_intro h.setup)]

/-- A request to an endpoint that exists, when everything can be allocated. -/
lemma takeCmdSubmit_of_allocates (io : List Recvmsg)
    (hep : vudcFindEndpoint env.ep (requestAddress pdu) = some i)
    (h : env.Allocates pdu (packetsOn pdu (env.ep i).type)) :
    ∃ room, env.allocUrb.room (packetsOn pdu (env.ep i).type) = some room ∧
      takeCmdSubmit env pdu io =
        let r := recvPayload .vudc env.kz io (vudcUrb pdu (env.ep i).type room)
        if r.ret < 0 then { ret := r.ret, event := r.event, io := r.io }
        else { ret := 0, event := r.event, queued := some r.urb, io := r.io } := by
  obtain ⟨room, hroom, halloc⟩ := allocUrbFromCmd_of_allocates h
  refine ⟨room, hroom, ?_⟩
  unfold takeCmdSubmit
  rw [if_neg (not_not_intro h.urbp), hep]
  dsimp only
  rw [halloc]

end Allocates

end Usbip.Vudc
