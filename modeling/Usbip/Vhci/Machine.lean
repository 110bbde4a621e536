import Usbip.Common.Recv
import Usbip.Core.Custody
import Usbip.Core.Lists

/-!
# The vhci as a machine

One port of the virtual host controller, over any number of connections.  The contexts that
interleave are the callers of `vhci_urb_enqueue` and `vhci_urb_dequeue`, which hold `vhci->lock`,
the receiving and the sending thread, which take `priv_lock`, and the event handler that shuts a
connection down.  An action is a section that a context executes under its lock, or a step of it
that touches nothing shared.

`vhci_urb_enqueue` and `vhci_urb_dequeue` hold `vhci->lock` from end to end, but the threads do
not take it; so each is split where they can come between: `lock` is the position of the holder.
The event handler holds the lock while it is at `cleanup`.

Outside are the USB core (what it answers is an input, and it hands a URB over again only after it
was given back), the other ports of the controller (which take numbers from the same counter), and
the peer, which may send anything.  A connection uses a kernel socket, and `store_attach` starts
its threads together with it.
-/

namespace Usbip.Vhci

open Usbip.Core Usbip.Common

/-- The address of a URB. -/
abbrev UrbId := Nat

/-- Private data of a URB.  `ticket` stands for its address.
Source: `vhci.h`, `struct vhci_priv`. -/
structure VhciPriv where
  ticket : Nat
  seqnum : BitVec 64
  urb : UrbId
  deriving DecidableEq

/-- Source: `vhci.h`, `struct vhci_unlink`. -/
structure VhciUnlink where
  ticket : Nat
  seqnum : BitVec 64
  unlinkSeqnum : BitVec 64
  deriving DecidableEq

/-- Source: `usbip_common.h`, `enum usbip_device_status`. -/
inductive VdevStatus
  | null
  | notassigned
  | used
  | error
  deriving DecidableEq

/-- The path on which a URB is given back. -/
inductive Via
  | enqueue
  /-- `vhci_recv_ret_submit`. -/
  | retSubmit (p : VhciPriv)
  /-- `vhci_recv_ret_unlink`. -/
  | retUnlink (e : VhciUnlink) (p : VhciPriv)
  | dequeue
  | cleanup
  deriving DecidableEq

/-- `usb_hcd_giveback_urb`, with the URB as it is then. -/
structure Giveback where
  via : Via
  urb : Urb
  deriving DecidableEq

/-- A request as it is written to the socket, with the header in host order. -/
structure Pdu where
  header : Header
  data : List Byte := []
  iso : List IsoPacketDescriptor := []
  deriving DecidableEq

/-- The holder of `vhci->lock`. -/
inductive Lock
  | free
  /-- `vhci_urb_enqueue`, about to call `vhci_tx_urb`. -/
  | enqueue (u : UrbId)
  /-- `vhci_urb_dequeue`, with the `vhci_priv` it has read from the URB. -/
  | dequeue (u : UrbId) (p : VhciPriv)
  deriving DecidableEq

/-- The position of the sending thread in `vhci_tx_loop`. -/
inductive TxPc
  | top
  /-- In `vhci_send_cmd_submit`, about to look at `priv_tx`. -/
  | submit
  /-- In `vhci_send_cmd_submit`, with a dequeued entry. -/
  | sendSubmit (p : VhciPriv)
  /-- In `vhci_send_cmd_unlink`, about to look at `unlink_tx`. -/
  | unlink
  /-- In `vhci_send_cmd_unlink`, with a dequeued entry. -/
  | sendUnlink (e : VhciUnlink)
  | stopped
  deriving DecidableEq

/-- The position of the receiving thread in `vhci_rx_loop`. -/
inductive RxPc
  | top
  /-- In `vhci_rx_pdu`, waiting for a header. -/
  | pdu
  /-- In `vhci_recv_ret_submit`, after its header was unpacked to the URB of `p`. -/
  | payload (p : VhciPriv)
  /-- In `vhci_recv_ret_unlink`, with the pending unlink. -/
  | unlink (e : VhciUnlink) (status : BitVec 32)
  /-- About to give a URB back. -/
  | giveback (u : UrbId) (via : Via)
  | stopped
  deriving DecidableEq

/-- The position of the event handler in `vhci_shutdown_connection`. -/
inductive EhPc
  | idle
  /-- Stopping the threads. -/
  | stopping
  /-- The socket is closed. -/
  | closed
  /-- In `vhci_device_unlink_cleanup`, with its locks. -/
  | cleanup
  /-- In `vhci_device_unlink_cleanup`, about to give a URB back, without locks. -/
  | giveback (u : UrbId)
  /-- In `vhci_device_unlink_cleanup`, about to take its locks again. -/
  | relock
  /-- Returned. -/
  | done
  deriving DecidableEq

/-- The state of a port, with the history of its URBs. -/
structure State where
  /-- `vhci->seqnum`, an `atomic_t`. -/
  seqnum : BitVec 32
  lock : Lock := .free
  status : VdevStatus := .null
  /-- `vdev->udev`. -/
  udev : Option Nat := none
  devid : BitVec 32 := 0
  /-- `ud.tcp_socket` is not NULL. -/
  tcpSocket : Bool := false
  /-- `usbip_event_happened`. -/
  event : Bool := false
  /-- `kthread_should_stop` in both threads. -/
  shouldStop : Bool := false
  privTx : List VhciPriv := []
  privRx : List VhciPriv := []
  unlinkTx : List VhciUnlink := []
  unlinkRx : List VhciUnlink := []
  tx : TxPc := .stopped
  rx : RxPc := .stopped
  eh : EhPc := .idle
  urb : UrbId → Urb := fun _ => {}
  /-- `urb->hcpriv`. -/
  hcpriv : UrbId → Option VhciPriv := fun _ => none
  /-- `usb_hcd_check_unlink_urb` has set `urb->unlinked`. -/
  unlinked : UrbId → Bool := fun _ => false
  /-- How often `vhci->seqnum` was incremented. -/
  issued : Nat := 0
  /-- `vhci_urb_dequeue` has queued an unlink for the URB and returned 0. -/
  dequeued : UrbId → Bool := fun _ => false
  /-- URBs accepted and then dropped by a function that returned. -/
  lost : List UrbId := []
  /-- URBs accepted from and given back to the USB core. -/
  log : List (Event UrbId Giveback) := []
  wire : List Pdu := []
  /-- How many connections were attached. -/
  connections : Nat := 0

/-! ## Helpers of the source -/

/-- `atomic_inc_return(&vhci->seqnum)`, as it is stored in an `unsigned long`: the `int` is
sign-extended. -/
def State.nextSeqnum (s : State) : BitVec 64 := (s.seqnum + 1).signExtend 64

def State.incSeqnum (s : State) : State :=
  { s with seqnum := s.seqnum + 1, issued := s.issued + 1 }

/-- Write to a URB. -/
def State.writeUrb (u : UrbId) (urb : Urb) (s : State) : State :=
  { s with urb := Function.update s.urb u urb }

/-- `usb_hcd_giveback_urb`. -/
def State.giveback (u : UrbId) (via : Via) (s : State) : State :=
  { s with log := s.log ++ [.returned u ⟨via, s.urb u⟩] }

/-- A free `vhci->lock` can be taken. -/
def State.unlocked (s : State) : Prop := s.lock = .free ∧ s.eh ≠ .cleanup

instance (s : State) : Decidable s.unlocked := inferInstanceAs (Decidable (_ ∧ _))

/-- Source: `vhci_rx.c`, `pickup_urb_and_free_priv`. -/
def pickupUrbAndFreePriv (seqnum : BitVec 32) (s : State) : Option (VhciPriv × State) :=
  (s.privRx.find? fun p => p.seqnum = seqnum.setWidth 64).map fun p =>
    (p, { s with
      privRx := s.privRx.eraseP fun p => p.seqnum = seqnum.setWidth 64
      hcpriv := Function.update s.hcpriv p.urb none })

/-- Source: `vhci_rx.c`, `dequeue_pending_unlink`. -/
def dequeuePendingUnlink (seqnum : BitVec 32) (s : State) : Option (VhciUnlink × State) :=
  (s.unlinkRx.find? fun e => e.seqnum = seqnum.setWidth 64).map fun e =>
    (e, { s with unlinkRx := s.unlinkRx.eraseP fun e => e.seqnum = seqnum.setWidth 64 })

/-- Source: `vhci_tx.c`, `setup_cmd_submit_pdu`. -/
def setupCmdSubmitPdu (p : VhciPriv) (devid : BitVec 32) (urb : Urb) : Header where
  base := ⟨cmdSubmit, p.seqnum.setWidth 32, devid, if urb.pipe.isIn then dirIn else dirOut,
    urb.pipe.endpoint.setWidth 32⟩
  u := packCmdSubmit urb { setup := urb.setupPacket.getD (List.replicate 8 0) }

/-- What `vhci_send_cmd_submit` writes: the header, the data of an OUT transfer, and the
descriptors of the isochronous packets.
Source: `vhci_tx.c`, `vhci_send_cmd_submit`. -/
def cmdSubmitPdu (p : VhciPriv) (devid : BitVec 32) (urb : Urb) : Pdu where
  header := setupCmdSubmitPdu p devid urb
  data := if urb.pipe.isIn then [] else urb.transferBuffer.take urb.transferBufferLength.toNat
  iso := if urb.pipe.type = .isochronous then urb.isoFrameDesc.take urb.numberOfPackets.toNat
    else []

/-- What `vhci_send_cmd_unlink` writes.
Source: `vhci_tx.c`, `vhci_send_cmd_unlink`. -/
def cmdUnlinkPdu (e : VhciUnlink) (devid : BitVec 32) : Pdu where
  header :=
    { base := { command := cmdUnlink, seqnum := e.seqnum.setWidth 32, devid := devid }
      u := { w₀ := e.unlinkSeqnum.setWidth 32 } }

/-! ## `vhci_urb_enqueue` -/

/-- A request to device number 0, after its URB was linked: SET_ADDRESS is not sent but given
back here, GET_DESCRIPTOR is sent, and anything else is refused.
Source: `vhci_hcd.c`, `vhci_urb_enqueue`. -/
def enqueueDevnum0 (u : UrbId) (urb : Urb) (s : State) : State :=
  let request := (urb.setupPacket.bind (·[1]?)).filter fun _ => urb.pipe.type = .control
  if request = some reqSetAddress then
    let urb := if urb.status = -EINPROGRESS then { urb with status := 0 } else urb
    State.giveback u .enqueue (s.writeUrb u urb |> fun s =>
      { s with udev := some urb.dev, status := .used, log := s.log ++ [.accepted u] })
  else if request = some reqGetDescriptor then
    { s with udev := some urb.dev, lock := .enqueue u, log := s.log ++ [.accepted u] }
  else s

/-- From the start to the call of `vhci_tx_urb`.  `linkRet` is the result of
`usb_hcd_link_urb_to_ep`.
Source: `vhci_hcd.c`, `vhci_urb_enqueue`. -/
def vhciUrbEnqueue (u : UrbId) (urb : Urb) (linkRet : Int) (s : State) : State :=
  let s := s.writeUrb u urb
  if urb.status ≠ -EINPROGRESS then s
  else if s.status = .null ∨ s.status = .error then s
  else if linkRet ≠ 0 then s
  else
    let s := { s with
      unlinked := Function.update s.unlinked u false
      dequeued := Function.update s.dequeued u false }
    if urb.pipe.device = 0 then enqueueDevnum0 u urb s
    else { s with lock := .enqueue u, log := s.log ++ [.accepted u] }

/-- Source: `vhci_hcd.c`, `vhci_tx_urb`. -/
def vhciTxUrb (u : UrbId) (allocOk : Bool) (s : State) : State :=
  -- get_vdev
  if s.udev ≠ some (s.urb u).dev then { s with lost := s.lost ++ [u] }
  else if ¬ allocOk then { s with lost := s.lost ++ [u], event := true }
  else
    let p : VhciPriv := ⟨s.issued, s.nextSeqnum, u⟩
    { s.incSeqnum with
      hcpriv := Function.update s.hcpriv u (some p)
      privTx := s.privTx ++ [p] }

/-! ## `vhci_urb_dequeue` -/

/-- From the start to the test of the socket.
Source: `vhci_hcd.c`, `vhci_urb_dequeue`. -/
def vhciUrbDequeue (u : UrbId) (s : State) : State :=
  match s.hcpriv u with
  | none => s
  | some p =>
      -- usb_hcd_check_unlink_urb
      if s.unlinked u then s
      else { s with unlinked := Function.update s.unlinked u true, lock := .dequeue u p }

/-- The rest.  When `p` was freed after it was read, `stale` is what its memory holds.
Source: `vhci_hcd.c`, `vhci_urb_dequeue`. -/
def vhciUrbDequeueFinish (u : UrbId) (p : VhciPriv) (allocOk : Bool) (stale : BitVec 64)
    (s : State) : State :=
  if s.tcpSocket = false then
    State.giveback u .dequeue { s with
      privTx := s.privTx.erase p
      privRx := s.privRx.erase p
      hcpriv := Function.update s.hcpriv u none
      lost := s.lost.erase u }
  else if ¬ allocOk then { s with event := true }
  else
    let target := if s.hcpriv u = some p then p.seqnum else stale
    { s.incSeqnum with
      unlinkTx := s.unlinkTx ++ [⟨s.issued, s.nextSeqnum, target⟩]
      dequeued := Function.update s.dequeued u true }

/-! ## The sending thread -/

/-- Source: `vhci_tx.c`, `vhci_send_cmd_submit` and `vhci_send_cmd_unlink`. -/
def txStep (sendOk : Bool) (s : State) : Option State :=
  match s.tx with
  | .top | .stopped => none
  | .submit =>
      match s.privTx with
      | p :: rest =>
          some { s with privTx := rest, privRx := s.privRx ++ [p], tx := .sendSubmit p }
      | [] => some { s with tx := .unlink }
  | .sendSubmit p =>
      match s.hcpriv p.urb with
      -- a NULL dereference
      | none => some { s with tx := .stopped }
      | some q =>
          if sendOk then
            some { s with wire := s.wire ++ [cmdSubmitPdu q s.devid (s.urb p.urb)], tx := .submit }
          else some { s with event := true, tx := .stopped }
  | .unlink =>
      match s.unlinkTx with
      | e :: rest =>
          some { s with unlinkTx := rest, unlinkRx := s.unlinkRx ++ [e], tx := .sendUnlink e }
      | [] => some { s with tx := .top }
  | .sendUnlink e =>
      if sendOk then some { s with wire := s.wire ++ [cmdUnlinkPdu e s.devid], tx := .unlink }
      else some { s with event := true, tx := .stopped }

/-! ## The receiving thread -/

/-- The start of `vhci_recv_ret_submit`, up to `usbip_pack_pdu`.
Source: `vhci_rx.c`, `vhci_recv_ret_submit`. -/
def vhciRecvRetSubmit (pdu : Header) (s : State) : State :=
  match pickupUrbAndFreePriv pdu.base.seqnum s with
  | none => { s with event := true, rx := .top }
  | some (p, s) => { s.writeUrb p.urb (unpackRetSubmit pdu.u (s.urb p.urb)) with rx := .payload p }

/-- The start of `vhci_recv_ret_unlink`.
Source: `vhci_rx.c`, `vhci_recv_ret_unlink`. -/
def vhciRecvRetUnlink (pdu : Header) (s : State) : State :=
  match dequeuePendingUnlink pdu.base.seqnum s with
  | none => { s with rx := .top }
  | some (e, s) => { s with rx := .unlink e pdu.u.w₀ }

/-- Source: `vhci_rx.c`, `vhci_rx_pdu`. -/
def vhciRxPdu (pdu : Header) (s : State) : State :=
  if pdu.base.command = retSubmit then vhciRecvRetSubmit pdu s
  else if pdu.base.command = retUnlink then vhciRecvRetUnlink pdu s
  else { s with event := true, rx := .top }

/-- The payload of a RET_SUBMIT, up to where its URB is given back.
Source: `vhci_rx.c`, `vhci_recv_ret_submit`. -/
def recvPayload (p : VhciPriv) (allocOk : Bool) (io : List Recvmsg) (s : State) : State :=
  let r₁ := usbipRecvXbuff .vhci io (s.urb p.urb)
  let s := { s.writeUrb p.urb r₁.urb with event := s.event || r₁.event }
  if r₁.ret < 0 then { s with lost := s.lost ++ [p.urb], rx := .top }
  else
    let r₂ := usbipRecvIso allocOk r₁.io r₁.urb
    let s := { s.writeUrb p.urb r₂.urb with event := s.event || r₂.event }
    if r₂.ret < 0 then { s with lost := s.lost ++ [p.urb], rx := .top }
    else { s.writeUrb p.urb (usbipPadIso r₂.urb) with rx := .giveback p.urb (.retSubmit p) }

/-- The rest of `vhci_recv_ret_unlink`, up to where a URB is given back.
Source: `vhci_rx.c`, `vhci_recv_ret_unlink`. -/
def recvUnlink (e : VhciUnlink) (status : BitVec 32) (s : State) : State :=
  match pickupUrbAndFreePriv (e.unlinkSeqnum.setWidth 32) s with
  | none => { s with rx := .top }
  | some (p, s) => { s.writeUrb p.urb { s.urb p.urb with status } with
      rx := .giveback p.urb (.retUnlink e p) }

/-! ## The event handler -/

/-- One iteration of the loop over `unlink_rx`.
Source: `vhci_hcd.c`, `vhci_device_unlink_cleanup`. -/
def cleanupNext (s : State) : State :=
  match s.unlinkRx with
  | [] => { s with eh := .done }
  | e :: rest =>
      match pickupUrbAndFreePriv (e.unlinkSeqnum.setWidth 32) s with
      | none => { s with unlinkRx := rest }
      | some (p, s) => { s.writeUrb p.urb { s.urb p.urb with status := -ENODEV } with
          unlinkRx := rest, eh := .giveback p.urb }

/-! ## The machine -/

inductive Action
  /-- `store_attach`. -/
  | attach (devid : BitVec 32)
  /-- `usbip_event_add` from anywhere, as by `store_detach`. -/
  | eventAdd
  /-- Another port takes a number from `vhci->seqnum`. -/
  | otherSeqnum
  /-- `vhci_urb_enqueue`, up to the call of `vhci_tx_urb`. -/
  | enqueue (u : UrbId) (urb : Urb) (linkRet : Int)
  /-- `vhci_tx_urb`. -/
  | txUrb (allocOk : Bool)
  /-- `vhci_urb_dequeue`, up to the test of the socket. -/
  | dequeue (u : UrbId)
  /-- The rest of `vhci_urb_dequeue`. -/
  | dequeueFinish (allocOk : Bool) (stale : BitVec 64)
  /-- The sending thread tests its loop condition. -/
  | txTop
  /-- The sending thread goes on. -/
  | tx (sendOk : Bool)
  /-- The receiving thread tests its loop condition. -/
  | rxTop
  /-- A header is received. -/
  | rxPdu (pdu : Header)
  /-- No header is received. -/
  | rxFail (addsEvent : Bool)
  /-- The payload of a RET_SUBMIT is received, or not. -/
  | rxPayload (allocOk : Bool) (io : List Recvmsg)
  /-- The target of a RET_UNLINK is looked up. -/
  | rxUnlink
  /-- The receiving thread gives a URB back. -/
  | rxGiveback
  /-- The event handler starts `vhci_shutdown_connection`. -/
  | ehShutdown
  /-- Both threads have returned and the socket is closed. -/
  | ehClose
  /-- `vhci_device_unlink_cleanup` takes its locks and drops `unlink_tx`. -/
  | ehCleanup
  /-- The next entry of `unlink_rx`. -/
  | ehCleanupNext
  /-- `vhci_device_unlink_cleanup` gives a URB back. -/
  | ehCleanupGiveback
  /-- It takes its locks again. -/
  | ehCleanupRelock
  /-- `vhci_device_reset`. -/
  | ehReset
  /-- `vhci_device_unusable`. -/
  | ehUnusable
  /-- The event handler is done with the device. -/
  | ehFinish
  deriving DecidableEq

/-- The state an action leads to. -/
def step (s : State) : Action → Option State
  | .attach devid =>
      if s.unlocked ∧ s.status = .null then
        some { s with
          tcpSocket := true, devid, status := .notassigned, shouldStop := false
          rx := .top, tx := .top, wire := [], connections := s.connections + 1 }
      else none
  | .eventAdd => some { s with event := true }
  | .otherSeqnum => some s.incSeqnum
  | .enqueue u urb linkRet =>
      if s.unlocked ∧ ¬ Custody.Held s.log u then some (vhciUrbEnqueue u urb linkRet s) else none
  | .txUrb allocOk =>
      match s.lock with
      | .enqueue u => some { vhciTxUrb u allocOk s with lock := .free }
      | _ => none
  | .dequeue u => if s.unlocked then some (vhciUrbDequeue u s) else none
  | .dequeueFinish allocOk stale =>
      match s.lock with
      | .dequeue u p => some { vhciUrbDequeueFinish u p allocOk stale s with lock := .free }
      | _ => none
  | .txTop =>
      match s.tx with
      | .top => some { s with tx := if s.shouldStop then .stopped else .submit }
      | _ => none
  | .tx sendOk => txStep sendOk s
  | .rxTop =>
      match s.rx with
      | .top => some { s with rx := if s.shouldStop || s.event then .stopped else .pdu }
      | _ => none
  | .rxPdu pdu =>
      match s.rx with
      | .pdu => some (vhciRxPdu pdu s)
      | _ => none
  | .rxFail addsEvent =>
      match s.rx with
      | .pdu => some { s with rx := .top, event := s.event || addsEvent }
      | _ => none
  | .rxPayload allocOk io =>
      match s.rx with
      | .payload p => some (recvPayload p allocOk io s)
      | _ => none
  | .rxUnlink =>
      match s.rx with
      | .unlink e status => some (recvUnlink e status s)
      | _ => none
  | .rxGiveback =>
      match s.rx with
      | .giveback u via =>
          if s.unlocked then some { s.giveback u via with rx := .top } else none
      | _ => none
  | .ehShutdown =>
      if s.eh = .idle ∧ s.event then some { s with eh := .stopping, shouldStop := true } else none
  | .ehClose =>
      if s.eh = .stopping ∧ s.rx = .stopped ∧ s.tx = .stopped then
        some { s with tcpSocket := false, eh := .closed }
      else none
  | .ehCleanup =>
      if s.eh = .closed ∧ s.lock = .free then some { s with unlinkTx := [], eh := .cleanup }
      else none
  | .ehCleanupNext => if s.eh = .cleanup then some (cleanupNext s) else none
  | .ehCleanupGiveback =>
      match s.eh with
      | .giveback u => some { s.giveback u .cleanup with eh := .relock }
      | _ => none
  | .ehCleanupRelock =>
      if s.eh = .relock ∧ s.lock = .free then some { s with eh := .cleanup } else none
  | .ehReset =>
      if s.eh = .done then
        some { s with udev := none, tcpSocket := false, status := .null, event := false, eh := .idle }
      else none
  | .ehUnusable =>
      if s.eh = .done then some { s with status := .error, event := false, eh := .idle } else none
  | .ehFinish => if s.eh = .done then some { s with event := false, eh := .idle } else none

/-- A port starts without a connection; `vhci->seqnum` starts at `c`, which is 0 in the source. -/
def machine (c : BitVec 32) : Machine State Action where
  init s := s = { seqnum := c }
  step := step

end Usbip.Vhci
