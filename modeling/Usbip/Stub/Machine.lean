import Usbip.Stub.Replies

/-!
# The kernel stub as a machine

One connection of the kernel stub, from the moment its threads run to the end of
`stub_shutdown_connection`.  The contexts that interleave are the receiving thread, the sending
thread, the completion handler of each URB in flight, and the event handler that shuts the
connection down; an action is a section one of them executes under `priv_lock`, or a step of it
that touches nothing shared.

The device and the USB core are outside: a submitted URB may complete at any time with any
contents, a receive may fail at any time, and `usb_kill_urb` returns once the URB is no longer in
flight.
-/

namespace Usbip.Stub

open Usbip.Core Usbip.Common

/-- What the device leaves in a URB.
Source: `usbip_common.c`, `usbip_pack_ret_submit`, for the fields that travel. -/
structure UrbResult where
  status : BitVec 32
  actualLength : BitVec 32
  data : List (BitVec 8)
  deriving DecidableEq

/-- The position of the receiving thread in `stub_rx_loop`. -/
inductive RxPc
  /-- At the head of the loop. -/
  | top
  /-- In `stub_rx_pdu`, waiting for a header. -/
  | pdu
  /-- In `stub_recv_cmd_submit`, after `stub_priv_alloc`. -/
  | submit (n : Seqnum)
  /-- Returned from `stub_rx_loop`. -/
  | stopped
  deriving DecidableEq

/-- The position of the event handler in `stub_shutdown_connection`. -/
inductive EhPc
  /-- No shutdown has begun. -/
  | idle
  /-- Stopping the two threads. -/
  | stopThreads
  /-- In `stub_device_cleanup_urbs`, about to pop an entry. -/
  | cleanup
  /-- In `stub_device_cleanup_urbs`, inside `usb_kill_urb` for a popped entry. -/
  | kill (p : StubPriv UrbResult)
  /-- About to free the unlink lists. -/
  | freeUnlinks
  /-- Returned. -/
  | done
  deriving DecidableEq

/-- The state of a connection. -/
structure State where
  lists : Session UrbResult (BitVec 32) := {}
  rx : RxPc := .top
  eh : EhPc := .idle
  /-- `ud.tcp_socket` is not NULL. -/
  tcpSocket : Bool := true
  /-- `usbip_event_happened`. -/
  event : Bool := false
  /-- URBs submitted to the USB core and not completed. -/
  inFlight : List Seqnum := []
  deriving DecidableEq

inductive Action
  /-- `usbip_event_add` from anywhere. -/
  | eventAdd
  /-- The receiving thread tests its loop condition. -/
  | rxTop
  /-- The header cannot be received, or the request is not valid, or an allocation fails. -/
  | rxFail
  /-- CMD_UNLINK `u` naming `n`. -/
  | rxCmdUnlink (u n : Seqnum)
  /-- CMD_SUBMIT `n`, up to `stub_priv_alloc`. -/
  | rxCmdSubmit (n : Seqnum)
  /-- The rest of `stub_recv_cmd_submit`: the URB is submitted. -/
  | rxSubmitUrb
  /-- The rest of `stub_recv_cmd_submit`, leaving the URB unsubmitted. -/
  | rxSubmitFail (addsEvent : Bool)
  /-- A URB completes. -/
  | complete (n : Seqnum) (r : UrbResult)
  /-- The sending thread tests its loop condition. -/
  | txTop
  /-- The sending thread goes on. -/
  | tx (sendOk : Bool)
  /-- The event handler starts `stub_shutdown_connection`. -/
  | ehShutdown
  /-- Both threads have returned and the socket is closed. -/
  | ehClose
  /-- `stub_priv_pop`. -/
  | ehPop
  /-- `usb_kill_urb` returns and the entry is freed. -/
  | ehFree
  /-- The unlink lists are freed. -/
  | ehFreeUnlinks
  deriving DecidableEq

/-! ## The completion handler -/

/-- Source: `stub_tx.c`, `stub_complete`. -/
def stubComplete (n : Seqnum) (r : UrbResult) (s : State) : Option State :=
  let s := { s with inFlight := s.inFlight.erase n }
  if r.status = -ENOENT then some s
  -- the entry will be freed in stub_device_cleanup_urbs
  else if s.tcpSocket = false then some s
  else (s.lists.stubComplete n r r.status).map fun lists => { s with lists }

/-! ## The event handler -/

/-- Source: `stub_main.c`, `stub_priv_pop`. -/
def stubPrivPop (s : Session UrbResult (BitVec 32)) :
    Option (StubPriv UrbResult × Session UrbResult (BitVec 32)) :=
  match s.privInit, s.privTx, s.privFree with
  | p :: rest, _, _ => some (p, { s with privInit := rest })
  | [], p :: rest, _ => some (p, { s with privTx := rest })
  | [], [], p :: rest => some (p, { s with privFree := rest })
  | [], [], [] => none

/-! ## The machine -/

/-- The state an action leads to. -/
def step (s : State) : Action → Option State
  | .eventAdd => some { s with event := true }
  | .rxTop =>
      match s.rx with
      | .top => some { s with rx := if s.event then .stopped else .pdu }
      | _ => none
  | .rxFail =>
      match s.rx with
      | .pdu => some { s with rx := .top, event := true }
      | _ => none
  | .rxCmdUnlink u n =>
      match s.rx with
      | .pdu => some { s with lists := s.lists.stubRecvCmdUnlink 0 u n, rx := .top }
      | _ => none
  | .rxCmdSubmit n =>
      match s.rx with
      | .pdu => some { s with lists := s.lists.stubPrivAlloc n, rx := .submit n }
      | _ => none
  | .rxSubmitUrb =>
      match s.rx with
      | .submit n => some { s with inFlight := s.inFlight ++ [n], rx := .top }
      | _ => none
  | .rxSubmitFail addsEvent =>
      match s.rx with
      | .submit _ => some { s with event := s.event || addsEvent, rx := .top }
      | _ => none
  | .complete n r => if n ∈ s.inFlight then stubComplete n r s else none
  | .txTop =>
      match s.lists.tx with
      | .top =>
          some { s with lists := { s.lists with
            tx := if s.event then .stopped none else .submit } }
      | _ => none
  | .tx sendOk =>
      (s.lists.stubTxStep sendOk).map fun lists =>
        { s with lists, event := s.event || lists.tx matches .stopped _ }
  | .ehShutdown => if s.eh = .idle ∧ s.event then some { s with eh := .stopThreads } else none
  | .ehClose =>
      match s.eh, s.rx, s.lists.tx with
      | .stopThreads, .stopped, .stopped _ => some { s with tcpSocket := false, eh := .cleanup }
      | _, _, _ => none
  | .ehPop =>
      if s.eh = .cleanup then
        match stubPrivPop s.lists with
        | some (p, lists) => some { s with lists, eh := .kill p }
        | none => some { s with eh := .freeUnlinks }
      else none
  | .ehFree =>
      match s.eh with
      | .kill p =>
          if p.origin ∈ s.inFlight then none
          else some { s with
            lists := { s.lists with freed := s.lists.freed ++ [p.origin] }
            eh := .cleanup }
      | _ => none
  | .ehFreeUnlinks =>
      if s.eh = .freeUnlinks then
        some { s with lists := { s.lists with unlinkTx := [], unlinkFree := [] }, eh := .done }
      else none

/-- A connection starts with empty lists, both threads at the head of their loops, and the socket
open. -/
def machine : Machine State Action where
  init s := s = {}
  step := step

/-- The seqnums received so far, of CMD_SUBMITs and of CMD_UNLINKs. -/
def State.seqnums (s : State) : List Seqnum :=
  s.lists.submits ++ s.lists.unlinks.map Prod.fst

end Usbip.Stub
