import Usbip.Stub.Replies

/-!
# The libusb stub as a machine

The port of the stub to user space: the receiving thread and the sending thread of one
connection, and the thread that handles events.  The lists and what is done to them are those of
the kernel stub (`Usbip.Stub.Session`).  The sending thread differs: it does not wait for its
lists but polls libusb, and `stub_complete` runs only inside that poll
(`poll_events_and_complete`).
-/

namespace Usbip.LibusbStub

open Usbip.Core Usbip.Common Usbip.Stub

/-- Source: libusb, `enum libusb_transfer_status`. -/
inductive TransferStatus
  | completed
  | error
  | timedOut
  | cancelled
  | stall
  | noDevice
  | overflow
  deriving DecidableEq

/-- What libusb leaves in a transfer.
Source: `stub_common.c`, `usbip_pack_ret_submit`, for the fields that travel. -/
structure Transfer where
  status : TransferStatus
  actualLength : BitVec 32
  data : List (BitVec 8)
  deriving DecidableEq

/-- The position of the receiving thread in `stub_rx_loop`. -/
inductive RxPc
  | top
  | pdu
  | submit (n : Seqnum)
  | stopped
  deriving DecidableEq

/-- The state of a connection.  `lists.tx = .top` is the poll at the head of `stub_tx_loop`. -/
structure State where
  lists : Session Transfer TransferStatus := {}
  rx : RxPc := .top
  /-- `ud.sock` is not NULL; it is set before the threads start and not changed. -/
  sock : Bool := true
  /-- `usbip_event_happened`. -/
  event : Bool := false
  shouldStop : Bool := false
  /-- Transfers submitted to libusb and not completed. -/
  inFlight : List Seqnum := []
  deriving DecidableEq

inductive Action
  /-- `usbip_event_add` from anywhere. -/
  | eventAdd
  /-- The event thread takes the events, and `stub_shutdown_connection` sets `should_stop`. -/
  | ehShutdown
  /-- The receiving thread tests its loop conditions. -/
  | rxTop
  /-- The header cannot be received, or the request is not valid, or an allocation fails. -/
  | rxFail
  /-- CMD_UNLINK `u` naming `n`. -/
  | rxCmdUnlink (u n : Seqnum)
  /-- CMD_SUBMIT `n`, up to `stub_priv_alloc`. -/
  | rxCmdSubmit (n : Seqnum)
  /-- The rest of `stub_recv_cmd_submit`: the transfer is submitted. -/
  | rxSubmitTransfer
  /-- The rest of `stub_recv_cmd_submit`, leaving the transfer unsubmitted. -/
  | rxSubmitFail (addsEvent : Bool)
  /-- libusb calls `stub_complete` in the poll of the sending thread. -/
  | complete (n : Seqnum) (r : Transfer)
  /-- The sending thread returns from the poll and tests its loop conditions. -/
  | txTop
  /-- The sending thread goes on. -/
  | tx (sendOk : Bool)
  deriving DecidableEq

/-- Source: `stub_tx.c`, `stub_complete`. -/
def stubComplete (n : Seqnum) (r : Transfer) (s : State) : Option State :=
  let s := { s with inFlight := s.inFlight.erase n }
  if s.sock = false then some s
  else (s.lists.stubComplete n r r.status).map fun lists => { s with lists }

/-- The state an action leads to. -/
def step (s : State) : Action → Option State
  | .eventAdd => some { s with event := true }
  | .ehShutdown => if s.event then some { s with event := false, shouldStop := true } else none
  | .rxTop =>
      match s.rx with
      | .top => some { s with rx := if s.shouldStop || s.event then .stopped else .pdu }
      | _ => none
  | .rxFail =>
      match s.rx with
      | .pdu => some { s with rx := .top, event := true }
      | _ => none
  | .rxCmdUnlink u n =>
      match s.rx with
      | .pdu => some { s with lists := s.lists.stubRecvCmdUnlink .completed u n, rx := .top }
      | _ => none
  | .rxCmdSubmit n =>
      match s.rx with
      | .pdu => some { s with lists := s.lists.stubPrivAlloc n, rx := .submit n }
      | _ => none
  | .rxSubmitTransfer =>
      match s.rx with
      | .submit n => some { s with inFlight := s.inFlight ++ [n], rx := .top }
      | _ => none
  | .rxSubmitFail addsEvent =>
      match s.rx with
      | .submit _ => some { s with event := s.event || addsEvent, rx := .top }
      | _ => none
  | .complete n r =>
      match s.lists.tx with
      | .top => if n ∈ s.inFlight then stubComplete n r s else none
      | _ => none
  | .txTop =>
      match s.lists.tx with
      | .top =>
          some { s with lists := { s.lists with
            tx := if s.shouldStop || s.event then .stopped none else .submit } }
      | _ => none
  | .tx sendOk =>
      (s.lists.stubTxStep sendOk).map fun lists =>
        { s with lists, event := s.event || lists.tx matches .stopped _ }

/-- A connection starts with empty lists and both threads at the head of their loops. -/
def machine : Machine State Action where
  init s := s = {}
  step := step

/-- The seqnums received so far, of CMD_SUBMITs and of CMD_UNLINKs. -/
def State.seqnums (s : State) : List Seqnum :=
  s.lists.submits ++ s.lists.unlinks.map Prod.fst

/-! ## What an action does -/

/-- What an action finds, and the state that it leaves. -/
inductive Moves (s : State) : Action → State → Prop
  | eventAdd : Moves s .eventAdd { s with event := true }
  | ehShutdown (hevent : s.event = true) :
      Moves s .ehShutdown { s with event := false, shouldStop := true }
  | rxTop (hrx : s.rx = .top) :
      Moves s .rxTop { s with rx := if s.shouldStop || s.event then .stopped else .pdu }
  | rxFail (hrx : s.rx = .pdu) : Moves s .rxFail { s with rx := .top, event := true }
  | rxCmdUnlink {u n : Seqnum} (hrx : s.rx = .pdu) :
      Moves s (.rxCmdUnlink u n)
        { s with lists := s.lists.stubRecvCmdUnlink .completed u n, rx := .top }
  | rxCmdSubmit {n : Seqnum} (hrx : s.rx = .pdu) :
      Moves s (.rxCmdSubmit n) { s with lists := s.lists.stubPrivAlloc n, rx := .submit n }
  | rxSubmitTransfer {n : Seqnum} (hrx : s.rx = .submit n) :
      Moves s .rxSubmitTransfer { s with inFlight := s.inFlight ++ [n], rx := .top }
  | rxSubmitFail {n : Seqnum} {addsEvent : Bool} (hrx : s.rx = .submit n) :
      Moves s (.rxSubmitFail addsEvent) { s with event := s.event || addsEvent, rx := .top }
  | ignored {n : Seqnum} {r : Transfer} (htx : s.lists.tx = .top) (hn : n ∈ s.inFlight)
      (hsock : s.sock = false) :
      Moves s (.complete n r) { s with inFlight := s.inFlight.erase n }
  | complete {n : Seqnum} {r : Transfer} {lists : Session Transfer TransferStatus}
      (htx : s.lists.tx = .top) (hn : n ∈ s.inFlight)
      (h : s.lists.stubComplete n r r.status = some lists) :
      Moves s (.complete n r) { s with inFlight := s.inFlight.erase n, lists }
  | txTop (htx : s.lists.tx = .top) :
      Moves s .txTop { s with lists := { s.lists with
        tx := if s.shouldStop || s.event then .stopped none else .submit } }
  | tx {sendOk : Bool} {lists : Session Transfer TransferStatus}
      (h : s.lists.stubTxStep sendOk = some lists) :
      Moves s (.tx sendOk) { s with lists, event := s.event || lists.tx matches .stopped _ }

/-- A step of the machine, taken apart. -/
lemma moves_of_step {s t : State} {a : Action} (h : step s a = some t) : Moves s a t := by
  cases a with
  | eventAdd =>
      obtain rfl := Option.some.inj h
      exact .eventAdd
  | ehShutdown =>
      simp only [step] at h
      split at h <;> cases h
      rename_i hevent
      exact .ehShutdown hevent
  | rxTop =>
      simp only [step] at h
      split at h <;> cases h
      rename_i hrx
      exact .rxTop hrx
  | rxFail =>
      simp only [step] at h
      split at h <;> cases h
      rename_i hrx
      exact .rxFail hrx
  | rxCmdUnlink u n =>
      simp only [step] at h
      split at h <;> cases h
      rename_i hrx
      exact .rxCmdUnlink hrx
  | rxCmdSubmit n =>
      simp only [step] at h
      split at h <;> cases h
      rename_i hrx
      exact .rxCmdSubmit hrx
  | rxSubmitTransfer =>
      simp only [step] at h
      split at h <;> cases h
      rename_i n hrx
      exact .rxSubmitTransfer hrx
  | rxSubmitFail addsEvent =>
      simp only [step] at h
      split at h <;> cases h
      rename_i n hrx
      exact .rxSubmitFail hrx
  | complete n r =>
      simp only [step] at h
      split at h
      · rename_i htx
        split at h
        · rename_i hn
          unfold stubComplete at h
          dsimp only at h
          split at h
          · rename_i hsock
            obtain rfl := Option.some.inj h
            exact .ignored htx hn hsock
          · obtain ⟨lists, hl, rfl⟩ := Option.map_eq_some_iff.mp h
            exact .complete htx hn hl
        · cases h
      · cases h
  | txTop =>
      simp only [step] at h
      split at h <;> cases h
      rename_i htx
      exact .txTop htx
  | tx sendOk =>
      obtain ⟨lists, hl, rfl⟩ := Option.map_eq_some_iff.mp h
      exact .tx hl

end Usbip.LibusbStub
