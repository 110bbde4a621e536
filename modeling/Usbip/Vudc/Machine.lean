import Usbip.Common.Basic
import Usbip.Core.Ledger

/-!
# The vudc as a machine

One connection of the virtual USB device controller.  `v_recv_cmd_submit` queues a `urbp` on
`urb_queue`, `v_recv_cmd_unlink` marks one, and only `v_timer` takes them off again, putting a
reply on `tx_queue`, which `v_tx_loop` sends in order.

`v_timer` is modelled step by step: an action is one iteration of its loop over `urb_queue`, or
the stretch up to a point where it drops `udc->lock`.  It drops the lock around the gadget
driver's `setup` callback and, inside `transfer`, around each giveback of a gadget request; at
these points the other contexts run.  What `handle_control_request`, the callback and `transfer`
do to the URB, its status and its length, is an input of the action, so that every outcome is
covered; the endpoints may be changed by the gadget whenever the lock is free.
-/

namespace Usbip.Vudc

open Usbip.Core Usbip.Common

/-- Source: `<linux/usb/ch9.h>`, `USB_ENDPOINT_XFER_*`. -/
inductive XferType
  | control
  | isoc
  | bulk
  | int
  deriving DecidableEq

/-- Source: `<linux/usb/ch9.h>`, `enum usb_device_speed`. -/
inductive Speed
  | unknown
  | low
  | full
  | high
  | wireless
  | super
  deriving DecidableEq

/-- Source: `vudc_transfer.c`, `get_frame_limit`. -/
def getFrameLimit : Speed → Int
  | .low => 8 * 12
  | .full => 64 * 19
  | .high => 512 * 13 * 8
  | .super => 490000
  | .unknown | .wireless => -1

/-- The flags of an endpoint that `v_timer` reads and writes.
Source: `vudc.h`, `struct vep`. -/
structure Vep where
  type : XferType
  halted : Bool := false
  alreadySeen : Bool := false
  setupStage : Bool := false
  deriving DecidableEq

/-- A queued request.  `origin` is the seqnum of the CMD_SUBMIT it was allocated for and stands
for its address; `ep` is an index into the endpoint table, 0 for the control endpoint.
Source: `vudc.h`, `struct urbp`, with the fields of its URB. -/
structure Urbp where
  origin : Seqnum
  seqnum : Seqnum
  ep : Option Nat
  new : Bool := true
  status : BitVec 32 := -EINPROGRESS
  actualLength : BitVec 32 := 0
  /-- 0, or the status the URB was unlinked with. -/
  unlinked : BitVec 32 := 0
  transferBufferLength : BitVec 32
  deriving DecidableEq

/-- A RET_UNLINK to be sent.  `caught` is the request whose URB the unlink caught; the source does
not keep it.
Source: `vudc.h`, `struct v_unlink`. -/
structure VUnlink where
  seqnum : Seqnum
  status : BitVec 32
  caught : Option Seqnum
  deriving DecidableEq

/-- Source: `vudc.h`, `struct tx_item`. -/
inductive TxItem
  | submit (p : Urbp)
  | unlink (u : VUnlink)
  deriving DecidableEq

/-- A reply written to the socket. -/
inductive Ret
  | submit (seqnum : Seqnum) (status actualLength : BitVec 32)
  | unlink (u : VUnlink)
  deriving DecidableEq

/-- Source: `vudc.h`, `enum tr_state`. -/
inductive TrState
  | running
  | idle
  | stopped
  deriving DecidableEq

/-- What a stretch of `handle_control_request`, `setup` or `transfer` leaves in the URB. -/
structure Progress where
  status : BitVec 32
  actualLength : BitVec 32
  deriving DecidableEq

/-- The position of `v_timer`.  `cur` is `urb_p` and `next` is `tmp` of the loop over `urb_queue`,
`none` for the head of the list. -/
inductive TimerPc
  /-- Not running. -/
  | idle
  /-- At the head of the loop, with the lock. -/
  | visit (cur : Option Seqnum) (total : Int)
  /-- In the `setup` callback of the gadget driver, without the lock. -/
  | setup (cur : Seqnum) (next : Option Seqnum) (total : Int)
  /-- In `transfer`, with the lock. -/
  | transfer (cur : Seqnum) (next : Option Seqnum) (total : Int)
  /-- In `transfer`, giving back a gadget request, without the lock. -/
  | giveback (cur : Seqnum) (next : Option Seqnum) (total : Int)
  deriving DecidableEq

/-- The other contexts may take `udc->lock`. -/
def TimerPc.unlocked : TimerPc → Bool
  | idle | setup _ _ _ | giveback _ _ _ => true
  | visit _ _ | transfer _ _ _ => false

/-- The position of the receiving thread in `v_rx_loop`. -/
inductive RxPc
  | top
  | pdu
  /-- In `v_recv_cmd_submit`, with an allocated `urbp`. -/
  | submit (p : Urbp)
  | stopped
  deriving DecidableEq

/-- The position of the sending thread in `v_tx_loop`. -/
inductive TxPc
  | top
  /-- In `v_send_ret`, about to look at `tx_queue`. -/
  | send
  /-- In `v_send_ret`, about to send a dequeued item. -/
  | sending (x : TxItem)
  /-- Returned, because the item `lost` could not be sent if there is one. -/
  | stopped (lost : Option TxItem)
  deriving DecidableEq

/-- The state of a connection, with the history of what arrived and what was freed. -/
structure State where
  urbQueue : List Urbp := []
  ep : Nat → Vep
  speed : Speed
  /-- `tr_timer.state`. -/
  trState : TrState := .stopped
  frameStart : Int := 0
  frameLimit : Int := 0
  /-- `tr_timer.timer` is pending. -/
  armed : Bool := false
  timer : TimerPc := .idle
  txQueue : List TxItem := []
  tx : TxPc := .top
  rx : RxPc := .top
  event : Bool := false
  wire : List Ret := []
  /-- Seqnums of the CMD_SUBMITs for which a `urbp` was allocated. -/
  allocs : List Seqnum := []
  /-- Seqnums of the CMD_SUBMITs accepted, that is queued on `urb_queue`. -/
  submits : List Seqnum := []
  /-- The CMD_UNLINKs received, with the seqnum each one names. -/
  unlinks : List (Seqnum × Seqnum) := []
  /-- The `urbp`s freed. -/
  freed : List Seqnum := []

/-! ## The timer and the queues -/

/-- Source: `vudc_transfer.c`, `v_kick_timer`. -/
def vKickTimer (s : State) : State :=
  match s.trState with
  | .running => s
  | .idle => { s with trState := .running, armed := true }
  | .stopped => { s with armed := true }

/-- Source: `vudc_transfer.c`, `v_start_timer`. -/
def vStartTimer (now : Int) (s : State) : State :=
  match s.trState with
  | .running => s
  | .idle => vKickTimer s
  | .stopped => vKickTimer { s with
      trState := .idle, frameStart := now, frameLimit := getFrameLimit s.speed }

/-- Source: `vudc_tx.c`, `v_enqueue_ret_unlink`. -/
def vEnqueueRetUnlink (u : VUnlink) (s : State) : State :=
  { s with txQueue := s.txQueue ++ [.unlink u] }

/-- Source: `vudc_tx.c`, `v_enqueue_ret_submit`. -/
def vEnqueueRetSubmit (p : Urbp) (s : State) : State :=
  { s with txQueue := s.txQueue ++ [.submit p] }

/-! ## The receiving thread -/

/-- An unlink marks the URB, and the `urbp` goes under its seqnum. -/
def Urbp.unlink (u : Seqnum) (p : Urbp) : Urbp :=
  { p with unlinked := -ECONNRESET, seqnum := u }

/-- Source: `vudc_rx.c`, `v_recv_cmd_unlink`. -/
def vRecvCmdUnlink (u n : Seqnum) (s : State) : State :=
  match updateFirst (fun p => p.seqnum = n) (Urbp.unlink u) s.urbQueue with
  | some q => vKickTimer { s with urbQueue := q, unlinks := s.unlinks ++ [(u, n)] }
  | none => vEnqueueRetUnlink ⟨u, 0, none⟩ { s with unlinks := s.unlinks ++ [(u, n)] }

/-- The end of `v_recv_cmd_submit`.
Source: `vudc_rx.c`, `v_recv_cmd_submit`. -/
def vQueueUrbp (p : Urbp) (s : State) : State :=
  let s := vKickTimer s
  { s with urbQueue := s.urbQueue ++ [p], submits := s.submits ++ [p.origin] }

/-! ## `v_timer` -/

/-- The `urbp` after `n` on the queue. -/
def nextUrbp (n : Seqnum) : List Urbp → Option Seqnum
  | [] => none
  | p :: rest => if p.origin = n then rest.head?.map Urbp.origin else nextUrbp n rest

/-- Write to the URB of `n`. -/
def writeUrb (n : Seqnum) (w : Progress) (s : State) : State :=
  { s with urbQueue := s.urbQueue.map fun p =>
      if p.origin = n then { p with status := w.status, actualLength := w.actualLength } else p }

def clearNew (n : Seqnum) (s : State) : State :=
  { s with urbQueue := s.urbQueue.map fun p => if p.origin = n then { p with new := false } else p }

/-- Change endpoint `i`. -/
def updateEp (i : Nat) (f : Vep → Vep) (s : State) : State :=
  { s with ep := Function.update s.ep i (f (s.ep i)) }

/-- The endpoint of a URB that ends may be used again in the same run. -/
def forgetEp : Option Nat → State → State
  | some i, s => updateEp i (fun e => { e with alreadySeen := false, setupStage := false }) s
  | none, s => s

/-- The reply of a URB that ends: a RET_SUBMIT, or, when it was unlinked, a RET_UNLINK, and then
the `urbp` is freed. -/
def queueReply (p : Urbp) (s : State) : State :=
  if p.unlinked = 0 then vEnqueueRetSubmit p s
  else { vEnqueueRetUnlink ⟨p.seqnum, p.unlinked, some p.origin⟩ s with
    freed := s.freed ++ [p.origin] }

/-- The label `return_urb`: the `urbp` leaves the queue, its reply is queued, and the loop starts
over. -/
def returnUrb (n : Seqnum) (total : Int) (s : State) : Option State :=
  match s.urbQueue.find? (fun p => p.origin = n) with
  | none => none
  | some p =>
      let rest := s.urbQueue.eraseP (fun p => p.origin = n)
      some { queueReply p { forgetEp p.ep s with urbQueue := rest } with
        timer := .visit (rest.head?.map Urbp.origin) total }

/-- A control request: `ret` and the URB are as `handle_control_request` leaves them. -/
def controlRequest (n : Seqnum) (next : Option Seqnum) (total : Int) (ret : Int) (w : Progress)
    (s : State) : Option State :=
  let s := updateEp 0 (fun e => { e with setupStage := false, halted := false }) s
  let s := writeUrb n w s
  if 0 < ret then some { s with timer := .setup n next total }
  else if 0 ≤ ret then some { s with timer := .transfer n next total }
  else returnUrb n total (writeUrb n ⟨-EPIPE, 0⟩ s)

/-- One iteration of the loop in `v_timer`, for the `urbp` `p`.
Source: `vudc_transfer.c`, `v_timer`. -/
def visitUrbp (p : Urbp) (total : Int) (ret : Int) (w : Progress) (s : State) : Option State :=
  let next := nextUrbp p.origin s.urbQueue
  let skip := some { s with timer := .visit next total }
  if p.unlinked ≠ 0 then returnUrb p.origin total s
  else if s.trState ≠ .running then skip
  else match p.ep with
    | none => returnUrb p.origin total (writeUrb p.origin ⟨-EPROTO, p.actualLength⟩ s)
    | some i =>
        if total ≤ 0 ∧ (s.ep i).type = .bulk then skip
        else if (s.ep i).alreadySeen then skip
        else
          let s := updateEp i (fun e => { e with alreadySeen := true }) s
          let s := if i = 0 ∧ p.new then
              clearNew p.origin (updateEp 0 (fun e => { e with setupStage := true }) s)
            else s
          if (s.ep i).halted ∧ ¬ (s.ep i).setupStage then
            returnUrb p.origin total (writeUrb p.origin ⟨-EPIPE, p.actualLength⟩ s)
          else if i = 0 ∧ (s.ep i).setupStage then controlRequest p.origin next total ret w s
          else match (s.ep i).type with
            | .isoc => returnUrb p.origin total (writeUrb p.origin ⟨-EXDEV, p.actualLength⟩ s)
            | .int | .bulk | .control => some { s with timer := .transfer p.origin next total }

/-- `v_timer` starts: a new frame resets the bandwidth, and no endpoint has been seen.
Source: `vudc_transfer.c`, `v_timer`. -/
def vTimerStart (now : Int) (s : State) : State :=
  let limit := getFrameLimit s.speed
  if limit < 0 then { s with armed := false, trState := .idle }
  else
    -- a jiffy is a millisecond
    let fresh := s.frameStart + 1 < now
    { s with
      armed := false
      frameLimit := if fresh then limit else s.frameLimit
      frameStart := if fresh then now else s.frameStart
      ep := fun i => { s.ep i with alreadySeen := false }
      timer := .visit (s.urbQueue.head?.map Urbp.origin) (if fresh then limit else s.frameLimit) }

/-- `v_timer` ends. -/
def vTimerEnd (s : State) : State :=
  if s.urbQueue = [] then { s with trState := .idle, timer := .idle }
  else { s with armed := true, timer := .idle }

/-! ## The machine -/

inductive Action
  /-- `usbip_event_add` from anywhere. -/
  | eventAdd
  /-- The gadget changes its endpoints. -/
  | gadget (ep : Nat → Vep)
  /-- `v_start_timer`. -/
  | startTimer (now : Int)
  /-- The receiving thread tests its loop condition. -/
  | rxTop
  /-- The header cannot be received, the command is unknown, or no `urbp` can be allocated. -/
  | rxFail (addsEvent : Bool)
  /-- CMD_UNLINK `u` naming `n`. -/
  | rxCmdUnlink (u n : Seqnum)
  /-- CMD_SUBMIT `n`, up to `alloc_urbp`. -/
  | rxCmdSubmit (n : Seqnum) (ep : Nat) (transferBufferLength : BitVec 32)
  /-- The endpoint exists, the payload is received, and the `urbp` is queued. -/
  | rxQueue
  /-- It is not queued but freed. -/
  | rxSubmitFail (addsEvent : Bool)
  /-- The timer fires. -/
  | timerStart (now : Int)
  /-- One iteration of the loop, with the outcome of a control request. -/
  | timerVisit (ret : Int) (w : Progress)
  /-- The `setup` callback returns `ret`. -/
  | timerSetup (ret : Int)
  /-- `transfer` gives a gadget request back. -/
  | timerGiveback (w : Progress)
  /-- The giveback returns. -/
  | timerResume
  /-- `transfer` returns. -/
  | timerTransferred (sent : Int) (w : Progress)
  /-- The sending thread tests its loop condition. -/
  | txTop
  /-- The sending thread goes on. -/
  | txSend (sendOk : Bool)

/-- What is written for an item of `tx_queue`.
Source: `vudc_tx.c`, `setup_ret_submit_pdu` and `setup_ret_unlink_pdu`. -/
def TxItem.ret : TxItem → Ret
  | submit p => .submit p.seqnum p.status p.actualLength
  | unlink u => .unlink u

/-- Sending a RET_SUBMIT frees the `urbp`, whether it succeeds or not. -/
def TxItem.frees : TxItem → List Seqnum
  | submit p => [p.origin]
  | unlink _ => []

/-- The state an action leads to. -/
def step (s : State) : Action → Option State
  | .eventAdd => some { s with event := true }
  | .gadget ep => if s.timer.unlocked then some { s with ep } else none
  | .startTimer now => if s.timer.unlocked then some (vStartTimer now s) else none
  | .rxTop =>
      match s.rx with
      | .top => some { s with rx := if s.event then .stopped else .pdu }
      | _ => none
  | .rxFail addsEvent =>
      match s.rx with
      | .pdu => some { s with rx := .stopped, event := s.event || addsEvent }
      | _ => none
  | .rxCmdUnlink u n =>
      match s.rx with
      | .pdu => if s.timer.unlocked then some { vRecvCmdUnlink u n s with rx := .top } else none
      | _ => none
  | .rxCmdSubmit n i len =>
      match s.rx with
      | .pdu => some { s with
          rx := .submit ⟨n, n, some i, true, -EINPROGRESS, 0, 0, len⟩
          allocs := s.allocs ++ [n] }
      | _ => none
  | .rxQueue =>
      match s.rx with
      | .submit p => if s.timer.unlocked then some { vQueueUrbp p s with rx := .top } else none
      | _ => none
  | .rxSubmitFail addsEvent =>
      match s.rx with
      | .submit p => some { s with
          rx := .stopped, freed := s.freed ++ [p.origin], event := s.event || addsEvent }
      | _ => none
  | .timerStart now =>
      match s.timer with
      | .idle => if s.armed then some (vTimerStart now s) else none
      | _ => none
  | .timerVisit ret w =>
      match s.timer with
      | .visit none _ => some (vTimerEnd s)
      | .visit (some n) total =>
          match s.urbQueue.find? (fun p => p.origin = n) with
          | some p => visitUrbp p total ret w s
          | none => none
      | _ => none
  | .timerSetup ret =>
      match s.timer with
      | .setup n next total =>
          if 0 ≤ ret then some { s with timer := .transfer n next total }
          else returnUrb n total (writeUrb n ⟨-EPIPE, 0⟩ s)
      | _ => none
  | .timerGiveback w =>
      match s.timer with
      | .transfer n next total => some { writeUrb n w s with timer := .giveback n next total }
      | _ => none
  | .timerResume =>
      match s.timer with
      | .giveback n next total => some { s with timer := .transfer n next total }
      | _ => none
  | .timerTransferred sent w =>
      match s.timer with
      | .transfer n next total =>
          let s := writeUrb n w s
          if w.status = -EINPROGRESS then some { s with timer := .visit next (total - sent) }
          else returnUrb n (total - sent) s
      | _ => none
  | .txTop =>
      match s.tx with
      | .top => some { s with tx := if s.event then .stopped none else .send }
      | _ => none
  | .txSend sendOk =>
      match s.tx with
      | .send =>
          match s.txQueue with
          | x :: rest => some { s with txQueue := rest, tx := .sending x }
          | [] => some { s with tx := .top }
      | .sending x =>
          let s := { s with freed := s.freed ++ x.frees }
          if sendOk then some { s with wire := s.wire ++ [x.ret], tx := .send }
          else some { s with tx := .stopped (some x), event := true }
      | _ => none

/-- A connection starts with empty queues and the timer stopped; the endpoints and the speed are
those the gadget driver has set up. -/
def machine : Machine State Action where
  init s := ∃ ep speed, s = { ep, speed }
  step := step

/-- The seqnums received so far, of CMD_SUBMITs and of CMD_UNLINKs. -/
def State.seqnums (s : State) : List Seqnum :=
  s.allocs ++ s.unlinks.map Prod.fst

end Usbip.Vudc
