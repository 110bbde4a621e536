import Usbip.Vudc.Machine

/-!
# The vudc over all its connections

`Usbip.Vudc.Machine` is one connection of the device.  Here the device lives on: `store_sockfd`
connects it, the event handler runs `vudc_shutdown` and `vudc_device_reset`, and `v_timer`, which
neither of them stops, runs throughout.  `stop_activity` drops `udc->lock` around each giveback in
`nuke` and then frees every `urbp` on `urb_queue` in one locked section.

A `urbp` is known by its ticket, the number of its allocation: another client may use the same
seqnums again.  What the gadget driver does, and how an allocation ends, are inputs of the actions.
`store_sockfd` is one action; it is taken while the event handler is idle, so that connections and
shutdowns alternate.
-/

namespace Usbip.Vudc.Device

open Usbip.Core Usbip.Common

/-! ## The state -/

/-- An allocated `urbp`.  `ticket` stands for its address, and `connection` is the one on which the
request came that its reply will answer.
Source: `vudc.h`, `struct urbp`. -/
structure Allocated extends Urbp where
  ticket : Nat
  connection : Nat
  deriving DecidableEq

/-- An item of `tx_queue`; a RET_UNLINK goes with the connection its CMD_UNLINK came on.
Source: `vudc.h`, `struct tx_item`. -/
inductive Item
  | submit (p : Allocated)
  | unlink (u : VUnlink) (connection : Nat)
  deriving DecidableEq

/-- The connection whose request an item answers. -/
def Item.connection : Item → Nat
  | submit p => p.connection
  | unlink _ c => c

/-- The `urbp` an item holds. -/
def Item.tickets : Item → List Nat
  | submit p => [p.ticket]
  | unlink _ _ => []

/-- A reply written to the socket of a connection. -/
structure Sent where
  socket : Nat
  item : Item
  deriving DecidableEq

/-- The position of `v_timer`, as in `Vudc.TimerPc`. -/
inductive TimerPc
  | idle
  | visit (cur : Option Nat) (total : Int)
  | setup (cur : Nat) (next : Option Nat) (total : Int)
  | transfer (cur : Nat) (next : Option Nat) (total : Int)
  | giveback (cur : Nat) (next : Option Nat) (total : Int)
  deriving DecidableEq

/-- `v_timer` does not hold `udc->lock`. -/
def TimerPc.unlocked : TimerPc → Bool
  | idle | setup _ _ _ | giveback _ _ _ => true
  | visit _ _ | transfer _ _ _ => false

/-- `v_timer` has dropped the lock in the middle of its loop. -/
def TimerPc.inCallback : TimerPc → Bool
  | setup _ _ _ | giveback _ _ _ => true
  | idle | visit _ _ | transfer _ _ _ => false

/-- The `urbp`s that `v_timer` has in hand: the current one and the saved next one. -/
def TimerPc.urbps : TimerPc → List Nat
  | idle => []
  | visit cur _ => cur.toList
  | setup cur next _ | transfer cur next _ | giveback cur next _ => cur :: next.toList

inductive RxPc
  | stopped
  | top
  | pdu
  /-- In `v_recv_cmd_submit`, with an allocated `urbp`. -/
  | submit (p : Allocated)
  deriving DecidableEq

inductive TxPc
  | stopped
  | top
  | send
  | sending (x : Item)
  deriving DecidableEq

/-- The operation that has called `stop_activity`. -/
inductive Caller
  | shutdown
  | reset
  deriving DecidableEq

/-- The position of the event handler. -/
inductive EhPc
  | idle
  /-- In `vudc_shutdown`, waiting for the receiving thread. -/
  | stopRx
  /-- In `vudc_shutdown`, waiting for the sending thread. -/
  | stopTx
  /-- About to take the lock for `stop_activity`. -/
  | lock (caller : Caller)
  /-- In `stop_activity`, with the lock. -/
  | nuke (caller : Caller)
  /-- In `nuke`, giving back a gadget request, without the lock. -/
  | nukeGiveback (caller : Caller)
  /-- In `vudc_device_reset`, after `stop_activity`. -/
  | reset
  deriving DecidableEq

/-- The event handler does not hold `udc->lock`. -/
def EhPc.unlocked : EhPc → Bool
  | nuke _ => false
  | idle | stopRx | stopTx | lock _ | nukeGiveback _ | reset => true

/-- Source: `usbip_common.h`, `enum usbip_device_status`. -/
inductive Status
  | available
  | used
  | error
  deriving DecidableEq

structure State where
  urbQueue : List Allocated := []
  ep : Nat → Vep
  speed : Speed
  trState : TrState := .stopped
  frameStart : Int := 0
  frameLimit : Int := 0
  armed : Bool := false
  timer : TimerPc := .idle
  txQueue : List Item := []
  tx : TxPc := .stopped
  rx : RxPc := .stopped
  eh : EhPc := .idle
  /-- `ud.event` is not 0. -/
  event : Bool := false
  status : Status := .available
  connected : Bool := false
  /-- The number of the last connection, whose socket is `ud.tcp_socket`. -/
  connection : Nat := 0
  wire : List Sent := []
  /-- The number of `urbp`s allocated. -/
  allocs : Nat := 0
  /-- The `urbp`s queued on `urb_queue`. -/
  accepted : List Nat := []
  /-- The `urbp`s freed by `stop_activity`. -/
  stopped : List Nat := []
  /-- The `urbp`s that `v_timer` took off `urb_queue`. -/
  taken : List Nat := []
  /-- Of these, the ones freed: by `v_timer` itself or by the sending thread. -/
  released : List Nat := []
  /-- Of these, the ones whose RET_SUBMIT could not be queued. -/
  lost : List Nat := []

/-- No context holds `udc->lock`. -/
def State.lockFree (s : State) : Bool :=
  s.timer.unlocked && s.eh.unlocked

/-! ## The timer and the queues -/

/-- Source: `vudc_transfer.c`, `v_kick_timer`. -/
def vKickTimer (s : State) : State :=
  match s.trState with
  | .running => s
  | .idle => { s with trState := .running, armed := true }
  | .stopped => { s with armed := true }

/-- Source: `vudc_transfer.c`, `v_start_timer`. -/
def vStartTimer (now : Int) (s : State) : State :=
  match s.trState with
  | .running => s
  | .idle => vKickTimer s
  | .stopped => vKickTimer { s with
      trState := .idle, frameStart := now, frameLimit := getFrameLimit s.speed }

/-- Source: `vudc_tx.c`, `v_enqueue_ret_unlink`. -/
def vEnqueueRetUnlink (allocOk : Bool) (u : VUnlink) (connection : Nat) (s : State) : State :=
  if allocOk then { s with txQueue := s.txQueue ++ [.unlink u connection] }
  else { s with event := true }

/-- Source: `vudc_tx.c`, `v_enqueue_ret_submit`. -/
def vEnqueueRetSubmit (allocOk : Bool) (p : Allocated) (s : State) : State :=
  if allocOk then { s with txQueue := s.txQueue ++ [.submit p] }
  else { s with event := true, lost := s.lost ++ [p.ticket] }

/-! ## The receiving thread -/

/-- An unlink marks the URB, and the `urbp` goes under its seqnum. -/
def Allocated.unlink (u : Seqnum) (connection : Nat) (p : Allocated) : Allocated :=
  { p with toUrbp := p.toUrbp.unlink u, connection }

/-- Source: `vudc_rx.c`, `v_recv_cmd_unlink`. -/
def vRecvCmdUnlink (allocOk : Bool) (u n : Seqnum) (s : State) : State :=
  match updateFirst (fun p => p.seqnum = n) (Allocated.unlink u s.connection) s.urbQueue with
  | some q => vKickTimer { s with urbQueue := q }
  | none => vEnqueueRetUnlink allocOk ⟨u, 0, none⟩ s.connection s

/-- The end of `v_recv_cmd_submit`.
Source: `vudc_rx.c`, `v_recv_cmd_submit`. -/
def vQueueUrbp (p : Allocated) (s : State) : State :=
  let s := vKickTimer s
  { s with urbQueue := s.urbQueue ++ [p], accepted := s.accepted ++ [p.ticket] }

/-! ## `v_timer` -/

/-- Where an iteration of the loop leads. -/
inductive Next
  | skip
  | setup
  | transfer
  | returnUrb
  deriving DecidableEq

/-- One iteration of the loop in `v_timer` up to the point where it calls the gadget driver or
`transfer`: the endpoints, the `urbp`, and where it leads.  `ret` and `w` are what
`handle_control_request` returns and leaves in the URB.
Source: `vudc_transfer.c`, `v_timer`. -/
def visitUrbp (running : Bool) (total ret : Int) (w : Progress) (ep : Nat → Vep) (p : Urbp) :
    (Nat → Vep) × Urbp × Next :=
  if p.unlinked ≠ 0 then (ep, p, .returnUrb)
  else if ¬ running then (ep, p, .skip)
  else match p.ep with
    | none => (ep, { p with status := -EPROTO }, .returnUrb)
    | some i =>
        if total ≤ 0 ∧ (ep i).type = .bulk then (ep, p, .skip)
        else if (ep i).alreadySeen then (ep, p, .skip)
        else
          let e := { ep i with alreadySeen := true }
          let fresh := i = 0 ∧ p.new
          let e := if fresh then { e with setupStage := true } else e
          let p := if fresh then { p with new := false } else p
          if e.halted ∧ ¬ e.setupStage then
            (Function.update ep i e, { p with status := -EPIPE }, .returnUrb)
          else if i = 0 ∧ e.setupStage then
            let ep := Function.update ep i { e with setupStage := false, halted := false }
            let p := { p with status := w.status, actualLength := w.actualLength }
            if 0 < ret then (ep, p, .setup)
            else if 0 ≤ ret then (ep, p, .transfer)
            else (ep, { p with status := -EPIPE, actualLength := 0 }, .returnUrb)
          else
            let ep := Function.update ep i e
            match e.type with
            | .isoc => (ep, { p with status := -EXDEV }, .returnUrb)
            | .int | .bulk | .control => (ep, p, .transfer)

/-- Apply `f` to the `urbp` with ticket `n`. -/
def writeUrbp (n : Nat) (f : Urbp → Urbp) (s : State) : State :=
  { s with urbQueue := s.urbQueue.map fun p =>
      if p.ticket = n then { p with toUrbp := f p.toUrbp } else p }

/-- What a stretch of `transfer` or of a callback leaves in a URB. -/
def writeProgress (w : Progress) (p : Urbp) : Urbp :=
  { p with status := w.status, actualLength := w.actualLength }

/-- The `urbp` after `n` on the queue. -/
def nextUrbp (n : Nat) : List Allocated → Option Nat
  | [] => none
  | p :: rest => if p.ticket = n then rest.head?.map Allocated.ticket else nextUrbp n rest

/-- The endpoint of a URB that ends may be used again in the same run. -/
def forgetEp : Option Nat → State → State
  | some i, s =>
      let e := { s.ep i with alreadySeen := false, setupStage := false }
      { s with ep := Function.update s.ep i e }
  | none, s => s

/-- The reply of a URB that ends: a RET_SUBMIT, or, when it was unlinked, a RET_UNLINK, and then
the `urbp` is freed. -/
def queueReply (allocOk : Bool) (p : Allocated) (s : State) : State :=
  if p.unlinked = 0 then vEnqueueRetSubmit allocOk p s
  else
    let s := vEnqueueRetUnlink allocOk ⟨p.seqnum, p.unlinked, some p.origin⟩ p.connection s
    { s with released := s.released ++ [p.ticket] }

/-- The label `return_urb`: the `urbp` leaves the queue, its reply is queued, and the loop starts
over.  There is no step when the `urbp` is not there any more: it has been freed. -/
def returnUrb (allocOk : Bool) (n : Nat) (total : Int) (s : State) : Option State :=
  match s.urbQueue.find? (fun p => p.ticket = n) with
  | none => none
  | some p =>
      let rest := s.urbQueue.eraseP (fun p => p.ticket = n)
      let s := forgetEp p.ep { s with urbQueue := rest, taken := s.taken ++ [p.ticket] }
      some { queueReply allocOk p s with
        timer := .visit (rest.head?.map Allocated.ticket) total }

/-- Source: `vudc_transfer.c`, `v_timer`. -/
def vTimerStart (now : Int) (s : State) : State :=
  let limit := getFrameLimit s.speed
  if limit < 0 then { s with armed := false, trState := .idle }
  else
    let fresh := s.frameStart + 1 < now
    { s with
      armed := false
      frameLimit := if fresh then limit else s.frameLimit
      frameStart := if fresh then now else s.frameStart
      ep := fun i => { s.ep i with alreadySeen := false }
      timer := .visit (s.urbQueue.head?.map Allocated.ticket)
        (if fresh then limit else s.frameLimit) }

/-- `v_timer` ends. -/
def vTimerEnd (s : State) : State :=
  if s.urbQueue = [] then { s with trState := .idle, timer := .idle }
  else { s with armed := true, timer := .idle }

/-- `v_timer` visits the `urbp` `n`. -/
def vTimerVisit (allocOk : Bool) (n : Nat) (total ret : Int) (w : Progress) (s : State) :
    Option State :=
  match s.urbQueue.find? (fun p => p.ticket = n) with
  | none => none
  | some p =>
      let next := nextUrbp n s.urbQueue
      let (ep, q, goto) := visitUrbp (s.trState = .running) total ret w s.ep p.toUrbp
      let s := writeUrbp n (fun _ => q) { s with ep }
      match goto with
      | .skip => some { s with timer := .visit next total }
      | .setup => some { s with timer := .setup n next total }
      | .transfer => some { s with timer := .transfer n next total }
      | .returnUrb => returnUrb allocOk n total s

/-! ## Connecting and stopping -/

/-- `store_sockfd` with a socket: the threads are started and the device is connected.
Source: `vudc_sysfs.c`, `store_sockfd`. -/
def storeSockfd (now : Int) (s : State) : State :=
  { vStartTimer now s with
    connection := s.connection + 1, rx := .top, tx := .top, status := .used, connected := true }

/-- The end of `stop_activity`: every `urbp` on `urb_queue` is freed.
Source: `vudc_dev.c`, `stop_activity`. -/
def stopActivity (s : State) : State :=
  { s with urbQueue := [], stopped := s.stopped ++ s.urbQueue.map Allocated.ticket }

/-! ## The machine -/

/-- The steps of `v_timer`. -/
inductive TimerAction
  /-- The timer fires. -/
  | start (now : Int)
  /-- One iteration of the loop, with the outcome of a control request. -/
  | visit (allocOk : Bool) (ret : Int) (w : Progress)
  /-- The `setup` callback returns `ret`. -/
  | setup (allocOk : Bool) (ret : Int)
  /-- `transfer` gives a gadget request back. -/
  | giveback (w : Progress)
  /-- The giveback returns. -/
  | resume
  /-- `transfer` returns. -/
  | transferred (allocOk : Bool) (sent : Int) (w : Progress)

/-- The steps of the receiving thread. -/
inductive RxAction
  /-- It tests its loop condition. -/
  | top
  /-- The header cannot be received, the command is unknown, or no `urbp` can be allocated. -/
  | fail (addsEvent : Bool)
  /-- CMD_UNLINK `u` naming `n`. -/
  | cmdUnlink (allocOk : Bool) (u n : Seqnum)
  /-- CMD_SUBMIT `n`, up to `alloc_urbp`. -/
  | cmdSubmit (n : Seqnum) (ep : Nat) (transferBufferLength : BitVec 32)
  /-- The endpoint exists, the payload is received, and the `urbp` is queued. -/
  | queue
  /-- It is not queued but freed. -/
  | submitFail (addsEvent : Bool)

/-- The steps of the sending thread. -/
inductive TxAction
  /-- It tests its loop condition. -/
  | top
  /-- It goes on. -/
  | send (sendOk : Bool)

/-- The steps of the event handler.  `event` says whether other bits of `ud.event` stay set when an
operation is done. -/
inductive EhAction
  /-- It calls `vudc_shutdown`. -/
  | shutdown
  /-- The thread it waits for has ended, or there is none. -/
  | stopped
  /-- It calls `vudc_device_reset`. -/
  | reset
  /-- It calls `vudc_device_unusable`. -/
  | unusable (event : Bool)
  /-- It takes the lock. -/
  | lock
  /-- `nuke` gives a gadget request back. -/
  | nuke
  /-- `stop_activity` frees the queue, and its caller goes on. -/
  | stopActivity (event : Bool)
  /-- `vudc_device_reset` ends. -/
  | available (event : Bool)

inductive Action
  /-- `usbip_event_add` from anywhere. -/
  | eventAdd
  /-- The gadget driver changes its endpoints or speed. -/
  | gadget (ep : Nat → Vep) (speed : Speed)
  /-- `store_sockfd`. -/
  | connect (now : Int)
  | timer (a : TimerAction)
  | rx (a : RxAction)
  | tx (a : TxAction)
  | eh (a : EhAction)

def stepTimer (s : State) : TimerAction → Option State
  | .start now =>
      match s.timer with
      | .idle => if s.armed ∧ s.lockFree then some (vTimerStart now s) else none
      | _ => none
  | .visit allocOk ret w =>
      match s.timer with
      | .visit none _ => some (vTimerEnd s)
      | .visit (some n) total => vTimerVisit allocOk n total ret w s
      | _ => none
  | .setup allocOk ret =>
      match s.timer with
      | .setup n next total =>
          if ¬ s.lockFree then none
          else if 0 ≤ ret then some { s with timer := .transfer n next total }
          else returnUrb allocOk n total (writeUrbp n (writeProgress ⟨-EPIPE, 0⟩) s)
      | _ => none
  | .giveback w =>
      match s.timer with
      | .transfer n next total =>
          some { writeUrbp n (writeProgress w) s with timer := .giveback n next total }
      | _ => none
  | .resume =>
      match s.timer with
      | .giveback n next total =>
          if s.lockFree then some { s with timer := .transfer n next total } else none
      | _ => none
  | .transferred allocOk sent w =>
      match s.timer with
      | .transfer n next total =>
          let s := writeUrbp n (writeProgress w) s
          if w.status = -EINPROGRESS then some { s with timer := .visit next (total - sent) }
          else returnUrb allocOk n (total - sent) s
      | _ => none

/-- `kthread_should_stop` or an event ends the receiving thread. -/
def State.rxEnds (s : State) : Bool :=
  s.event || s.eh = .stopRx

/-- `kthread_should_stop` or an event ends the sending thread. -/
def State.txEnds (s : State) : Bool :=
  s.event || s.eh = .stopTx

def stepRx (s : State) : RxAction → Option State
  | .top =>
      match s.rx with
      | .top => some { s with rx := if s.rxEnds then .stopped else .pdu }
      | _ => none
  | .fail addsEvent =>
      match s.rx with
      | .pdu => some { s with rx := .stopped, event := s.event || addsEvent }
      | _ => none
  | .cmdUnlink allocOk u n =>
      match s.rx with
      | .pdu => if s.lockFree then some { vRecvCmdUnlink allocOk u n s with rx := .top } else none
      | _ => none
  | .cmdSubmit n i len =>
      match s.rx with
      | .pdu => some { s with
          rx := .submit ⟨⟨n, n, some i, true, -EINPROGRESS, 0, 0, len⟩, s.allocs, s.connection⟩
          allocs := s.allocs + 1 }
      | _ => none
  | .queue =>
      match s.rx with
      | .submit p => if s.lockFree then some { vQueueUrbp p s with rx := .top } else none
      | _ => none
  | .submitFail addsEvent =>
      match s.rx with
      | .submit _ => some { s with rx := .stopped, event := s.event || addsEvent }
      | _ => none

def stepTx (s : State) : TxAction → Option State
  | .top =>
      match s.tx with
      | .top => some { s with tx := if s.txEnds then .stopped else .send }
      | _ => none
  | .send sendOk =>
      match s.tx with
      | .send =>
          match s.txQueue with
          | x :: rest => some { s with txQueue := rest, tx := .sending x }
          | [] => some { s with tx := .top }
      | .sending x =>
          let s := { s with released := s.released ++ x.tickets }
          if sendOk then some { s with wire := s.wire ++ [⟨s.connection, x⟩], tx := .send }
          else some { s with tx := .stopped, event := true }
      | _ => none

def stepEh (s : State) : EhAction → Option State
  | .shutdown =>
      match s.eh with
      | .idle => some { s with eh := .stopRx }
      | _ => none
  | .stopped =>
      match s.eh with
      | .stopRx => if s.rx = .stopped then some { s with eh := .stopTx } else none
      | .stopTx => if s.tx = .stopped then some { s with eh := .lock .shutdown } else none
      | _ => none
  | .reset =>
      match s.eh with
      | .idle => some { s with eh := .lock .reset }
      | _ => none
  | .unusable event =>
      match s.eh with
      | .idle => some { s with status := .error, event }
      | _ => none
  | .lock =>
      match s.eh with
      | .lock caller | .nukeGiveback caller =>
          if s.lockFree then some { s with eh := .nuke caller } else none
      | _ => none
  | .nuke =>
      match s.eh with
      | .nuke caller => some { s with eh := .nukeGiveback caller }
      | _ => none
  | .stopActivity event =>
      match s.eh with
      | .nuke .shutdown => some { stopActivity s with eh := .idle, connected := false, event }
      | .nuke .reset => some { stopActivity s with eh := .reset }
      | _ => none
  | .available event =>
      match s.eh with
      | .reset => some { s with eh := .idle, status := .available, event }
      | _ => none

/-- The state an action leads to. -/
def step (s : State) : Action → Option State
  | .eventAdd => some { s with event := true }
  | .gadget ep speed => if s.lockFree then some { s with ep, speed } else none
  | .connect now =>
      if s.lockFree ∧ s.eh = .idle ∧ ¬ s.connected ∧ s.status = .available then
        some (storeSockfd now s)
      else none
  | .timer a => stepTimer s a
  | .rx a => stepRx s a
  | .tx a => stepTx s a
  | .eh a => stepEh s a

/-- A device that has never been connected. -/
def machine : Machine State Action where
  init s := ∃ ep speed, s = { ep, speed }
  step := step

end Usbip.Vudc.Device
