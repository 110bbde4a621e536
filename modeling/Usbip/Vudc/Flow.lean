import Usbip.Vudc.DeviceSteps
import Usbip.Vudc.Transfer

/-!
# The vudc with its data

`Usbip.Vudc.Device` leaves open what `transfer` and the gadget driver do.  Here each URB has its
buffer and each endpoint its queue of requests, and `transfer` is carried out: a step of it is one
pass of its loop (`batch`), which ends with `udc->lock` dropped when a request is given back.
While the lock is free the gadget driver and the other contexts queue, dequeue and give back
requests and change endpoints.

The device is a component of the state, and each action moves it by its own step function; what was
an input there is computed here.  After a pass the loop either ends or starts over at the head of
the queue (`batch_rescan`), so that a position in the queue is not part of the state.
-/

namespace Usbip.Vudc.Flow

open Usbip.Core Usbip.Common

/-! ## The state -/

structure State where
  dev : Device.State
  /-- The URB of a `urbp`. -/
  urb : Nat → HostUrb := fun _ => ⟨false, [], 0, false, -EINPROGRESS, Nat.zero_le _⟩
  /-- The endpoint of a `urbp`. -/
  epOf : Nat → Nat := fun _ => 0
  /-- `req_queue` of an endpoint. -/
  queue : Nat → List VRequest := fun _ => []
  /-- `ep.maxpacket` of an endpoint. -/
  maxpacket : Nat → {n : Nat // 0 < n} := fun _ => ⟨64, by decide⟩
  /-- `udc->driver` is not NULL. -/
  driver : Bool := false
  /-- The direction in `ep->desc` of an endpoint, to the host if set. -/
  desc : Nat → Option Bool := fun _ => none
  /-- The endpoints for which a `vep_disable` waits for a request to be given back. -/
  disabling : List Nat := []
  /-- `req->udc` of a request is not NULL. -/
  udc : Nat → Bool := fun _ => false
  /-- The number of requests allocated. -/
  requests : Nat := 0
  /-- The variable `sent` of `transfer`. -/
  sent : Nat := 0
  /-- The URB has ended, and `transfer` leaves its loop. -/
  ended : Bool := false
  /-- A NULL pointer was read. -/
  oops : Bool := false
  /-- The bytes that bulk URBs have moved in this frame. -/
  moved : Nat := 0
  /-- The speed of the gadget when the frame began. -/
  frameSpeed : Speed := .unknown
  /-- The requests queued, with their endpoints. -/
  queued : List (Nat × VRequest) := []
  /-- The requests given back, with their endpoints and statuses. -/
  given : List (Nat × VRequest × BitVec 32) := []
  /-- What `vep_dequeue` returned, with its endpoint and request. -/
  dequeued : List (Nat × Nat × Int) := []
  /-- The RET_SUBMITs put on `tx_queue`. -/
  replies : List Device.Allocated := []

/-- The number of bytes moved for a URB, as the C `u32`. -/
def progress (u : HostUrb) : Progress := ⟨u.status, BitVec.ofNat 32 u.actualLength⟩

/-- What `handle_control_request` leaves: the URB, and the endpoint that it has halted or not. -/
structure Control where
  urb : HostUrb
  halt : Option (Nat × Bool) := none

/-- `v_timer` comes to `handle_control_request` for this `urbp`.
Source: `vudc_transfer.c`, `v_timer`. -/
def handlesControl (d : Device.State) (total : Int) (p : Urbp) : Bool :=
  p.unlinked = 0 ∧ d.trState = .running ∧ p.ep = some 0 ∧
    ¬ (total ≤ 0 ∧ (d.ep 0).type = .bulk) ∧ ¬ (d.ep 0).alreadySeen ∧
    ((d.ep 0).setupStage ∨ p.new)

/-- Change endpoint `i` of the device. -/
def setEp (i : Nat) (f : Vep → Vep) (d : Device.State) : Device.State :=
  { d with ep := Function.update d.ep i (f (d.ep i)) }

def setHalted (i : Nat) (halted : Bool) (d : Device.State) : Device.State :=
  setEp i (fun e => { e with halted }) d

def Control.setHalted (c : Control) (d : Device.State) : Device.State :=
  match c.halt with
  | some (i, halted) => Flow.setHalted i halted d
  | none => d

/-! ## `v_timer` and `transfer` -/

/-- The RET_SUBMIT of an item. -/
def submitted : Device.Item → Option Device.Allocated
  | .submit p => some p
  | .unlink _ _ => none

/-- The device after a step of `v_timer`, with the RET_SUBMITs that it has put on `tx_queue`. -/
def record (d : Device.State) (s : State) : State :=
  { s with
    dev := d
    replies := s.replies ++ (d.txQueue.drop s.dev.txQueue.length).filterMap submitted }

/-- `v_timer` starts, maybe with a new frame. -/
def start (now : Int) (s : State) : Option State :=
  (Device.stepTimer s.dev (.start now)).map fun d =>
    let fresh : Bool := 0 ≤ getFrameLimit s.dev.speed ∧ s.dev.frameStart + 1 < now
    { s with
      dev := d
      moved := if fresh then 0 else s.moved
      frameSpeed := if fresh then s.dev.speed else s.frameSpeed }

/-- One iteration of the loop of `v_timer`, with what `handle_control_request` leaves if it is
called. -/
def visit (allocOk : Bool) (ret : Int) (c : Control) (s : State) : Option State :=
  match s.dev.timer with
  | .visit (some n) total =>
      match s.dev.urbQueue.find? (fun p => p.ticket = n) with
      | none => none
      | some p =>
          if handlesControl s.dev total p.toUrbp then
            if c.urb.transferBuffer.length = (s.urb n).transferBuffer.length then
              (Device.stepTimer s.dev (.visit allocOk ret (progress c.urb))).map fun d =>
                { record d s with
                  dev := c.setHalted d
                  urb := Function.update s.urb n c.urb
                  sent := 0
                  ended := false }
            else none
          else
            (Device.stepTimer s.dev (.visit allocOk ret (progress (s.urb n)))).map fun d =>
              { record d s with sent := 0, ended := false }
  | _ => (Device.stepTimer s.dev (.visit allocOk ret ⟨0, 0⟩)).map fun d => record d s

/-- The `setup` callback returns `ret`. -/
def setup (allocOk : Bool) (ret : Int) (s : State) : Option State :=
  (Device.stepTimer s.dev (.setup allocOk ret)).map fun d => record d s

/-- The request at the head of the queue after a pass: it stays, or it is given back with the lock
dropped. -/
def afterPass (i n : Nat) (rest : List VRequest) (e : Exchanged) (s : State) : Option State :=
  if e.reqStatus = -EINPROGRESS then
    some { s with queue := Function.update s.queue i (e.req :: rest) }
  else
    (Device.stepTimer s.dev (.giveback (progress (s.urb n)))).map fun d =>
      { s with
        dev := d
        queue := Function.update s.queue i rest
        given := s.given ++ [(i, e.req, e.reqStatus)] }

/-- One pass of the loop of `transfer`. -/
def pass (s : State) : Option State :=
  match s.dev.timer with
  | .transfer n _ _ =>
      let i := s.epOf n
      match s.ended, s.queue i with
      | false, r :: rest =>
          let e := (batch (s.maxpacket i) (s.urb n) r).1
          afterPass i n rest e { s with
            urb := Function.update s.urb n e.urb
            sent := s.sent + e.len
            ended := e.urb.status ≠ -EINPROGRESS
            moved := if (s.dev.ep i).type = .bulk then s.moved + e.len else s.moved }
      | _, _ => none
  | _ => none

/-- The completion callback returns. -/
def resume (s : State) : Option State :=
  (Device.stepTimer s.dev .resume).map fun d => { s with dev := d }

/-- `transfer` returns: the URB has ended, or no request is queued. -/
def transferred (allocOk : Bool) (s : State) : Option State :=
  match s.dev.timer with
  | .transfer n _ _ =>
      if s.ended ∨ s.queue (s.epOf n) = [] then
        (Device.stepTimer s.dev (.transferred allocOk s.sent (progress (s.urb n)))).map fun d =>
          record d s
      else none
  | _ => none

/-! ## The gadget driver -/

def ESHUTDOWN : BitVec 32 := 108

/-- A packet of 64 bytes is not empty. -/
lemma maxpacket_pos : 0 < 64 := by decide

/-- `vgadget_pullup` turns the gadget on.
Source: `vudc_dev.c`, `vgadget_pullup`. -/
def vgadgetPullup (speed : Speed) (s : State) : State :=
  { s with
    dev := { s.dev with speed }
    maxpacket := Function.update s.maxpacket 0 ⟨64, maxpacket_pos⟩ }

/-- `vep_enable` returns no error. -/
def enables (i : Nat) (s : State) : Bool :=
  i ≠ 0 ∧ s.desc i = none ∧ s.driver

/-- Source: `vudc_dev.c`, `vep_enable`. -/
def vepEnable (i : Nat) (type : XferType) (maxp : {n : Nat // 0 < n}) (toHost : Bool) (s : State) :
    State :=
  if enables i s then
    { s with
      dev := setEp i (fun e => { e with type, halted := false }) s.dev
      maxpacket := Function.update s.maxpacket i maxp
      desc := Function.update s.desc i (some toHost) }
  else s

/-- `nuke` gives back the first request of an endpoint.
Source: `vudc_dev.c`, `nuke`. -/
def nukeFirst (i : Nat) (s : State) : Option State :=
  match s.queue i with
  | r :: rest => some { s with
      queue := Function.update s.queue i rest
      given := s.given ++ [(i, r, -ESHUTDOWN)] }
  | [] => none

/-- `nuke`, called by `vep_disable`, up to the next request that it gives back. -/
def disableNuke (i : Nat) (s : State) : State :=
  (nukeFirst i s).getD { s with disabling := s.disabling.erase i }

/-- `vep_disable`, up to the first request that it gives back.
Source: `vudc_dev.c`, `vep_disable`. -/
def vepDisable (i : Nat) (s : State) : State :=
  if i = 0 ∨ s.desc i = none then s
  else disableNuke i { s with
    desc := Function.update s.desc i none, disabling := i :: s.disabling }

/-- Source: `vudc_dev.c`, `vep_set_halt_and_wedge`. -/
def vepSetHaltAndWedge (i : Nat) (value : Bool) (s : State) : State :=
  if ¬ s.driver then s
  else if ¬ value then { s with dev := setHalted i false s.dev }
  else if s.desc i = some true ∧ s.queue i ≠ [] then s
  else { s with dev := setHalted i true s.dev }

/-- Source: `vudc_dev.c`, `vep_alloc_request`. -/
def vepAllocRequest (s : State) : State :=
  { s with udc := Function.update s.udc s.requests false, requests := s.requests + 1 }

/-- Source: `vudc_dev.c`, `vep_queue`. -/
def vepQueue (i id : Nat) (buf : List Byte) (zero : Bool) (s : State) : State :=
  let r : VRequest := ⟨id, buf, 0, zero, Nat.zero_le _⟩
  { s with queue := Function.update s.queue i (s.queue i ++ [r]), queued := s.queued ++ [(i, r)] }

/-- Source: `vudc_dev.c`, `vep_dequeue`. -/
def vepDequeue (i id : Nat) (s : State) : State :=
  if s.udc id = false then { s with oops := true }
  else if ¬ s.driver then { s with dequeued := s.dequeued ++ [(i, id, -ESHUTDOWN.toInt)] }
  else match (s.queue i).find? fun r => r.id = id with
    | some r => { s with
        queue := Function.update s.queue i ((s.queue i).eraseP fun r => r.id = id)
        given := s.given ++ [(i, r, -ECONNRESET)]
        dequeued := s.dequeued ++ [(i, id, 0)] }
    | none => { s with dequeued := s.dequeued ++ [(i, id, -EINVAL.toInt)] }

/-! ## The machine -/

inductive Action
  /-- `usbip_event_add` from anywhere. -/
  | eventAdd
  /-- `store_sockfd`. -/
  | connect (now : Int)
  /-- `vgadget_udc_start` and `vgadget_udc_stop`. -/
  | bind (driver : Bool)
  /-- `vgadget_pullup`. -/
  | pullup (speed : Speed)
  /-- `vep_enable`. -/
  | enable (i : Nat) (type : XferType) (maxp : {n : Nat // 0 < n}) (toHost : Bool)
  /-- `vep_disable`. -/
  | disable (i : Nat)
  /-- `vep_disable` goes on. -/
  | disableNuke (i : Nat)
  /-- `vep_set_halt_and_wedge`. -/
  | setHalt (i : Nat) (value : Bool)
  /-- `vep_alloc_request`. -/
  | allocRequest
  /-- `vep_queue`. -/
  | queue (i id : Nat) (buf : List Byte) (zero : Bool)
  /-- `vep_dequeue`. -/
  | dequeue (i id : Nat)
  /-- The timer fires. -/
  | start (now : Int)
  | visit (allocOk : Bool) (ret : Int) (c : Control)
  | setup (allocOk : Bool) (ret : Int)
  | pass
  | resume
  | transferred (allocOk : Bool)
  /-- CMD_SUBMIT `n` for endpoint `i`, up to its payload, with the data in the URB's buffer when it
  is queued. -/
  | cmdSubmit (n : Seqnum) (i : Nat) (toHost : Bool) (data : List Byte) (zeroPacket : Bool)
  /-- The other steps of the receiving thread. -/
  | rx (a : Device.RxAction)
  | tx (a : Device.TxAction)
  /-- The event handler gives the first request of an endpoint back. -/
  | nuke (i : Nat)
  /-- The other steps of the event handler. -/
  | eh (a : Device.EhAction)

/-- `vudc_find_endpoint` finds endpoint `i` for a request of this direction.
Source: `vudc_dev.c`, `vudc_find_endpoint`. -/
def finds (i : Nat) (toHost : Bool) (s : State) : Bool :=
  i = 0 ∨ s.desc i = some toHost

/-- `v_recv_cmd_submit` up to the payload: the new `urbp` has the number of its allocation.
Source: `vudc_rx.c`, `v_recv_cmd_submit`. -/
def cmdSubmit (n : Seqnum) (i : Nat) (toHost : Bool) (data : List Byte) (zeroPacket : Bool)
    (s : State) : Option State := do
  let d ← Device.stepRx s.dev (.cmdSubmit n i (BitVec.ofNat 32 data.length))
  if finds i toHost s then
    some { s with
      dev := d
      urb := Function.update s.urb s.dev.allocs
        ⟨toHost, data, 0, zeroPacket, -EINPROGRESS, Nat.zero_le _⟩
      epOf := Function.update s.epOf s.dev.allocs i }
  else
    (Device.stepRx d (.submitFail true)).map fun d => { s with dev := d }

/-- The state an action leads to. -/
def step (s : State) : Action → Option State
  | .eventAdd => (Device.step s.dev .eventAdd).map fun d => { s with dev := d }
  | .connect now => (Device.step s.dev (.connect now)).map fun d =>
      { s with
        dev := d
        moved := if s.dev.trState = .stopped then 0 else s.moved
        frameSpeed := if s.dev.trState = .stopped then s.dev.speed else s.frameSpeed }
  | .bind driver => if s.dev.lockFree then some { s with driver } else none
  | .pullup speed => if s.dev.lockFree then some (vgadgetPullup speed s) else none
  | .enable i type maxp toHost =>
      if s.dev.lockFree then some (vepEnable i type maxp toHost s) else none
  | .disable i => if s.dev.lockFree then some (vepDisable i s) else none
  | .disableNuke i =>
      if s.dev.lockFree ∧ i ∈ s.disabling then some (disableNuke i s) else none
  | .setHalt i value => if s.dev.lockFree then some (vepSetHaltAndWedge i value s) else none
  | .allocRequest => some (vepAllocRequest s)
  | .queue i id buf zero => if s.dev.lockFree then some (vepQueue i id buf zero s) else none
  | .dequeue i id => if s.dev.lockFree then some (vepDequeue i id s) else none
  | .start now => start now s
  | .visit allocOk ret c => visit allocOk ret c s
  | .setup allocOk ret => setup allocOk ret s
  | .pass => pass s
  | .resume => resume s
  | .transferred allocOk => transferred allocOk s
  | .cmdSubmit n i toHost data zeroPacket =>
      if s.dev.lockFree then cmdSubmit n i toHost data zeroPacket s else none
  | .rx (.cmdSubmit _ _ _) => none
  | .rx a => (Device.stepRx s.dev a).map fun d => { s with dev := d }
  | .tx a => (Device.stepTx s.dev a).map fun d => { s with dev := d }
  | .nuke i => do
      let d ← Device.stepEh s.dev .nuke
      nukeFirst i { s with dev := d }
  | .eh .nuke => none
  | .eh a => (Device.stepEh s.dev a).map fun d => { s with dev := d }

/-- A new device. -/
def machine : Machine State Action where
  init s := ∃ maxpacket,
    s = { dev := { ep := fun _ => { type := .control }, speed := .unknown }, maxpacket }
  step := step

/-- A new device is a start of the machine. -/
lemma init_new : machine.init { dev := { ep := fun _ => { type := .control }, speed := .unknown } } :=
  ⟨_, rfl⟩

/-! ## Parts of runs -/

/-- CMD_SUBMIT `n` for endpoint `i` with `len` bytes from the device. -/
def received (n : Seqnum) (i len : Nat) : List Action :=
  [.rx .top, .cmdSubmit n i true (List.replicate len 0) false, .rx .queue]

/-- `v_timer` comes to a URB; `ret` is for a control URB. -/
def visited (ret : Int) : Action :=
  .visit true ret ⟨⟨true, [], 0, false, -EINPROGRESS, Nat.zero_le _⟩, none⟩

/-- `v_timer` comes to a URB, whose data a request has. -/
def served : List Action := [visited 0, .pass, .resume, .transferred true]

/-- A low-speed gadget with two bulk endpoints is connected. -/
def connectedRun : List Action :=
  [.bind true, .pullup .low, .enable 1 .bulk ⟨64, by decide⟩ true,
    .enable 2 .bulk ⟨64, by decide⟩ true, .connect 0]

end Usbip.Vudc.Flow
