import Usbip.Vudc.FlowSteps

/-!
# Halted and wedged endpoints

The device of `Usbip.Vudc.Device`, with `handle_control_request` carried out on the setup packets of
the control URBs and with the flag `wedged`, which a host cannot clear.  Both flags are written by
`vep_set_halt_and_wedge` and `vep_enable`; `halted` is also written by the host's requests, and that
of the control endpoint by `v_timer`.  A wedged endpoint other than the control endpoint is halted
until the gadget driver ends it (`wedged_until_gadget`).
-/

namespace Usbip.Vudc.Wedge

open Usbip.Core Usbip.Common

/-! ## `handle_control_request` -/

/-- Source: `<linux/usb/ch9.h>`, `struct usb_ctrlrequest`. -/
structure CtrlRequest where
  bRequestType : BitVec 8
  bRequest : BitVec 8
  wValue : BitVec 16 := 0
  wIndex : BitVec 16 := 0
  deriving DecidableEq

/-- Source: `<linux/usb/ch9.h>`. -/
def usbReqGetStatus : BitVec 8 := 0x00
def usbReqClearFeature : BitVec 8 := 0x01
def usbReqSetFeature : BitVec 8 := 0x03
def usbReqSetAddress : BitVec 8 := 0x05

/-- Source: `vudc_transfer.c`. -/
def devRequest : BitVec 8 := 0x00
def devInrequest : BitVec 8 := 0x80
def intfInrequest : BitVec 8 := 0x81
def epRequest : BitVec 8 := 0x02
def epInrequest : BitVec 8 := 0x82

def usbDeviceRemoteWakeup : Nat := 1
def usbDeviceBHnpEnable : Nat := 3
def usbDeviceAHnpSupport : Nat := 4
def usbDeviceAAltHnpSupport : Nat := 5

def EOPNOTSUPP : Int := 95

/-- What `handle_control_request` writes of the device itself.
Source: `vudc.h`, `struct vudc`. -/
structure Gadget where
  address : Nat := 0
  devstatus : BitVec 16 := 0
  bHnpEnable : Bool := false
  aHnpSupport : Bool := false
  aAltHnpSupport : Bool := false
  deriving DecidableEq

/-- What `handle_control_request` leaves. -/
structure Handled where
  ret : Int := 1
  gadget : Gadget
  /-- The endpoint that it has halted or not. -/
  halt : Option (Nat × Bool) := none
  /-- `urb->status` and `urb->actual_length`. -/
  progress : Progress
  /-- The bytes written to the start of `urb->transfer_buffer`. -/
  data : List Byte := []

/-- What `handle_control_request` reads of the device and of the URB. -/
structure Input where
  gadget : Gadget
  /-- `vudc_find_endpoint`. -/
  find : BitVec 8 → Option Nat
  halted : Nat → Bool
  wedged : Nat → Bool
  /-- `urb->transfer_buffer_length`. -/
  length : BitVec 32
  /-- `urb->status` and `urb->actual_length`. -/
  progress : Progress

/-- The request is not handled. -/
def Input.unhandled (x : Input) : Handled := { gadget := x.gadget, progress := x.progress }

/-- The request is not supported. -/
def Input.unsupported (x : Input) : Handled := { x.unhandled with ret := -EOPNOTSUPP }

/-- The request is handled. -/
def Input.handled (x : Input) : Handled :=
  { x.unhandled with ret := 0, progress := { x.progress with status := 0 } }

/-- SET_FEATURE for the device. -/
def setDeviceFeature (x : Input) (wValue : Nat) : Handled :=
  let g := { x.gadget with devstatus := x.gadget.devstatus ||| (1#16 <<< wValue) }
  if wValue = usbDeviceRemoteWakeup then { x.handled with gadget := g }
  else if wValue = usbDeviceBHnpEnable then { x.handled with gadget := { g with bHnpEnable := true } }
  else if wValue = usbDeviceAHnpSupport then
    { x.handled with gadget := { g with aHnpSupport := true } }
  else if wValue = usbDeviceAAltHnpSupport then
    { x.handled with gadget := { g with aAltHnpSupport := true } }
  else x.unsupported

/-- SET_FEATURE for an endpoint, which halts it.  The control endpoint is refused. -/
def setEndpointHalt (x : Input) (wIndex : BitVec 8) : Handled :=
  match x.find wIndex with
  | some i => if i = 0 then x.unsupported else { x.handled with halt := some (i, true) }
  | none => x.unsupported

/-- CLEAR_FEATURE for the device. -/
def clearDeviceFeature (x : Input) (wValue : Nat) : Handled :=
  if wValue = usbDeviceRemoteWakeup then
    { x.handled with gadget :=
        { x.gadget with devstatus := x.gadget.devstatus &&& ~~~(1#16 <<< wValue) } }
  else x.unsupported

/-- CLEAR_FEATURE for an endpoint, which ends its halt unless it is wedged. -/
def clearEndpointHalt (x : Input) (wIndex : BitVec 8) : Handled :=
  match x.find wIndex with
  | some i => { x.handled with halt := if x.wedged i then none else some (i, false) }
  | none => x.unsupported

/-- GET_STATUS for the device, an interface or an endpoint, with the first byte of the status. -/
def getStatus (x : Input) (status : Option Byte) : Handled :=
  let len := x.length.toNat
  match if 0 < len then status else some 0 with
  | some b =>
      { x.handled with
        progress := ⟨0, BitVec.ofNat 32 (min 2 len)⟩
        data := (if 0 < len then [b] else []) ++ (if 1 < len then [0] else []) }
  | none => x.unsupported

/-- Source: `vudc_transfer.c`, `handle_control_request`. -/
def handleControlRequest (x : Input) (setup : CtrlRequest) : Handled :=
  let wValue := setup.wValue.toNat
  let wIndex := setup.wIndex.setWidth 8
  if setup.bRequest = usbReqSetAddress then
    if setup.bRequestType = devRequest then
      { x.handled with gadget := { x.gadget with address := wValue } }
    else x.unhandled
  else if setup.bRequest = usbReqSetFeature then
    if setup.bRequestType = devRequest then setDeviceFeature x wValue
    else if setup.bRequestType = epRequest then setEndpointHalt x wIndex
    else x.unhandled
  else if setup.bRequest = usbReqClearFeature then
    if setup.bRequestType = devRequest then clearDeviceFeature x wValue
    else if setup.bRequestType = epRequest then clearEndpointHalt x wIndex
    else x.unhandled
  else if setup.bRequest = usbReqGetStatus then
    if setup.bRequestType = epInrequest then
      getStatus x ((x.find wIndex).map fun i => if x.halted i then 1 else 0)
    else if setup.bRequestType = devInrequest then
      getStatus x (some (x.gadget.devstatus.setWidth 8))
    else if setup.bRequestType = intfInrequest then getStatus x (some 0)
    else x.unhandled
  else x.unhandled

/-! ## The state -/

structure State where
  dev : Device.State
  /-- `wedged` of an endpoint. -/
  wedged : Nat → Bool := fun _ => false
  /-- `bEndpointAddress` in `ep->desc` of an endpoint. -/
  desc : Nat → Option (BitVec 8) := fun _ => none
  /-- `udc->driver` is not NULL. -/
  driver : Bool := false
  gadget : Gadget := {}
  /-- The setup packet of a `urbp`. -/
  setupPacket : Nat → CtrlRequest := fun _ => ⟨0, 0, 0, 0⟩

/-- The control endpoint and 15 in each direction.
Source: `vudc_dev.c`. -/
def virtualEndpoints : Nat := 1 + 15 + 15

/-- Source: `vudc_dev.c`, `vudc_find_endpoint`. -/
def vudcFindEndpoint (s : State) (address : BitVec 8) : Option Nat :=
  if address &&& ~~~(0x80#8) = 0 then some 0
  else (List.range' 1 (virtualEndpoints - 1)).find? fun i => s.desc i = some address

/-- What a control request finds: `v_timer` has just ended the halt of the control endpoint. -/
def input (s : State) (p : Urbp) : Input where
  gadget := s.gadget
  find := vudcFindEndpoint s
  halted i := if i = 0 then false else (s.dev.ep i).halted
  wedged := s.wedged
  length := p.transferBufferLength
  progress := ⟨p.status, p.actualLength⟩

def Handled.setHalted (c : Handled) (d : Device.State) : Device.State :=
  match c.halt with
  | some (i, halted) => Flow.setHalted i halted d
  | none => d

/-- One iteration of the loop of `v_timer`. -/
def visit (allocOk : Bool) (s : State) : Option State :=
  match s.dev.timer with
  | .visit (some n) total =>
      match s.dev.urbQueue.find? (fun p => p.ticket = n) with
      | none => none
      | some p =>
          if Flow.handlesControl s.dev total p.toUrbp then
            let c := handleControlRequest (input s p.toUrbp) (s.setupPacket n)
            (Device.stepTimer s.dev (.visit allocOk c.ret c.progress)).map fun d =>
              { s with dev := c.setHalted d, gadget := c.gadget }
          else
            (Device.stepTimer s.dev (.visit allocOk 0 ⟨p.status, p.actualLength⟩)).map fun d =>
              { s with dev := d }
  | _ => (Device.stepTimer s.dev (.visit allocOk 0 ⟨0, 0⟩)).map fun d => { s with dev := d }

/-! ## The gadget driver -/

/-- Source: `vudc_dev.c`, `vep_enable`. -/
def vepEnable (i : Nat) (type : XferType) (address : BitVec 8) (s : State) : State :=
  if i ≠ 0 ∧ s.desc i = none ∧ s.driver then
    { s with
      dev := Flow.setEp i (fun e => { e with type, halted := false }) s.dev
      wedged := Function.update s.wedged i false
      desc := Function.update s.desc i (some address) }
  else s

/-- Source: `vudc_dev.c`, `vep_disable`. -/
def vepDisable (i : Nat) (s : State) : State :=
  if i = 0 ∨ s.desc i = none then s else { s with desc := Function.update s.desc i none }

/-- The endpoint sends to the host. -/
def sendsToHost (i : Nat) (s : State) : Bool :=
  match s.desc i with
  | some address => address &&& 0x80 ≠ 0
  | none => false

/-- `empty` says whether no request is queued on the endpoint.
Source: `vudc_dev.c`, `vep_set_halt_and_wedge`. -/
def vepSetHaltAndWedge (i : Nat) (value wedged empty : Bool) (s : State) : State :=
  if ¬ s.driver then s
  else if ¬ value then
    { s with dev := Flow.setHalted i false s.dev, wedged := Function.update s.wedged i false }
  else if sendsToHost i s ∧ ¬ empty then s
  else { s with
    dev := Flow.setHalted i true s.dev
    wedged := if wedged then Function.update s.wedged i true else s.wedged }

/-- Source: `vudc_dev.c`, `vep_set_halt`. -/
def vepSetHalt (i : Nat) (value empty : Bool) (s : State) : State :=
  vepSetHaltAndWedge i value false empty s

/-- Source: `vudc_dev.c`, `vep_set_wedge`. -/
def vepSetWedge (i : Nat) (empty : Bool) (s : State) : State :=
  vepSetHaltAndWedge i true true empty s

/-! ## The machine -/

inductive Action
  /-- `usbip_event_add` from anywhere. -/
  | eventAdd
  /-- `store_sockfd`. -/
  | connect (now : Int)
  /-- `vgadget_udc_start` and `vgadget_udc_stop`. -/
  | bind (driver : Bool)
  /-- `vgadget_pullup`. -/
  | pullup (speed : Speed)
  | enable (i : Nat) (type : XferType) (address : BitVec 8)
  | disable (i : Nat)
  | setHalt (i : Nat) (value empty : Bool)
  | setWedge (i : Nat) (empty : Bool)
  /-- One iteration of the loop of `v_timer`. -/
  | visit (allocOk : Bool)
  /-- The other steps of `v_timer`. -/
  | timer (a : Device.TimerAction)
  /-- CMD_SUBMIT `n` for an endpoint address, up to its payload. -/
  | cmdSubmit (n : Seqnum) (address : BitVec 8) (length : BitVec 32) (setup : CtrlRequest)
  /-- The other steps of the receiving thread. -/
  | rx (a : Device.RxAction)
  | tx (a : Device.TxAction)
  | eh (a : Device.EhAction)

/-- `v_recv_cmd_submit` up to the payload.
Source: `vudc_rx.c`, `v_recv_cmd_submit`. -/
def cmdSubmit (n : Seqnum) (address : BitVec 8) (length : BitVec 32) (setup : CtrlRequest)
    (s : State) : Option State :=
  match vudcFindEndpoint s address with
  | some i =>
      (Device.stepRx s.dev (.cmdSubmit n i length)).map fun d =>
        { s with dev := d, setupPacket := Function.update s.setupPacket s.dev.allocs setup }
  | none => do
      let d ← Device.stepRx s.dev (.cmdSubmit n 0 length)
      let d ← Device.stepRx d (.submitFail true)
      some { s with dev := d }

/-- `stop_activity` begins with the address. -/
def stopAddress (a : Device.EhAction) (s : State) : Gadget :=
  match a, s.dev.eh with
  | .lock, .lock _ => { s.gadget with address := 0 }
  | _, _ => s.gadget

/-- The state an action leads to. -/
def step (s : State) : Action → Option State
  | .eventAdd => (Device.step s.dev .eventAdd).map fun d => { s with dev := d }
  | .connect now => (Device.step s.dev (.connect now)).map fun d => { s with dev := d }
  | .bind driver => if s.dev.lockFree then some { s with driver } else none
  | .pullup speed => if s.dev.lockFree then some { s with dev := { s.dev with speed } } else none
  | .enable i type address => if s.dev.lockFree then some (vepEnable i type address s) else none
  | .disable i => if s.dev.lockFree then some (vepDisable i s) else none
  | .setHalt i value empty =>
      if s.dev.lockFree then some (vepSetHalt i value empty s) else none
  | .setWedge i empty => if s.dev.lockFree then some (vepSetWedge i empty s) else none
  | .visit allocOk => visit allocOk s
  | .timer (.visit _ _ _) => none
  | .timer a => (Device.stepTimer s.dev a).map fun d => { s with dev := d }
  | .cmdSubmit n address length setup =>
      if s.dev.lockFree then cmdSubmit n address length setup s else none
  | .rx (.cmdSubmit _ _ _) => none
  | .rx a => (Device.stepRx s.dev a).map fun d => { s with dev := d }
  | .tx a => (Device.stepTx s.dev a).map fun d => { s with dev := d }
  | .eh a => (Device.stepEh s.dev a).map fun d => { s with dev := d, gadget := stopAddress a s }

/-- A new device. -/
def machine : Machine State Action where
  init s := s = { dev := { ep := fun _ => { type := .control }, speed := .unknown } }
  step := step

/-- A new device is a start of the machine. -/
lemma init_new : machine.init { dev := { ep := fun _ => { type := .control }, speed := .unknown } } :=
  rfl

/-! ## What a step does to the two flags -/

variable {s t : State} {a : Action} {i j : Nat}

/-- A control request ends no halt of a wedged endpoint. -/
lemma handleControlRequest_halt (x : Input) (setup : CtrlRequest)
    (h : (handleControlRequest x setup).halt = some (i, false)) : x.wedged i = false := by
  have hset : ∀ n, (setDeviceFeature x n).halt = none := by
    intro n
    unfold setDeviceFeature
    dsimp only
    split_ifs <;> rfl
  have hclear : ∀ n, (clearDeviceFeature x n).halt = none := by
    intro n
    unfold clearDeviceFeature
    split_ifs <;> rfl
  have hstatus : ∀ b, (getStatus x b).halt = none := by
    intro b
    unfold getStatus
    dsimp only
    split <;> rfl
  unfold handleControlRequest at h
  dsimp only at h
  split at h
  · split at h <;> cases h
  split at h
  · split at h
    · rw [hset] at h
      cases h
    split at h
    · unfold setEndpointHalt at h
      split at h
      · split at h <;> cases h
      · cases h
    · cases h
  split at h
  · split at h
    · rw [hclear] at h
      cases h
    split at h
    · unfold clearEndpointHalt at h
      split at h
      · rename_i k _
        cases hwedged : x.wedged k with
        | true =>
            rw [hwedged] at h
            cases h
        | false =>
            rw [hwedged] at h
            obtain rfl : k = i := congrArg Prod.fst (Option.some.inj h)
            exact hwedged
      · cases h
    · cases h
  split at h
  · split at h
    · rw [hstatus] at h
      cases h
    split at h
    · rw [hstatus] at h
      cases h
    split at h
    · rw [hstatus] at h
      cases h
    · cases h
  · cases h

/-- The gadget driver ends the halt of an endpoint: by `set_halt(0)` or by enabling it again. -/
def Action.endsHalt (i : Nat) : Action → Prop
  | .setHalt j value _ => j = i ∧ value = false
  | .enable j _ _ => j = i
  | _ => False

/-- What a step does to the two flags of an endpoint. -/
inductive Change (a : Action) (s t : State) (i : Nat) : Prop
  | keeps : (t.dev.ep i).halted = (s.dev.ep i).halted → t.wedged i = s.wedged i → Change a s t i
  | halts : (t.dev.ep i).halted = true → Change a s t i
  /-- The gadget driver ends the halt. -/
  | ends : a.endsHalt i → t.wedged i = false → Change a s t i
  /-- The host ends the halt. -/
  | clears : s.wedged i = false → t.wedged i = false → Change a s t i

/-- The timer writes no halt but that of endpoint zero. -/
lemma unwritten_halted (hi : i ≠ 0) : Flow.Unwritten Vep.halted i :=
  ⟨fun _ _ _ => rfl, fun h => absurd h hi⟩

/-- Halting one endpoint leaves the others. -/
lemma halted_setHalted (j i : Nat) (halted : Bool) (d : Device.State) :
    ((Flow.setHalted j halted d).ep i).halted = if j = i then halted else (d.ep i).halted := by
  show (Function.update d.ep j _ i).halted = _
  by_cases hij : j = i
  · subst hij
    rw [Function.update_self, if_pos rfl]
  · rw [Function.update_of_ne (Ne.symm hij), if_neg hij]

/-- A control request halts an endpoint, or ends a halt that is no wedge. -/
lemma change_control {d : Device.State} {x : Input} {setup : CtrlRequest}
    (hx : x.wedged = s.wedged) (hd : (d.ep i).halted = (s.dev.ep i).halted) :
    Change a s { s with
      dev := (handleControlRequest x setup).setHalted d
      gadget := (handleControlRequest x setup).gadget } i := by
  have hkeeps : ((handleControlRequest x setup).setHalted d).ep i = d.ep i →
      Change a s { s with
        dev := (handleControlRequest x setup).setHalted d
        gadget := (handleControlRequest x setup).gadget } i := by
    intro hsame
    refine .keeps ?_ rfl
    show (((handleControlRequest x setup).setHalted d).ep i).halted = _
    rw [hsame, hd]
  cases hhalt : (handleControlRequest x setup).halt with
  | none =>
      refine hkeeps ?_
      unfold Handled.setHalted
      rw [hhalt]
  | some target =>
      obtain ⟨j, halted⟩ := target
      have hdev : (handleControlRequest x setup).setHalted d = Flow.setHalted j halted d := by
        unfold Handled.setHalted
        rw [hhalt]
      by_cases hij : j = i
      · subst hij
        cases halted with
        | true =>
            refine .halts ?_
            show (((handleControlRequest x setup).setHalted d).ep j).halted = true
            rw [hdev, halted_setHalted, if_pos rfl]
        | false =>
            have hwedged : s.wedged j = false := hx ▸ handleControlRequest_halt x setup hhalt
            exact .clears hwedged hwedged
      · refine hkeeps ?_
        rw [hdev]
        exact Function.update_of_ne (Ne.symm hij) _ _

/-- A visit changes a halt only on the host's request. -/
lemma change_visit (hi : i ≠ 0) {allocOk : Bool} (h : visit allocOk s = some t) :
    Change a s t i := by
  unfold visit at h
  split at h
  · split at h
    · cases h
    split at h
    · obtain ⟨d, hd, rfl⟩ := Option.map_eq_some_iff.mp h
      exact change_control rfl ((unwritten_halted hi).stepTimer hd)
    · obtain ⟨d, hd, rfl⟩ := Option.map_eq_some_iff.mp h
      exact .keeps ((unwritten_halted hi).stepTimer hd) rfl
  · obtain ⟨d, hd, rfl⟩ := Option.map_eq_some_iff.mp h
    exact .keeps ((unwritten_halted hi).stepTimer hd) rfl

/-- An enable clears the endpoint's halt. -/
lemma change_enable (j : Nat) (type : XferType) (address : BitVec 8) (s : State) (i : Nat) :
    Change (.enable j type address) s (vepEnable j type address s) i := by
  unfold vepEnable
  split
  · by_cases hij : j = i
    · subst hij
      exact .ends rfl (Function.update_self _ _ _)
    · refine .keeps ?_ (Function.update_of_ne (Ne.symm hij) _ _)
      show (Function.update s.dev.ep j _ i).halted = _
      rw [Function.update_of_ne (Ne.symm hij)]
  · exact .keeps rfl rfl

/-- `vep_set_halt_and_wedge` changes only the halt of its own endpoint. -/
lemma change_setHaltAndWedge {value wedged : Bool} (empty : Bool) (s : State)
    (ha : i = j → value = false → a.endsHalt i) :
    Change a s (vepSetHaltAndWedge j value wedged empty s) i := by
  unfold vepSetHaltAndWedge
  split
  · exact .keeps rfl rfl
  split
  · rename_i hvalue
    by_cases hij : j = i
    · subst hij
      exact .ends (ha rfl (by simpa using hvalue)) (Function.update_self _ _ _)
    · refine .keeps ?_ (Function.update_of_ne (Ne.symm hij) _ _)
      exact (halted_setHalted j i false s.dev).trans (if_neg hij)
  split
  · exact .keeps rfl rfl
  · by_cases hij : j = i
    · subst hij
      exact .halts ((halted_setHalted j j true s.dev).trans (if_pos rfl))
    · refine .keeps ((halted_setHalted j i true s.dev).trans (if_neg hij)) ?_
      dsimp only
      split
      · exact Function.update_of_ne (Ne.symm hij) _ _
      · rfl

/-- A step that leaves the endpoints changes no halt. -/
lemma change_other {d : Device.State} {gadget : Gadget} {setupPacket : Nat → CtrlRequest}
    (hd : d.ep = s.dev.ep) : Change a s { s with dev := d, gadget, setupPacket } i := by
  refine .keeps ?_ rfl
  show (d.ep i).halted = _
  rw [hd]

/-- A submit changes no halt. -/
lemma change_cmdSubmit {n : Seqnum} {address : BitVec 8} {length : BitVec 32} {setup : CtrlRequest}
    (h : cmdSubmit n address length setup s = some t) : Change a s t i := by
  unfold cmdSubmit at h
  split at h
  · obtain ⟨d, hd, rfl⟩ := Option.map_eq_some_iff.mp h
    exact change_other (Flow.other_stepRx hd).ep
  · obtain ⟨d, hd, h⟩ := Option.bind_eq_some_iff.mp h
    obtain ⟨d', hd', h⟩ := Option.bind_eq_some_iff.mp h
    cases h
    exact change_other ((Flow.other_stepRx hd').ep.trans (Flow.other_stepRx hd).ep)

/-- Every step, for an endpoint other than the control endpoint. -/
theorem change_step (hi : i ≠ 0) (h : step s a = some t) : Change a s t i := by
  cases a with
  | eventAdd =>
      cases h
      exact .keeps rfl rfl
  | connect now =>
      obtain ⟨d, hd, rfl⟩ := Option.map_eq_some_iff.mp h
      exact change_other (Flow.other_connect hd).ep
  | bind driver =>
      simp only [step] at h
      split at h <;> cases h
      exact .keeps rfl rfl
  | pullup speed =>
      simp only [step] at h
      split at h <;> cases h
      exact .keeps rfl rfl
  | enable j type address =>
      simp only [step] at h
      split at h <;> cases h
      exact change_enable j type address s i
  | disable j =>
      simp only [step] at h
      split at h <;> cases h
      unfold vepDisable
      split <;> exact .keeps rfl rfl
  | setHalt j value empty =>
      simp only [step] at h
      split at h <;> cases h
      exact change_setHaltAndWedge empty s fun hij hvalue => ⟨hij.symm, hvalue⟩
  | setWedge j empty =>
      simp only [step] at h
      split at h <;> cases h
      exact change_setHaltAndWedge empty s fun _ hvalue => (by cases hvalue)
  | visit allocOk => exact change_visit hi h
  | timer a =>
      cases a with
      | visit => cases h
      | start | setup | giveback | resume | transferred =>
          obtain ⟨d, hd, rfl⟩ := Option.map_eq_some_iff.mp h
          exact .keeps ((unwritten_halted hi).stepTimer hd) rfl
  | cmdSubmit n address length setup =>
      simp only [step] at h
      split at h
      · exact change_cmdSubmit h
      · cases h
  | rx a =>
      cases a with
      | cmdSubmit => cases h
      | top | fail | cmdUnlink | queue | submitFail =>
          obtain ⟨d, hd, rfl⟩ := Option.map_eq_some_iff.mp h
          exact change_other (Flow.other_stepRx hd).ep
  | tx a =>
      obtain ⟨d, hd, rfl⟩ := Option.map_eq_some_iff.mp h
      exact change_other (Flow.other_stepTx hd).ep
  | eh a =>
      obtain ⟨d, hd, rfl⟩ := Option.map_eq_some_iff.mp h
      exact change_other (Flow.other_stepEh hd).ep

/-! ## Wedged endpoints stay halted -/

/-- Every wedged endpoint other than the control endpoint is halted. -/
def WedgedHalted (s : State) : Prop :=
  ∀ i, i ≠ 0 → s.wedged i = true → (s.dev.ep i).halted = true

/-- A wedged endpoint is halted after every step. -/
lemma wedgedHalted_step (hs : WedgedHalted s) (h : step s a = some t) : WedgedHalted t := by
  intro i hi hwedged
  rcases change_step hi h with ⟨hhalted, hsame⟩ | hhalted | ⟨-, hend⟩ | ⟨-, hend⟩
  · rw [hhalted]
    exact hs i hi (hsame ▸ hwedged)
  · exact hhalted
  · rw [hend] at hwedged
    cases hwedged
  · rw [hend] at hwedged
    cases hwedged

/-- A wedged endpoint other than the control endpoint is halted, and stops being halted only by the
gadget driver's `set_halt(0)` or by being enabled again.  A control request ends no halt of any
wedged endpoint. -/
theorem wedged_until_gadget (hs : machine.Reachable s) :
    (∀ i, i ≠ 0 → s.wedged i = true → (s.dev.ep i).halted = true) ∧
    (∀ a t i, i ≠ 0 → step s a = some t → s.wedged i = true → (t.dev.ep i).halted = false →
      a.endsHalt i) ∧
    ∀ p setup i, s.wedged i = true → (handleControlRequest (input s p) setup).halt ≠ some (i, false) := by
  have hhalted : WedgedHalted s := by
    refine hs.invariant (I := WedgedHalted) ?_ fun s a t hs _ h => wedgedHalted_step hs h
    rintro s rfl i _ hwedged
    cases hwedged
  refine ⟨hhalted, fun a t i hi h hwedged hend => ?_, fun p setup i hwedged hhalt => ?_⟩
  · rcases change_step hi h with ⟨hkeep, -⟩ | hhalts | ⟨hends, -⟩ | ⟨hclear, -⟩
    · rw [hkeep, hhalted i hi hwedged] at hend
      cases hend
    · rw [hhalts] at hend
      cases hend
    · exact hends
    · rw [hwedged] at hclear
      cases hclear
  · have hclear : s.wedged i = false := handleControlRequest_halt (input s p) setup hhalt
    rw [hwedged] at hclear
    cases hclear

/-- Endpoint 1, at address 1, is wedged, and the host asks to end its halt. -/
def clearedRun : List Action :=
  [.bind true, .pullup .high, .enable 1 .bulk 1, .setWedge 1 true, .connect 0,
    .rx .top, .cmdSubmit 7 0 0 ⟨epRequest, usbReqClearFeature, 0, 1⟩, .rx .queue,
    .timer (.start 1), .visit true, .timer (.transferred true 0 ⟨0, 0⟩)]

/-- The request has been answered, and the endpoint is wedged and halted. -/
theorem wedged_until_gadget_clearedRun : ∃ s : State,
    (s.dev.txQueue.length = 1 ∧ s.wedged 1 = true) ∧ (s.dev.ep 1).halted = true := by
  have hrun : ∃ s : State, machine.Reachable s ∧
      (s.dev.txQueue.length = 1 ∧ s.wedged 1 = true) :=
    Machine.Reach.of_perform clearedRun init_new (by decide +kernel)
  obtain ⟨s, hs, hreplied⟩ := hrun
  exact ⟨s, hreplied, (wedged_until_gadget hs).1 1 (by decide) hreplied.2⟩

end Usbip.Vudc.Wedge
