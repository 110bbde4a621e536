import Usbip.Export.StoreSockfd
import Usbip.Stub.Receive

/-!
# Requests that are there before the device is used

The stub's `store_sockfd` starts the receiving thread and marks the device used only after that.
The other side may have sent its first requests before: the port of vhci is attached before the
exporting side stores its socket.  `valid_request` turns such a request away while the device is
not yet used, and the connection is ended (`early_request_rejected`).  Requests that are checked
after the last section of `store_sockfd` are turned away only for a wrong devid
(`request_not_rejected`).
-/

namespace Usbip.Export

open Usbip.Core Usbip.Common Usbip.Stub

/-- The position of the receiving thread. -/
inductive RxPc
  | notStarted
  /-- At the head of `stub_rx_loop`. -/
  | top
  /-- In `stub_rx_pdu`, receiving a header. -/
  | header
  /-- At `valid_request`. -/
  | validate (pdu : Header)
  /-- The request is accepted and handled. -/
  | handle (pdu : Header)
  | stopped

/-- The stub device, one call of `store_sockfd` and the thread it starts. -/
structure Early where
  status : UsbipDeviceStatus := .sdevAvailable
  store : StorePc := .idle
  rx : RxPc := .notStarted
  /-- The requests that are waiting in the socket. -/
  socket : List Header := []
  /-- `usbip_event_happened`. -/
  event : Bool := false
  /-- The requests that `valid_request` has turned away. -/
  rejected : List Header := []

inductive EarlyAction
  /-- A request arrives at the socket. -/
  | arrive (pdu : Header)
  /-- The next step of `store_sockfd`. -/
  | store
  /-- The next step of the receiving thread; `event` tells whether handling a request adds one. -/
  | rx (event : Bool)

/-- Source: `stub_dev.c`, `store_sockfd`. -/
def storeSockfd (s : Early) : Option Early :=
  match s.store with
  | .idle =>
      if s.status ≠ .sdevAvailable then some { s with store := .returned false }
      else some { s with store := .linked }
  | .linked => some { s with store := .rxStarted, rx := .top }
  | .rxStarted => some { s with store := .txStarted }
  | .txStarted => some { s with store := .returned true, status := .sdevUsed }
  | .returned _ => none

/-- Source: `stub_rx.c`, `stub_rx_loop` and `stub_rx_pdu`. -/
def rxThread (env : Env) (event : Bool) (s : Early) : Option Early :=
  match s.rx with
  | .notStarted | .stopped => none
  | .top => some { s with rx := if s.event then .stopped else .header }
  | .header =>
      match s.socket with
      | [] => none
      | pdu :: socket => some { s with socket, rx := .validate pdu }
  | .validate pdu =>
      if validRequest { env with used := s.status = .sdevUsed } pdu then
        some { s with rx := .handle pdu }
      else some { s with rx := .top, event := true, rejected := s.rejected ++ [pdu] }
  | .handle _ => some { s with rx := .top, event := s.event || event }

/-- The state an action leads to. -/
def earlyStep (env : Env) (s : Early) : EarlyAction → Option Early
  | .arrive pdu => some { s with socket := s.socket ++ [pdu] }
  | .store => storeSockfd s
  | .rx event => rxThread env event s

/-- The device is available; any requests may be waiting in the socket. -/
def earlyMachine (env : Env) : Machine Early EarlyAction where
  init s := ∃ socket, s = { socket }
  step := earlyStep env

variable {env : Env} {s s' : Early} {a : EarlyAction}

/-- `valid_request` is not evaluated for a request with the right devid before the last section of
`store_sockfd`. -/
def CheckedLate (env : Env) (s : Early) : EarlyAction → Prop
  | .rx _ =>
      match s.rx with
      | .validate pdu => pdu.base.devid = env.devid → s.store = .returned true
      | _ => True
  | _ => True

instance (env : Env) (s : Early) (a : EarlyAction) : Decidable (CheckedLate env s a) := by
  unfold CheckedLate
  split
  · split <;> infer_instance
  · infer_instance

/-- When the call has returned with success the device is used. -/
structure Connected (env : Env) (s : Early) : Prop where
  used : s.store = .returned true → s.status = .sdevUsed
  rejected : ∀ pdu ∈ s.rejected, pdu.base.devid ≠ env.devid

/-- Storing the socket keeps the device connected. -/
lemma Connected.storeSockfd (hi : Connected env s) (h : storeSockfd s = some s') :
    Connected env s' := by
  unfold Export.storeSockfd at h
  split at h
  · split at h <;> obtain rfl := Option.some.inj h <;> exact ⟨by simp, hi.rejected⟩
  · obtain rfl := Option.some.inj h
    exact ⟨by simp, hi.rejected⟩
  · obtain rfl := Option.some.inj h
    exact ⟨by simp, hi.rejected⟩
  · obtain rfl := Option.some.inj h
    exact ⟨fun _ => rfl, hi.rejected⟩
  · cases h

/-- A request that is checked late enough keeps the device connected. -/
lemma Connected.rxThread {event : Bool} (hi : Connected env s)
    (hok : CheckedLate env s (.rx event)) (h : rxThread env event s = some s') :
    Connected env s' := by
  unfold Export.rxThread at h
  split at h
  · cases h
  · cases h
  · exact Option.some.inj h ▸ ⟨hi.used, hi.rejected⟩
  · split at h
    · cases h
    · exact Option.some.inj h ▸ ⟨hi.used, hi.rejected⟩
  · next pdu hrx =>
    split at h
    · exact Option.some.inj h ▸ ⟨hi.used, hi.rejected⟩
    · next hvalid =>
      obtain rfl := Option.some.inj h
      refine ⟨hi.used, fun p hp hdevid => ?_⟩
      rcases List.mem_append.mp hp with hp | hp
      · exact hi.rejected p hp hdevid
      · obtain rfl := List.mem_singleton.mp hp
        simp only [CheckedLate, hrx] at hok
        have hused := hi.used (hok hdevid)
        exact hvalid (by simp [validRequest, hdevid, hused])
  · exact Option.some.inj h ▸ ⟨hi.used, hi.rejected⟩

/-- In every run in which `valid_request` is evaluated after the last section of `store_sockfd`,
no request with the right devid is rejected as invalid. -/
theorem request_not_rejected (h : (earlyMachine env).Reach (CheckedLate env) s) :
    ∀ pdu ∈ s.rejected, pdu.base.devid ≠ env.devid := by
  refine (h.invariant (I := Connected env) ?_ fun s a t hi hok hst => ?_).rejected
  · rintro s ⟨socket, rfl⟩
    exact ⟨by simp, by simp⟩
  · cases a with
    | arrive pdu => exact Option.some.inj hst ▸ ⟨hi.used, hi.rejected⟩
    | store => exact hi.storeSockfd hst
    | rx event => exact hi.rxThread hok hst

/-- A device of which everything succeeds. -/
def exportedEnv : Env where
  kz := .all
  allocUrb := .all
  privOk := true
  unlinkOk := true
  udev := { devnum := 2, epIn := fun _ => none, epOut := fun _ => none }
  devid := 0x10002
  used := false
  pending _ := false
  submit _ := true

/-- A request for the device, which is waiting in the socket. -/
def waitingPdu : Header where
  base := { command := cmdSubmit, seqnum := 1, devid := 0x10002 }

/-- A request has been read and nothing rejected. -/
theorem request_not_rejected_waitingPdu :
    ∃ s, (earlyMachine exportedEnv).Reach (CheckedLate exportedEnv) s ∧
      s.rx = .handle waitingPdu ∧ ∀ pdu ∈ s.rejected, pdu.base.devid ≠ exportedEnv.devid := by
  have hrun : ∃ s, (earlyMachine exportedEnv).Reach (CheckedLate exportedEnv) s ∧
      s.rx = .handle waitingPdu := by
    apply Machine.Reach.of_perform (M := earlyMachine exportedEnv)
      [.store, .store, .rx false, .rx false, .store, .store, .rx false]
      (s := { socket := [waitingPdu] }) ⟨_, rfl⟩
    exact ⟨_, rfl, rfl⟩
  obtain ⟨s, hs, hrx⟩ := hrun
  exact ⟨s, hs, hrx, request_not_rejected hs⟩

/-- A request that is checked between the start of the receiving thread and the last section of
`store_sockfd` is turned away, and an event ends the connection. -/
theorem early_request_rejected :
    ∃ s, (earlyMachine exportedEnv).Reachable s ∧ s.event = true ∧
      waitingPdu ∈ s.rejected ∧ waitingPdu.base.command = cmdSubmit ∧
      waitingPdu.base.devid = exportedEnv.devid := by
  apply Machine.Reach.of_perform (M := earlyMachine exportedEnv)
    [.store, .store, .rx false, .rx false, .rx false]
    (s := { socket := [waitingPdu] }) ⟨_, rfl⟩
  exact ⟨_, rfl, rfl, by decide, rfl, rfl⟩

end Usbip.Export
