import Usbip.Core.Machine
import Usbip.Common.Basic

/-!
# Connecting an exported device

`store_sockfd` of the stub and of the vudc, called any number of times at once.  A call finds the
device available and links its socket in one section under `ud->lock`, starts the receiving and the
sending thread without a lock, and marks the device used in a second section.  The device stays
available in between, so another call can pass the same test (`two_connections`).  When no call does,
and the event work does not shut the connection down under a call, at most one call succeeds between
two resets, and socket and threads are its own (`one_connection`).

The call with socket number -1, which adds the DOWN event, is left out: the operations that the
event work runs for it may come at any time.
-/

namespace Usbip.Export

open Usbip.Core Usbip.Common

/-- The drivers that export devices. -/
inductive Exporter
  | stub
  | vudc
  deriving DecidableEq

/-- What the first section of `store_sockfd` meets outside the driver's own state. -/
inductive Outcome
  /-- No gadget is bound (vudc). -/
  | notBound
  /-- `sockfd_lookup` finds no socket. -/
  | noSocket
  /-- There is a socket, and `usbip_trx_ops->link` fails. -/
  | notLinked
  | linked
  deriving DecidableEq

/-- The position of a call of `store_sockfd`. -/
inductive StorePc
  | idle
  /-- Past the first section, the socket being linked. -/
  | linked
  | rxStarted
  | txStarted
  | returned (ok : Bool)
  deriving DecidableEq

/-- The call is between its two sections. -/
def StorePc.Midway (pc : StorePc) : Prop := pc = .linked ∨ pc = .rxStarted ∨ pc = .txStarted

instance (pc : StorePc) : Decidable pc.Midway := inferInstanceAs (Decidable (_ ∨ _))

/-- The exported device; sockets and threads are named by the call they come from. -/
structure State (ι : Type*) where
  status : UsbipDeviceStatus := .sdevAvailable
  /-- `udc->connected`. -/
  connected : Bool := false
  tcpSocket : Option ι := none
  tcpRx : Option ι := none
  tcpTx : Option ι := none
  calls : ι → StorePc := fun _ => .idle
  /-- The calls that have succeeded since the last reset. -/
  succeeded : List ι := []
  /-- The connection has been shut down since the last call has succeeded. -/
  shut : Bool := false

inductive Action (ι : Type*)
  /-- The first section of a call. -/
  | check (t : ι) (o : Outcome)
  | startRx (t : ι)
  | startTx (t : ι)
  /-- The last section of a call, and its return. -/
  | finish (t : ι)
  /-- The operations of `eh_ops`; `ok` tells whether `usb_reset_device` has succeeded. -/
  | shutdown
  | reset (ok : Bool)
  | unusable
  deriving DecidableEq

variable {ι : Type*} [DecidableEq ι]

/-- Move a call. -/
def State.goto (s : State ι) (t : ι) (pc : StorePc) : State ι :=
  { s with calls := Function.update s.calls t pc }

/-- Source: `stub_dev.c`, `store_sockfd`. -/
def stubStoreCheck (t : ι) (o : Outcome) (s : State ι) : Option (State ι) :=
  if s.status ≠ .sdevAvailable then some (s.goto t (.returned false))
  else
    match o with
    | .notBound => none
    | .noSocket => some { s.goto t (.returned false) with tcpSocket := none }
    | .notLinked => some { s.goto t (.returned false) with tcpSocket := some t }
    | .linked => some { s.goto t .linked with tcpSocket := some t }

/-- Source: `vudc_sysfs.c`, `store_sockfd`. -/
def vudcStoreCheck (t : ι) (o : Outcome) (s : State ι) : Option (State ι) :=
  if o = .notBound then some (s.goto t (.returned false))
  else if s.connected then some (s.goto t (.returned false))
  else if s.status ≠ .sdevAvailable then some (s.goto t (.returned false))
  else
    match o with
    | .notBound | .noSocket => some (s.goto t (.returned false))
    | .notLinked => some { s.goto t (.returned false) with tcpSocket := some t }
    | .linked => some { s.goto t .linked with tcpSocket := some t }

def storeCheck : Exporter → ι → Outcome → State ι → Option (State ι)
  | .stub => stubStoreCheck
  | .vudc => vudcStoreCheck

/-- The last section, which in the vudc also sets `udc->connected`. -/
def storeFinish (x : Exporter) (t : ι) (s : State ι) : State ι :=
  { s.goto t (.returned true) with
    status := .sdevUsed
    connected := s.connected || x = .vudc
    succeeded := s.succeeded ++ [t]
    shut := false }

/-- The state an action leads to. -/
def step (x : Exporter) (s : State ι) : Action ι → Option (State ι)
  | .check t o => if s.calls t = .idle then storeCheck x t o s else none
  | .startRx t =>
      if s.calls t = .linked then some { s.goto t .rxStarted with tcpRx := some t } else none
  | .startTx t =>
      if s.calls t = .rxStarted then some { s.goto t .txStarted with tcpTx := some t } else none
  | .finish t => if s.calls t = .txStarted then some (storeFinish x t s) else none
  | .shutdown =>
      some { s with tcpSocket := none, tcpRx := none, tcpTx := none, connected := false, shut := true }
  | .reset ok =>
      let status := if x = .stub ∧ ok = false then .sdevError else .sdevAvailable
      some { s with status, succeeded := [] }
  | .unusable => some { s with status := .sdevError }

/-- The device is available, and no call has been made. -/
def machine (x : Exporter) : Machine (State ι) (Action ι) where
  init s := s = {}
  step := step x

/-! ## One call at a time -/

/-- While a call is between its two sections no other call finds the device available, and the
connection is not shut down. -/
def OneAtATime (s : State ι) : Action ι → Prop
  | .check _ _ => s.status = .sdevAvailable → ∀ t, ¬ (s.calls t).Midway
  | .shutdown => ∀ t, ¬ (s.calls t).Midway
  | _ => True

instance [Fintype ι] (s : State ι) (a : Action ι) : Decidable (OneAtATime s a) := by
  unfold OneAtATime
  split <;> infer_instance

/-- Socket and threads are those of the call. -/
def State.BelongsTo (s : State ι) (t : ι) : Prop :=
  s.tcpSocket = some t ∧ s.tcpRx = some t ∧ s.tcpTx = some t

/-- One call connects the device, and owns what it has set so far. -/
structure Exclusive (s : State ι) : Prop where
  one : ∀ t t', (s.calls t).Midway → (s.calls t').Midway → t = t'
  socket : ∀ t, (s.calls t).Midway → s.tcpSocket = some t
  rx : ∀ t, s.calls t = .rxStarted ∨ s.calls t = .txStarted → s.tcpRx = some t
  tx : ∀ t, s.calls t = .txStarted → s.tcpTx = some t
  fresh : s.status = .sdevAvailable ∨ (∃ t, (s.calls t).Midway) → s.succeeded = []
  succeeded : s.succeeded.length ≤ 1
  belongs : s.shut = false → ∀ t ∈ s.succeeded, s.BelongsTo t

namespace Exclusive

variable {x : Exporter} {s s' : State ι} {a : Action ι}

omit [DecidableEq ι] in
/-- Nobody has stored anything. -/
lemma start : Exclusive ({} : State ι) where
  one t _ h := by rcases h with h | h | h <;> cases h
  socket t h := by rcases h with h | h | h <;> cases h
  rx t h := by rcases h with h | h <;> cases h
  tx t h := by cases h
  fresh _ := rfl
  succeeded := Nat.zero_le _
  belongs _ t h := by cases h

/-- A call that has not passed the first section returns without success; it may have touched the
socket only if no other call is on its way. -/
lemma fail (hi : Exclusive s) {t : ι} (hidle : s.calls t = .idle) {socket : Option ι}
    (hsocket : socket = s.tcpSocket ∨ s.status = .sdevAvailable ∧ ∀ t, ¬ (s.calls t).Midway) :
    Exclusive { s.goto t (.returned false) with tcpSocket := socket } := by
  -- the calls on their way are those of before
  have hcalls : ∀ {t' pc}, Function.update s.calls t (.returned false) t' = pc →
      (∀ ok, pc ≠ .returned ok) → s.calls t' = pc := by
    intro t' pc h hpc
    by_cases ht : t' = t
    · subst ht
      rw [Function.update_self] at h
      exact absurd h.symm (hpc false)
    · rwa [Function.update_of_ne ht] at h
  have hmid : ∀ {t'}, (Function.update s.calls t (.returned false) t').Midway →
      (s.calls t').Midway := by
    rintro t' (h | h | h)
    · exact .inl (hcalls h (by simp))
    · exact .inr (.inl (hcalls h (by simp)))
    · exact .inr (.inr (hcalls h (by simp)))
  have hkeep : (∃ t, (s.calls t).Midway) → socket = s.tcpSocket := by
    rintro ⟨t', ht'⟩
    exact hsocket.resolve_right fun h => h.2 t' ht'
  refine ⟨fun t₁ t₂ h₁ h₂ => hi.one t₁ t₂ (hmid h₁) (hmid h₂), fun t' h => ?_, fun t' h => ?_,
    fun t' h => hi.tx t' (hcalls h (by simp)), fun h => ?_, hi.succeeded, fun hshut t' ht' => ?_⟩
  · rw [hkeep ⟨t', hmid h⟩]
    exact hi.socket t' (hmid h)
  · refine hi.rx t' ?_
    rcases h with h | h
    · exact .inl (hcalls h (by simp))
    · exact .inr (hcalls h (by simp))
  · refine hi.fresh ?_
    rcases h with h | ⟨t', h⟩
    · exact .inl h
    · exact .inr ⟨t', hmid h⟩
  · have hnil : socket = s.tcpSocket := by
      refine hsocket.resolve_right fun h => ?_
      have hmem : t' ∈ s.succeeded := ht'
      rw [hi.fresh (.inl h.1)] at hmem
      cases hmem
    rw [hnil]
    exact hi.belongs hshut t' ht'

/-- The call that finds the device available is the only one on its way. -/
lemma link (hi : Exclusive s) {t : ι} (havail : s.status = .sdevAvailable)
    (hnone : ∀ t, ¬ (s.calls t).Midway) :
    Exclusive { s.goto t .linked with tcpSocket := some t } := by
  have hself : ∀ {t'}, (Function.update s.calls t .linked t').Midway → t' = t := by
    intro t' h
    by_contra ht
    rw [Function.update_of_ne ht] at h
    exact hnone t' h
  have hlinked : ∀ {t' pc}, Function.update s.calls t .linked t' = pc → pc ≠ .linked →
      ¬ pc.Midway := by
    intro t' pc h hpc hmid
    have ht : t' ≠ t := by
      rintro rfl
      rw [Function.update_self] at h
      exact hpc h.symm
    rw [Function.update_of_ne ht] at h
    exact hnone t' (h ▸ hmid)
  refine ⟨fun t₁ t₂ h₁ h₂ => (hself h₁).trans (hself h₂).symm, fun t' h => ?_, fun t' h => ?_,
    fun t' h => absurd (.inr (.inr rfl)) (hlinked h (by simp)), fun _ => hi.fresh (.inl havail),
    hi.succeeded, fun _ t' ht' => ?_⟩
  · rw [hself h]
  · rcases h with h | h
    · exact absurd (.inr (.inl rfl)) (hlinked h (by simp))
    · exact absurd (.inr (.inr rfl)) (hlinked h (by simp))
  · have hmem : t' ∈ s.succeeded := ht'
    rw [hi.fresh (.inl havail)] at hmem
    cases hmem

/-- The call on its way goes on. -/
lemma goto_of_midway (hi : Exclusive s) {t : ι} {pc : StorePc} (hmid : (s.calls t).Midway)
    {rx tx : Option ι} (hrx : pc = .rxStarted ∨ pc = .txStarted → rx = some t)
    (htx : pc = .txStarted → tx = some t) :
    Exclusive { s.goto t pc with tcpRx := rx, tcpTx := tx } := by
  have hself : ∀ {t'}, (Function.update s.calls t pc t').Midway → t' = t := by
    intro t' h
    by_contra ht
    rw [Function.update_of_ne ht] at h
    exact ht (hi.one t' t h hmid)
  have hback : ∀ {t' pc'}, Function.update s.calls t pc t' = pc' → pc'.Midway →
      t' = t ∧ pc' = pc := by
    intro t' pc' h hmid'
    obtain rfl := hself (h ▸ hmid')
    rw [Function.update_self] at h
    exact ⟨rfl, h.symm⟩
  have hnil : s.succeeded = [] := hi.fresh (.inr ⟨t, hmid⟩)
  refine ⟨fun t₁ t₂ h₁ h₂ => (hself h₁).trans (hself h₂).symm, fun t' h => ?_, fun t' h => ?_,
    fun t' h => ?_, fun _ => hnil, hi.succeeded, fun _ t' ht' => ?_⟩
  · rw [hself h]
    exact hi.socket t hmid
  · rcases h with h | h
    · obtain ⟨rfl, hpc⟩ := hback h (.inr (.inl rfl))
      exact hrx (.inl hpc.symm)
    · obtain ⟨rfl, hpc⟩ := hback h (.inr (.inr rfl))
      exact hrx (.inr hpc.symm)
  · obtain ⟨rfl, hpc⟩ := hback h (.inr (.inr rfl))
    exact htx hpc.symm
  · have hmem : t' ∈ s.succeeded := ht'
    rw [hnil] at hmem
    cases hmem

/-- The call on its way succeeds. -/
lemma finish (hi : Exclusive s) {t : ι} (ht : s.calls t = .txStarted) :
    Exclusive (storeFinish x t s) := by
  have hmid : (s.calls t).Midway := .inr (.inr ht)
  have hnil : s.succeeded = [] := hi.fresh (.inr ⟨t, hmid⟩)
  have hnone : ∀ t', ¬ (Function.update s.calls t (.returned true) t').Midway := by
    intro t' h
    by_cases hne : t' = t
    · subst hne
      rw [Function.update_self] at h
      rcases h with h | h | h <;> cases h
    · rw [Function.update_of_ne hne] at h
      exact hne (hi.one t' t h hmid)
  refine ⟨fun t₁ _ h₁ => absurd h₁ (hnone t₁), fun t' h => absurd h (hnone t'), fun t' h => ?_,
    fun t' h => absurd (.inr (.inr h)) (hnone t'), fun h => ?_, ?_, fun _ t' ht' => ?_⟩
  · exact absurd (.inr h) (hnone t')
  · rcases h with h | ⟨t', h⟩
    · cases h
    · exact absurd h (hnone t')
  · simp [storeFinish, hnil]
  · have hmem : t' ∈ s.succeeded ++ [t] := ht'
    rw [hnil, List.nil_append, List.mem_singleton] at hmem
    subst hmem
    exact ⟨hi.socket t' hmid, hi.rx t' (.inr ht), hi.tx t' ht⟩

/-- The check lets nobody in who would not be alone. -/
theorem storeCheck (hi : Exclusive s) {t : ι} {o : Outcome} (hidle : s.calls t = .idle)
    (hok : OneAtATime s (.check t o)) (h : storeCheck x t o s = some s') : Exclusive s' := by
  have hfail : Exclusive (s.goto t (.returned false)) := hi.fail hidle (.inl rfl)
  cases x with
  | stub =>
      simp only [Export.storeCheck, stubStoreCheck] at h
      split at h
      · exact Option.some.inj h ▸ hfail
      · rename_i havail
        have havail : s.status = .sdevAvailable := not_not.mp havail
        cases o with
        | notBound => cases h
        | noSocket | notLinked =>
            exact Option.some.inj h ▸ hi.fail hidle (.inr ⟨havail, hok havail⟩)
        | linked => exact Option.some.inj h ▸ hi.link havail (hok havail)
  | vudc =>
      simp only [Export.storeCheck, vudcStoreCheck] at h
      split at h
      · exact Option.some.inj h ▸ hfail
      split at h
      · exact Option.some.inj h ▸ hfail
      split at h
      · exact Option.some.inj h ▸ hfail
      · rename_i havail
        have havail : s.status = .sdevAvailable := not_not.mp havail
        cases o with
        | notBound | noSocket => exact Option.some.inj h ▸ hfail
        | notLinked => exact Option.some.inj h ▸ hi.fail hidle (.inr ⟨havail, hok havail⟩)
        | linked => exact Option.some.inj h ▸ hi.link havail (hok havail)

/-- With one caller at a time every step keeps the connection exclusive. -/
theorem step (hi : Exclusive s) (hok : OneAtATime s a) (h : step x s a = some s') :
    Exclusive s' := by
  cases a with
  | check t o =>
      simp only [Export.step, Option.ite_none_right_eq_some] at h
      exact hi.storeCheck h.1 hok h.2
  | startRx t =>
      simp only [Export.step, Option.ite_none_right_eq_some] at h
      exact Option.some.inj h.2 ▸ hi.goto_of_midway (.inl h.1) (fun _ => rfl) (by simp)
  | startTx t =>
      simp only [Export.step, Option.ite_none_right_eq_some] at h
      exact Option.some.inj h.2 ▸
        hi.goto_of_midway (.inr (.inl h.1)) (fun _ => hi.rx t (.inl h.1)) (fun _ => rfl)
  | finish t =>
      simp only [Export.step, Option.ite_none_right_eq_some] at h
      exact Option.some.inj h.2 ▸ hi.finish h.1
  | shutdown =>
      obtain rfl := Option.some.inj h
      refine ⟨hi.one, fun t h => absurd h (hok t), fun t h => absurd (.inr h) (hok t),
        fun t h => absurd (.inr (.inr h)) (hok t), hi.fresh, hi.succeeded, fun hshut => ?_⟩
      cases hshut
  | reset ok =>
      obtain rfl := Option.some.inj h
      exact ⟨hi.one, hi.socket, hi.rx, hi.tx, fun _ => rfl, Nat.zero_le _,
        fun _ t ht => absurd ht List.not_mem_nil⟩
  | unusable =>
      obtain rfl := Option.some.inj h
      refine ⟨hi.one, hi.socket, hi.rx, hi.tx, fun h => ?_, hi.succeeded, hi.belongs⟩
      rcases h with h | h
      · cases h
      · exact hi.fresh (.inr h)

end Exclusive

/-- In every run in which no call finds the device available, and the connection is not shut down,
while a call is between its two sections, at most one call has succeeded since the last reset, and
until the connection is shut down socket and threads are its own. -/
theorem one_connection (x : Exporter) {s : State ι} (h : (machine x).Reach OneAtATime s) :
    s.succeeded.length ≤ 1 ∧ (s.shut = false → ∀ t ∈ s.succeeded,
      s.tcpSocket = some t ∧ s.tcpRx = some t ∧ s.tcpTx = some t) := by
  have hi : Exclusive s := by
    refine h.invariant (I := Exclusive) ?_ fun s a t hi hok hst => hi.step hok hst
    rintro s rfl
    exact .start
  exact ⟨hi.succeeded, hi.belongs⟩

/-- The steps of a call that connects. -/
def connect {ι : Type*} (t : ι) : List (Action ι) :=
  [.check t .linked, .startRx t, .startTx t, .finish t]

/-- A call connects the device, another one is refused, and a third one connects it again after a
reset. -/
def reconnectRun : List (Action (Fin 3)) :=
  connect 0 ++ [.check 1 .linked, .shutdown, .reset true] ++ connect 2

/-- A second store fails, and a third succeeds after a disconnect. -/
theorem one_connection_reconnectRun :
    ∃ s : State (Fin 3), (machine .stub).Reach OneAtATime s ∧ s.succeeded = [2] ∧
      s.calls 1 = .returned false ∧ s.succeeded.length ≤ 1 ∧ (s.shut = false →
        ∀ t ∈ s.succeeded, s.tcpSocket = some t ∧ s.tcpRx = some t ∧ s.tcpTx = some t) := by
  have hrun : ∃ s : State (Fin 3), (machine .stub).Reach OneAtATime s ∧
      (s.succeeded = [2] ∧ s.calls 1 = .returned false) := by
    apply Machine.Reach.of_perform reconnectRun (s := {}) rfl
    exact ⟨_, rfl, rfl, rfl⟩
  obtain ⟨s, hs, hsucceeded, hrefused⟩ := hrun
  exact ⟨s, hs, hsucceeded, hrefused, one_connection .stub hs⟩

/-- Two calls have succeeded, and the device has the socket and the receiving thread of one of them
and the sending thread of the other. -/
structure Mixed (s : State (Fin 2)) : Prop where
  succeeded : s.succeeded = [0, 1]
  socket : s.tcpSocket = some 1
  rx : s.tcpRx = some 1
  tx : s.tcpTx = some 0

/-- Both calls find the device available. -/
lemma exists_mixed (x : Exporter) : ∃ s, (machine x).Reachable s ∧ Mixed s := by
  apply Machine.Reach.of_perform
    [.check 0 .linked, .check 1 .linked, .startRx 0, .startRx 1, .startTx 1, .startTx 0, .finish 0,
     .finish 1] (s := {}) rfl
  cases x <;> exact ⟨_, rfl, rfl, rfl, rfl, rfl⟩

/-- So it is in the stub and in the vudc. -/
theorem two_connections :
    (∃ s, (machine .stub).Reachable s ∧ Mixed s) ∧ ∃ s, (machine .vudc).Reachable s ∧ Mixed s :=
  ⟨exists_mixed .stub, exists_mixed .vudc⟩

end Usbip.Export
