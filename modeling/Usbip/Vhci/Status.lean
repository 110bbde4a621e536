import Usbip.Vhci.Machine

/-!
# The status of a port

`vhci_urb_enqueue` looks at the status of the port in one section under `ud->lock` and, when a
SET_ADDRESS comes, writes it in another one.  `vhci->lock` is held throughout, which keeps
`store_attach` out; but `vhci_device_reset` and `vhci_device_unusable` take `ud->lock` alone and
can come in between.  The write then makes a port used that has just been released
(`released_port_used`), and that no attach will ever find free again.  When neither comes in between,
the status goes its way: a port is attached when it is free, used when it has been attached, and has
a device as long as it is used (`status_in_order`).

The machine is finer than the one of the whole driver: its steps are the sections under
`ud->lock`.
-/

namespace Usbip.Vhci

open Usbip.Core Usbip.Common

/-- How far a `vhci_urb_enqueue` is that holds `vhci->lock`. -/
inductive EnqueuePc
  | free
  /-- It has found the port active. -/
  | active (urb : Urb)
  /-- It has taken the device of a SET_ADDRESS, and is about to mark the port used. -/
  | setAddress
  deriving DecidableEq

/-- A port of the controller. -/
structure Port where
  status : VdevStatus := .null
  /-- `vdev->udev`. -/
  udev : Option Nat := none
  lock : EnqueuePc := .free
  deriving DecidableEq

inductive PortAction
  /-- `store_attach`, with both locks; `linkOk` tells whether `usbip_trx_ops->link` succeeds. -/
  | attach (linkOk : Bool)
  /-- `vhci_urb_enqueue` up to the end of its first section. -/
  | enqueue (urb : Urb)
  /-- `vhci_urb_enqueue` from there, `linkRet` being what `usb_hcd_link_urb_to_ep` returns. -/
  | dispatch (linkRet : Int)
  /-- The section of `vhci_urb_enqueue` that marks the port used, and the rest. -/
  | markUsed
  | reset
  | unusable
  deriving DecidableEq

/-- The request of a control URB.
Source: `<linux/usb/ch9.h>`, `bRequest`. -/
def bRequest (urb : Urb) : Option Byte :=
  if urb.pipe.type = .control then urb.setupPacket.bind (·[1]?) else none

/-- Source: `vhci_sysfs.c`, `store_attach`. -/
def storeAttach (linkOk : Bool) (s : Port) : Port :=
  if s.status ≠ .null then s
  else if ¬ linkOk then s
  else { s with status := .notassigned }

/-- From the start to the end of the first section.
Source: `vhci_hcd.c`, `vhci_urb_enqueue`. -/
def enqueueCheck (urb : Urb) (s : Port) : Port :=
  if urb.status ≠ -EINPROGRESS then s
  else if s.status = .null ∨ s.status = .error then s
  else { s with lock := .active urb }

/-- From `usb_hcd_link_urb_to_ep` to `vhci_tx_urb`, to an error or to the second section.
Source: `vhci_hcd.c`, `vhci_urb_enqueue`. -/
def enqueueDispatch (urb : Urb) (linkRet : Int) (s : Port) : Port :=
  let s := { s with lock := .free }
  if linkRet ≠ 0 then s
  else if urb.pipe.device ≠ 0 then s
  else if bRequest urb = some reqSetAddress then
    { s with udev := some urb.dev, lock := .setAddress }
  else if bRequest urb = some reqGetDescriptor then { s with udev := some urb.dev }
  else s

/-- Source: `vhci_hcd.c`, `vhci_device_reset`. -/
def vhciDeviceReset (s : Port) : Port :=
  { s with udev := none, status := .null }

/-- Source: `vhci_hcd.c`, `vhci_device_unusable`. -/
def vhciDeviceUnusable (s : Port) : Port :=
  { s with status := .error }

/-- The state an action leads to. -/
def portStep (s : Port) : PortAction → Option Port
  | .attach linkOk => if s.lock = .free then some (storeAttach linkOk s) else none
  | .enqueue urb => if s.lock = .free then some (enqueueCheck urb s) else none
  | .dispatch linkRet =>
      match s.lock with
      | .active urb => some (enqueueDispatch urb linkRet s)
      | _ => none
  | .markUsed =>
      match s.lock with
      | .setAddress => some { s with status := .used, lock := .free }
      | _ => none
  | .reset => some (vhciDeviceReset s)
  | .unusable => some (vhciDeviceUnusable s)

/-- A port as `vhci_device_init` leaves it. -/
def portMachine : Machine Port PortAction where
  init s := s = {}
  step := portStep

variable {s s' : Port} {a : PortAction}

/-! ## The condition -/

/-- The URB will set the address of a device. -/
def SetsAddress (urb : Urb) : Prop := urb.pipe.device = 0 ∧ bRequest urb = some reqSetAddress

instance (urb : Urb) : Decidable (SetsAddress urb) := inferInstanceAs (Decidable (_ ∧ _))

/-- A SET_ADDRESS is between the two sections of `vhci_urb_enqueue`. -/
def Port.Addressing (s : Port) : Prop :=
  match s.lock with
  | .free => False
  | .active urb => SetsAddress urb
  | .setAddress => True

instance (s : Port) : Decidable s.Addressing := by
  unfold Port.Addressing
  split <;> infer_instance

/-- The port is not released, nor made unusable, between the two sections. -/
def NotReleased (s : Port) : PortAction → Prop
  | .reset | .unusable => ¬ s.Addressing
  | _ => True

instance (s : Port) (a : PortAction) : Decidable (NotReleased s a) := by
  unfold NotReleased
  split <;> infer_instance

/-! ## The order of the states -/

/-- A used port has a device, and what the first section has found is still so. -/
structure InOrder (s : Port) : Prop where
  used : s.status = .used → s.udev ≠ none
  addressing : s.Addressing → s.status = .notassigned ∨ s.status = .used
  device : s.lock = .setAddress → s.udev ≠ none

/-- An attach keeps the order of the statuses. -/
lemma InOrder.storeAttach (hi : InOrder s) (hlock : s.lock = .free) (linkOk : Bool) :
    InOrder (storeAttach linkOk s) := by
  unfold Vhci.storeAttach
  split
  · exact hi
  split
  · exact hi
  · refine ⟨by simp, fun h => ?_, hi.device⟩
    simp [Port.Addressing, hlock] at h

/-- The check of `vhci_urb_enqueue` keeps the order. -/
lemma InOrder.enqueueCheck (hi : InOrder s) (urb : Urb) : InOrder (enqueueCheck urb s) := by
  unfold Vhci.enqueueCheck
  split
  · exact hi
  split
  · exact hi
  · next hactive =>
    refine ⟨hi.used, fun _ => ?_, by simp⟩
    dsimp only
    cases hstatus : s.status with
    | null => exact absurd (.inl hstatus) hactive
    | error => exact absurd (.inr hstatus) hactive
    | notassigned => exact .inl rfl
    | used => exact .inr rfl

/-- The rest of `vhci_urb_enqueue` keeps the order. -/
lemma InOrder.enqueueDispatch (hi : InOrder s) {urb : Urb} (hlock : s.lock = .active urb)
    (linkRet : Int) : InOrder (enqueueDispatch urb linkRet s) := by
  have hfree : InOrder { s with lock := .free } :=
    ⟨hi.used, fun h => h.elim, by simp⟩
  unfold Vhci.enqueueDispatch
  dsimp only
  split
  · exact hfree
  split
  · exact hfree
  · next hdevice =>
    split
    · next hrequest =>
      have hsets : s.Addressing := by
        simp only [Port.Addressing, hlock]
        exact ⟨not_not.mp hdevice, hrequest⟩
      exact ⟨by simp, fun _ => hi.addressing hsets, by simp⟩
    split
    · exact ⟨by simp, fun h => h.elim, by simp⟩
    · exact hfree

/-- Every step keeps the order. -/
theorem InOrder.step (hi : InOrder s) (hok : NotReleased s a) (h : portStep s a = some s') :
    InOrder s' := by
  cases a with
  | attach linkOk =>
      simp only [portStep, Option.ite_none_right_eq_some] at h
      exact Option.some.inj h.2 ▸ hi.storeAttach h.1 linkOk
  | enqueue urb =>
      simp only [portStep, Option.ite_none_right_eq_some] at h
      exact Option.some.inj h.2 ▸ hi.enqueueCheck urb
  | dispatch linkRet =>
      simp only [portStep] at h
      split at h
      · next hlock => exact Option.some.inj h ▸ hi.enqueueDispatch hlock linkRet
      · cases h
  | markUsed =>
      simp only [portStep] at h
      split at h
      · next hlock =>
        obtain rfl := Option.some.inj h
        exact ⟨fun _ => hi.device hlock, fun h => h.elim, by simp⟩
      · cases h
  | reset =>
      obtain rfl := Option.some.inj h
      refine ⟨by simp [vhciDeviceReset], fun h => absurd h hok, fun h => ?_⟩
      have hlock : s.lock = .setAddress := h
      exact absurd (by simp [Port.Addressing, hlock]) hok
  | unusable =>
      obtain rfl := Option.some.inj h
      exact ⟨by simp [vhciDeviceUnusable], fun h => absurd h hok, hi.device⟩

/-- How a step changes the status. -/
lemma status_cases (h : portStep s a = some s') :
    s'.status = s.status ∨
    (a = .attach true ∧ s.status = .null ∧ s'.status = .notassigned) ∨
    (s.lock = .setAddress ∧ s'.status = .used) ∨
    s'.status = .null ∨ s'.status = .error := by
  cases a with
  | attach linkOk =>
      simp only [portStep, Option.ite_none_right_eq_some] at h
      obtain rfl := Option.some.inj h.2
      unfold storeAttach
      split
      · exact .inl rfl
      · next hnull =>
        cases linkOk
        · exact .inl rfl
        · exact .inr (.inl ⟨rfl, not_not.mp hnull, rfl⟩)
  | enqueue urb =>
      simp only [portStep, Option.ite_none_right_eq_some] at h
      obtain rfl := Option.some.inj h.2
      left
      unfold enqueueCheck
      split
      · rfl
      split <;> rfl
  | dispatch linkRet =>
      simp only [portStep] at h
      split at h
      · obtain rfl := Option.some.inj h
        left
        unfold enqueueDispatch
        dsimp only
        repeat' split
        all_goals rfl
      · cases h
  | markUsed =>
      simp only [portStep] at h
      split at h
      · next hlock =>
        obtain rfl := Option.some.inj h
        exact .inr (.inr (.inl ⟨hlock, rfl⟩))
      · cases h
  | reset =>
      obtain rfl := Option.some.inj h
      exact .inr (.inr (.inr (.inl rfl)))
  | unusable =>
      obtain rfl := Option.some.inj h
      exact .inr (.inr (.inr (.inr rfl)))

/-- In every run in which the port is not released, nor made unusable, while a SET_ADDRESS is between
the two sections of `vhci_urb_enqueue`, a used port has a device, a port becomes used only when it
is attached or used, and attached only by a successful `store_attach` when it is free. -/
theorem status_in_order (h : portMachine.Reach NotReleased s) :
    (s.status = .used → s.udev ≠ none) ∧
      ∀ a s', portStep s a = some s' →
        (s'.status = .used → s.status = .notassigned ∨ s.status = .used) ∧
        (s'.status = .notassigned →
          s.status = .notassigned ∨ a = .attach true ∧ s.status = .null) := by
  have hi : InOrder s := by
    refine h.invariant (I := InOrder) ?_ fun s a t hi hok hst => hi.step hok hst
    rintro s rfl
    exact ⟨by simp, fun h => h.elim, by simp⟩
  refine ⟨hi.used, fun a s' hst => ⟨fun hused => ?_, fun hna => ?_⟩⟩
  · rcases status_cases hst with h | ⟨-, -, h⟩ | ⟨hlock, -⟩ | h | h
    · exact .inr (h.symm.trans hused)
    · rw [hused] at h
      cases h
    · exact hi.addressing (by simp [Port.Addressing, hlock])
    all_goals
      rw [hused] at h
      cases h
  · rcases status_cases hst with h | ⟨hattach, hnull, -⟩ | ⟨-, h⟩ | h | h
    · exact .inl (h.symm.trans hna)
    · exact .inr ⟨hattach, hnull⟩
    all_goals
      rw [hna] at h
      cases h

/-- A SET_ADDRESS for device 7, which is not yet unlinked. -/
def setAddressUrb : Urb where
  dev := 7
  pipe := ⟨.control, false, 0, 0⟩
  status := -EINPROGRESS
  setupPacket := some [0, reqSetAddress, 1, 0, 0, 0, 0, 0]

/-- A port is attached, addressed, released and attached again. -/
def addressedRun : List PortAction :=
  [.attach true, .enqueue setAddressUrb, .dispatch 0, .markUsed, .reset, .attach true]

/-- A port that has been given its address. -/
theorem status_in_order_addressedRun :
    ∃ s, portMachine.Reach NotReleased s ∧ s.status = .notassigned ∧
      (s.status = .used → s.udev ≠ none) ∧
      ∀ a s', portStep s a = some s' →
        (s'.status = .used → s.status = .notassigned ∨ s.status = .used) ∧
        (s'.status = .notassigned →
          s.status = .notassigned ∨ a = .attach true ∧ s.status = .null) := by
  have hrun : ∃ s, portMachine.Reach NotReleased s ∧ s.status = .notassigned := by
    apply Machine.Reach.of_perform addressedRun (s := {}) rfl
    exact ⟨_, rfl, rfl⟩
  obtain ⟨s, hs, hstatus⟩ := hrun
  exact ⟨s, hs, hstatus, status_in_order hs⟩

/-- A port that is released while a SET_ADDRESS is between the two sections becomes used, without
a device. -/
theorem released_port_used :
    ∃ s s', portMachine.Reachable s ∧ s.status = .null ∧ portStep s .markUsed = some s' ∧
      s'.status = .used ∧ s'.udev = none := by
  have hrun : ∃ s, portMachine.Reachable s ∧ s = { lock := .setAddress } := by
    apply Machine.Reach.of_perform
      [.attach true, .enqueue setAddressUrb, .dispatch 0, .reset] (s := {}) rfl
    exact ⟨_, rfl, by decide⟩
  obtain ⟨s, hs, rfl⟩ := hrun
  exact ⟨_, _, hs, rfl, rfl, rfl, rfl⟩

end Usbip.Vhci
