import Usbip.Event.Connection

/-!
# References to sockets

Which references to sockets a device takes when a store connects it and gives back when it is shut
down, for the three drivers and the two transports.  `usbip_kernel_link` takes a reference and
`usbip_ux_link` keeps it when it fails; the store of the vudc takes one of its own before it links.
The shutdown gives back one.  The store of vhci also counts the port in before it looks at it
(`vhci_get_device`) and out again when it fails (`vhci_put_device`), as the event work does when the
connection is over.  `references_balanced` says which stores keep the balance.

The sections of stores, shutdowns, resets and `vhci_put_device` may be interleaved; a reset and the
mark as unusable may come at any time.
-/

namespace Usbip.Connect.References

open Usbip.Core Usbip.Common

/-- `usbip_trx_kernel_ops` or `usbip_trx_user_ops`. -/
inductive Transport
  | kernel
  | user
  deriving DecidableEq

def ERESTARTSYS : BitVec 32 := 512
def EBUSY : BitVec 32 := 16

/-- The device; sockets are of type `σ`, and `usbip_ux` structures of type `υ`. -/
structure State (σ υ : Type*) where
  status : UsbipDeviceStatus
  /-- `udc->connected`. -/
  connected : Bool := false
  tcpSocket : Option σ := none
  ux : Option υ := none
  /-- The references to sockets that the device has taken and not given back. -/
  held : Multiset σ := 0
  /-- The number of stores between their two sections. -/
  midway : Nat := 0
  /-- The shutdown has unlinked the transport, and has not come to the socket. -/
  unlinked : Bool := false
  /-- A store has connected the device, and it has not been shut down since.  No step depends on
  it. -/
  isOpen : Bool := false
  /-- `atomic_t using_port` of the port (vhci). -/
  usingPort : Int := 0
  /-- What the port has added to `using_ports` of its controller, and to `vhci_using_ports`. -/
  usingPorts : Int := 0
  /-- The number of stores of vhci between `vhci_get_device` and the section that takes the port. -/
  attaching : Nat := 0
  /-- The number of stores of vhci that have failed and have still to call `vhci_put_device`. -/
  failing : Nat := 0
  /-- The event work has written the status and is about to call `vhci_put_device`. -/
  release : Bool := false
  /-- The number of `vhci_put_device` that have cleared `using_port` and not decremented the counters
  yet. -/
  owed : Nat := 0
  /-- The counts of the port when `vhci_get_device` was last called.  No step depends on it. -/
  before : Int × Int := (0, 0)
  deriving DecidableEq

/-- What a store meets. -/
structure Request (σ υ : Type*) where
  /-- A gadget is bound and the pullup is on (vudc). -/
  bound : Bool := true
  /-- What the lookup in the store of the vudc finds. -/
  own : Option σ := none
  /-- What the lookup in `usbip_kernel_link` finds. -/
  lookup : Option σ := none
  /-- `down_interruptible` has not been interrupted. -/
  locked : Bool := true
  /-- `usbip_ux_list`, each with its socket. -/
  uxList : List (υ × σ) := []

variable {σ υ : Type*}

/-- Source: `<linux/net.h>`, `sockfd_lookup`. -/
def sockfdLookup (found : Option σ) (s : State σ υ) : State σ υ :=
  match found with
  | none => { s with tcpSocket := none }
  | some k => { s with tcpSocket := some k, held := k ::ₘ s.held }

/-- Source: `usbip_common.c`, `usbip_kernel_link`. -/
def usbipKernelLink (r : Request σ υ) (s : State σ υ) : Int × State σ υ :=
  (if r.lookup = none then -EINVAL.toInt else 0, sockfdLookup r.lookup s)

variable [DecidableEq σ]

/-- Source: `usbip_ux.c`, `usbip_ux_link`. -/
def usbipUxLink (r : Request σ υ) (s : State σ υ) : Int × State σ υ :=
  let (ret, s) := usbipKernelLink r s
  if ret ≠ 0 then (ret, s)
  else if ¬ r.locked then (-ERESTARTSYS.toInt, s)
  else
    match r.uxList.find? fun p => some p.2 = s.tcpSocket with
    | some p => (0, { s with ux := some p.1 })
    | none => (-EINVAL.toInt, s)

def link : Transport → Request σ υ → State σ υ → Int × State σ υ
  | .kernel => usbipKernelLink
  | .user => usbipUxLink

/-- The first section of the store, which is the only one that can fail.
Source: `stub_dev.c`, `store_sockfd`. -/
def stubStore (k : Transport) (r : Request σ υ) (s : State σ υ) : Int × State σ υ :=
  if s.status ≠ .sdevAvailable then (-EINVAL.toInt, s)
  else
    let (ret, s) := link k r s
    if ret ≠ 0 then (-EINVAL.toInt, s)
    else (0, { s with midway := s.midway + 1, isOpen := true })

/-- Source: `vudc_sysfs.c`, `store_sockfd`. -/
def vudcStore (k : Transport) (r : Request σ υ) (s : State σ υ) : Int × State σ υ :=
  if ¬ r.bound then (-ENODEV.toInt, s)
  else if s.connected then (-EBUSY.toInt, s)
  else if s.status ≠ .sdevAvailable then (-EINVAL.toInt, s)
  else
    match r.own with
    | none => (-EINVAL.toInt, s)
    | some j =>
        let (ret, s) := link k r (sockfdLookup (some j) s)
        if ret ≠ 0 then (-ENOENT.toInt, s)
        else (0, { s with midway := s.midway + 1, isOpen := true })

/-- The counts of the port, when every `vhci_put_device` that has begun is over. -/
def State.counts (s : State σ υ) : Int × Int := (s.usingPort, s.usingPorts - s.owed)

/-- What a store of vhci does before its section, if its arguments are valid and the controller is
there.
Source: `vhci_hcd.c`, `__vhci_get_device`. -/
def getDevice (s : State σ υ) : State σ υ :=
  { s with
    usingPort := 1
    usingPorts := s.usingPorts + 1
    attaching := s.attaching + 1
    before := s.counts }

/-- The section that takes the port; if it fails, `vhci_put_device` follows.
Source: `vhci_sysfs.c`, `store_attach`. -/
def vhciStore (k : Transport) (r : Request σ υ) (s : State σ υ) : Int × State σ υ :=
  let s := { s with attaching := s.attaching - 1 }
  if s.status ≠ .vdevNull then (-EBUSY.toInt, { s with failing := s.failing + 1 })
  else
    let (ret, s) := link k r s
    if ret ≠ 0 then (-EINVAL.toInt, { s with failing := s.failing + 1 })
    else (0, { s with status := .vdevNotassigned, isOpen := true })

/-- The first section of `vhci_put_device`.
Source: `vhci_hcd.c`, `vhci_put_device`. -/
def putDevice (s : State σ υ) : State σ υ :=
  { s with
    usingPort := s.usingPort - 1
    owed := s.owed + if s.usingPort - 1 = 0 then 1 else 0 }

/-- The second section of `vhci_put_device`. -/
def countOut (s : State σ υ) : State σ υ :=
  { s with usingPorts := s.usingPorts - 1, owed := s.owed - 1 }

def store : Event.Driver → Transport → Request σ υ → State σ υ → Int × State σ υ
  | .stub => stubStore
  | .vudc => vudcStore
  | .vhci => vhciStore

/-- The last section of the stores that have one. -/
def storeFinish (x : Event.Driver) (s : State σ υ) : State σ υ :=
  { s with
    midway := s.midway - 1
    status := .sdevUsed
    connected := s.connected || x = .vudc }

/-- Source: `usbip_ux.c`, `usbip_ux_unlink`; `usbip_common.c`, `usbip_kernel_unlink`. -/
def unlink (k : Transport) (ok : Bool) (s : State σ υ) : State σ υ :=
  if k = .user ∧ ok then { s with ux := none } else s

/-- Give the reference to `ud->tcp_socket` back, if it is not NULL. -/
def sockfdPut (s : State σ υ) : State σ υ :=
  match s.tcpSocket with
  | none => s
  | some k => { s with tcpSocket := none, held := s.held.erase k }

/-- The end of the shutdown, from the socket on.
Source: `stub_dev.c`, `stub_shutdown_connection`; `vudc_dev.c`, `vudc_shutdown`; `vhci_hcd.c`,
`vhci_shutdown_connection`. -/
def closeSocket (x : Event.Driver) (s : State σ υ) : State σ υ :=
  let ux := if x = .vhci ∧ s.tcpSocket = none then none else s.ux
  { sockfdPut s with ux, connected := s.connected && x ≠ .vudc, unlinked := false, isOpen := false }

/-- The reset; that of vhci calls `vhci_put_device` after it.
Source: `stub_dev.c`, `stub_device_reset`; `vudc_dev.c`, `vudc_device_reset`; `vhci_hcd.c`,
`vhci_device_reset`. -/
def deviceReset (x : Event.Driver) (ok : Bool) (s : State σ υ) : State σ υ :=
  match x with
  | .stub => { s with status := if ok then .sdevAvailable else .sdevError }
  | .vudc => { s with status := .sdevAvailable }
  | .vhci => { sockfdPut s with status := .vdevNull, isOpen := false, release := true }

/-- Source: `stub_dev.c`, `stub_device_unusable`; `vudc_dev.c`, `vudc_device_unusable`; `vhci_hcd.c`,
`vhci_device_unusable`, which calls `vhci_put_device` after it. -/
def deviceUnusable (x : Event.Driver) (s : State σ υ) : State σ υ :=
  match x with
  | .stub | .vudc => { s with status := .sdevError }
  | .vhci => { s with status := .vdevError, release := true }

inductive Action (σ υ : Type*)
  /-- `vhci_get_device`, called by a store of vhci. -/
  | getDevice
  /-- The section of a store that takes the device, or fails. -/
  | store (r : Request σ υ)
  /-- `vhci_put_device`, called by a store of vhci that has failed. -/
  | failPut
  /-- `vhci_put_device`, called by the event work. -/
  | releasePut
  /-- The second section of a `vhci_put_device`. -/
  | countOut
  | finish
  /-- The shutdown up to the socket; `ok` tells whether the transport could be unlinked. -/
  | unlink (ok : Bool)
  | closeSocket
  /-- The reset; `ok` tells whether `usb_reset_device` has succeeded. -/
  | reset (ok : Bool)
  | unusable

/-- The state an action leads to. -/
def step (x : Event.Driver) (k : Transport) (s : State σ υ) : Action σ υ → Option (State σ υ)
  | .getDevice => if x = .vhci then some (getDevice s) else none
  | .store r => if x = .vhci ∧ s.attaching = 0 then none else some (store x k r s).2
  | .failPut =>
      if 0 < s.failing then some (putDevice { s with failing := s.failing - 1 }) else none
  | .releasePut => if s.release then some (putDevice { s with release := false }) else none
  | .countOut => if 0 < s.owed then some (countOut s) else none
  | .finish => if 0 < s.midway then some (storeFinish x s) else none
  | .unlink ok => some { unlink k ok s with unlinked := true }
  | .closeSocket => if s.unlinked then some (closeSocket x s) else none
  -- The event work has called `vhci_put_device` before it does anything else.
  | .reset ok => if s.release then none else some (deviceReset x ok s)
  | .unusable => if s.release then none else some (deviceUnusable x s)

def machine (x : Event.Driver) (k : Transport) : Machine (State σ υ) (Action σ υ) where
  init s := s = { status := x.free }
  step := step x k

/-! ## Balance -/

/-- The device holds a reference to its socket, and no other. -/
structure Balanced (s : State σ υ) : Prop where
  held : s.held = s.tcpSocket.elim 0 ({·})
  isOpen : s.isOpen = s.tcpSocket.isSome

omit [DecidableEq σ] in
/-- A connection that is open holds one reference, and a closed one none. -/
lemma Balanced.card_held {s : State σ υ} (hs : Balanced s) :
    s.held.card = if s.isOpen then 1 else 0 := by
  rw [hs.held, hs.isOpen]
  cases s.tcpSocket <;> rfl

omit [DecidableEq σ] in
/-- The balance is about the socket, the references held and whether the connection is open. -/
lemma Balanced.of_eq {s t : State σ υ} (hs : Balanced s) (hsocket : t.tcpSocket = s.tcpSocket)
    (hheld : t.held = s.held) (hopen : t.isOpen = s.isOpen) : Balanced t where
  held := by rw [hheld, hsocket, hs.held]
  isOpen := by rw [hopen, hsocket, hs.isOpen]

/-- What a store that fails has to leave as it was, under the lock. -/
structure Unchanged (s t : State σ υ) : Prop where
  tcpSocket : t.tcpSocket = s.tcpSocket
  ux : t.ux = s.ux
  status : t.status = s.status
  held : t.held = s.held

omit [DecidableEq σ] in
/-- Doing nothing changes nothing. -/
lemma Unchanged.refl (s : State σ υ) : Unchanged s s := ⟨rfl, rfl, rfl, rfl⟩

/-- The store gets as far as the section that takes references. -/
def Reaches (x : Event.Driver) (r : Request σ υ) (s : State σ υ) : Prop :=
  s.status = x.free ∧
    (x = .vudc → r.bound = true ∧ s.connected = false ∧ r.own ≠ none)

instance (x : Event.Driver) (r : Request σ υ) (s : State σ υ) : Decidable (Reaches x r s) :=
  inferInstanceAs (Decidable (_ ∧ _))

/-- Once the socket is found, the transport can be linked. -/
def Linkable (k : Transport) (r : Request σ υ) : Prop :=
  k = .user → r.locked = true ∧ ∃ p ∈ r.uxList, some p.2 = r.lookup

instance (k : Transport) (r : Request σ υ) : Decidable (Linkable k r) :=
  inferInstanceAs (Decidable (_ → _))

/-- A store that takes references is not one of the vudc, finds the device not connected, and finds
what it needs to link the transport if it finds a socket. -/
def StoreClean (x : Event.Driver) (k : Transport) (r : Request σ υ) (s : State σ υ) : Prop :=
  Reaches x r s → x ≠ .vudc ∧ s.isOpen = false ∧ (r.lookup ≠ none → Linkable k r)

/-- A store of vhci counts in a port that is not in use and is not about to be put; it fails only if
`using_port` was exactly 0 before; and the event work ends no connection while a store is in
progress. -/
def Clean (x : Event.Driver) (k : Transport) (s : State σ υ) : Action σ υ → Prop
  | .getDevice => s.usingPort ≤ 0 ∧ s.release = false
  | .store r =>
      StoreClean x k r s ∧ (x = .vhci → ¬ Reaches x r s ∨ r.lookup = none → s.before.1 = 0)
  | .reset _ => x = .vhci → s.attaching = 0 ∧ s.failing = 0
  | .unusable => x = .vhci → s.attaching = 0 ∧ s.failing = 0
  | _ => True

section Link

variable {k : Transport} {r : Request σ υ} {s : State σ υ}

/-- A descriptor that is no socket fails, and clears the pointer. -/
lemma link_of_no_socket (hlookup : r.lookup = none) :
    (link k r s).1 ≠ 0 ∧ (link k r s).2 = { s with tcpSocket := none } := by
  have hret : -EINVAL.toInt ≠ 0 := by decide
  cases k <;> simp [link, usbipUxLink, usbipKernelLink, sockfdLookup, hlookup, hret]

/-- A good socket is linked and held. -/
lemma link_of_linkable {j : σ} (hlookup : r.lookup = some j) (hlink : Linkable k r) :
    (link k r s).1 = 0 ∧
      ∃ ux, (link k r s).2 = { s with tcpSocket := some j, held := j ::ₘ s.held, ux } := by
  cases k with
  | kernel =>
      refine ⟨?_, s.ux, ?_⟩ <;> simp [link, usbipKernelLink, sockfdLookup, hlookup]
  | user =>
      obtain ⟨hlocked, p, hp, hsocket⟩ := hlink rfl
      have hsome : p.2 = j := Option.some.inj (hsocket.trans hlookup)
      have hfind : (r.uxList.find? fun p => decide (p.2 = j)).isSome = true :=
        List.find?_isSome.mpr ⟨p, hp, decide_eq_true hsome⟩
      obtain ⟨q, hq⟩ := Option.isSome_iff_exists.mp hfind
      refine ⟨?_, some q.1, ?_⟩ <;>
        simp [link, usbipUxLink, usbipKernelLink, sockfdLookup, hlookup, hlocked, hq]

/-- A socket that cannot be linked fails and is held all the same. -/
lemma link_of_not_linkable {j : σ} (hlookup : r.lookup = some j) (hlink : ¬ Linkable k r) :
    (link k r s).1 ≠ 0 ∧
      (link k r s).2 = { s with tcpSocket := some j, held := j ::ₘ s.held } := by
  obtain ⟨rfl, hnone⟩ := Classical.not_imp.mp hlink
  have hret : -EINVAL.toInt ≠ 0 := by decide
  have hret' : -ERESTARTSYS.toInt ≠ 0 := by decide
  cases hlocked : r.locked with
  | false =>
      simp [link, usbipUxLink, usbipKernelLink, sockfdLookup, hlookup, hlocked, hret']
  | true =>
      have hfind : (r.uxList.find? fun p => decide (p.2 = j)) = none := by
        refine List.find?_eq_none.mpr fun p hp hsocket => hnone ⟨hlocked, p, hp, ?_⟩
        rw [hlookup, of_decide_eq_true hsocket]
      simp [link, usbipUxLink, usbipKernelLink, sockfdLookup, hlookup, hlocked, hfind, hret]

/-- The transport has nothing to do with the account of the port. -/
lemma link_attaching (r : Request σ υ) (n : Nat) :
    link k r { s with attaching := n } = ((link k r s).1, { (link k r s).2 with attaching := n }) := by
  have hkernel : usbipKernelLink r { s with attaching := n } =
      ((usbipKernelLink r s).1, { (usbipKernelLink r s).2 with attaching := n }) := by
    unfold usbipKernelLink sockfdLookup
    cases r.lookup <;> rfl
  cases k with
  | kernel => exact hkernel
  | user =>
      simp only [link, usbipUxLink, hkernel]
      split
      · rfl
      split
      · rfl
      cases r.uxList.find? _ <;> rfl

end Link

/-! ## Stores -/

/-- A store does what it promises: it leaves a balanced device, and nothing changed if it fails. -/
def Keeps (x : Event.Driver) (k : Transport) (r : Request σ υ) (s : State σ υ) : Prop :=
  Balanced (store x k r s).2 ∧ ((store x k r s).1 ≠ 0 → Unchanged s (store x k r s).2)

section Store

variable {x : Event.Driver} {k : Transport} {r : Request σ υ} {s : State σ υ}

/-- A store on a connected port fails and leaves a put to be done. -/
lemma vhciStore_of_busy (h : s.status ≠ .vdevNull) :
    vhciStore k r s =
      (-EBUSY.toInt, { s with attaching := s.attaching - 1, failing := s.failing + 1 }) := by
  simp [vhciStore, h]

/-- A store whose link fails leaves a put to be done. -/
lemma vhciStore_of_failed (h : s.status = .vdevNull) (hlink : (link k r s).1 ≠ 0) :
    vhciStore k r s = (-EINVAL.toInt, { (link k r s).2 with
      attaching := s.attaching - 1, failing := (link k r s).2.failing + 1 }) := by
  unfold vhciStore
  simp only [h, ne_eq, not_true_eq_false, if_false]
  rw [← h, link_attaching]
  simp [hlink]

/-- A store that links opens the connection. -/
lemma vhciStore_of_linked (h : s.status = .vdevNull) (hlink : (link k r s).1 = 0) :
    vhciStore k r s = (0, { (link k r s).2 with
      attaching := s.attaching - 1, status := .vdevNotassigned, isOpen := true }) := by
  unfold vhciStore
  simp only [h, ne_eq, not_true_eq_false, if_false]
  rw [← h, link_attaching]
  simp [hlink]

/-- A store that does not get as far as the lookup of the descriptor changes no reference. -/
lemma store_of_not_reaches (h : ¬ Reaches x r s) :
    Unchanged s (store x k r s).2 ∧ (store x k r s).2.isOpen = s.isOpen := by
  cases x with
  | stub =>
      have hstatus : s.status ≠ .sdevAvailable := fun hs => h ⟨hs, fun hx => (by cases hx)⟩
      have heq : (store .stub k r s).2 = s := by simp [store, stubStore, hstatus]
      rw [heq]
      exact ⟨.refl s, rfl⟩
  | vhci =>
      have hstatus : s.status ≠ .vdevNull := fun hs => h ⟨hs, fun hx => (by cases hx)⟩
      show Unchanged s (vhciStore k r s).2 ∧ (vhciStore k r s).2.isOpen = s.isOpen
      rw [vhciStore_of_busy hstatus]
      exact ⟨⟨rfl, rfl, rfl, rfl⟩, rfl⟩
  | vudc =>
      have heq : (vudcStore k r s).2 = s := by
        unfold vudcStore
        split
        · rfl
        split
        · rfl
        split
        · rfl
        rename_i hbound hconnected hstatus
        have hown : r.own = none := by
          by_contra hown
          exact h ⟨not_not.mp hstatus, fun _ =>
            ⟨not_not.mp hbound, by simpa using hconnected, hown⟩⟩
        rw [hown]
      show Unchanged s (vudcStore k r s).2 ∧ (vudcStore k r s).2.isOpen = s.isOpen
      rw [heq]
      exact ⟨.refl s, rfl⟩

/-- The store of the stub and of vhci, when the device is free. -/
lemma store_of_reaches (hx : x ≠ .vudc) (h : Reaches x r s) :
    ((store x k r s).1 = 0 ↔ (link k r s).1 = 0) ∧
      (store x k r s).2.tcpSocket = (link k r s).2.tcpSocket ∧
      (store x k r s).2.held = (link k r s).2.held ∧
      ((link k r s).1 = 0 → (store x k r s).2.isOpen = true) ∧
      ((link k r s).1 ≠ 0 → Unchanged (link k r s).2 (store x k r s).2 ∧
        (store x k r s).2.isOpen = (link k r s).2.isOpen) := by
  have hret : -EINVAL.toInt ≠ 0 := by decide
  cases x with
  | stub =>
      have hstatus : s.status = .sdevAvailable := h.1
      by_cases hlink : (link k r s).1 = 0
      · simp [store, stubStore, hstatus, hlink]
      · have hstore : store .stub k r s = (-EINVAL.toInt, (link k r s).2) := by
          simp [store, stubStore, hstatus, hlink]
        rw [hstore]
        exact ⟨iff_of_false hret hlink, rfl, rfl, fun h => absurd h hlink, fun _ => ⟨.refl _, rfl⟩⟩
  | vhci =>
      have hstatus : s.status = .vdevNull := h.1
      by_cases hlink : (link k r s).1 = 0
      · have hstore : store .vhci k r s = _ := vhciStore_of_linked hstatus hlink
        rw [hstore]
        exact ⟨iff_of_true rfl hlink, rfl, rfl, fun _ => rfl, fun h => absurd hlink h⟩
      · have hstore : store .vhci k r s = _ := vhciStore_of_failed hstatus hlink
        rw [hstore]
        exact ⟨iff_of_false hret hlink, rfl, rfl, fun h => absurd h hlink,
          fun _ => ⟨⟨rfl, rfl, rfl, rfl⟩, rfl⟩⟩
  | vudc => exact absurd rfl hx

/-- The store of the vudc, when it has found the socket. -/
lemma vudcStore_of_reaches {j : σ} (hown : r.own = some j) (h : Reaches .vudc r s) :
    ((vudcStore k r s).1 = 0 ↔ (link k r (sockfdLookup (some j) s)).1 = 0) ∧
      (vudcStore k r s).2.tcpSocket = (link k r (sockfdLookup (some j) s)).2.tcpSocket ∧
      (vudcStore k r s).2.held = (link k r (sockfdLookup (some j) s)).2.held := by
  have hret : -ENOENT.toInt ≠ 0 := by decide
  obtain ⟨hbound, hconnected, -⟩ := h.2 rfl
  have hstatus : s.status = .sdevAvailable := h.1
  by_cases hlink : (link k r (sockfdLookup (some j) s)).1 = 0 <;>
    simp [vudcStore, hbound, hconnected, hstatus, hown, hlink, hret]

/-- A store of the vudc that takes references takes one too many. -/
lemma not_keeps_vudc (h : Reaches .vudc r s) : ¬ Keeps .vudc k r s := by
  rintro ⟨hbalanced, hfailed⟩
  obtain ⟨j, hown⟩ := Option.ne_none_iff_exists'.mp (h.2 rfl).2.2
  obtain ⟨hret, -, hheld⟩ := vudcStore_of_reaches (k := k) hown h
  have hcard := hbalanced.card_held
  have hle : (store .vudc k r s).2.held.card ≤ 1 := by
    rw [hcard]
    split <;> decide
  have hsame : (link k r (sockfdLookup (some j) s)).1 ≠ 0 →
      (store .vudc k r s).2.held = s.held := fun hlink => (hfailed fun h => hlink (hret.mp h)).held
  replace hheld : (store .vudc k r s).2.held = _ := hheld
  cases hlookup : r.lookup with
  | none =>
      obtain ⟨hlink, hstate⟩ := link_of_no_socket (k := k) (s := sockfdLookup (some j) s) hlookup
      have hcons := (hheld.symm.trans (hsame hlink)).symm
      rw [hstate] at hcons
      simpa [sockfdLookup] using congrArg Multiset.card hcons
  | some i =>
      by_cases hlinkable : Linkable k r
      · obtain ⟨-, ux, hstate⟩ :=
          link_of_linkable (s := sockfdLookup (some j) s) hlookup hlinkable
        rw [hheld, hstate] at hle
        simp [sockfdLookup] at hle
      · obtain ⟨hlink, hstate⟩ :=
          link_of_not_linkable (s := sockfdLookup (some j) s) hlookup hlinkable
        have hcons := (hheld.symm.trans (hsame hlink)).symm
        rw [hstate] at hcons
        have hcard := congrArg Multiset.card hcons
        simp only [sockfdLookup, Multiset.card_cons] at hcard
        omega

/-- From a balanced device, the stores that keep their promise are the clean ones. -/
theorem keeps_iff (hs : Balanced s) : Keeps x k r s ↔ StoreClean x k r s := by
  by_cases hreach : Reaches x r s
  swap
  · obtain ⟨hsame, hopen⟩ := store_of_not_reaches (k := k) hreach
    exact iff_of_true ⟨hs.of_eq hsame.tcpSocket hsame.held hopen, fun _ => hsame⟩
      fun h => absurd h hreach
  by_cases hx : x = .vudc
  · subst hx
    exact iff_of_false (not_keeps_vudc hreach) fun h => (h hreach).1 rfl
  obtain ⟨hret, hsocket, hheld, hopen, hfail⟩ := store_of_reaches (k := k) hx hreach
  have hcard := hs.card_held
  unfold Keeps
  cases hlookup : r.lookup with
  | none =>
      obtain ⟨hlink, hstate⟩ := link_of_no_socket (k := k) (s := s) hlookup
      obtain ⟨hlinked, hlinkedOpen⟩ := hfail hlink
      rw [hstate] at hsocket hheld hlinked hlinkedOpen
      constructor
      · rintro ⟨-, hsame⟩ -
        have hnone : none = s.tcpSocket :=
          hsocket.symm.trans (hsame fun h => hlink (hret.mp h)).tcpSocket
        refine ⟨hx, ?_, fun h => absurd hlookup h⟩
        rw [hs.isOpen, ← hnone]
        rfl
      · intro hclean
        have hnone : s.tcpSocket = none := by
          simpa [hs.isOpen] using (hclean hreach).2.1
        have hsocket' : (store x k r s).2.tcpSocket = s.tcpSocket := hsocket.trans hnone.symm
        exact ⟨hs.of_eq hsocket' hheld hlinkedOpen,
          fun _ => ⟨hsocket', hlinked.ux, hlinked.status, hheld⟩⟩
  | some j =>
      by_cases hlinkable : Linkable k r
      · obtain ⟨hlink, ux, hstate⟩ := link_of_linkable (s := s) hlookup hlinkable
        rw [hstate] at hsocket hheld
        constructor
        · rintro ⟨hbalanced, -⟩ -
          refine ⟨hx, ?_, fun _ => hlinkable⟩
          have hone := hbalanced.card_held
          rw [hheld, hopen hlink] at hone
          cases hwas : s.isOpen with
          | false => rfl
          | true =>
              rw [hwas] at hcard
              simp [hcard] at hone
        · intro hclean
          have hzero : s.held = 0 := by
            rw [(hclean hreach).2.1] at hcard
            exact Multiset.card_eq_zero.mp hcard
          refine ⟨⟨?_, ?_⟩, fun h => absurd (hret.mpr hlink) h⟩
          · rw [hheld, hsocket]
            simp [hzero]
          · rw [hopen hlink, hsocket]
            rfl
      · obtain ⟨hlink, hstate⟩ := link_of_not_linkable (s := s) hlookup hlinkable
        refine iff_of_false (fun h => ?_) fun h => ?_
        · have hsame := (h.2 fun h => hlink (hret.mp h)).held
          rw [hheld, hstate] at hsame
          simpa using congrArg Multiset.card hsame
        · exact hlinkable ((h hreach).2.2 (by simp [hlookup]))

end Store

/-! ## The account of the port -/

omit [DecidableEq σ] in
/-- What the transport has nothing to do with. -/
def State.account (s : State σ υ) : Int × Int × Nat × Nat × Bool × Nat × (Int × Int) :=
  (s.usingPort, s.usingPorts, s.attaching, s.failing, s.release, s.owed, s.before)

/-- One store of vhci at a time is in progress, with the port counted in once more than before it,
and one that fails has found `using_port` at 0. -/
structure Accounted (s : State σ υ) : Prop where
  one : s.attaching + s.failing ≤ 1
  release : 0 < s.attaching + s.failing → s.release = false
  counts : 0 < s.attaching + s.failing → s.counts = (1, s.before.2 + 1)
  failed : 0 < s.failing → s.before.1 = 0

section Account

variable {x : Event.Driver} {k : Transport} {r : Request σ υ} {s t : State σ υ}

/-- Linking counts no port. -/
lemma link_account (k : Transport) (r : Request σ υ) (s : State σ υ) :
    (link k r s).2.account = s.account := by
  cases hlookup : r.lookup with
  | none => rw [(link_of_no_socket hlookup).2]; rfl
  | some j =>
      by_cases hlink : Linkable k r
      · obtain ⟨-, ux, hstate⟩ := link_of_linkable (s := s) hlookup hlink
        rw [hstate]
        rfl
      · rw [(link_of_not_linkable hlookup hlink).2]
        rfl

/-- The stores of the stub and of the vudc count no port. -/
lemma store_account (hx : x ≠ .vhci) : (store x k r s).2.account = s.account := by
  cases x with
  | vhci => exact absurd rfl hx
  | stub =>
      show (stubStore k r s).2.account = _
      unfold stubStore
      split
      · rfl
      · dsimp only
        split <;> exact link_account k r s
  | vudc =>
      show (vudcStore k r s).2.account = _
      unfold vudcStore
      split
      · rfl
      split
      · rfl
      split
      · rfl
      split
      · rfl
      · dsimp only
        split <;> exact link_account k r _

/-- Putting the socket counts no port. -/
lemma sockfdPut_account (s : State σ υ) : (sockfdPut s).account = s.account := by
  unfold sockfdPut
  split <;> rfl

namespace Accounted

omit [DecidableEq σ]

/-- With no store in progress there is nothing to account for. -/
lemma of_settled (h : s.attaching + s.failing = 0) : Accounted s :=
  ⟨by omega, fun h' => by omega, fun h' => by omega, fun h' => by omega⟩

/-- The account is about the counts only. -/
lemma of_account (hs : Accounted s) (h : t.account = s.account) : Accounted t := by
  simp only [State.account, Prod.mk.injEq] at h
  obtain ⟨husing, hports, hattaching, hfailing, hrelease, howed, hbefore⟩ := h
  have hcounts : t.counts = s.counts := by
    unfold State.counts
    rw [husing, hports, howed]
  refine ⟨?_, ?_, ?_, ?_⟩
  · rw [hattaching, hfailing]
    exact hs.one
  · rw [hattaching, hfailing, hrelease]
    exact hs.release
  · rw [hattaching, hfailing, hcounts, hbefore]
    exact hs.counts
  · rw [hfailing, hbefore]
    exact hs.failed

/-- A port that is not in use is counted in by one store. -/
lemma getDevice (hs : Accounted s) (husing : s.usingPort ≤ 0) (hrelease : s.release = false) :
    Accounted (getDevice s) := by
  have hnone : s.attaching + s.failing = 0 := by
    by_contra hne
    have hone := congrArg Prod.fst (hs.counts (Nat.pos_of_ne_zero hne))
    replace hone : s.usingPort = 1 := hone
    omega
  refine ⟨show s.attaching + 1 + s.failing ≤ 1 by omega, fun _ => hrelease, fun _ => ?_,
    fun (h : 0 < s.failing) => by omega⟩
  show ((1 : Int), s.usingPorts + 1 - s.owed) = (1, s.usingPorts - s.owed + 1)
  rw [Prod.mk.injEq]
  omega

/-- The count that is owed is paid. -/
lemma countOut (hs : Accounted s) (howed : 0 < s.owed) : Accounted (countOut s) := by
  refine ⟨hs.one, hs.release, fun h => Eq.trans ?_ (hs.counts h), hs.failed⟩
  show (s.usingPort, s.usingPorts - 1 - ((s.owed - 1 : Nat) : Int)) =
    (s.usingPort, s.usingPorts - s.owed)
  rw [Prod.mk.injEq]
  omega

/-- The put of a store that has failed takes back what the store has counted in. -/
lemma failPut (hs : Accounted s) (hfailing : 0 < s.failing) :
    (putDevice { s with failing := s.failing - 1 }).counts = s.before := by
  have hcounts := hs.counts (Nat.lt_of_lt_of_le hfailing (Nat.le_add_left ..))
  obtain ⟨husing, hports⟩ : s.usingPort = 1 ∧ s.usingPorts - s.owed = s.before.2 + 1 :=
    Prod.mk.inj hcounts
  have hfailed := hs.failed hfailing
  refine Prod.ext ?_ ?_
  · show s.usingPort - 1 = s.before.1
    omega
  · show s.usingPorts - ((s.owed + if s.usingPort - 1 = 0 then 1 else 0 : Nat) : Int) = s.before.2
    rw [husing]
    push_cast
    omega

end Accounted

/-- The section of a store of vhci: it fails only where the condition on the store allows it to. -/
lemma Accounted.vhciStore (hs : Accounted s) (hattaching : 0 < s.attaching)
    (hclean : StoreClean .vhci k r s)
    (hfail : ¬ Reaches .vhci r s ∨ r.lookup = none → s.before.1 = 0) :
    Accounted (store .vhci k r s).2 := by
  have hone := hs.one
  have hpos : 0 < s.attaching + s.failing := Nat.add_pos_left hattaching _
  show Accounted (Usbip.Connect.References.vhciStore k r s).2
  by_cases hstatus : s.status = .vdevNull
  swap
  · rw [vhciStore_of_busy hstatus]
    exact ⟨show s.attaching - 1 + (s.failing + 1) ≤ 1 by omega, fun _ => hs.release hpos,
      fun _ => hs.counts hpos, fun _ => hfail (.inl fun h => hstatus h.1)⟩
  have hreach : Reaches .vhci r s := ⟨hstatus, fun hx => (by cases hx)⟩
  have haccount := link_account k r s
  simp only [State.account, Prod.mk.injEq] at haccount
  obtain ⟨husing, hports, -, hfailing, hrelease, howed, hbefore⟩ := haccount
  by_cases hlink : (link k r s).1 = 0
  · rw [vhciStore_of_linked hstatus hlink]
    exact .of_settled (show s.attaching - 1 + (link k r s).2.failing = 0 by omega)
  · have hlookup : r.lookup = none := by
      by_contra hne
      obtain ⟨j, hj⟩ := Option.ne_none_iff_exists'.mp hne
      exact hlink (link_of_linkable hj ((hclean hreach).2.2 hne)).1
    rw [vhciStore_of_failed hstatus hlink]
    refine ⟨show s.attaching - 1 + ((link k r s).2.failing + 1) ≤ 1 by omega,
      fun _ => hrelease.trans (hs.release hpos), fun _ => ?_,
      fun _ => (congrArg Prod.fst hbefore).trans (hfail (.inr hlookup))⟩
    show ((link k r s).2.usingPort, (link k r s).2.usingPorts - (link k r s).2.owed) =
      (1, (link k r s).2.before.2 + 1)
    rw [husing, hports, howed, hbefore]
    exact hs.counts hpos

end Account

/-! ## Runs -/

section Runs

variable {x : Event.Driver} {k : Transport} {s t : State σ υ}

/-- What `sockfdPut` leaves. -/
lemma sockfdPut_tcpSocket (s : State σ υ) : (sockfdPut s).tcpSocket = none := by
  unfold sockfdPut
  split
  · assumption
  · rfl

/-- A balanced connection holds nothing once its socket is put. -/
lemma sockfdPut_held (hs : Balanced s) : (sockfdPut s).held = 0 := by
  have hheld := hs.held
  unfold sockfdPut
  split <;> rename_i hsocket <;> rw [hsocket] at hheld
  · exact hheld
  · simp [hheld]

omit [DecidableEq σ] in
/-- Nothing held and nothing open is balanced. -/
lemma balanced_of_closed (hsocket : s.tcpSocket = none) (hheld : s.held = 0)
    (hopen : s.isOpen = false) : Balanced s where
  held := by rw [hheld, hsocket]; rfl
  isOpen := by rw [hopen, hsocket]; rfl

/-- Every clean step keeps the balance. -/
theorem balanced_step {a : Action σ υ} (hs : Balanced s) (hok : Clean x k s a)
    (h : step x k s a = some t) : Balanced t := by
  cases a with
  | getDevice =>
      obtain ⟨-, h⟩ := Option.ite_none_right_eq_some.mp h
      cases h
      exact hs.of_eq rfl rfl rfl
  | store r =>
      obtain ⟨-, h⟩ := Option.ite_none_left_eq_some.mp h
      cases h
      exact ((keeps_iff hs).mpr hok.1).1
  | failPut | releasePut | countOut | finish =>
      obtain ⟨-, h⟩ := Option.ite_none_right_eq_some.mp h
      cases h
      exact hs.of_eq rfl rfl rfl
  | unlink ok =>
      cases h
      unfold unlink
      split <;> exact hs.of_eq rfl rfl rfl
  | closeSocket =>
      obtain ⟨-, h⟩ := Option.ite_none_right_eq_some.mp h
      cases h
      exact balanced_of_closed (sockfdPut_tcpSocket s) (sockfdPut_held hs) rfl
  | reset ok =>
      obtain ⟨-, h⟩ := Option.ite_none_left_eq_some.mp h
      cases h
      cases x with
      | stub | vudc => exact hs.of_eq rfl rfl rfl
      | vhci => exact balanced_of_closed (sockfdPut_tcpSocket s) (sockfdPut_held hs) rfl
  | unusable =>
      obtain ⟨-, h⟩ := Option.ite_none_left_eq_some.mp h
      cases h
      cases x <;> exact hs.of_eq rfl rfl rfl

/-- The balance holds in every run of clean steps. -/
lemma balanced_of_reach (h : (machine x k).Reach (Clean x k) s) : Balanced s := by
  refine h.invariant (I := Balanced) ?_ fun s a t hs hok hstep => balanced_step hs hok hstep
  rintro s rfl
  exact ⟨rfl, rfl⟩

/-- Every clean step keeps the counts. -/
theorem accounted_step {a : Action σ υ} (hs : Accounted s) (hok : Clean x k s a)
    (h : step x k s a = some t) : Accounted t := by
  cases a with
  | getDevice =>
      obtain ⟨-, h⟩ := Option.ite_none_right_eq_some.mp h
      cases h
      exact hs.getDevice hok.1 hok.2
  | store r =>
      obtain ⟨hattaching, h⟩ := Option.ite_none_left_eq_some.mp h
      cases h
      by_cases hx : x = .vhci
      · subst hx
        exact hs.vhciStore (Nat.pos_of_ne_zero fun h => hattaching ⟨rfl, h⟩) hok.1 (hok.2 rfl)
      · exact hs.of_account (store_account hx)
  | failPut =>
      obtain ⟨hfailing, h⟩ := Option.ite_none_right_eq_some.mp h
      cases h
      have hone := hs.one
      exact .of_settled (show s.attaching + (s.failing - 1) = 0 by omega)
  | releasePut =>
      obtain ⟨hrelease, h⟩ := Option.ite_none_right_eq_some.mp h
      cases h
      refine .of_settled (show s.attaching + s.failing = 0 from ?_)
      by_contra hne
      rw [hs.release (Nat.pos_of_ne_zero hne)] at hrelease
      cases hrelease
  | countOut =>
      obtain ⟨howed, h⟩ := Option.ite_none_right_eq_some.mp h
      cases h
      exact hs.countOut howed
  | finish =>
      obtain ⟨-, h⟩ := Option.ite_none_right_eq_some.mp h
      cases h
      exact hs.of_account rfl
  | unlink ok =>
      cases h
      unfold unlink
      split <;> exact hs.of_account rfl
  | closeSocket =>
      obtain ⟨-, h⟩ := Option.ite_none_right_eq_some.mp h
      cases h
      exact hs.of_account (sockfdPut_account s)
  | reset ok =>
      obtain ⟨-, h⟩ := Option.ite_none_left_eq_some.mp h
      cases h
      cases x with
      | stub | vudc => exact hs.of_account rfl
      | vhci =>
          obtain ⟨hattaching, hfailing⟩ := hok rfl
          have haccount := sockfdPut_account s
          simp only [State.account, Prod.mk.injEq] at haccount
          obtain ⟨-, -, hattaching', hfailing', -⟩ := haccount
          exact .of_settled (show (sockfdPut s).attaching + (sockfdPut s).failing = 0 by omega)
  | unusable =>
      obtain ⟨-, h⟩ := Option.ite_none_left_eq_some.mp h
      cases h
      cases x with
      | stub | vudc => exact hs.of_account rfl
      | vhci =>
          obtain ⟨hattaching, hfailing⟩ := hok rfl
          exact .of_settled (show s.attaching + s.failing = 0 by omega)

/-- The counts are right in every run of clean steps. -/
lemma accounted_of_reach (h : (machine x k).Reach (Clean x k) s) : Accounted s := by
  refine h.invariant (I := Accounted) ?_ fun s a t hs hok hstep => accounted_step hs hok hstep
  rintro s rfl
  exact .of_settled rfl

/-- In every run whose steps are `Clean` the device holds one reference while it is connected and
none otherwise; a store that fails changes nothing in the section it fails in; and once a store of
vhci that has failed has put the port, the counts are what they were before it. -/
theorem references_balanced (h : (machine x k).Reach (Clean x k) s) :
    (s.held.card = if s.isOpen then 1 else 0) ∧
      (∀ r, Clean x k s (.store r) → (store x k r s).1 ≠ 0 → Unchanged s (store x k r s).2) ∧
      ∀ t, step x k s .failPut = some t → t.counts = s.before := by
  have hbalanced := balanced_of_reach h
  refine ⟨hbalanced.card_held, fun _ hok => ((keeps_iff hbalanced).mpr hok.1).2, fun t ht => ?_⟩
  obtain ⟨hfailing, ht⟩ := Option.ite_none_right_eq_some.mp ht
  cases ht
  exact (accounted_of_reach h).failPut hfailing

end Runs

instance (x : Event.Driver) (k : Transport) (r : Request σ υ) (s : State σ υ) :
    Decidable (StoreClean x k r s) :=
  inferInstanceAs (Decidable (_ → _))

instance (x : Event.Driver) (k : Transport) (s : State σ υ) (a : Action σ υ) :
    Decidable (Clean x k s a) := by
  cases a <;> unfold Clean <;> infer_instance

/-- A descriptor of a socket that user space has a `usbip_ux` for. -/
def goodRequest : Request Bool Unit :=
  { own := some true, lookup := some true, uxList := [((), true)] }

/-- A descriptor of a socket that no `usbip_ux` is for. -/
def noUx : Request Bool Unit := { own := some true, lookup := some true }

/-- A port of vhci is connected and released. -/
def portReleased : List (Action Bool Unit) :=
  [.getDevice, .store goodRequest, .unlink true, .closeSocket, .reset true, .releasePut, .countOut]

/-- A device is connected, shut down, and connected again; and a port of vhci is connected, released
and then refused, with a descriptor that is no socket. -/
theorem references_balanced_reconnect :
    (∃ s : State Bool Unit, (s.isOpen = true ∧ s.held.card = 1) ∧
      ∀ r, Clean .stub .user s (.store r) → (store .stub .user r s).1 ≠ 0 →
        Unchanged s (store .stub .user r s).2) ∧
    ∃ s t : State Bool Unit, step .vhci .kernel s .failPut = some t ∧ t.counts = s.before := by
  constructor
  · have hrun : ∃ s : State Bool Unit,
        (machine .stub .user).Reach (Clean .stub .user) s ∧ s.isOpen = true :=
      Machine.Reach.of_perform [.store goodRequest, .finish, .unlink true, .closeSocket,
        .reset true, .store goodRequest] rfl (by decide +kernel)
    obtain ⟨s, hs, hopen⟩ := hrun
    obtain ⟨hcard, hfailed, -⟩ := references_balanced hs
    exact ⟨s, ⟨hopen, by rw [hcard, hopen]; rfl⟩, hfailed⟩
  · have hrun : ∃ s : State Bool Unit, (machine .vhci .kernel).Reach (Clean .vhci .kernel) s ∧
        (step .vhci .kernel s .failPut).isSome = true :=
      Machine.Reach.of_perform (portReleased ++ [.getDevice, .store {}]) rfl (by decide +kernel)
    obtain ⟨s, hs, hput⟩ := hrun
    obtain ⟨t, ht⟩ := Option.isSome_iff_exists.mp hput
    exact ⟨s, t, ht, (references_balanced hs).2.2 t ht⟩

/-- The vudc holds two references when it is connected, a store of the stub that finds no
`usbip_ux` fails and keeps the socket, and a store of vhci to a port in use puts the connection's
count. -/
theorem references_kept :
    (¬ ∀ (x : Event.Driver) (k : Transport) (s : State Bool Unit), (machine x k).Reachable s →
      s.held.card = if s.isOpen then 1 else 0) ∧
    (¬ ∀ (x : Event.Driver) (k : Transport) (s : State Bool Unit), (machine x k).Reachable s →
      ∀ r, (store x k r s).1 ≠ 0 → Unchanged s (store x k r s).2) ∧
    ¬ ∀ (k : Transport) (s : State Bool Unit), (machine .vhci k).Reachable s →
      ∀ t, step .vhci k s .failPut = some t → t.counts = s.before := by
  refine ⟨?_, ?_, ?_⟩
  · intro hall
    have hrun : ∃ s : State Bool Unit, (machine .vudc .kernel).Reachable s ∧
        s.isOpen = true ∧ s.held.card = 2 :=
      Machine.Reach.of_perform [.store goodRequest] rfl (by decide +kernel)
    obtain ⟨s, hs, hopen, hcard⟩ := hrun
    have hone := hall .vudc .kernel s hs
    rw [hopen, hcard] at hone
    cases hone
  · intro hall
    have hunchanged :=
      hall .stub .user { status := Event.Driver.stub.free } (.start rfl) noUx (by decide)
    exact absurd hunchanged.tcpSocket (by decide)
  · intro hall
    have hrun : ∃ s : State Bool Unit, (machine .vhci .kernel).Reachable s ∧
        s.before = (1, 1) ∧
          (step .vhci .kernel s .failPut).map State.counts = some ((0 : Int), (1 : Int)) :=
      Machine.Reach.of_perform
        [.getDevice, .store goodRequest, .getDevice, .store goodRequest] rfl (by decide +kernel)
    obtain ⟨s, hs, hbefore, hcounts⟩ := hrun
    obtain ⟨t, ht, hcounts⟩ := Option.map_eq_some_iff.mp hcounts
    have hsame := hall .kernel s hs t ht
    rw [hcounts, hbefore] at hsame
    exact absurd hsame (by decide)

end Usbip.Connect.References
