import Usbip.Ports.Machine

/-!
# The counters of the ports in use

`__vhci_get_device` counts a port in and sets its `using_port` without looking whether it is set
already, so an attach to a port that is held breaks the account (`busy_port_let_go`): when it has
failed, the port of the other connection counts as free.  And `vhci_put_device` clears the flag
before it takes the lock and decrements the counters, so that a counter is ahead of the flags in
between (`put_in_two_sections`).  `ports_counted` says what the counters come to as long as no attach
is made to a port that is held: the flags, and the decrements that are still owed.
-/

namespace Usbip.Ports

open Usbip.Core Usbip.Common Usbip.Event

/-! ## The account -/

/-- The `using_port` flag as a number. -/
def Port.flag (q : Port) : Int := if 0 < q.usingPort then 1 else 0

/-- The number of ports of a controller whose flag is set. -/
def Hcd.flags (p : Params) (v : Hcd) : Int := ∑ i ∈ Finset.range p.hcPorts, (v.vdev i).flag

/-- What an entry of the table counts. -/
def counted : Option (Option Hcd) → Int
  | some (some v) => v.usingPorts
  | _ => 0

/-- The flag of a port says whether it is held, and it is held once. -/
structure Port.Fair (q : Port) : Prop where
  flag : 0 < q.usingPort ↔ q.Held
  le : q.usingPort ≤ 1
  one : q.attaching + q.failing + q.connected.toNat ≤ 1
  release : q.release ≠ none → q.attaching = 0 ∧ q.failing = 0 ∧ q.connected = false

/-- The counter of a controller is right. -/
structure Hcd.Fair (p : Params) (v : Hcd) : Prop where
  port : ∀ i, i < p.hcPorts → (v.vdev i).Fair
  count : v.usingPorts = v.flags p + v.owed

structure Fair (p : Params) (s : State) : Prop where
  hcd : ∀ n v, s.pdevs n = some (some v) → n < p.maxControllers ∧ v.Fair p
  count : s.vhciUsingPorts = ∑ n ∈ Finset.range p.maxControllers, counted (s.pdevs n)

/-- An attach is made to a port that is not held and that the event work is not about to put, and
the event work writes the status when no attach to the port is in progress. -/
def Orderly (s : State) : Action → Prop
  | .getDevice n i _ => ∀ e ∈ s.pdevs n, ∀ v ∈ e, ¬ (v.vdev i).Held ∧ (v.vdev i).release = none
  | .reset n i => ∀ e ∈ s.pdevs n, ∀ v ∈ e, (v.vdev i).attaching = 0 ∧ (v.vdev i).failing = 0
  | .unusable n i => ∀ e ∈ s.pdevs n, ∀ v ∈ e, (v.vdev i).attaching = 0 ∧ (v.vdev i).failing = 0
  | _ => True

/-! ## Ports -/

namespace Port.Fair

variable {q q' : Port}

/-- A new port is not held. -/
lemma start : Port.Fair {} where
  flag := by simp [Port.Held]
  le := by decide
  one := by decide
  release h := absurd rfl h

/-- A port that is held by nobody is taken. -/
lemma getDevice (hheld : ¬ q.Held) (hrelease : q.release = none) :
    Port.Fair { q with usingPort := 1, attaching := q.attaching + 1 } := by
  obtain ⟨hattaching, hfailing, hconnected, -⟩ := by simpa [Port.Held] using hheld
  exact ⟨by simp [Port.Held], le_refl 1, by simp [hattaching, hfailing, hconnected],
    fun h => absurd hrelease h⟩

/-- The store keeps the port fair and sets no flag. -/
lemma storeAttach {linked : Bool} (hq : q.Fair) (h : storeAttach linked q = some q') :
    q'.Fair ∧ q'.flag = q.flag := by
  unfold Ports.storeAttach at h
  split at h
  · cases h
  rename_i hattaching
  have hone := hq.one
  have hset : 0 < q.usingPort := hq.flag.mpr (.inl (Nat.pos_of_ne_zero hattaching))
  have hrelease : q.release = none := by
    by_contra hne
    exact hattaching (hq.release hne).1
  split at h <;> cases h
  · refine ⟨⟨by simp [Port.Held, hset], hq.le, ?_, fun h => absurd hrelease h⟩, rfl⟩
    show q.attaching - 1 + q.failing + 1 ≤ 1
    omega
  · refine ⟨⟨by simp [Port.Held, hset], hq.le, ?_, fun h => absurd hrelease h⟩, rfl⟩
    show q.attaching - 1 + (q.failing + 1) + q.connected.toNat ≤ 1
    omega

/-- The event work writes the status of a port that no attach is being made to. -/
lemma endConnection {status : UsbipDeviceStatus} (hq : q.Fair) (hattaching : q.attaching = 0)
    (hfailing : q.failing = 0) (h : endConnection status q = some q') :
    q'.Fair ∧ q'.flag = q.flag := by
  unfold Ports.endConnection at h
  split at h <;> cases h
  rename_i hrelease
  have hflag := hq.flag
  simp only [Port.Held, hattaching, hfailing, hrelease] at hflag
  refine ⟨⟨?_, hq.le, by simp [hattaching, hfailing], fun _ => ⟨hattaching, hfailing, rfl⟩⟩, rfl⟩
  simp only [Port.Held, hattaching, hfailing]
  simpa using hflag

/-- A put clears the flag of a port that is held, and leaves the others' not set. -/
lemma put (hq : q.Fair)
    (hq' : q'.usingPort = q.usingPort - 1) (hheld : ¬ q'.Held)
    (hone : q'.attaching + q'.failing + q'.connected.toNat ≤ 1) (hrelease : q'.release = none) :
    q'.Fair ∧ q'.flag + (if q.usingPort - 1 = 0 then 1 else 0) = q.flag := by
  have hle := hq.le
  refine ⟨⟨?_, by omega, hone, fun h => absurd hrelease h⟩, ?_⟩
  · refine iff_of_false (by omega) hheld
  · unfold Port.flag
    rw [hq']
    split <;> split <;> split <;> omega

/-- A store that fails after its `vhci_get_device` puts it back. -/
lemma failPut (hq : q.Fair) (hfailing : q.failing ≠ 0)
    (hq' : q' = { q with failing := q.failing - 1, usingPort := q.usingPort - 1 }) :
    q'.Fair ∧ q'.flag + (if q.usingPort - 1 = 0 then 1 else 0) = q.flag := by
  have hone := hq.one
  have hrelease : q.release = none := by
    by_contra hne
    exact hfailing (hq.release hne).2.1
  have hconnected : q.connected = false := by
    cases hc : q.connected with
    | false => rfl
    | true =>
        rw [hc] at hone
        simp only [Bool.toNat_true] at hone
        omega
  subst hq'
  refine hq.put rfl ?_ ?_ hrelease
  · simp only [Port.Held, hconnected, hrelease]
    simp
    omega
  · show q.attaching + (q.failing - 1) + q.connected.toNat ≤ 1
    omega

/-- The release of the device puts the reference of the attach. -/
lemma releasePut (hq : q.Fair) (hrelease : q.release ≠ none)
    (hq' : q' = { q with release := none, usingPort := q.usingPort - 1 }) :
    q'.Fair ∧ q'.flag + (if q.usingPort - 1 = 0 then 1 else 0) = q.flag := by
  obtain ⟨hattaching, hfailing, hconnected⟩ := hq.release hrelease
  subst hq'
  refine hq.put rfl ?_ hq.one rfl
  simp [Port.Held, hattaching, hfailing, hconnected]

/-- Setting event bits changes no count. -/
lemma setEvent (hq : q.Fair) (e : BitVec 64) : Port.Fair { q with event := e } :=
  ⟨hq.flag, hq.le, hq.one, hq.release⟩

end Port.Fair

/-! ## Controllers and the table -/

/-- One entry of a table changes the sum over it. -/
lemma sum_update {β : Type*} (F : β → Int) (f : Nat → β) (b : β) {c i : Nat} (hi : i < c) :
    ∑ j ∈ Finset.range c, F (Function.update f i b j) =
      ∑ j ∈ Finset.range c, F (f j) - F (f i) + F b := by
  have hmem : i ∈ Finset.range c := Finset.mem_range.mpr hi
  have hrest : ∑ j ∈ (Finset.range c).erase i, F (Function.update f i b j) =
      ∑ j ∈ (Finset.range c).erase i, F (f j) := by
    refine Finset.sum_congr rfl fun j hj => ?_
    rw [Function.update_of_ne (Finset.ne_of_mem_erase hj)]
  rw [← Finset.add_sum_erase _ _ hmem, ← Finset.add_sum_erase _ _ hmem, Function.update_self, hrest]
  ring

section Table

variable {p : Params} {s t : State} {n i : Nat} {v w : Hcd} {q : Port}

/-- Writing one port changes the number of flags by that port's. -/
lemma flags_setPort (hi : i < p.hcPorts) :
    (v.setPort i q).flags p = v.flags p - (v.vdev i).flag + q.flag :=
  sum_update Port.flag v.vdev q hi

/-- A port of a controller changes, and the counter with it. -/
lemma Hcd.Fair.setPort (hv : v.Fair p) (hi : i < p.hcPorts) (hq : q.Fair)
    (hvdev : w.vdev = (v.setPort i q).vdev)
    (hcount : w.usingPorts - w.owed = v.usingPorts - v.owed - (v.vdev i).flag + q.flag) :
    w.Fair p := by
  refine ⟨fun j hj => ?_, ?_⟩
  · rw [hvdev]
    show (Function.update v.vdev i q j).Fair
    by_cases hji : j = i
    · rw [hji, Function.update_self]
      exact hq
    · rw [Function.update_of_ne hji]
      exact hv.port j hj
  · have hflags : w.flags p = (v.setPort i q).flags p := by
      unfold Hcd.flags
      rw [hvdev]
    have hold := hv.count
    rw [hflags, flags_setPort hi]
    omega

/-- A controller changes, and the global counter with it. -/
lemma Fair.setHcd (hs : Fair p s) (hn : s.pdevs n = some (some v)) (hw : w.Fair p)
    (hpdevs : t.pdevs = Function.update s.pdevs n (some (some w)))
    (hcount : t.vhciUsingPorts = s.vhciUsingPorts - v.usingPorts + w.usingPorts) : Fair p t := by
  have hlt := (hs.hcd n v hn).1
  refine ⟨fun m u hu => ?_, ?_⟩
  · rw [hpdevs] at hu
    by_cases hmn : m = n
    · subst hmn
      rw [Function.update_self] at hu
      cases hu
      exact ⟨hlt, hw⟩
    · rw [Function.update_of_ne hmn] at hu
      exact hs.hcd m u hu
  · rw [hpdevs, hcount, sum_update counted s.pdevs _ hlt, ← hs.count, hn]
    rfl

/-- A port changes, but not its flag. -/
lemma Fair.onPort {f : Port → Option Port} (hs : Fair p s) (hi : i < p.hcPorts)
    (hf : ∀ v q', s.pdevs n = some (some v) → (v.vdev i).Fair → f (v.vdev i) = some q' →
      q'.Fair ∧ q'.flag = (v.vdev i).flag) (h : s.onPort n i f = some t) : Fair p t := by
  unfold State.onPort at h
  split at h
  · rename_i v hn
    obtain ⟨q', hq', rfl⟩ := Option.map_eq_some_iff.mp h
    obtain ⟨-, hv⟩ := hs.hcd n v hn
    obtain ⟨hfair, hflag⟩ := hf v q' hn (hv.port i hi) hq'
    have hw : (v.setPort i q').Fair p := by
      refine hv.setPort hi hfair rfl ?_
      rw [hflag, Int.sub_add_cancel]
      rfl
    refine hs.setHcd hn hw rfl ?_
    show s.vhciUsingPorts = s.vhciUsingPorts - v.usingPorts + v.usingPorts
    ring
  · cases h

/-- A put clears a flag and owes a decrement, or does neither. -/
lemma Fair.put (hs : Fair p s) (hn : s.pdevs n = some (some v)) (hi : i < p.hcPorts)
    (hw : w = { v.setPort i q with
      owed := v.owed + if (v.vdev i).usingPort - 1 = 0 then 1 else 0 })
    (hq : q.Fair ∧ q.flag + (if (v.vdev i).usingPort - 1 = 0 then 1 else 0) = (v.vdev i).flag) :
    Fair p (s.setHcd n w) := by
  obtain ⟨-, hv⟩ := hs.hcd n v hn
  have husing : w.usingPorts = v.usingPorts := by
    rw [hw]
    rfl
  have howed : w.owed = v.owed + if (v.vdev i).usingPort - 1 = 0 then 1 else 0 := by rw [hw]
  have hfair : w.Fair p := by
    refine hv.setPort hi hq.1 (by rw [hw]) ?_
    have hflag := hq.2
    rw [husing, howed]
    push_cast
    linarith
  refine hs.setHcd hn hfair rfl ?_
  show s.vhciUsingPorts = s.vhciUsingPorts - v.usingPorts + w.usingPorts
  rw [husing]
  ring

/-- The second half of `vhci_put_device` pays what is owed. -/
lemma Fair.countOut (hs : Fair p s) (h : countOut n s = some t) : Fair p t := by
  unfold Ports.countOut at h
  split at h
  · rename_i v hn
    split at h <;> cases h
    rename_i howed
    obtain ⟨-, hv⟩ := hs.hcd n v hn
    have hfair : Hcd.Fair p { v with usingPorts := v.usingPorts - 1, owed := v.owed - 1 } := by
      refine ⟨hv.port, ?_⟩
      have hcount := hv.count
      show v.usingPorts - 1 = v.flags p + ((v.owed - 1 : Nat) : Int)
      omega
    refine hs.setHcd hn hfair rfl ?_
    show s.vhciUsingPorts - 1 = s.vhciUsingPorts - v.usingPorts + (v.usingPorts - 1)
    ring
  · cases h

/-- `vhci_get_device` on a port that nobody holds. -/
lemma Fair.getDeviceOn (hs : Fair p s) (hn : s.pdevs n = some (some v)) (hi : i < p.hcPorts)
    (hheld : ¬ (v.vdev i).Held) (hrelease : (v.vdev i).release = none) :
    Fair p (getDevice n i v s) := by
  obtain ⟨-, hv⟩ := hs.hcd n v hn
  have hflag : (v.vdev i).flag = 0 := if_neg fun h => hheld ((hv.port i hi).flag.mp h)
  refine hs.setHcd (w := { v.setPort i { v.vdev i with
      usingPort := 1, attaching := (v.vdev i).attaching + 1 } with
    usingPorts := v.usingPorts + 1 }) hn ?_ rfl ?_
  · refine hv.setPort hi (Port.Fair.getDevice hheld hrelease) rfl ?_
    show v.usingPorts + 1 - v.owed = v.usingPorts - v.owed - (v.vdev i).flag + 1
    rw [hflag]
    ring
  · show s.vhciUsingPorts + 1 = s.vhciUsingPorts - v.usingPorts + (v.usingPorts + 1)
    ring

/-- A new controller counts no port. -/
lemma hcd_fair_start : Hcd.Fair p {} where
  port _ _ := .start
  count := by simp [Hcd.flags, Port.flag]

/-- A new controller counts nothing. -/
lemma Fair.addPlatformDevice {e : Option Hcd} (hs : Fair p s) (hn : s.pdevs n = none)
    (hlt : n < p.maxControllers) (he : e = none ∨ e = some {}) :
    Fair p (addPlatformDevice n e s) := by
  have hzero : counted (some e) = 0 := by rcases he with rfl | rfl <;> rfl
  refine ⟨fun m u hu => ?_, ?_⟩
  · replace hu : Function.update s.pdevs n (some e) m = some (some u) := hu
    by_cases hmn : m = n
    · subst hmn
      rw [Function.update_self] at hu
      rcases he with rfl | rfl <;> cases hu
      exact ⟨hlt, hcd_fair_start⟩
    · rw [Function.update_of_ne hmn] at hu
      exact hs.hcd m u hu
  · show s.vhciUsingPorts = ∑ m ∈ _, counted (Function.update s.pdevs n (some e) m)
    rw [sum_update counted s.pdevs _ hlt, hzero, hn, hs.count]
    show _ = _ - 0 + 0
    ring

/-- What the loop over the controllers finds to delete is not in use. -/
lemma tryDelScan_delete {m : Nat} (h : tryDelScan s m = .delete n) :
    ∃ v, s.pdevs n = some (some v) ∧ v.usingPorts = 0 := by
  induction m with
  | zero => cases h
  | succ m ih =>
      unfold tryDelScan at h
      split at h
      · exact ih h
      · cases h
      · rename_i v hv
        split at h
        · cases h
          exact ⟨v, hv, ‹_›⟩
        · exact ih h

/-- Only a controller without a port that is held is deleted. -/
lemma Hcd.Fair.not_held (hv : v.Fair p) (hzero : v.usingPorts = 0) (hi : i < p.hcPorts) :
    ¬ (v.vdev i).Held := by
  have hnonneg : ∀ j ∈ Finset.range p.hcPorts, 0 ≤ (v.vdev j).flag := by
    intro j _
    unfold Port.flag
    split <;> decide
  have hcount := hv.count
  have hflags : v.flags p = 0 := by
    have hsum : 0 ≤ v.flags p := Finset.sum_nonneg hnonneg
    omega
  have hflag := (Finset.sum_eq_zero_iff_of_nonneg hnonneg).mp hflags i (Finset.mem_range.mpr hi)
  intro hheld
  have hset := (hv.port i hi).flag.mpr hheld
  rw [Port.flag, if_pos hset] at hflag
  cases hflag

/-- Deleting a controller in passing keeps the counts. -/
lemma Fair.tryDelPlatformDevice {lock : Bool} (hs : Fair p s)
    (h : tryDelPlatformDevice p lock s = some t) : Fair p t := by
  unfold Ports.tryDelPlatformDevice at h
  split at h
  swap
  · cases h
    exact hs
  split at h <;> cases h
  · exact hs
  rename_i n hscan
  obtain ⟨v, hv, hzero⟩ := tryDelScan_delete hscan
  have hlt := (hs.hcd n v hv).1
  refine ⟨fun m u hu => ?_, ?_⟩
  · replace hu : Function.update s.pdevs n none m = some (some u) := hu
    by_cases hmn : m = n
    · subst hmn
      rw [Function.update_self] at hu
      cases hu
    · rw [Function.update_of_ne hmn] at hu
      exact hs.hcd m u hu
  · show s.vhciUsingPorts = ∑ m ∈ _, counted (Function.update s.pdevs n none m)
    rw [sum_update counted s.pdevs _ hlt, hv, hs.count]
    show _ = _ - v.usingPorts + 0
    rw [hzero]
    ring

/-- Adding an event keeps the counts. -/
lemma Fair.vhciEventAdd {lock : Bool} {e : BitVec 64} (hs : Fair p s) (hi : i < p.hcPorts)
    (h : settled (vhciEventAdd p lock n i e s) = some t) : Fair p t := by
  unfold Ports.vhciEventAdd at h
  split at h
  · cases h
  · rename_i u hu
    have hfair := hs.tryDelPlatformDevice hu
    split at h
    · rename_i v hv
      cases h
      refine hfair.onPort (f := fun q => some (addEvent e q)) (n := n) (i := i) hi ?_ ?_
      · intro v q' _ hq hq'
        cases hq'
        exact ⟨hq.setEvent _, rfl⟩
      · unfold State.onPort
        rw [hv]
        rfl
    · cases h

/-- A detach keeps the counts. -/
lemma Fair.storeDetach {lock : Bool} {buf : List Char} (hs : Fair p s)
    (h : settled (storeDetach p lock buf s) = some t) : Fair p t := by
  unfold Ports.storeDetach at h
  split at h
  · cases h
    exact hs
  dsimp only at h
  split at h
  · cases h
    exact hs
  rename_i hvalid
  split at h
  · cases h
  · cases h
    exact hs
  · unfold vhciPortDisconnect at h
    split at h
    · cases h
      exact hs
    · exact hs.vhciEventAdd (not_not.mp hvalid).2 h

/-- Every step that is taken in order keeps the counts. -/
theorem fair_step {a : Action} (hs : Fair p s) (hok : Orderly s a) (h : step p s a = some t) :
    Fair p t := by
  cases a with
  | getDevice n i r =>
      obtain ⟨⟨hn, hi⟩, h⟩ := Option.ite_none_right_eq_some.mp h
      unfold vhciGetDevice at h
      split at h
      · rename_i v hv
        cases h
        obtain ⟨hheld, hrelease⟩ := hok (some v) hv v rfl
        exact hs.getDeviceOn hv hi hheld hrelease
      · cases h
      · rename_i hnone
        cases r <;> cases h
        · exact hs
        · exact hs.addPlatformDevice hnone hn (.inl rfl)
        · exact hs.addPlatformDevice hnone hn (.inr rfl)
        · exact (hs.addPlatformDevice hnone hn (.inr rfl)).getDeviceOn (Function.update_self ..) hi
            (show ¬ Port.Held {} by decide) rfl
  | attach n i linked =>
      obtain ⟨hi, h⟩ := Option.ite_none_right_eq_some.mp h
      exact hs.onPort hi (fun v q' _ hq hq' => hq.storeAttach hq') h
  | failPut n i =>
      obtain ⟨hi, h⟩ := Option.ite_none_right_eq_some.mp h
      unfold failPut at h
      split at h
      · rename_i v hv
        dsimp only at h
        split at h <;> cases h
        rename_i hfailing
        exact hs.put hv hi rfl (((hs.hcd n v hv).2.port i hi).failPut hfailing rfl)
      · cases h
  | releasePut n i =>
      obtain ⟨hi, h⟩ := Option.ite_none_right_eq_some.mp h
      unfold releasePut at h
      split at h
      · rename_i v hv
        dsimp only at h
        split at h <;> cases h
        rename_i hrelease
        exact hs.put hv hi rfl (((hs.hcd n v hv).2.port i hi).releasePut hrelease rfl)
      · cases h
  | countOut n => exact hs.countOut h
  | reset n i =>
      obtain ⟨hi, h⟩ := Option.ite_none_right_eq_some.mp h
      refine hs.onPort hi (fun v q' hv hq hq' => ?_) h
      obtain ⟨hattaching, hfailing⟩ := hok (some v) hv v rfl
      exact hq.endConnection hattaching hfailing hq'
  | unusable n i =>
      obtain ⟨hi, h⟩ := Option.ite_none_right_eq_some.mp h
      refine hs.onPort hi (fun v q' hv hq hq' => ?_) h
      obtain ⟨hattaching, hfailing⟩ := hok (some v) hv v rfl
      exact hq.endConnection hattaching hfailing hq'
  | detach lock buf => exact hs.storeDetach h
  | eventAdd lock n i e =>
      obtain ⟨hi, h⟩ := Option.ite_none_right_eq_some.mp h
      exact hs.vhciEventAdd hi h
  | unsetEvent n i e =>
      obtain ⟨hi, h⟩ := Option.ite_none_right_eq_some.mp h
      refine hs.onPort hi (fun v q' _ hq hq' => ?_) h
      cases hq'
      exact ⟨hq.setEvent _, rfl⟩

/-- The counts hold in every state reached in order. -/
lemma fair_of_reach (h : (machine p).Reach Orderly s) : Fair p s := by
  refine h.invariant (I := Fair p) ?_ fun s a t hs hok hstep => fair_step hs hok hstep
  rintro s rfl
  refine ⟨fun n v hv => ?_, ?_⟩
  · replace hv : (if n < p.initControllers then some (some {}) else none) = some (some v) := hv
    split at hv <;> cases hv
    exact ⟨lt_of_lt_of_le ‹_› p.init_le, hcd_fair_start⟩
  · refine (Finset.sum_eq_zero fun n _ => ?_).symm
    show counted (if n < p.initControllers then some (some {}) else none) = 0
    split <;> rfl

/-- The put of a port that is held owes one decrement, that of another port none. -/
lemma Fair.owed_releasePut (hs : Fair p s) (hi : i < p.hcPorts) (hv : s.pdevs n = some (some v))
    (h : releasePut n i s = some t) :
    ∃ w, t.pdevs n = some (some w) ∧ w.owed = v.owed + if (v.vdev i).Held then 1 else 0 := by
  have hq := (hs.hcd n v hv).2.port i hi
  unfold releasePut at h
  rw [hv] at h
  dsimp only at h
  split at h <;> cases h
  refine ⟨_, Function.update_self .., ?_⟩
  have hle := hq.le
  have hcond : (v.vdev i).usingPort - 1 = 0 ↔ (v.vdev i).Held := by
    rw [← hq.flag]
    omega
  simp only [putDevice, hcond]

/-- In every run that is `Orderly`, the counter of a controller is the number of its ports whose flag
is set, but for the decrements that `vhci_put_device` has still to make; these are the ports that
are held; the global counter is the sum; a controller that is deleted has no port that is held; and
the release of a port that is held owes one decrement. -/
theorem ports_counted (h : (machine p).Reach Orderly s) :
    (∀ n v, s.pdevs n = some (some v) →
      v.usingPorts = ((Finset.range p.hcPorts).filter fun i => 0 < (v.vdev i).usingPort).card + v.owed ∧
        ∀ i, i < p.hcPorts → (0 < (v.vdev i).usingPort ↔ (v.vdev i).Held)) ∧
    s.vhciUsingPorts = ∑ n ∈ Finset.range p.maxControllers, counted (s.pdevs n) ∧
    (∀ lock t n v, tryDelPlatformDevice p lock s = some t → s.pdevs n = some (some v) →
      t.pdevs n = none → ∀ i, i < p.hcPorts → ¬ (v.vdev i).Held) ∧
    ∀ n i t v, i < p.hcPorts → s.pdevs n = some (some v) → releasePut n i s = some t →
      ∃ w, t.pdevs n = some (some w) ∧ w.owed = v.owed + if (v.vdev i).Held then 1 else 0 := by
  have hs := fair_of_reach h
  refine ⟨fun n v hv => ?_, hs.count, fun lock t n v ht hv hgone i hi => ?_,
    fun n i t v hi hv => hs.owed_releasePut hi hv⟩
  · obtain ⟨-, hfair⟩ := hs.hcd n v hv
    refine ⟨?_, fun i hi => (hfair.port i hi).flag⟩
    rw [hfair.count, Hcd.flags, Finset.card_filter]
    push_cast
    rfl
  · unfold tryDelPlatformDevice at ht
    split at ht
    swap
    · cases ht
      rw [hv] at hgone
      cases hgone
    split at ht <;> cases ht
    · rw [hv] at hgone
      cases hgone
    rename_i m hscan
    obtain ⟨w, hw, hzero⟩ := tryDelScan_delete hscan
    by_cases hnm : n = m
    · subst hnm
      rw [hv] at hw
      cases hw
      exact (hs.hcd n v hv).2.not_held hzero hi
    · replace hgone : Function.update s.pdevs m none n = none := hgone
      rw [Function.update_of_ne hnm, hv] at hgone
      cases hgone

end Table

/-! ## Runs -/

instance (s : State) (a : Action) : Decidable (Orderly s a) := by
  cases a <;> unfold Orderly <;> infer_instance

/-- Two controllers of eight ports, one of them there from the start. -/
def twoControllers : Params where
  maxControllers := 2
  initControllers := 1
  init_pos := Nat.one_pos
  init_le := by decide

/-- An attach to a port, up to its return. -/
def attached (n i : Nat) : List Action := [.getDevice n i .started, .attach n i true]

/-- A reset of a port, with all of its `vhci_put_device`. -/
def released (n i : Nat) : List Action := [.reset n i, .releasePut n i, .countOut n]

/-- A port of the second controller is attached to and released. -/
theorem ports_counted_attach : ∃ (s : State) (v : Hcd), s.pdevs 1 = some (some v) ∧
    v.usingPorts =
      ((Finset.range 8).filter fun i => 0 < (v.vdev i).usingPort).card + v.owed ∧
    (v.vdev 3).connected = true := by
  have hrun : ∃ s, (machine twoControllers).Reach Orderly s ∧
      (s.pdevs 1).join.map (fun v => (v.vdev 3).connected) = some true :=
    Machine.Reach.of_perform (attached 1 3 ++ released 1 3 ++ attached 1 3) rfl (by decide +kernel)
  obtain ⟨s, hs, hconnected⟩ := hrun
  obtain ⟨v, hv, hconnected⟩ := Option.map_eq_some_iff.mp hconnected
  have hpdev : s.pdevs 1 = some (some v) := Option.join_eq_some_iff.mp hv
  exact ⟨s, v, hpdev, ((ports_counted hs).1 1 v hpdev).1, hconnected⟩

/-- An attach to a port in use fails with -EBUSY, and its `vhci_put_device` clears the flag of the
connection. -/
lemma busy_port_let_go : ¬ ∀ (p : Params) (s : State), (machine p).Reachable s →
    ∀ n v, s.pdevs n = some (some v) → ∀ i, i < p.hcPorts →
      (0 < (v.vdev i).usingPort ↔ (v.vdev i).Held) := by
  intro hall
  have hrun : ∃ s, (machine twoControllers).Reachable s ∧
      (s.pdevs 1).join.map (fun v => ((v.vdev 3).usingPort, (v.vdev 3).connected)) =
        some (0, true) :=
    Machine.Reach.of_perform (attached 1 3 ++ attached 1 3 ++ [.failPut 1 3, .countOut 1]) rfl
      (by decide +kernel)
  obtain ⟨s, hs, hport⟩ := hrun
  obtain ⟨v, hv, hport⟩ := Option.map_eq_some_iff.mp hport
  obtain ⟨husing, hconnected⟩ := Prod.mk.inj hport
  have hset := (hall _ s hs 1 v (Option.join_eq_some_iff.mp hv) 3 (by decide)).mpr
    (.inr (.inr (.inl hconnected)))
  rw [husing] at hset
  exact absurd hset (by decide)

/-- Between the two sections of `vhci_put_device` the counter is ahead of the flags, with one attach
and one reset and nothing in the way of either. -/
lemma put_in_two_sections : ¬ ∀ (p : Params) (s : State), (machine p).Reach Orderly s →
    ∀ n v, s.pdevs n = some (some v) →
      v.usingPorts = ((Finset.range p.hcPorts).filter fun i => 0 < (v.vdev i).usingPort).card := by
  intro hall
  have hrun : ∃ s, (machine twoControllers).Reach Orderly s ∧
      (s.pdevs 1).join.map (fun v => (v.usingPorts,
        ((Finset.range 8).filter fun i => 0 < (v.vdev i).usingPort).card)) = some (1, 0) :=
    Machine.Reach.of_perform (attached 1 3 ++ [.reset 1 3, .releasePut 1 3]) rfl
      (by decide +kernel)
  obtain ⟨s, hs, hcounts⟩ := hrun
  obtain ⟨v, hv, hcounts⟩ := Option.map_eq_some_iff.mp hcounts
  obtain ⟨husing, hflags⟩ := Prod.mk.inj hcounts
  have hcount := hall _ s hs 1 v (Option.join_eq_some_iff.mp hv)
  rw [husing] at hcount
  exact absurd (hcount.trans (congrArg Nat.cast hflags)) (by decide)

/-- Neither the flags nor the counters are right in every state: the flags are not where an attach
has been made to a port in use, and the counters are not, whatever the attaches, within
`vhci_put_device`. -/
theorem ports_miscounted :
    (¬ ∀ (p : Params) (s : State), (machine p).Reachable s →
      ∀ n v, s.pdevs n = some (some v) → ∀ i, i < p.hcPorts →
        (0 < (v.vdev i).usingPort ↔ (v.vdev i).Held)) ∧
    ¬ ∀ (p : Params) (s : State), (machine p).Reach Orderly s →
      ∀ n v, s.pdevs n = some (some v) →
        v.usingPorts =
          ((Finset.range p.hcPorts).filter fun i => 0 < (v.vdev i).usingPort).card :=
  ⟨busy_port_let_go, put_in_two_sections⟩

end Usbip.Ports
