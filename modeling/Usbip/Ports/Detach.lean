import Usbip.Ports.Counters

/-!
# Detaching any port

`store_detach` checks that the port number is in the range of the table and then reads the driver
data of the table's entry, which is NULL for a controller that has not been added or has been
deleted.  `vhci_event_add` may delete a controller before it adds the event, even the one that the
event is for.  `detach_safe_iff` says for which strings and tables neither happens.
-/

namespace Usbip.Ports

open Usbip.Core Usbip.Common Usbip.Event

/-- The event goes to a port of a controller that is there and stays, or nothing has changed. -/
def Safe (p : Params) (s : State) (x : Outcome × State) : Prop :=
  match x.1 with
  | .failed _ => x.2 = s
  | .added n i =>
      i < p.hcPorts ∧ (∃ v, s.pdevs n = some (some v)) ∧ ∃ v, x.2.pdevs n = some (some v)
  | .nullPdev | .crashed | .deleted => False

/-- The loop over the controllers goes past an entry. -/
def Passes (s : State) (n : Nat) : Prop :=
  s.pdevs n = none ∨ ∃ v, s.pdevs n = some (some v) ∧ v.usingPorts ≠ 0

/-- The first entry from above, `vhci_pdevs[0]` not counted, that the loop does not go past is a
controller with driver data, and another one than `n`. -/
def Spared (p : Params) (n : Nat) (s : State) : Prop :=
  ∀ m, 0 < m → m < p.maxControllers → (∀ j, m < j → j < p.maxControllers → Passes s j) →
    ¬ Passes s m → s.pdevs m ≠ some none ∧ m ≠ n

/-- If the string is the number of a port in the range of the table, its controller is in the table;
and if the port is connected and there are enough free ports to delete a controller, the controller
is `Spared`. -/
def Detachable (p : Params) (lock : Bool) (buf : List Char) (s : State) : Prop :=
  ∀ z, kstrtoint buf = some z →
    let n := portToPdevNr p (BitVec.ofInt 32 z)
    let i := portToRhport p (BitVec.ofInt 32 z)
    ValidPort p n i → s.pdevs n ≠ none ∧
      ∀ v, s.pdevs n = some (some v) → (v.vdev i).status ≠ .vdevNull → lock = true →
        EnoughFree p s → Spared p n s

/-! ## The loop over the controllers -/

section Scan

variable {s : State} {m n : Nat}

/-- The loop ends at the first entry that it does not go past. -/
lemma tryDelScan_of_stops (hm : 0 < m) (hmn : m ≤ n) (hpasses : ∀ j, m < j → j ≤ n → Passes s j)
    (hstops : ¬ Passes s m) :
    (s.pdevs m = some none ∧ tryDelScan s n = .crash) ∨
      (s.pdevs m ≠ some none ∧ tryDelScan s n = .delete m) := by
  induction n with
  | zero => omega
  | succ n ih =>
      unfold tryDelScan
      by_cases heq : m = n + 1
      · subst heq
        split
        · rename_i hnone
          exact absurd (.inl hnone) hstops
        · rename_i hcrash
          exact .inl ⟨hcrash, rfl⟩
        · rename_i v hv
          have hzero : v.usingPorts = 0 := by
            by_contra hne
            exact hstops (.inr ⟨v, hv, hne⟩)
          exact .inr ⟨by simp [hv], if_pos hzero⟩
      · have hrest := ih (by omega) fun j hj hjn => hpasses j hj (by omega)
        rcases hpasses (n + 1) (by omega) le_rfl with h | ⟨v, h, hne⟩
        · rw [h]
          exact hrest
        · rw [h]
          dsimp only
          rw [if_neg hne]
          exact hrest

/-- A scan that every controller passes deletes nothing. -/
lemma tryDelScan_of_passes (hpasses : ∀ j, 0 < j → j ≤ n → Passes s j) :
    tryDelScan s n = .nothing := by
  induction n with
  | zero => rfl
  | succ n ih =>
      unfold tryDelScan
      rw [ih fun j hj hjn => hpasses j hj (by omega)]
      rcases hpasses (n + 1) (by omega) le_rfl with h | ⟨v, h, hne⟩
      · rw [h]
      · rw [h]
        exact if_neg hne

/-- Where the loop stops, if it does. -/
lemma exists_stop (s : State) (n : Nat) :
    (∀ j, 0 < j → j ≤ n → Passes s j) ∨
      ∃ m, 0 < m ∧ m ≤ n ∧ ¬ Passes s m ∧ ∀ j, m < j → j ≤ n → Passes s j := by
  induction n with
  | zero => exact .inl fun j hj hj0 => by omega
  | succ n ih =>
      by_cases hlast : Passes s (n + 1)
      · rcases ih with h | ⟨m, hm, hmn, hstops, h⟩
        · refine .inl fun j hj hjn => ?_
          rcases Nat.lt_or_eq_of_le hjn with hlt | rfl
          · exact h j hj (by omega)
          · exact hlast
        · refine .inr ⟨m, hm, by omega, hstops, fun j hj hjn => ?_⟩
          rcases Nat.lt_or_eq_of_le hjn with hlt | rfl
          · exact h j hj (by omega)
          · exact hlast
      · exact .inr ⟨n + 1, by omega, le_rfl, hlast, fun j hj hjn => by omega⟩

/-- The loop leaves a controller alone, and finds none without driver data, if the controller is
spared. -/
lemma spared_iff (p : Params) (n : Nat) (s : State) :
    Spared p n s ↔ tryDelScan s (p.maxControllers - 1) ≠ .crash ∧
      tryDelScan s (p.maxControllers - 1) ≠ .delete n := by
  have hmax : 0 < p.maxControllers := lt_of_lt_of_le p.init_pos p.init_le
  rcases exists_stop s (p.maxControllers - 1) with h | ⟨m, hm, hmn, hstops, h⟩
  · rw [tryDelScan_of_passes h]
    refine iff_of_true (fun m hm hlt _ hstops => absurd (h m hm (by omega)) hstops) ?_
    exact ⟨fun h => (by cases h), fun h => (by cases h)⟩
  · have hfirst : ∀ k, 0 < k → k < p.maxControllers →
        (∀ j, k < j → j < p.maxControllers → Passes s j) → ¬ Passes s k → k = m := by
      intro k _ hlt hpasses hk
      rcases Nat.lt_trichotomy k m with hkm | hkm | hkm
      · exact absurd (hpasses m hkm (by omega)) hstops
      · exact hkm
      · exact absurd (h k hkm (by omega)) hk
    have hspared : Spared p n s ↔ s.pdevs m ≠ some none ∧ m ≠ n := by
      constructor
      · exact fun hs => hs m hm (by omega) (fun j hj hlt => h j hj (by omega)) hstops
      · intro hs k hk hlt hpasses hstops
        rw [hfirst k hk hlt hpasses hstops]
        exact hs
    rw [hspared]
    rcases tryDelScan_of_stops hm hmn h hstops with ⟨hnone, hscan⟩ | ⟨hnone, hscan⟩
    · rw [hscan]
      exact iff_of_false (fun h => h.1 hnone) fun h => h.1 rfl
    · rw [hscan]
      refine ⟨fun h => ⟨fun hc => (by cases hc), fun hd => ?_⟩, fun h => ⟨hnone, fun heq => ?_⟩⟩
      · cases hd
        exact h.2 rfl
      · exact h.2 (congrArg _ heq)

end Scan

/-! ## Adding the event -/

section Detach

variable {p : Params} {lock : Bool} {s : State} {n i : Nat} {v : Hcd}

/-- The event is added safely unless the device's own controller is deleted under it. -/
lemma safe_vhciEventAdd (hi : i < p.hcPorts) (hv : s.pdevs n = some (some v)) :
    Safe p s (vhciEventAdd p lock n i eventDown s) ↔
      (lock = true → EnoughFree p s → Spared p n s) := by
  have hadd : ∀ t : State, t.pdevs n = some (some v) →
      tryDelPlatformDevice p lock s = some t → Safe p s (vhciEventAdd p lock n i eventDown s) := by
    intro t ht hdel
    unfold vhciEventAdd
    rw [hdel]
    dsimp only
    rw [ht]
    exact ⟨hi, ⟨v, hv⟩, _, Function.update_self ..⟩
  by_cases htry : lock = true ∧ EnoughFree p s
  swap
  · refine iff_of_true (hadd s hv ?_) fun hlock hfree => absurd ⟨hlock, hfree⟩ htry
    unfold tryDelPlatformDevice
    rw [if_neg htry]
  have hright : (lock = true → EnoughFree p s → Spared p n s) ↔ Spared p n s :=
    ⟨fun h => h htry.1 htry.2, fun h _ _ => h⟩
  rw [hright, spared_iff]
  unfold tryDelPlatformDevice at hadd
  rw [if_pos htry] at hadd
  cases hscan : tryDelScan s (p.maxControllers - 1) with
  | nothing =>
      refine iff_of_true (hadd s hv (by rw [hscan])) ⟨fun h => (by cases h), fun h => (by cases h)⟩
  | crash =>
      refine iff_of_false (fun h => ?_) fun h => h.1 rfl
      unfold vhciEventAdd tryDelPlatformDevice at h
      rw [if_pos htry, hscan] at h
      exact h
  | delete m =>
      by_cases hmn : m = n
      · subst hmn
        refine iff_of_false (fun h => ?_) fun h => h.2 rfl
        have hgone : (delPlatformDevice m s).pdevs m = none := Function.update_self ..
        unfold vhciEventAdd tryDelPlatformDevice at h
        rw [if_pos htry, hscan] at h
        dsimp only at h
        rw [hgone] at h
        exact h
      · refine iff_of_true (hadd (delPlatformDevice m s) ?_ (by rw [hscan])) ?_
        · exact (Function.update_of_ne (Ne.symm hmn) ..).trans hv
        · refine ⟨fun h => (by cases h), fun h => ?_⟩
          cases h
          exact hmn rfl

/-- A write to `detach` is safe exactly when the port is `Detachable`. -/
theorem detach_safe_iff (p : Params) (lock : Bool) (buf : List Char) (s : State) :
    Safe p s (storeDetach p lock buf s) ↔ Detachable p lock buf s := by
  unfold Detachable storeDetach
  cases hz : kstrtoint buf with
  | none => exact iff_of_true rfl fun z h => (by cases h)
  | some z =>
      dsimp only
      split
      · rename_i hvalid
        refine iff_of_true rfl fun z' hz' hvalid' => ?_
        cases hz'
        exact absurd hvalid' hvalid
      rename_i hvalid
      have hvalid := not_not.mp hvalid
      split
      · rename_i hnone
        exact iff_of_false id fun h => (h z rfl hvalid).1 hnone
      · rename_i hnone
        refine iff_of_true rfl fun z' hz' _ => ?_
        cases hz'
        exact ⟨by simp [hnone], fun v hv => (by rw [hnone] at hv; cases hv)⟩
      rename_i v hv
      unfold vhciPortDisconnect
      split
      · rename_i hstatus
        refine iff_of_true rfl fun z' hz' _ => ?_
        cases hz'
        refine ⟨by simp [hv], fun w hw hne => ?_⟩
        rw [hv] at hw
        cases hw
        exact absurd hstatus hne
      · rename_i hstatus
        rw [safe_vhciEventAdd hvalid.2 hv]
        constructor
        · intro h z' hz' _
          cases hz'
          exact ⟨by simp [hv], fun _ _ _ => h⟩
        · intro h
          exact (h z rfl hvalid).2 v hv hstatus

end Detach

/-- With one of two controllers in the table, a write of "8" reads the driver data of the other. -/
theorem detach_of_missing_controller : ¬ ∀ (p : Params) (lock : Bool) (buf : List Char) (s : State),
    (machine p).Reachable s → Safe p s (storeDetach p lock buf s) := by
  intro hall
  exact absurd (hall twoControllers true ['8'] (start twoControllers) (.start rfl))
    (show ¬ Safe _ _ (storeDetach twoControllers true ['8'] (start twoControllers)) from id)

end Usbip.Ports
