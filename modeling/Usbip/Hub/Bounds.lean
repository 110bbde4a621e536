import Usbip.Hub.Control

/-!
# Requests to the root hub that stay inside it

A request with a wrong port number goes on to the arrays, also when GetPortStatus has found the
number to be wrong, and a feature that is no bit of the status is an undefined shift.  The requests
without such an access are those of `Contained` (`hub_control_in_bounds`).
-/

namespace Usbip.Hub

open Usbip.Common

variable {env : Env} {jiffies : BitVec 64} {r : Request} {h : VhciHcd} {p : Int}

/-- The index is one of the array, and the shift is defined. -/
def Access.InBounds (hcPorts : Nat) : Access → Prop
  | .portStatus i | .prevPortStatus i | .vdev i => 0 ≤ i ∧ i < hcPorts
  | .shift amount => amount < 32

instance (hcPorts : Nat) (a : Access) : Decidable (a.InBounds hcPorts) := by
  cases a <;> unfold Access.InBounds <;> infer_instance

/-- The port of a request exists. -/
def Addressed (env : Env) (r : Request) : Prop := 0 ≤ r.rhport ∧ r.rhport < env.hcPorts

/-- The requests that stay inside the hub. -/
def Contained (env : Env) (jiffies : BitVec 64) (r : Request) (h : VhciHcd) : Prop :=
  env.accessible = true → (env.debug = true → r.rhport < env.hcPorts) ∧
    match TypeReq.ofCode r.typeReq with
    | .clearPortFeature => Addressed env r ∧ r.wValue.toNat < 32
    | .getPortStatus => Addressed env r ∧ (r.wIndex.toNat ≤ env.hcPorts ∨
        resumeDue jiffies h = false ∧ resetDue jiffies r.rhport h = false)
    | .setPortFeature => r.wValue.toNat = featSuspend ∨ Addressed env r ∧ r.wValue.toNat < 32
    | _ => True

/-! ## What the branches change -/

/-- Bit `f` of a status word. -/
lemma and_stat_ne_zero_iff {w : BitVec 32} {f : Nat} (hf : f < 32) :
    w &&& stat f ≠ 0 ↔ w.getLsbD f = true := by
  rw [stat, show (1#32 <<< f) = BitVec.twoPow 32 f from rfl, BitVec.and_twoPow]
  cases w.getLsbD f with
  | false => simp
  | true =>
      refine iff_of_true (fun hzero => ?_) rfl
      have hbit := congrArg (fun x => BitVec.getLsbD x f) hzero
      simp [hf] at hbit

/-- The word of a feature has one bit. -/
lemma getLsbD_stat {f i : Nat} (hf : f < 32) : (stat f).getLsbD i = decide (i = f) := by
  rw [stat, show (1#32 <<< f) = BitVec.twoPow 32 f from rfl, BitVec.getLsbD_twoPow]
  by_cases hi : f = i
  · simp [hi, hi ▸ hf]
  · simp [hi, Ne.symm hi]

/-- Setting a feature sets its bit only. -/
lemma getLsbD_or_stat (w : BitVec 32) {f : Nat} (hf : f < 32) (i : Nat) :
    (w ||| stat f).getLsbD i = (w.getLsbD i || decide (i = f)) := by
  rw [BitVec.getLsbD_or, getLsbD_stat hf]

/-- Clearing a feature clears its bit only. -/
lemma getLsbD_and_not_stat (w : BitVec 32) {f : Nat} (hf : f < 32) (i : Nat) :
    (w &&& ~~~stat f).getLsbD i = (w.getLsbD i && !decide (i = f)) := by
  rw [BitVec.getLsbD_and, BitVec.getLsbD_not, getLsbD_stat hf]
  by_cases hi : i < 32
  · simp only [hi, decide_true, Bool.true_and]
  · rw [BitVec.getLsbD_of_ge w i (by omega), Bool.false_and, Bool.false_and]

/-- A resume that is not due goes on. -/
lemma endResume_of_not_due (hdue : resumeDue jiffies h = false) : endResume jiffies p h = h := by
  unfold endResume
  rw [hdue, if_neg (by decide)]

/-- A reset that is not due goes on. -/
lemma endReset_of_not_due (hdue : resetDue jiffies p h = false) : endReset jiffies p h = h := by
  unfold endReset
  rw [hdue, if_neg (by decide)]

/-- The end of a reset is not that of a resume. -/
lemma resuming_endReset : (endReset jiffies p h).resuming = h.resuming := by
  unfold endReset
  split <;> rfl

/-- A reset that has ended is not going on. -/
lemma reset_bit_resetStatus (w : BitVec 32) (v : VhciDevice) :
    (resetStatus w v).getLsbD featReset = false := by
  have hclear : ((w ||| stat featCReset) &&& ~~~stat featReset).getLsbD featReset = false := by
    rw [getLsbD_and_not_stat _ (by decide)]
    simp
  unfold resetStatus
  dsimp only
  split
  · rw [getLsbD_or_stat _ (by decide), hclear]
    rfl
  · exact hclear

/-- GetPortStatus leaves the hub alone only if nothing ends. -/
lemma end_eq_self_iff : endReset jiffies p (endResume jiffies p h) = h ↔
    resumeDue jiffies h = false ∧ resetDue jiffies p h = false := by
  refine ⟨fun hsame => ?_, fun ⟨hresume, hreset⟩ => ?_⟩
  · have hresume : resumeDue jiffies h = false := by
      cases hdue : resumeDue jiffies h with
      | false => rfl
      | true =>
          have hresuming : h.resuming = true := (Bool.and_eq_true_iff.mp hdue).1
          have hends : (endReset jiffies p (endResume jiffies p h)).resuming = false := by
            rw [resuming_endReset]
            unfold endResume
            rw [hdue, if_pos rfl]
          rw [hsame, hresuming] at hends
          cases hends
    refine ⟨hresume, ?_⟩
    rw [endResume_of_not_due hresume] at hsame
    cases hdue : resetDue jiffies p h with
    | false => rfl
    | true =>
        have hset : (h.portStatus p).getLsbD featReset = true := by
          unfold resetDue at hdue
          rw [decide_eq_true_eq] at hdue
          exact (and_stat_ne_zero_iff (by decide)).mp (by simpa using hdue.1)
        have hclear : ((endReset jiffies p h).portStatus p).getLsbD featReset = false := by
          unfold endReset
          rw [hdue, if_pos rfl]
          show (Function.update h.portStatus p _ p).getLsbD featReset = false
          rw [Function.update_self, reset_bit_resetStatus]
        rw [hsame, hset] at hclear
        cases hclear
  · rw [endResume_of_not_due hresume, endReset_of_not_due hreset]

/-! ## The accesses of each branch -/

/-- ClearPortFeature is in bounds for a port of the hub and a feature of the word. -/
lemma clearPortFeature_inBounds {wValue : Nat} :
    (∀ a ∈ (clearPortFeature env jiffies wValue p h).accesses, a.InBounds env.hcPorts) ↔
      (0 ≤ p ∧ p < env.hcPorts) ∧ (wValue < 32) := by
  unfold clearPortFeature
  dsimp only
  split
  · rename_i hw
    subst hw
    split <;> simp [Access.InBounds, featSuspend]
  split
  · rename_i hw
    subst hw
    simp [Access.InBounds, featPower]
  split
  · simp [Access.InBounds, and_comm]
  · simp [Access.InBounds, and_comm]

/-- GetPortStatus is in bounds for a port of the hub. -/
lemma getPortStatus_inBounds {wIndex : Nat} :
    (∀ a ∈ (getPortStatus env jiffies wIndex p h).accesses, a.InBounds env.hcPorts) ↔
      0 ≤ p ∧ p < env.hcPorts := by
  unfold getPortStatus
  dsimp only
  constructor
  · intro hall
    exact hall (.portStatus p) (by simp)
  · intro hp
    simp only [List.forall_mem_append]
    refine ⟨⟨⟨?_, ?_⟩, ?_⟩, ?_⟩
    · split <;> simp [Access.InBounds, featCSuspend, featSuspend, hp]
    · simp [Access.InBounds, featReset, hp]
    · split
      · rw [List.forall_mem_append]
        refine ⟨by simp [Access.InBounds, featCReset, featReset, hp], ?_⟩
        split <;> simp [Access.InBounds, hp]
      · simp
    · simp [Access.InBounds, hp]

/-- SetPortFeature is in bounds so too, and for SUSPEND always. -/
lemma setPortFeature_inBounds {wValue : Nat} :
    (∀ a ∈ (setPortFeature env jiffies wValue p h).accesses, a.InBounds env.hcPorts) ↔
      wValue = featSuspend ∨ (0 ≤ p ∧ p < env.hcPorts) ∧ wValue < 32 := by
  unfold setPortFeature
  dsimp only
  split
  · rename_i hw
    simp [hw]
  rename_i hsuspend
  split
  · rename_i hw
    subst hw
    split <;> simp [Access.InBounds, featReset, featSuspend]
  · simp [Access.InBounds, hsuspend, and_comm]

/-- What is printed when debugging is in bounds for a port that is not too large. -/
lemma dumpAccesses_inBounds :
    (∀ a ∈ dumpAccesses env p, a.InBounds env.hcPorts) ↔ (env.debug = true → p < env.hcPorts) := by
  unfold dumpAccesses
  split
  · rename_i hdump
    simp [Access.InBounds, hdump.1, hdump.2]
  · rename_i hdump
    refine iff_of_true (by simp) fun hdebug => ?_
    have hneg : ¬ 0 ≤ p := fun hp => hdump ⟨hdebug, hp⟩
    omega

/-! ## The requests -/

/-- ClearPortFeature always succeeds. -/
lemma clearPortFeature_ret {wValue : Nat} : (clearPortFeature env jiffies wValue p h).ret = 0 := by
  unfold clearPortFeature
  dsimp only
  split_ifs <;> rfl

/-- SetPortFeature always succeeds. -/
lemma setPortFeature_ret {wValue : Nat} : (setPortFeature env jiffies wValue p h).ret = 0 := by
  unfold setPortFeature
  dsimp only
  split_ifs <;> rfl

/-- GetPortStatus for a port number that is too large leaves the hub alone only if nothing ends. -/
lemma getPortStatus_keeps_iff (hp : 0 ≤ r.rhport) :
    ((getPortStatus env jiffies r.wIndex.toNat r.rhport h).ret = -EPIPE.toInt →
      (getPortStatus env jiffies r.wIndex.toNat r.rhport h).hub = h) ↔
      r.wIndex.toNat ≤ env.hcPorts ∨
        resumeDue jiffies h = false ∧ resetDue jiffies r.rhport h = false := by
  have hpos : ¬ r.wIndex.toNat < 1 := by
    unfold Request.rhport at hp
    omega
  have hne : (0 : Int) ≠ -EPIPE.toInt := by decide
  have hsame := @end_eq_self_iff jiffies h r.rhport
  unfold getPortStatus
  dsimp only
  by_cases hlarge : r.wIndex.toNat > env.hcPorts
  · rw [if_pos (Or.inl hlarge), hsame]
    have hnot : ¬ r.wIndex.toNat ≤ env.hcPorts := by omega
    simp only [forall_const, hnot, false_or]
  · rw [if_neg (by omega)]
    exact iff_of_true (fun h => absurd h hne) (Or.inl (by omega))

/-- Every access of a request is inside the arrays, every shift is defined, and a request that fails
with `-EPIPE` leaves the hub as it was, exactly for the requests of `Contained`. -/
theorem hub_control_in_bounds (env : Env) (jiffies : BitVec 64) (r : Request) (h : VhciHcd) :
    ((∀ a ∈ (vhciHubControl env jiffies r h).accesses, a.InBounds env.hcPorts) ∧
      ((vhciHubControl env jiffies r h).ret = -EPIPE.toInt →
        (vhciHubControl env jiffies r h).hub = h)) ↔ Contained env jiffies r h := by
  unfold vhciHubControl Contained
  cases haccessible : env.accessible with
  | false =>
      rw [if_pos (by decide)]
      exact iff_of_true ⟨by simp, fun _ => rfl⟩ (by simp)
  | true =>
      rw [if_neg (by decide)]
      simp only [List.forall_mem_append, dumpAccesses_inBounds, forall_const]
      unfold dispatch Addressed
      cases TypeReq.ofCode r.typeReq with
      | clearHubFeature | getHubDescriptor | getHubStatus | setHubFeature | other => simp
      | clearPortFeature =>
          dsimp only
          rw [clearPortFeature_inBounds, clearPortFeature_ret]
          have hne : (0 : Int) ≠ -EPIPE.toInt := by decide
          simp only [hne, false_implies, and_true]
          tauto
      | setPortFeature =>
          dsimp only
          rw [setPortFeature_inBounds, setPortFeature_ret]
          have hne : (0 : Int) ≠ -EPIPE.toInt := by decide
          simp only [hne, false_implies, and_true]
          tauto
      | getPortStatus =>
          dsimp only
          rw [getPortStatus_inBounds]
          constructor
          · rintro ⟨⟨hp, hdump⟩, hkeeps⟩
            exact ⟨hdump, hp, (getPortStatus_keeps_iff hp.1).mp hkeeps⟩
          · rintro ⟨hdump, hp, hkeeps⟩
            exact ⟨⟨hp, hdump⟩, (getPortStatus_keeps_iff hp.1).mpr hkeeps⟩

/-- A request with port number 0 that clears a change bit. -/
def portZero : Request := { typeReq := 0x2301, wValue := 16 }

/-- It reads and writes the word in front of `port_status`. -/
theorem port_zero_out_of_bounds : ¬ ∀ (env : Env) (jiffies : BitVec 64) (r : Request) (h : VhciHcd),
    (∀ a ∈ (vhciHubControl env jiffies r h).accesses, a.InBounds env.hcPorts) ∧
      ((vhciHubControl env jiffies r h).ret = -EPIPE.toInt →
        (vhciHubControl env jiffies r h).hub = h) := by
  intro hall
  have hmem : Access.portStatus (-1) ∈ (vhciHubControl {} 0 portZero {}).accesses := by decide
  have hin := (hall {} 0 portZero {}).1 _ hmem
  exact absurd hin (by decide)

end Usbip.Hub
