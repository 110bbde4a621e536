import Usbip.Core.Unwinding
import Usbip.Hub.Machine

/-!
# The ports of a hub and their one timer

A reset and a resume end at `re_timeout`, which is one for all ports of a controller, and the flag
`resuming` does not say which port resumes.  A request to another port can move the end of this
port's reset (`one_timer`), and GetPortStatus for one port ends the resume of another.  When the
requests keep `Apart`, GetPortStatus returns the same whatever the other ports do
(`ports_independent`).
-/

namespace Usbip.Hub

open Usbip.Core Usbip.Common

variable {env : Env} {p q : Int} {jiffies : BitVec 64} {n : Nat} {h h' g g' : VhciHcd}
  {r r' : Option Int}

/-! ## A port that waits for the timer -/

/-- The resume that is going on was begun by port `p`. -/
def Resumes (p : Int) (h : VhciHcd) (resumer : Option Int) : Prop :=
  h.resuming = true ∧ resumer = some p

/-- A reset or a resume of port `p` is going on. -/
def Waiting (p : Int) (h : VhciHcd) (resumer : Option Int) : Prop :=
  (h.portStatus p).getLsbD featReset = true ∨ Resumes p h resumer

instance : Decidable (Resumes p h r) := inferInstanceAs (Decidable (_ ∧ _))
instance : Decidable (Waiting p h r) := inferInstanceAs (Decidable (_ ∨ _))

/-- A request for port `p` that finds no other port's resume to end, and begins a reset only with
its time. -/
def OwnRequest (env : Env) (jiffies : BitVec 64) (n : Nat) (p : Int) (h : VhciHcd)
    (resumer : Option Int) : TypeReq → Prop
  | .getPortStatus => resumeDue jiffies h = true → resumer = some p
  | .setPortFeature => n ≠ featReset → ¬ Waiting p h resumer →
      (env.shl n).getLsbD featReset = false
  | _ => True

/-- A request for port `q` that leaves alone what port `p` waits for. -/
def OtherRequest (jiffies : BitVec 64) (n : Nat) (q p : Int) (h : VhciHcd)
    (resumer : Option Int) : TypeReq → Prop
  | .clearPortFeature =>
      (n = featPower → ¬ Resumes p h resumer) ∧
        (n = featSuspend → (h.portStatus q).getLsbD featSuspend = true → ¬ Waiting p h resumer)
  | .getPortStatus =>
      resumeDue jiffies h = true ∨ resetDue jiffies q (endResume jiffies q h) = true →
        ¬ Waiting p h resumer
  | .setPortFeature => n = featReset → ¬ Waiting p h resumer
  | _ => True

instance (c : TypeReq) : Decidable (OwnRequest env jiffies n p h r c) := by
  cases c <;> unfold OwnRequest <;> infer_instance

instance (c : TypeReq) : Decidable (OtherRequest jiffies n q p h r c) := by
  cases c <;> unfold OtherRequest <;> infer_instance

/-- A request that does not meet the timer of port `p` for another port. -/
def Apart (p : Int) (s : State) : Action env → Prop
  | .control jiffies typeReq wValue q => env.accessible = true →
      if (q : Nat) = p then
        OwnRequest env jiffies wValue.toNat p s.hub s.resumer (TypeReq.ofCode typeReq)
      else OtherRequest jiffies wValue.toNat (q : Nat) p s.hub s.resumer (TypeReq.ofCode typeReq)
  | _ => True

instance (p : Int) (s : State) (a : Action env) : Decidable (Apart p s a) :=
  match a with
  | .control jiffies typeReq wValue q => inferInstanceAs (Decidable (env.accessible = true →
      if (q : Nat) = p then
        OwnRequest env jiffies wValue.toNat p s.hub s.resumer (TypeReq.ofCode typeReq)
      else OtherRequest jiffies wValue.toNat (q : Nat) p s.hub s.resumer (TypeReq.ofCode typeReq)))
  | .connect _ _ | .disconnect _ | .device _ _ => isTrue trivial

/-! ## Two hubs that are alike for a port -/

/-- The two hubs have the same of port `p`, and the same time while the port waits. -/
structure AlikeHubs (p : Int) (h : VhciHcd) (r : Option Int) (h' : VhciHcd) (r' : Option Int) :
    Prop where
  status : h.portStatus p = h'.portStatus p
  vdev : h.vdev p = h'.vdev p
  resumes : Resumes p h r ↔ Resumes p h' r'
  timer : Waiting p h r → h.reTimeout = h'.reTimeout

namespace AlikeHubs

/-- Both hubs wait alike. -/
lemma waiting_iff (ha : AlikeHubs p h r h' r') : Waiting p h r ↔ Waiting p h' r' := by
  unfold Waiting
  rw [ha.status, ha.resumes]

/-- A hub is like itself. -/
lemma refl (p : Int) (h : VhciHcd) (r : Option Int) : AlikeHubs p h r h r :=
  ⟨rfl, rfl, .rfl, fun _ => rfl⟩

/-- Likeness goes both ways. -/
lemma symm (ha : AlikeHubs p h r h' r') : AlikeHubs p h' r' h r where
  status := ha.status.symm
  vdev := ha.vdev.symm
  resumes := ha.resumes.symm
  timer hw := (ha.timer (ha.waiting_iff.mpr hw)).symm

/-- Hubs that are like a third are alike. -/
lemma trans {k : VhciHcd} {l : Option Int} (ha : AlikeHubs p h r h' r')
    (hb : AlikeHubs p h' r' k l) : AlikeHubs p h r k l where
  status := ha.status.trans hb.status
  vdev := ha.vdev.trans hb.vdev
  resumes := ha.resumes.trans hb.resumes
  timer hw := (ha.timer hw).trans (hb.timer (ha.waiting_iff.mp hw))

/-- The status of the port changes, in both hubs alike. -/
lemma write (ha : AlikeHubs p h r h' r') (w : BitVec 32)
    (hreset : w.getLsbD featReset = true → Waiting p h r) :
    AlikeHubs p (h.write p w) r (h'.write p w) r' where
  status := by rw [portStatus_write_self, portStatus_write_self]
  vdev := ha.vdev
  resumes := ha.resumes
  timer hw := by
    refine ha.timer (hw.elim (fun hbit => hreset ?_) .inr)
    rwa [portStatus_write_self] at hbit

/-- The time changes, in both hubs alike. -/
lemma time (hstatus : g.portStatus p = g'.portStatus p) (hvdev : g.vdev p = g'.vdev p)
    (hresumes : Resumes p g r ↔ Resumes p g' r') (htime : g.reTimeout = g'.reTimeout) :
    AlikeHubs p g r g' r' :=
  ⟨hstatus, hvdev, hresumes, fun _ => htime⟩

/-! ### Requests for the port -/

/-- A resume of the port is due in both hubs at the same time. -/
lemma resumeDue_eq (ha : AlikeHubs p h r h' r') (hown : resumeDue jiffies h = true → r = some p)
    (hown' : resumeDue jiffies h' = true → r' = some p) :
    resumeDue jiffies h = resumeDue jiffies h' := by
  refine Bool.eq_iff_iff.mpr ⟨fun hdue => ?_, fun hdue => ?_⟩
  · obtain ⟨hresuming, hafter⟩ := Bool.and_eq_true_iff.mp hdue
    have hp : Resumes p h r := ⟨hresuming, hown hdue⟩
    have htime := ha.timer (.inr hp)
    exact Bool.and_eq_true_iff.mpr ⟨(ha.resumes.mp hp).1, htime ▸ hafter⟩
  · obtain ⟨hresuming, hafter⟩ := Bool.and_eq_true_iff.mp hdue
    have hp : Resumes p h' r' := ⟨hresuming, hown' hdue⟩
    have htime := ha.symm.timer (.inr hp)
    exact Bool.and_eq_true_iff.mpr ⟨(ha.resumes.mpr hp).1, htime ▸ hafter⟩

/-- A resume of the port ends in both hubs alike. -/
lemma endResume (ha : AlikeHubs p h r h' r') (hown : resumeDue jiffies h = true → r = some p)
    (hown' : resumeDue jiffies h' = true → r' = some p) :
    AlikeHubs p (endResume jiffies p h) r (endResume jiffies p h') r' := by
  have hdue := ha.resumeDue_eq hown hown'
  cases hd : resumeDue jiffies h with
  | false => rwa [endResume_of_not_due hd, endResume_of_not_due (hdue.symm.trans hd)]
  | true =>
      unfold Hub.endResume
      rw [← hdue, hd, if_pos rfl, if_pos rfl]
      refine time ?_ ha.vdev ?_ rfl
      · show (h.write p _).portStatus p = (h'.write p _).portStatus p
        rw [portStatus_write_self, portStatus_write_self, ha.status]
      · exact iff_of_false (fun h => (by cases h.1)) (fun h => (by cases h.1))

/-- A reset of the port ends in both hubs alike. -/
lemma endReset (ha : AlikeHubs p h r h' r') :
    AlikeHubs p (endReset jiffies p h) r (endReset jiffies p h') r' := by
  have hdue : resetDue jiffies p h = resetDue jiffies p h' := by
    unfold resetDue
    rw [← ha.status]
    by_cases hbit : h.portStatus p &&& stat featReset ≠ 0
    · rw [ha.timer (.inl ((and_stat_ne_zero_iff (by decide)).mp hbit))]
    · simp only [hbit, decide_false, false_and]
  cases hd : resetDue jiffies p h with
  | false => rwa [endReset_of_not_due hd, endReset_of_not_due (hdue.symm.trans hd)]
  | true =>
      unfold Hub.endReset
      rw [← hdue, hd, if_pos rfl, if_pos rfl]
      refine time ?_ ha.vdev ha.resumes rfl
      show (h.write p _).portStatus p = (h'.write p _).portStatus p
      rw [portStatus_write_self, portStatus_write_self, ha.status, ha.vdev]

/-- GetPortStatus for the port leaves both hubs alike. -/
lemma getPortStatus (ha : AlikeHubs p h r h' r') {wIndex : Nat}
    (hown : resumeDue jiffies h = true → r = some p)
    (hown' : resumeDue jiffies h' = true → r' = some p) :
    AlikeHubs p (getPortStatus env jiffies wIndex p h).hub r
      (getPortStatus env jiffies wIndex p h').hub r' :=
  (ha.endResume hown hown').endReset

/-- ClearPortFeature for the port leaves both hubs alike. -/
lemma clearPortFeature (ha : AlikeHubs p h r h' r') :
    AlikeHubs p (clearPortFeature env jiffies n p h).hub
      (if n = featSuspend ∧ (h.portStatus p).getLsbD featSuspend = true then some p else r)
      (clearPortFeature env jiffies n p h').hub
      (if n = featSuspend ∧ (h'.portStatus p).getLsbD featSuspend = true then some p else r') := by
  unfold Hub.clearPortFeature
  dsimp only
  rw [← ha.status, ← ha.vdev]
  by_cases hsuspend : n = featSuspend
  · rw [if_pos hsuspend, if_pos hsuspend]
    by_cases hbit : (h.portStatus p).getLsbD featSuspend = true
    · have hword := (and_stat_ne_zero_iff (by decide)).mpr hbit
      rw [if_pos hword, if_pos hword, if_pos ⟨hsuspend, hbit⟩, if_pos ⟨hsuspend, hbit⟩]
      exact time ha.status ha.vdev (iff_of_true ⟨rfl, rfl⟩ ⟨rfl, rfl⟩) rfl
    · have hword : ¬ h.portStatus p &&& stat featSuspend ≠ 0 := fun hword =>
        hbit ((and_stat_ne_zero_iff (by decide)).mp hword)
      have hnone : ¬ (n = featSuspend ∧ (h.portStatus p).getLsbD featSuspend = true) :=
        fun hn => hbit hn.2
      rw [if_neg hword, if_neg hword, if_neg hnone, if_neg hnone]
      exact ha
  have hnone : ¬ (n = featSuspend ∧ (h.portStatus p).getLsbD featSuspend = true) :=
    fun hn => hsuspend hn.1
  rw [if_neg hsuspend, if_neg hsuspend, if_neg hnone, if_neg hnone]
  split
  · have hidle : ∀ resumer, ¬ Resumes p ({ h.write p 0 with resuming := false }) resumer :=
      fun _ h => (by cases h.1)
    refine ⟨?_, ha.vdev, iff_of_false (hidle r) (fun h => (by cases h.1)), fun hw => ?_⟩
    · show (h.write p 0).portStatus p = (h'.write p 0).portStatus p
      rw [portStatus_write_self, portStatus_write_self]
    · refine absurd hw (not_or.mpr ⟨?_, hidle r⟩)
      show ¬ ((h.write p 0).portStatus p).getLsbD featReset = true
      rw [portStatus_write_self]
      decide
  have hclear : ∀ w : BitVec 32, (w.getLsbD featReset = true → Waiting p h r) →
      (w &&& ~~~env.shl n).getLsbD featReset = true → Waiting p h r := by
    intro w hw hbit
    rw [BitVec.getLsbD_and, Bool.and_eq_true] at hbit
    exact hw hbit.1
  split
  · refine ha.write _ (hclear _ fun hbit => ?_)
    have hspeed : (speedStat (h.vdev p).speed).getLsbD featReset = false := by
      unfold speedStat
      split
      · decide
      split <;> decide
    rw [BitVec.getLsbD_or, hspeed, Bool.or_false] at hbit
    exact .inl hbit
  · exact ha.write _ (hclear _ .inl)

/-- SetPortFeature for the port leaves both hubs alike. -/
lemma setPortFeature (ha : AlikeHubs p h r h' r')
    (hown : n ≠ featReset → ¬ Waiting p h r → (env.shl n).getLsbD featReset = false) :
    AlikeHubs p (setPortFeature env jiffies n p h).hub r
      (setPortFeature env jiffies n p h').hub r' := by
  unfold Hub.setPortFeature
  dsimp only
  rw [← ha.status]
  split
  · exact ha
  split
  · refine time ?_ ha.vdev ha.resumes rfl
    show (h.write p _).portStatus p = (h'.write p _).portStatus p
    rw [portStatus_write_self, portStatus_write_self]
  · rename_i hreset
    refine ha.write _ fun hbit => ?_
    by_cases hw : Waiting p h r
    · exact hw
    · rw [BitVec.getLsbD_or, hown hreset hw, Bool.or_false] at hbit
      exact .inl hbit

/-! ### Requests for another port -/

/-- Nothing of the port changes. -/
lemma kept (hstatus : g.portStatus p = h.portStatus p) (hvdev : g.vdev p = h.vdev p)
    (hresumes : Resumes p g r' ↔ Resumes p h r)
    (htimer : Waiting p h r → g.reTimeout = h.reTimeout) : AlikeHubs p h r g r' where
  status := hstatus.symm
  vdev := hvdev.symm
  resumes := hresumes.symm
  timer hw := (htimer hw).symm

/-- GetPortStatus for another port that ends nothing leaves this one alone. -/
lemma getPortStatus_other (hpq : p ≠ q) {wIndex : Nat}
    (hother : resumeDue jiffies h = true ∨ resetDue jiffies q (Hub.endResume jiffies q h) = true →
      ¬ Waiting p h r) : AlikeHubs p h r (Hub.getPortStatus env jiffies wIndex q h).hub r := by
  have hstatus : (Hub.endReset jiffies q (Hub.endResume jiffies q h)).portStatus p = h.portStatus p :=
    (portStatus_endReset hpq).trans (portStatus_endResume hpq)
  refine kept hstatus (congrFun (vdev_endReset.trans vdev_endResume) p) ?_ fun hw => ?_
  · show Resumes p (Hub.endReset jiffies q (Hub.endResume jiffies q h)) r ↔ _
    unfold Resumes
    rw [resuming_endReset]
    cases hd : resumeDue jiffies h with
    | false => rw [endResume_of_not_due hd]
    | true =>
        have hidle : ¬ (h.resuming = true ∧ r = some p) := fun hp => hother (.inl hd) (.inr hp)
        unfold Hub.endResume
        rw [hd, if_pos rfl]
        exact iff_of_false (fun h => (by cases h.1)) hidle
  · have hnot := fun hdue => hother hdue hw
    have hresume : resumeDue jiffies h = false := Bool.eq_false_of_not_eq_true fun hd => hnot (.inl hd)
    have hreset := Bool.eq_false_of_not_eq_true fun hd => hnot (.inr hd)
    show (Hub.endReset jiffies q (Hub.endResume jiffies q h)).reTimeout = h.reTimeout
    rw [endReset_of_not_due hreset, endResume_of_not_due hresume]

/-- ClearPortFeature for another port leaves this one alone, unless it moves its time. -/
lemma clearPortFeature_other (hpq : p ≠ q) (hpower : n = featPower → ¬ Resumes p h r)
    (hsuspend : n = featSuspend → (h.portStatus q).getLsbD featSuspend = true → ¬ Waiting p h r) :
    AlikeHubs p h r (Hub.clearPortFeature env jiffies n q h).hub
      (if n = featSuspend ∧ (h.portStatus q).getLsbD featSuspend = true then some q else r) := by
  unfold Hub.clearPortFeature
  dsimp only
  by_cases hn : n = featSuspend
  · rw [if_pos hn]
    by_cases hbit : (h.portStatus q).getLsbD featSuspend = true
    · rw [if_pos ((and_stat_ne_zero_iff (by decide)).mpr hbit), if_pos ⟨hn, hbit⟩]
      have hidle := hsuspend hn hbit
      refine kept rfl rfl (iff_of_false (fun hq => ?_) (fun hp => hidle (.inr hp)))
        fun hw => absurd hw hidle
      exact hpq (Option.some.inj hq.2).symm
    · have hword : ¬ h.portStatus q &&& stat featSuspend ≠ 0 := fun hword =>
        hbit ((and_stat_ne_zero_iff (by decide)).mp hword)
      have hnone : ¬ (n = featSuspend ∧ (h.portStatus q).getLsbD featSuspend = true) :=
        fun hn => hbit hn.2
      rw [if_neg hword, if_neg hnone]
      exact refl p h r
  have hnone : ¬ (n = featSuspend ∧ (h.portStatus q).getLsbD featSuspend = true) :=
    fun hq => hn hq.1
  rw [if_neg hn, if_neg hnone]
  split
  · rename_i hn
    exact kept (portStatus_write hpq) rfl (iff_of_false (fun h => (by cases h.1)) (hpower hn))
      fun _ => rfl
  split
  · exact kept (portStatus_write hpq) rfl .rfl fun _ => rfl
  · exact kept (portStatus_write hpq) rfl .rfl fun _ => rfl

/-- SetPortFeature for another port leaves this one alone, unless it moves its time. -/
lemma setPortFeature_other (hpq : p ≠ q) (hreset : n = featReset → ¬ Waiting p h r) :
    AlikeHubs p h r (Hub.setPortFeature env jiffies n q h).hub r := by
  unfold Hub.setPortFeature
  dsimp only
  split
  · exact refl p h r
  split
  · rename_i hn
    exact kept (portStatus_write hpq) rfl .rfl fun hw => absurd hw (hreset hn)
  · exact kept (portStatus_write hpq) rfl .rfl fun _ => rfl

end AlikeHubs

/-! ## Two histories -/

variable {s s' t t' : State} {a : Action env} {typeReq wValue : BitVec 16} {i : Fin env.hcPorts}

/-- What GetPortStatus has returned for port `p`. -/
def State.repliesOf (p : Int) (s : State) : List (Int × Int × Reply) :=
  s.replies.filter (·.1 = p)

/-- The two states are alike for port `p`, and it has had the same replies. -/
structure Alike (p : Int) (s s' : State) : Prop where
  hubs : AlikeHubs p s.hub s.resumer s'.hub s'.resumer
  replies : s.repliesOf p = s'.repliesOf p

/-- Likeness of states is an equivalence. -/
lemma alike_equivalence (p : Int) : Equivalence (Alike p) where
  refl s := ⟨.refl p s.hub s.resumer, rfl⟩
  symm h := ⟨h.hubs.symm, h.replies.symm⟩
  trans h h' := ⟨h.hubs.trans h'.hubs, h.replies.trans h'.replies⟩

/-- A request changes the resumer only when it begins a resume. -/
lemma resumer_control : (control env jiffies typeReq wValue i s).resumer =
    if env.accessible = true ∧ TypeReq.ofCode typeReq = .clearPortFeature ∧
      wValue.toNat = featSuspend ∧ (s.hub.portStatus (i : Nat)).getLsbD featSuspend = true
    then some ((i : Nat) : Int) else s.resumer := by
  simp only [control, beginsResume, decide_eq_true_eq]

/-- Only ClearPortFeature begins a resume. -/
lemma resumer_control_of_ne (hcode : TypeReq.ofCode typeReq ≠ .clearPortFeature) :
    (control env jiffies typeReq wValue i s).resumer = s.resumer := by
  rw [resumer_control, if_neg (fun h => hcode h.2.1)]

/-- What a request for a port leaves. -/
lemma hub_control (haccessible : env.accessible = true) :
    (control env jiffies typeReq wValue i s).hub =
      match TypeReq.ofCode typeReq with
      | .clearPortFeature => (clearPortFeature env jiffies wValue.toNat (i : Nat) s.hub).hub
      | .getPortStatus =>
          (getPortStatus env jiffies (BitVec.ofNat 16 (i + 1)).toNat (i : Nat) s.hub).hub
      | .setPortFeature => (setPortFeature env jiffies wValue.toNat (i : Nat) s.hub).hub
      | _ => s.hub := by
  show (vhciHubControl env jiffies (portRequest typeReq wValue i) s.hub).hub = _
  rw [vhciHubControl_hub, if_pos haccessible, dispatch, rhport_portRequest]
  dsimp only [portRequest]
  cases TypeReq.ofCode typeReq <;> rfl

/-- What a request for another port leaves. -/
lemma alikeHubs_other (hp : p ≠ (i : Nat)) (haccessible : env.accessible = true)
    (hother : OtherRequest jiffies wValue.toNat (i : Nat) p s.hub s.resumer
      (TypeReq.ofCode typeReq)) :
    AlikeHubs p s.hub s.resumer (control env jiffies typeReq wValue i s).hub
      (control env jiffies typeReq wValue i s).resumer := by
  rw [hub_control haccessible]
  cases hcode : TypeReq.ofCode typeReq with
  | clearHubFeature | getHubDescriptor | getHubStatus | setHubFeature | other =>
      rw [resumer_control_of_ne (by rw [hcode]; decide)]
      exact .refl p s.hub s.resumer
  | clearPortFeature =>
      rw [hcode] at hother
      rw [resumer_control]
      simp only [haccessible, hcode, true_and]
      exact .clearPortFeature_other hp hother.1 hother.2
  | getPortStatus =>
      rw [hcode] at hother
      rw [resumer_control_of_ne (by rw [hcode]; decide)]
      exact .getPortStatus_other hp hother
  | setPortFeature =>
      rw [hcode] at hother
      rw [resumer_control_of_ne (by rw [hcode]; decide)]
      exact .setPortFeature_other hp hother

/-- What a request for the port itself leaves. -/
lemma alikeHubs_own (ha : AlikeHubs (i : Nat) s.hub s.resumer s'.hub s'.resumer)
    (haccessible : env.accessible = true)
    (hown : OwnRequest env jiffies wValue.toNat (i : Nat) s.hub s.resumer (TypeReq.ofCode typeReq))
    (hown' : OwnRequest env jiffies wValue.toNat (i : Nat) s'.hub s'.resumer
      (TypeReq.ofCode typeReq)) :
    AlikeHubs (i : Nat) (control env jiffies typeReq wValue i s).hub
      (control env jiffies typeReq wValue i s).resumer
      (control env jiffies typeReq wValue i s').hub
      (control env jiffies typeReq wValue i s').resumer := by
  rw [hub_control haccessible, hub_control haccessible]
  cases hcode : TypeReq.ofCode typeReq with
  | clearHubFeature | getHubDescriptor | getHubStatus | setHubFeature | other =>
      have hne : TypeReq.ofCode typeReq ≠ .clearPortFeature := by rw [hcode]; decide
      rw [resumer_control_of_ne hne, resumer_control_of_ne hne]
      exact ha
  | clearPortFeature =>
      rw [resumer_control, resumer_control]
      simp only [haccessible, hcode, true_and]
      exact ha.clearPortFeature
  | getPortStatus =>
      have hne : TypeReq.ofCode typeReq ≠ .clearPortFeature := by rw [hcode]; decide
      rw [hcode] at hown hown'
      rw [resumer_control_of_ne hne, resumer_control_of_ne hne]
      exact ha.getPortStatus hown hown'
  | setPortFeature =>
      have hne : TypeReq.ofCode typeReq ≠ .clearPortFeature := by rw [hcode]; decide
      rw [hcode] at hown
      rw [resumer_control_of_ne hne, resumer_control_of_ne hne]
      exact ha.setPortFeature hown

/-- GetPortStatus returns the status that it leaves. -/
lemma replies_control (haccessible : env.accessible = true) :
    (control env jiffies typeReq wValue i s).replies = s.replies ++
      if TypeReq.ofCode typeReq = .getPortStatus then
        let status := (control env jiffies typeReq wValue i s).hub.portStatus (i : Nat)
        [(((i : Nat) : Int),
          if (BitVec.ofNat 16 (i + 1)).toNat > env.hcPorts ∨ (BitVec.ofNat 16 (i + 1)).toNat < 1
            then -EPIPE.toInt else 0,
          .portStatus (status.setWidth 16) ((status >>> 16).setWidth 16))]
      else [] := by
  rw [hub_control haccessible]
  show s.replies ++ (if _ then _ else _) = _
  split
  · rename_i hcode
    rw [hcode]
    unfold vhciHubControl dispatch
    rw [haccessible, if_neg (by decide), rhport_portRequest]
    dsimp only [portRequest]
    rw [hcode]
    rfl
  · rfl

/-- A controller that cannot be reached only answers. -/
lemma control_of_not_accessible (haccessible : ¬ env.accessible = true) :
    control env jiffies typeReq wValue i s = { s with
      replies := s.replies ++
        if TypeReq.ofCode typeReq = .getPortStatus then
          [(((i : Nat) : Int), -ETIMEDOUT.toInt, .none)] else [] } := by
  have hout : vhciHubControl env jiffies (portRequest typeReq wValue i) s.hub =
      { hub := s.hub, ret := -ETIMEDOUT.toInt } := by
    unfold vhciHubControl
    rw [if_pos haccessible]
  have hnone : ¬ (env.accessible = true ∧ beginsResume typeReq wValue (i : Nat) s.hub = true) :=
    fun h => haccessible h.1
  unfold control
  dsimp only
  rw [hout, if_neg hnone]

/-- A reply for another port is not one for this. -/
lemma repliesOf_other {rest : Int × Reply} {P : Prop} [Decidable P] (hp : p ≠ (i : Nat))
    (hreplies : t.replies = s.replies ++ if P then [(((i : Nat) : Int), rest)] else []) :
    t.repliesOf p = s.repliesOf p := by
  unfold State.repliesOf
  rw [hreplies, List.filter_append]
  split
  · rw [List.filter_cons_of_neg (by simpa using Ne.symm hp), List.filter_nil, List.append_nil]
  · rw [List.filter_nil, List.append_nil]

/-- What another port does is not seen. -/
lemma alike_other (hp : a.port ≠ p) (hok : Apart p s a) (hstep : step env s a = some t) :
    Alike p s t := by
  cases a with
  | connect i speed | disconnect i =>
      cases hstep
      exact ⟨.kept (portStatus_write (Ne.symm hp)) rfl .rfl fun _ => rfl, rfl⟩
  | device i v =>
      cases hstep
      exact ⟨.kept rfl (Function.update_of_ne (Ne.symm hp) _ _) .rfl fun _ => rfl, rfl⟩
  | control jiffies typeReq wValue i =>
      cases hstep
      by_cases haccessible : env.accessible = true
      · have hne : ¬ ((i : Nat) : Int) = p := hp
        have hother := hok haccessible
        rw [if_neg hne] at hother
        exact ⟨alikeHubs_other (Ne.symm hp) haccessible hother,
          (repliesOf_other (Ne.symm hp) (replies_control haccessible)).symm⟩
      · have hcontrol := @control_of_not_accessible env jiffies s typeReq wValue i haccessible
        refine ⟨?_, (repliesOf_other (Ne.symm hp) (congrArg State.replies hcontrol)).symm⟩
        rw [hcontrol]
        exact .refl p s.hub s.resumer

/-- What the port itself does is the same in both histories. -/
lemma alike_own (ha : Alike p s s') (hok : Apart p s a) (hok' : Apart p s' a)
    (hp : a.port = p) (hstep : step env s a = some t) (hstep' : step env s' a = some t') :
    Alike p t t' := by
  subst hp
  cases a with
  | connect i speed =>
      cases hstep
      cases hstep'
      refine ⟨?_, ha.replies⟩
      show AlikeHubs _ (rhPortConnect _ speed s.hub) _ (rhPortConnect _ speed s'.hub) _
      have hstatus : s.hub.portStatus (i : Nat) = s'.hub.portStatus (i : Nat) := ha.hubs.status
      unfold rhPortConnect
      rw [← hstatus]
      refine ha.hubs.write _ fun hbit => .inl ?_
      have hspeed : (stat featConnection ||| stat featCConnection ||| speedStat speed).getLsbD
          featReset = false := by
        unfold speedStat
        split
        · decide
        split <;> decide
      rwa [BitVec.or_assoc, BitVec.getLsbD_or, hspeed, Bool.or_false] at hbit
  | disconnect i =>
      cases hstep
      cases hstep'
      refine ⟨?_, ha.replies⟩
      show AlikeHubs _ (rhPortDisconnect _ s.hub) _ (rhPortDisconnect _ s'.hub) _
      have hstatus : s.hub.portStatus (i : Nat) = s'.hub.portStatus (i : Nat) := ha.hubs.status
      unfold rhPortDisconnect
      rw [← hstatus]
      refine ha.hubs.write _ fun hbit => .inl ?_
      rw [getLsbD_or_stat _ (by decide), getLsbD_and_not_stat _ (by decide)] at hbit
      simp only [featReset, featConnection, featCConnection, OfNat.ofNat_ne_zero, Nat.reduceEqDiff,
        decide_false, Bool.not_false, Bool.and_true, Bool.or_false] at hbit
      exact hbit
  | device i v =>
      cases hstep
      cases hstep'
      refine ⟨⟨ha.hubs.status, ?_, ha.hubs.resumes, ha.hubs.timer⟩, ha.replies⟩
      show Function.update s.hub.vdev (i : Nat) v (i : Nat) =
        Function.update s'.hub.vdev (i : Nat) v (i : Nat)
      rw [Function.update_self, Function.update_self]
  | control jiffies typeReq wValue i =>
      cases hstep
      cases hstep'
      by_cases haccessible : env.accessible = true
      · have hown := hok haccessible
        have hown' := hok' haccessible
        rw [show (Action.control jiffies typeReq wValue i).port = ((i : Nat) : Int) from rfl,
          if_pos rfl] at hown hown'
        have hhubs := alikeHubs_own ha.hubs haccessible hown hown'
        refine ⟨hhubs, ?_⟩
        have hstatus : (control env jiffies typeReq wValue i s).hub.portStatus (i : Nat) =
            (control env jiffies typeReq wValue i s').hub.portStatus (i : Nat) := hhubs.status
        unfold State.repliesOf
        rw [replies_control haccessible, replies_control haccessible, hstatus, List.filter_append,
          List.filter_append]
        exact congrArg (· ++ _) ha.replies
      · rw [control_of_not_accessible haccessible, control_of_not_accessible haccessible]
        refine ⟨ha.hubs, ?_⟩
        unfold State.repliesOf
        rw [List.filter_append, List.filter_append]
        exact congrArg (· ++ _) ha.replies

/-- Two histories of a controller that agree on port `p` and keep its timer apart: GetPortStatus for
port `p` has returned the same in both. -/
theorem ports_independent {p : Fin env.hcPorts} {l l' : List (Action env)}
    (hsame : l.filter (·.port = ((p : Nat) : Int)) = l'.filter (·.port = ((p : Nat) : Int)))
    (hl : (machine env).perform (Apart (p : Nat)) {} l = some t)
    (hl' : (machine env).perform (Apart (p : Nat)) {} l' = some t') :
    t.repliesOf (p : Nat) = t'.repliesOf (p : Nat) := by
  have halike : Alike (p : Nat) t t' := by
    refine Machine.perform_alike (alike_equivalence _) ?_ ?_ l ((alike_equivalence _).refl {}) hl hl'
      hsame
    · intro s a t hok hlow hstep
      exact alike_other (of_decide_eq_false hlow) hok hstep
    · intro s s' a t t' ha hok hok' hlow hstep hstep'
      exact alike_own ha hok hok' (of_decide_eq_true hlow) hstep hstep'
  exact halike.replies

/-- Port 0 is reset alone. -/
def resetAlone : List (Action {}) := [.control 0 0x2303 4 0, .control 60 0xa300 0 0]

/-- Port 1 is reset before and after it. -/
def resetBetween : List (Action {}) :=
  [.control 0 0x2303 4 1, .control 0 0x2303 4 0, .control 60 0xa300 0 0, .control 70 0x2303 4 1]

/-- The reset of port 0 ends at the same request. -/
theorem ports_independent_resetBetween : ∃ t t' : State,
    t.repliesOf 0 = [(0, 0, .portStatus 0 0x10)] ∧ t.repliesOf 0 = t'.repliesOf 0 := by
  have hrun : ∃ t ∈ (machine {}).perform (Apart ((0 : Fin 8) : Nat)) {} resetAlone,
      t.repliesOf 0 = [(0, 0, .portStatus 0 0x10)] := by decide +kernel
  have hrun' : ∃ t' ∈ (machine {}).perform (Apart ((0 : Fin 8) : Nat)) {} resetBetween,
      t'.resumer = none := by decide +kernel
  have hsame : resetAlone.filter (·.port = (((0 : Fin 8) : Nat) : Int)) =
      resetBetween.filter (·.port = (((0 : Fin 8) : Nat) : Int)) := by rfl
  obtain ⟨t, ht, hreplies⟩ := hrun
  obtain ⟨t', ht', -⟩ := hrun'
  exact ⟨t, t', hreplies, @ports_independent {} t t' (0 : Fin 8) _ _ hsame ht ht'⟩

/-- Port 1 is reset while the reset of port 0 is going on. -/
def resetDuring : List (Action {}) :=
  [.control 0 0x2303 4 0, .control 40 0x2303 4 1, .control 60 0xa300 0 0]

/-- The reset of port 0 has ended after 60 ms in the one history, and not in the other. -/
theorem one_timer : ¬ ∀ (env : Env) (p : Fin env.hcPorts) (l l' : List (Action env)) (t t' : State),
    l.filter (·.port = ((p : Nat) : Int)) = l'.filter (·.port = ((p : Nat) : Int)) →
    (machine env).perform (fun _ _ => True) {} l = some t →
    (machine env).perform (fun _ _ => True) {} l' = some t' →
      t.repliesOf (p : Nat) = t'.repliesOf (p : Nat) := by
  intro hall
  have hrun : ∃ t ∈ (machine {}).perform (fun _ _ => True) {} resetAlone,
      t.repliesOf 0 = [(0, 0, .portStatus 0 0x10)] := by decide +kernel
  have hrun' : ∃ t' ∈ (machine {}).perform (fun _ _ => True) {} resetDuring,
      t'.repliesOf 0 = [(0, 0, .portStatus 0x10 0)] := by decide +kernel
  obtain ⟨t, ht, hreplies⟩ := hrun
  obtain ⟨t', ht', hreplies'⟩ := hrun'
  have hsame := hall {} (0 : Fin 8) _ _ t t' (by rfl) ht ht'
  exact absurd (hreplies.symm.trans (hsame.trans hreplies')) (by decide)

end Usbip.Hub
