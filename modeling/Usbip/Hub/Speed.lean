import Usbip.Hub.Machine

/-!
# The speed bits of a port

`rh_port_connect` sets the bit of the new device's speed and clears none, and `rh_port_disconnect`
clears neither: a port that has had a device of one speed keeps its bit for the next one
(`stale_speed_bit`).  When each device finds no bit of another speed, and the port is enabled only
with the bits of its device, the bits are always right (`speed_bits_right`).
-/

namespace Usbip.Hub

open Usbip.Core Usbip.Common

variable {env : Env} {s t : State} {a : Action env} {w : BitVec 32} {speed : Option (BitVec 32)}

/-! ## The bits of a status -/

def connected (w : BitVec 32) : Bool := w.getLsbD featConnection
def enabled (w : BitVec 32) : Bool := w.getLsbD featEnable
def lowSpeed (w : BitVec 32) : Bool := w.getLsbD featLowSpeed
def highSpeed (w : BitVec 32) : Bool := w.getLsbD featHighSpeed

/-- The speed bits are those of the device. -/
def Matches (w : BitVec 32) (speed : Option (BitVec 32)) : Prop :=
  lowSpeed w = decide (speed = some usbSpeedLow) ∧ highSpeed w = decide (speed = some usbSpeedHigh)

instance (w : BitVec 32) (speed : Option (BitVec 32)) : Decidable (Matches w speed) :=
  inferInstanceAs (Decidable (_ ∧ _))

/-- At most one speed bit is set, and when the port is connected and enabled they are those of the
device. -/
structure SpeedRight (w : BitVec 32) (speed : Option (BitVec 32)) : Prop where
  one : ¬ (lowSpeed w = true ∧ highSpeed w = true)
  device : connected w = true → enabled w = true → Matches w speed

/-- A request for port `p` that enables no port whose speed bits are wrong, and does not change the
speed bits otherwise. -/
def RequestKeeps (jiffies : BitVec 64) (n : Nat) (p : Int) (s : State) : TypeReq → Prop
  | .clearPortFeature =>
      if n = featCReset then
        ((s.hub.vdev p).speed = usbSpeedHigh → lowSpeed (s.hub.portStatus p) = false ∧
          (connected (s.hub.portStatus p) = true → enabled (s.hub.portStatus p) = true →
            s.attached p = some usbSpeedHigh)) ∧
        ((s.hub.vdev p).speed = usbSpeedLow → highSpeed (s.hub.portStatus p) = false ∧
          (connected (s.hub.portStatus p) = true → enabled (s.hub.portStatus p) = true →
            s.attached p = some usbSpeedLow))
      else n < 32 ∧
        (connected (s.hub.portStatus p) = true → enabled (s.hub.portStatus p) = true →
          (n = featLowSpeed → lowSpeed (s.hub.portStatus p) = false) ∧
            (n = featHighSpeed → highSpeed (s.hub.portStatus p) = false))
  | .getPortStatus => resetDue jiffies p (endResume jiffies p s.hub) = true →
      (s.hub.vdev p).status = .vdevNotassigned → connected (s.hub.portStatus p) = true →
        Matches (s.hub.portStatus p) (s.attached p)
  | .setPortFeature => n < 32 ∧
      (n = featConnection → enabled (s.hub.portStatus p) = true →
        Matches (s.hub.portStatus p) (s.attached p)) ∧
      (n = featEnable → connected (s.hub.portStatus p) = true →
        Matches (s.hub.portStatus p) (s.attached p)) ∧
      (n = featLowSpeed → highSpeed (s.hub.portStatus p) = false ∧
        (connected (s.hub.portStatus p) = true → enabled (s.hub.portStatus p) = true →
          s.attached p = some usbSpeedLow)) ∧
      (n = featHighSpeed → lowSpeed (s.hub.portStatus p) = false ∧
        (connected (s.hub.portStatus p) = true → enabled (s.hub.portStatus p) = true →
          s.attached p = some usbSpeedHigh))
  | _ => True

instance (jiffies : BitVec 64) (n : Nat) (p : Int) (s : State) (r : TypeReq) :
    Decidable (RequestKeeps jiffies n p s r) := by
  cases r <;> unfold RequestKeeps <;> infer_instance

/-- An operation on port `p` that does not meet stale speed bits. -/
def KeepsSpeed (env : Env) (p : Int) (s : State) : Action env → Prop
  | .connect q speed => (q : Nat) = p →
      (lowSpeed (s.hub.portStatus p) = true → speed ≠ usbSpeedHigh) ∧
      (highSpeed (s.hub.portStatus p) = true → speed ≠ usbSpeedLow) ∧
      (enabled (s.hub.portStatus p) = true →
        (lowSpeed (s.hub.portStatus p) = true → speed = usbSpeedLow) ∧
          (highSpeed (s.hub.portStatus p) = true → speed = usbSpeedHigh))
  | .disconnect _ | .device _ _ => True
  | .control jiffies typeReq wValue q => (q : Nat) = p → env.accessible = true →
      RequestKeeps jiffies wValue.toNat p s (TypeReq.ofCode typeReq)

instance (p : Int) (s : State) (a : Action env) : Decidable (KeepsSpeed env p s a) :=
  match a with
  | .connect q speed => inferInstanceAs (Decidable ((q : Nat) = p →
      (lowSpeed (s.hub.portStatus p) = true → speed ≠ usbSpeedHigh) ∧
      (highSpeed (s.hub.portStatus p) = true → speed ≠ usbSpeedLow) ∧
      (enabled (s.hub.portStatus p) = true →
        (lowSpeed (s.hub.portStatus p) = true → speed = usbSpeedLow) ∧
          (highSpeed (s.hub.portStatus p) = true → speed = usbSpeedHigh))))
  | .disconnect _ | .device _ _ => isTrue trivial
  | .control jiffies typeReq wValue q => inferInstanceAs (Decidable ((q : Nat) = p →
      env.accessible = true → RequestKeeps jiffies wValue.toNat p s (TypeReq.ofCode typeReq)))

/-! ## The bits after an operation -/

/-- What an operation leaves of the four bits. -/
structure Bits (w : BitVec 32) (connected enabled low high : Bool) : Prop where
  connected : Hub.connected w = connected
  enabled : Hub.enabled w = enabled
  low : lowSpeed w = low
  high : highSpeed w = high

/-- The bits of a status. -/
lemma bits_self (w : BitVec 32) : Bits w (connected w) (enabled w) (lowSpeed w) (highSpeed w) :=
  ⟨rfl, rfl, rfl, rfl⟩

namespace Bits

variable {c e l h : Bool} {f : Nat}

/-- Setting a feature sets at most its bit of the four. -/
lemma set (hw : Bits w c e l h) (hf : f < 32) : Bits (w ||| stat f)
    (c || decide (featConnection = f)) (e || decide (featEnable = f))
    (l || decide (featLowSpeed = f)) (h || decide (featHighSpeed = f)) := by
  obtain ⟨rfl, rfl, rfl, rfl⟩ := hw
  exact ⟨getLsbD_or_stat w hf _, getLsbD_or_stat w hf _, getLsbD_or_stat w hf _,
    getLsbD_or_stat w hf _⟩

/-- Clearing a feature clears at most its bit of the four. -/
lemma clear (hw : Bits w c e l h) (hf : f < 32) : Bits (w &&& ~~~stat f)
    (c && !decide (featConnection = f)) (e && !decide (featEnable = f))
    (l && !decide (featLowSpeed = f)) (h && !decide (featHighSpeed = f)) := by
  obtain ⟨rfl, rfl, rfl, rfl⟩ := hw
  exact ⟨getLsbD_and_not_stat w hf _, getLsbD_and_not_stat w hf _, getLsbD_and_not_stat w hf _,
    getLsbD_and_not_stat w hf _⟩

/-- Setting the speed sets one of the speed bits. -/
lemma setSpeed (hw : Bits w c e l h) (speed : BitVec 32) : Bits (w ||| speedStat speed) c e
    (l || decide (speed = usbSpeedLow)) (h || decide (speed = usbSpeedHigh)) := by
  unfold speedStat
  split
  · rename_i hspeed
    subst hspeed
    simpa [featConnection, featEnable, featLowSpeed, featHighSpeed, usbSpeedHigh, usbSpeedLow] using
      hw.set (f := featHighSpeed) (by decide)
  split
  · rename_i hspeed
    subst hspeed
    simpa [featConnection, featEnable, featLowSpeed, featHighSpeed, usbSpeedHigh, usbSpeedLow] using
      hw.set (f := featLowSpeed) (by decide)
  · rename_i hhigh hlow
    have hzero : w ||| (0 : BitVec 32) = w := BitVec.or_zero
    rw [hzero, decide_eq_false hhigh, decide_eq_false hlow, Bool.or_false, Bool.or_false]
    exact hw

/-- The property, of the four bits. -/
lemma right_iff (hw : Bits w c e l h) : SpeedRight w speed ↔ ¬ (l = true ∧ h = true) ∧
    (c = true → e = true → l = decide (speed = some usbSpeedLow) ∧
      h = decide (speed = some usbSpeedHigh)) := by
  obtain ⟨rfl, rfl, rfl, rfl⟩ := hw
  exact ⟨fun h => ⟨h.one, h.device⟩, fun h => ⟨h.1, h.2⟩⟩

end Bits

/-! ## The operations -/

variable {p : Int} {jiffies : BitVec 64} {h : VhciHcd} {n : Nat}

/-- Bits of a port that the speed does not depend on. -/
lemma bits_resetStatus (v : VhciDevice) : Bits (resetStatus w v) (connected w)
    (enabled w || decide (v.status = .vdevNotassigned)) (lowSpeed w) (highSpeed w) := by
  have hreset := ((bits_self w).set (f := featCReset) (by decide)).clear (f := featReset) (by decide)
  unfold resetStatus
  dsimp only
  split
  · rename_i hv
    simpa [hv, featConnection, featEnable, featLowSpeed, featHighSpeed, featCReset, featReset] using
      hreset.set (f := featEnable) (by decide)
  · rename_i hv
    simpa [hv, featConnection, featEnable, featLowSpeed, featHighSpeed, featCReset, featReset] using
      hreset

/-- The end of a resume leaves the four bits alone. -/
lemma bits_endResume : Bits ((endResume jiffies p h).portStatus p) (connected (h.portStatus p))
    (enabled (h.portStatus p)) (lowSpeed (h.portStatus p)) (highSpeed (h.portStatus p)) := by
  unfold endResume
  split
  · have hclear := ((bits_self (h.portStatus p)).set (f := featCSuspend) (by decide)).clear
      (f := featSuspend) (by decide)
    have hstatus : (h.write p ((h.portStatus p ||| stat featCSuspend) &&& ~~~stat featSuspend)).portStatus
        p = (h.portStatus p ||| stat featCSuspend) &&& ~~~stat featSuspend := portStatus_write_self
    show Bits ((h.write p _).portStatus p) _ _ _ _
    rw [hstatus]
    simpa [featConnection, featEnable, featLowSpeed, featHighSpeed, featCSuspend, featSuspend] using
      hclear
  · exact bits_self _

/-- What adds nothing to a bit may be left out. -/
lemma or_eq_right {b d : Bool} (h : b = true → d = true) : (b || d) = d := by
  cases b with
  | false => rfl
  | true => rw [h rfl, Bool.or_true]

/-- A device is attached. -/
lemma right_connect {speed₀ : Option (BitVec 32)} {speed : BitVec 32} (hw : SpeedRight w speed₀)
    (hlow : lowSpeed w = true → speed ≠ usbSpeedHigh)
    (hhigh : highSpeed w = true → speed ≠ usbSpeedLow)
    (henabled : enabled w = true → (lowSpeed w = true → speed = usbSpeedLow) ∧
      (highSpeed w = true → speed = usbSpeedHigh)) :
    SpeedRight (w ||| (stat featConnection ||| stat featCConnection) ||| speedStat speed)
      (some speed) := by
  have hbits := (((bits_self w).set (f := featConnection) (by decide)).set (f := featCConnection)
    (by decide)).setSpeed speed
  rw [BitVec.or_assoc w] at hbits
  rw [hbits.right_iff]
  simp only [featConnection, featEnable, featLowSpeed, featHighSpeed, featCConnection,
    Option.some.injEq, OfNat.zero_ne_ofNat, OfNat.one_ne_ofNat, OfNat.ofNat_ne_zero, Nat.reduceEqDiff,
    decide_false, Bool.or_false, Bool.or_eq_true, decide_eq_true_eq]
  refine ⟨?_, fun _ he => ?_⟩
  · rintro ⟨hl | hl, hh | hh⟩
    · exact hw.one ⟨hl, hh⟩
    · exact hlow hl hh
    · exact hhigh hh hl
    · exact absurd (hl.symm.trans hh) (by decide)
  · obtain ⟨hl, hh⟩ := henabled he
    exact ⟨or_eq_right fun h => decide_eq_true (hl h), or_eq_right fun h => decide_eq_true (hh h)⟩

/-- A port without a device has no wrong bits. -/
lemma right_disconnect (hw : SpeedRight w speed) :
    SpeedRight ((w &&& ~~~stat featConnection) ||| stat featCConnection) none := by
  have hbits := ((bits_self w).clear (f := featConnection) (by decide)).set (f := featCConnection)
    (by decide)
  rw [hbits.right_iff]
  refine ⟨?_, fun hc => ?_⟩
  · simpa [featLowSpeed, featHighSpeed, featConnection, featCConnection] using hw.one
  · simp [featConnection, featCConnection] at hc

/-- ClearPortFeature keeps the bits right under its condition. -/
lemma right_clearPortFeature (hw : SpeedRight (h.portStatus p) speed)
    (hreset : n = featCReset →
      ((h.vdev p).speed = usbSpeedHigh → lowSpeed (h.portStatus p) = false ∧
        (connected (h.portStatus p) = true → enabled (h.portStatus p) = true →
          speed = some usbSpeedHigh)) ∧
      ((h.vdev p).speed = usbSpeedLow → highSpeed (h.portStatus p) = false ∧
        (connected (h.portStatus p) = true → enabled (h.portStatus p) = true →
          speed = some usbSpeedLow)))
    (hother : n ≠ featCReset → n < 32 ∧
      (connected (h.portStatus p) = true → enabled (h.portStatus p) = true →
        (n = featLowSpeed → lowSpeed (h.portStatus p) = false) ∧
          (n = featHighSpeed → highSpeed (h.portStatus p) = false))) :
    SpeedRight ((clearPortFeature env jiffies n p h).hub.portStatus p) speed := by
  unfold clearPortFeature
  dsimp only
  split
  · split <;> exact hw
  split
  · show SpeedRight ((h.write p 0).portStatus p) speed
    rw [portStatus_write_self]
    exact ⟨fun h => (by cases h.1), fun h => (by cases h)⟩
  split
  · rename_i hn
    subst hn
    obtain ⟨hhigh, hlow⟩ := hreset rfl
    have hbits := ((bits_self (h.portStatus p)).setSpeed (h.vdev p).speed).clear (f := featCReset)
      (by decide)
    have hshl : env.shl featCReset = stat featCReset := rfl
    rw [portStatus_write_self, hshl, hbits.right_iff]
    simp only [featConnection, featEnable, featLowSpeed, featHighSpeed, featCReset,
      OfNat.zero_ne_ofNat, OfNat.one_ne_ofNat, Nat.reduceEqDiff, decide_false, Bool.not_false,
      Bool.and_true, Bool.or_eq_true, decide_eq_true_eq]
    refine ⟨?_, fun hc he => ?_⟩
    · rintro ⟨hl | hl, hh | hh⟩
      · exact hw.one ⟨hl, hh⟩
      · exact absurd ((hhigh hh).1.symm.trans hl) (by decide)
      · exact absurd ((hlow hl).1.symm.trans hh) (by decide)
      · exact absurd (hl.symm.trans hh) (by decide)
    · obtain ⟨hl, hh⟩ := hw.device hc he
      rw [hl, hh, Bool.or_comm, Bool.or_comm (decide (speed = some usbSpeedHigh))]
      refine ⟨or_eq_right fun h => ?_, or_eq_right fun h => ?_⟩
      · exact decide_eq_true ((hlow (of_decide_eq_true h)).2 hc he)
      · exact decide_eq_true ((hhigh (of_decide_eq_true h)).2 hc he)
  · rename_i hn
    obtain ⟨hlt, hkeep⟩ := hother hn
    have hbits := (bits_self (h.portStatus p)).clear hlt
    have hshl : env.shl n = stat n := if_pos hlt
    rw [portStatus_write_self, hshl, hbits.right_iff]
    simp only [Bool.and_eq_true, Bool.not_eq_true', decide_eq_false_iff_not]
    refine ⟨fun h => hw.one ⟨h.1.1, h.2.1⟩, fun hc he => ?_⟩
    obtain ⟨hl, hh⟩ := hw.device hc.1 he.1
    obtain ⟨hkl, hkh⟩ := hkeep hc.1 he.1
    rw [← hl, ← hh]
    refine ⟨?_, ?_⟩
    · by_cases hf : featLowSpeed = n
      · rw [hkl hf.symm, Bool.false_and]
      · rw [decide_eq_false hf, Bool.not_false, Bool.and_true]
    · by_cases hf : featHighSpeed = n
      · rw [hkh hf.symm, Bool.false_and]
      · rw [decide_eq_false hf, Bool.not_false, Bool.and_true]

/-- The bits that a reset leaves of an enabled port. -/
lemma bits_reset : Bits
    (w &&& ~~~(stat featEnable ||| stat featLowSpeed ||| stat featHighSpeed) ||| stat featReset)
    (connected w) false false false := by
  have hbits := ((((bits_self w).clear (f := featEnable) (by decide)).clear (f := featLowSpeed)
    (by decide)).clear (f := featHighSpeed) (by decide)).set (f := featReset) (by decide)
  have hclear : w &&& ~~~(stat featEnable ||| stat featLowSpeed ||| stat featHighSpeed) =
      w &&& ~~~stat featEnable &&& ~~~stat featLowSpeed &&& ~~~stat featHighSpeed := by
    simp only [BitVec.not_or, BitVec.and_assoc]
  rw [hclear]
  simpa [featConnection, featEnable, featLowSpeed, featHighSpeed, featReset] using hbits

/-- SetPortFeature keeps the bits right under its condition. -/
lemma right_setPortFeature (hw : SpeedRight (h.portStatus p) speed) (hlt : n < 32)
    (hconnection : n = featConnection → enabled (h.portStatus p) = true →
      Matches (h.portStatus p) speed)
    (henable : n = featEnable → connected (h.portStatus p) = true →
      Matches (h.portStatus p) speed)
    (hlow : n = featLowSpeed → highSpeed (h.portStatus p) = false ∧
      (connected (h.portStatus p) = true → enabled (h.portStatus p) = true →
        speed = some usbSpeedLow))
    (hhigh : n = featHighSpeed → lowSpeed (h.portStatus p) = false ∧
      (connected (h.portStatus p) = true → enabled (h.portStatus p) = true →
        speed = some usbSpeedHigh)) :
    SpeedRight ((setPortFeature env jiffies n p h).hub.portStatus p) speed := by
  have hshl : env.shl n = stat n := if_pos hlt
  unfold setPortFeature
  dsimp only
  split
  · exact hw
  split
  · rename_i hn
    subst hn
    show SpeedRight ((h.write p _).portStatus p) speed
    rw [portStatus_write_self, hshl]
    split
    · rw [bits_reset.right_iff]
      exact ⟨fun h => (by cases h.1), fun _ h => (by cases h)⟩
    · rename_i hrunning
      have hbits := (bits_self (h.portStatus p)).set (f := featReset) (by decide)
      rw [hbits.right_iff]
      refine ⟨?_, fun _ he => ?_⟩
      · simpa [featLowSpeed, featHighSpeed, featReset] using hw.one
      · have henabled : enabled (h.portStatus p) = true := by simpa [featEnable, featReset] using he
        rw [decide_eq_true_eq, and_stat_ne_zero_iff (by decide)] at hrunning
        exact absurd henabled hrunning
  · have hbits := (bits_self (h.portStatus p)).set hlt
    rw [portStatus_write_self, hshl, hbits.right_iff]
    simp only [Bool.or_eq_true, decide_eq_true_eq]
    have hmatches : (connected (h.portStatus p) = true ∨ featConnection = n) →
        (enabled (h.portStatus p) = true ∨ featEnable = n) → Matches (h.portStatus p) speed := by
      rintro (hc | hc) (he | he)
      · exact hw.device hc he
      · exact henable he.symm hc
      · exact hconnection hc.symm he
      · exact absurd (hc.trans he.symm) (by decide)
    refine ⟨?_, fun hc he => ?_⟩
    · rintro ⟨hl | hl, hh | hh⟩
      · exact hw.one ⟨hl, hh⟩
      · exact absurd ((hhigh hh.symm).1.symm.trans hl) (by decide)
      · exact absurd ((hlow hl.symm).1.symm.trans hh) (by decide)
      · exact absurd (hl.trans hh.symm) (by decide)
    · obtain ⟨hl, hh⟩ := hmatches hc he
      rw [hl, hh, Bool.or_comm, Bool.or_comm (decide (speed = some usbSpeedHigh))]
      have hneither : ∀ f, f = n → f ≠ featConnection → f ≠ featEnable →
          connected (h.portStatus p) = true ∧ enabled (h.portStatus p) = true := by
        rintro f rfl hf hf'
        exact ⟨hc.resolve_right (Ne.symm hf), he.resolve_right (Ne.symm hf')⟩
      refine ⟨or_eq_right fun hn => ?_, or_eq_right fun hn => ?_⟩
      · have hn := of_decide_eq_true hn
        obtain ⟨hc, he⟩ := hneither _ hn (by decide) (by decide)
        exact decide_eq_true ((hlow hn.symm).2 hc he)
      · have hn := of_decide_eq_true hn
        obtain ⟨hc, he⟩ := hneither _ hn (by decide) (by decide)
        exact decide_eq_true ((hhigh hn.symm).2 hc he)

/-- GetPortStatus keeps the bits right under its condition. -/
lemma right_getPortStatus {wIndex : Nat} (hw : SpeedRight (h.portStatus p) speed)
    (hends : resetDue jiffies p (endResume jiffies p h) = true →
      (h.vdev p).status = .vdevNotassigned → connected (h.portStatus p) = true →
        Matches (h.portStatus p) speed) :
    SpeedRight ((getPortStatus env jiffies wIndex p h).hub.portStatus p) speed := by
  have hresume := @bits_endResume p jiffies h
  show SpeedRight ((endReset jiffies p (endResume jiffies p h)).portStatus p) speed
  unfold endReset
  split
  · rename_i hdue
    have hbits := @bits_resetStatus ((endResume jiffies p h).portStatus p)
      ((endResume jiffies p h).vdev p)
    rw [hresume.connected, hresume.enabled, hresume.low, hresume.high, vdev_endResume] at hbits
    show SpeedRight ((VhciHcd.write p _ (endResume jiffies p h)).portStatus p) speed
    rw [portStatus_write_self, vdev_endResume, hbits.right_iff]
    refine ⟨hw.one, fun hc he => ?_⟩
    rw [Bool.or_eq_true, decide_eq_true_eq] at he
    rcases he with he | hv
    · exact hw.device hc he
    · exact hends hdue hv hc
  · rw [hresume.right_iff]
    exact ⟨hw.one, hw.device⟩

/-! ## A whole history -/

/-- An action of another port leaves port `p` alone. -/
lemma step_other {p : Int} (hport : a.port ≠ p) (hstep : step env s a = some t) :
    t.hub.portStatus p = s.hub.portStatus p ∧ t.attached p = s.attached p := by
  cases a with
  | connect q speed | disconnect q =>
      cases hstep
      exact ⟨Function.update_of_ne (Ne.symm hport) _ _, Function.update_of_ne (Ne.symm hport) _ _⟩
  | device q v =>
      cases hstep
      exact ⟨rfl, rfl⟩
  | control jiffies typeReq wValue q =>
      cases hstep
      refine ⟨?_, rfl⟩
      show (vhciHubControl env jiffies _ s.hub).hub.portStatus p = _
      rw [vhciHubControl_hub]
      split
      · refine (dispatch_frame env jiffies _ s.hub).2 p ?_
        rw [rhport_portRequest]
        exact Ne.symm hport
      · rfl

/-- Every request keeps the bits right under its condition. -/
lemma right_control {q : Fin env.hcPorts} {typeReq wValue : BitVec 16}
    (hw : SpeedRight (s.hub.portStatus (q : Nat)) (s.attached (q : Nat)))
    (hkeeps : KeepsSpeed env (q : Nat) s (.control jiffies typeReq wValue q)) :
    SpeedRight ((vhciHubControl env jiffies (portRequest typeReq wValue q) s.hub).hub.portStatus
      (q : Nat)) (s.attached (q : Nat)) := by
  rw [vhciHubControl_hub]
  split
  · rename_i haccessible
    have hkeeps := hkeeps rfl haccessible
    unfold dispatch
    rw [rhport_portRequest]
    dsimp only [portRequest]
    cases hcode : TypeReq.ofCode typeReq with
    | clearHubFeature | getHubDescriptor | getHubStatus | setHubFeature | other => exact hw
    | clearPortFeature =>
        rw [hcode, RequestKeeps] at hkeeps
        refine right_clearPortFeature hw (fun hn => ?_) fun hn => ?_
        · rwa [if_pos hn] at hkeeps
        · rwa [if_neg hn] at hkeeps
    | getPortStatus =>
        rw [hcode] at hkeeps
        exact right_getPortStatus hw hkeeps
    | setPortFeature =>
        rw [hcode] at hkeeps
        obtain ⟨hlt, hconnection, henable, hlow, hhigh⟩ := hkeeps
        exact right_setPortFeature hw hlt hconnection henable hlow hhigh
  · exact hw

/-- Every step keeps the bits right under its condition. -/
lemma speed_step {p : Fin env.hcPorts}
    (hw : SpeedRight (s.hub.portStatus (p : Nat)) (s.attached (p : Nat)))
    (hkeeps : KeepsSpeed env (p : Nat) s a) (hstep : step env s a = some t) :
    SpeedRight (t.hub.portStatus (p : Nat)) (t.attached (p : Nat)) := by
  by_cases hport : a.port = (p : Nat)
  · cases a with
    | connect q speed =>
        obtain rfl : q = p := Fin.ext (Int.ofNat_inj.mp hport)
        cases hstep
        obtain ⟨hlow, hhigh, henabled⟩ := hkeeps rfl
        have hright := right_connect hw hlow hhigh henabled
        show SpeedRight ((rhPortConnect (q : Nat) speed s.hub).portStatus (q : Nat))
          (Function.update s.attached (q : Nat) (some speed) (q : Nat))
        rw [rhPortConnect, portStatus_write_self, Function.update_self]
        exact hright
    | disconnect q =>
        obtain rfl : q = p := Fin.ext (Int.ofNat_inj.mp hport)
        cases hstep
        show SpeedRight ((rhPortDisconnect (q : Nat) s.hub).portStatus (q : Nat))
          (Function.update s.attached (q : Nat) none (q : Nat))
        rw [rhPortDisconnect, portStatus_write_self, Function.update_self]
        exact right_disconnect hw
    | device q v =>
        cases hstep
        exact hw
    | control jiffies typeReq wValue q =>
        obtain rfl : q = p := Fin.ext (Int.ofNat_inj.mp hport)
        cases hstep
        exact right_control hw hkeeps
  · obtain ⟨hstatus, hattached⟩ := step_other hport hstep
    rw [hstatus, hattached]
    exact hw

/-- When each operation on the port meets the condition, the speed bits are right in every state. -/
theorem speed_bits_right {p : Fin env.hcPorts}
    (hs : (machine env).Reach (KeepsSpeed env (p : Nat)) s) :
    SpeedRight (s.hub.portStatus (p : Nat)) (s.attached (p : Nat)) := by
  refine hs.invariant (I := fun s => SpeedRight (s.hub.portStatus (p : Nat))
    (s.attached (p : Nat))) ?_ ?_
  · rintro s rfl
    show SpeedRight 0 none
    exact ⟨fun h => absurd h.1 (by decide), fun h => absurd h (by decide)⟩
  · intro s a t hw hkeeps hstep
    exact speed_step hw hkeeps hstep

/-- A high-speed device is attached and reset, and its speed is shown when the reset is over. -/
def attachHigh : List (Action {}) := [
  .device 0 { speed := usbSpeedHigh, status := .vdevNotassigned }, .connect 0 usbSpeedHigh,
  .control 0 0x2303 4 0, .control 100 0xa300 0 0, .control 101 0x2301 20 0]

/-- The port is then enabled as a high-speed port. -/
theorem speed_bits_right_attachHigh : ∃ s : State, SpeedRight (s.hub.portStatus 0) (s.attached 0) ∧
    (connected (s.hub.portStatus 0) = true ∧ enabled (s.hub.portStatus 0) = true ∧
      highSpeed (s.hub.portStatus 0) = true ∧ s.attached 0 = some usbSpeedHigh) := by
  have hrun : ∃ s : State, (machine {}).Reach (KeepsSpeed {} ((0 : Fin 8) : Nat)) s ∧
      (connected (s.hub.portStatus 0) = true ∧ enabled (s.hub.portStatus 0) = true ∧
        highSpeed (s.hub.portStatus 0) = true ∧ s.attached 0 = some usbSpeedHigh) :=
    Machine.Reach.of_perform attachHigh init_new (by decide +kernel)
  obtain ⟨s, hs, hport⟩ := hrun
  exact ⟨s, @speed_bits_right {} s (0 : Fin 8) hs, hport⟩

/-- A high-speed device goes, and a low-speed device comes to its port. -/
def replaceByLow : List (Action {}) :=
  [.connect 0 usbSpeedHigh, .disconnect 0, .connect 0 usbSpeedLow]

/-- Both speed bits are set. -/
theorem stale_speed_bit : ¬ ∀ (env : Env) (p : Fin env.hcPorts) (s : State),
    (machine env).Reachable s → SpeedRight (s.hub.portStatus (p : Nat)) (s.attached (p : Nat)) := by
  intro hall
  have hrun : ∃ s : State, (machine {}).Reachable s ∧ lowSpeed (s.hub.portStatus 0) = true ∧
      highSpeed (s.hub.portStatus 0) = true :=
    Machine.Reach.of_perform replaceByLow init_new (by decide +kernel)
  obtain ⟨s, hs, hlow, hhigh⟩ := hrun
  exact (hall {} (0 : Fin 8) s hs).one ⟨hlow, hhigh⟩

end Usbip.Hub
