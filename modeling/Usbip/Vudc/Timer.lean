import Usbip.Vudc.DeviceSteps

/-!
# The transfer timer

The timer of a vudc is started when a client connects and kicked whenever a URB is queued or
unlinked; `v_timer` arms it again when it leaves URBs on `urb_queue`.  `v_stop_timer` is in the
source, although nothing calls it.  Here all of them may be called whenever `udc->lock` is free,
beside everything the device does.

`Driven` is the invariant: a timer that is running, or idle with URBs queued, is pending or its
function is in progress.  A URB then does not wait for a timer that never fires
(`urb_not_stranded`).
-/

namespace Usbip.Vudc.Device

open Usbip.Core Usbip.Common

/-! ## The machine -/

/-- Source: `vudc_transfer.c`, `v_stop_timer`. -/
def vStopTimer (s : State) : State := { s with trState := .stopped }

inductive TimedAction
  /-- What the device does by itself. -/
  | device (a : Action)
  /-- `v_start_timer`. -/
  | start (now : Int)
  /-- `v_kick_timer`. -/
  | kick
  /-- `v_stop_timer`. -/
  | stop

/-- The state an action leads to. -/
def timedStep (s : State) : TimedAction → Option State
  | .device a => step s a
  | .start now => if s.lockFree then some (vStartTimer now s) else none
  | .kick => if s.lockFree then some (vKickTimer s) else none
  | .stop => if s.lockFree then some (vStopTimer s) else none

/-- The device with the timer functions called at any time. -/
def timedMachine : Machine State TimedAction where
  init := machine.init
  step := timedStep

/-- The speed is known. -/
def KnownSpeed (s : State) (_ : TimedAction) : Prop := 0 ≤ getFrameLimit s.speed

instance (s : State) (a : TimedAction) : Decidable (KnownSpeed s a) :=
  inferInstanceAs (Decidable (0 ≤ getFrameLimit s.speed))

/-! ## The invariant -/

/-- The timer is pending, or `v_timer` is in progress. -/
def State.ticking (s : State) : Prop := s.armed = true ∨ s.timer ≠ .idle

/-- A timer that is running, or idle with URBs queued, fires or has fired. -/
def Driven (s : State) : Prop :=
  s.trState = .running ∨ s.trState = .idle ∧ s.urbQueue ≠ [] → s.ticking

variable {s t : State}

/-- A timer that runs drives the queue. -/
lemma driven_of_timer (h : t.timer ≠ .idle) : Driven t := fun _ => Or.inr h

/-- A timer that is armed drives the queue. -/
lemma driven_of_armed (h : t.armed = true) : Driven t := fun _ => Or.inl h

/-- What leaves the timer alone and queues nothing keeps the invariant. -/
lemma Driven.keep (hi : Driven s) (hstate : t.trState = s.trState) (harmed : t.armed = s.armed)
    (htimer : t.timer = s.timer) (hqueue : s.urbQueue = [] → t.urbQueue = []) : Driven t := by
  intro hdrive
  have hticking : s.ticking := by
    apply hi
    rcases hdrive with hrun | ⟨hidle, hne⟩
    · exact Or.inl (hstate ▸ hrun)
    · exact Or.inr ⟨hstate ▸ hidle, fun hnil => hne (hqueue hnil)⟩
  unfold State.ticking
  rwa [harmed, htimer]

/-- A kick keeps the invariant, whatever is put on the queue with it. -/
lemma Driven.kick (hi : Driven s) {q : List Allocated} {acc : List Nat} :
    Driven { vKickTimer s with urbQueue := q, accepted := acc } := by
  unfold vKickTimer
  cases hstate : s.trState with
  | running => exact fun _ => hi (Or.inl hstate)
  | idle => exact driven_of_armed rfl
  | stopped => exact driven_of_armed rfl

/-- Kicking the timer drives the queue. -/
lemma Driven.vKickTimer (hi : Driven s) : Driven (vKickTimer s) :=
  hi.kick

/-- A new URB drives the queue. -/
lemma Driven.vQueueUrbp (hi : Driven s) (p : Allocated) : Driven (vQueueUrbp p s) :=
  hi.kick

/-- Starting the timer drives the queue. -/
lemma Driven.vStartTimer (hi : Driven s) (now : Int) : Driven (vStartTimer now s) := by
  unfold Device.vStartTimer
  cases hstate : s.trState with
  | running => exact hi
  | idle => exact hi.vKickTimer
  | stopped => exact driven_of_armed rfl

/-- The end of a run arms the timer again if URBs are queued. -/
lemma driven_vTimerEnd (s : State) : Driven (vTimerEnd s) := by
  unfold vTimerEnd
  split
  · rename_i hnil
    rintro (hrun | ⟨-, hne⟩)
    · cases hrun
    · exact absurd hnil hne
  · exact driven_of_armed rfl

/-! ## The steps -/

/-- A return goes on with the run. -/
lemma timer_returnUrb {allocOk : Bool} {n : Nat} {total : Int}
    (h : returnUrb allocOk n total s = some t) : t.timer ≠ .idle := by
  unfold returnUrb at h
  split at h <;> cases h
  exact TimerPc.noConfusion

/-- A visit goes on with the run. -/
lemma timer_vTimerVisit {allocOk : Bool} {n : Nat} {total ret : Int} {w : Progress}
    (h : vTimerVisit allocOk n total ret w s = some t) : t.timer ≠ .idle := by
  unfold vTimerVisit at h
  split at h
  · cases h
  · dsimp only at h
    split at h
    · cases h
      exact TimerPc.noConfusion
    · cases h
      exact TimerPc.noConfusion
    · cases h
      exact TimerPc.noConfusion
    · exact timer_returnUrb h

/-- A step of `v_timer` leaves it in progress, or is its end. -/
lemma Driven.stepTimer {a : TimerAction} (hspeed : 0 ≤ getFrameLimit s.speed)
    (h : stepTimer s a = some t) : Driven t := by
  cases a with
  | start now =>
      simp only [Device.stepTimer] at h
      split at h
      · split at h <;> cases h
        apply driven_of_timer
        unfold vTimerStart
        rw [if_neg (Int.not_lt.mpr hspeed)]
        exact TimerPc.noConfusion
      · cases h
  | visit allocOk ret w =>
      simp only [Device.stepTimer] at h
      split at h
      · cases h
        exact driven_vTimerEnd s
      · exact driven_of_timer (timer_vTimerVisit h)
      · cases h
  | setup allocOk ret =>
      simp only [Device.stepTimer] at h
      split at h
      · split at h
        · cases h
        · split at h
          · cases h
            exact driven_of_timer TimerPc.noConfusion
          · exact driven_of_timer (timer_returnUrb h)
      · cases h
  | giveback w =>
      simp only [Device.stepTimer] at h
      split at h <;> cases h
      exact driven_of_timer TimerPc.noConfusion
  | resume =>
      simp only [Device.stepTimer] at h
      split at h
      · split at h <;> cases h
        exact driven_of_timer TimerPc.noConfusion
      · cases h
  | transferred allocOk sent w =>
      simp only [Device.stepTimer] at h
      split at h
      · split at h
        · cases h
          exact driven_of_timer TimerPc.noConfusion
        · exact driven_of_timer (timer_returnUrb h)
      · cases h

/-- An unlink keeps the queue driven. -/
lemma Driven.vRecvCmdUnlink (hi : Driven s) (allocOk : Bool) (u n : Seqnum) :
    Driven (vRecvCmdUnlink allocOk u n s) := by
  unfold Device.vRecvCmdUnlink
  split
  · rename_i q hup
    apply Driven.vKickTimer
    refine hi.keep rfl rfl rfl fun hnil => ?_
    rw [hnil] at hup
    cases hup
  · unfold vEnqueueRetUnlink
    split
    · exact hi.keep rfl rfl rfl id
    · exact hi.keep rfl rfl rfl id

/-- The receive thread keeps the queue driven. -/
lemma Driven.stepRx (hi : Driven s) {a : RxAction} (h : stepRx s a = some t) : Driven t := by
  cases a with
  | top | fail | cmdSubmit | submitFail =>
      simp only [Device.stepRx] at h
      split at h <;> cases h
      exact hi.keep rfl rfl rfl id
  | cmdUnlink allocOk u n =>
      simp only [Device.stepRx] at h
      split at h
      · split at h <;> cases h
        exact (hi.vRecvCmdUnlink allocOk u n).keep rfl rfl rfl id
      · cases h
  | queue =>
      simp only [Device.stepRx] at h
      split at h
      · split at h <;> cases h
        exact (hi.vQueueUrbp _).keep rfl rfl rfl id
      · cases h

/-- The transmit thread keeps the queue driven. -/
lemma Driven.stepTx (hi : Driven s) {a : TxAction} (h : stepTx s a = some t) : Driven t := by
  cases a with
  | top =>
      simp only [Device.stepTx] at h
      split at h <;> cases h
      exact hi.keep rfl rfl rfl id
  | send sendOk =>
      simp only [Device.stepTx] at h
      split at h
      · split at h <;> cases h
        · exact hi.keep rfl rfl rfl id
        · exact hi.keep rfl rfl rfl id
      · split at h <;> cases h
        · exact hi.keep rfl rfl rfl id
        · exact hi.keep rfl rfl rfl id
      · cases h

/-- The event handler does not touch the timer, and may empty the queue. -/
lemma Driven.stepEh (hi : Driven s) {a : EhAction} (h : stepEh s a = some t) : Driven t := by
  cases a with
  | shutdown | reset | unusable | nuke | available =>
      simp only [Device.stepEh] at h
      split at h <;> cases h
      exact hi.keep rfl rfl rfl id
  | stopped =>
      simp only [Device.stepEh] at h
      split at h
      · split at h <;> cases h
        exact hi.keep rfl rfl rfl id
      · split at h <;> cases h
        exact hi.keep rfl rfl rfl id
      · cases h
  | lock =>
      simp only [Device.stepEh] at h
      split at h
      · split at h <;> cases h
        exact hi.keep rfl rfl rfl id
      · split at h <;> cases h
        exact hi.keep rfl rfl rfl id
      · cases h
  | stopActivity event =>
      simp only [Device.stepEh] at h
      split at h
      · cases h
        exact hi.keep rfl rfl rfl fun _ => rfl
      · cases h
        exact hi.keep rfl rfl rfl fun _ => rfl
      · cases h

/-- Every step keeps the invariant while the speed is known. -/
theorem Driven.step (hi : Driven s) {a : TimedAction} (hok : KnownSpeed s a)
    (h : timedStep s a = some t) : Driven t := by
  cases a with
  | device a =>
      change Device.step s a = some t at h
      cases a with
      | eventAdd =>
          cases h
          exact hi.keep rfl rfl rfl id
      | gadget ep speed =>
          simp only [Device.step] at h
          split at h <;> cases h
          exact hi.keep rfl rfl rfl id
      | connect now =>
          simp only [Device.step] at h
          split at h <;> cases h
          exact (hi.vStartTimer now).keep rfl rfl rfl id
      | timer a => exact Driven.stepTimer hok h
      | rx a => exact hi.stepRx h
      | tx a => exact hi.stepTx h
      | eh a => exact hi.stepEh h
  | start now =>
      simp only [timedStep] at h
      split at h <;> cases h
      exact hi.vStartTimer now
  | kick =>
      simp only [timedStep] at h
      split at h <;> cases h
      exact hi.vKickTimer
  | stop =>
      simp only [timedStep] at h
      split at h <;> cases h
      rintro (hrun | ⟨hidle, -⟩)
      · cases hrun
      · cases hidle

/-- The queue is driven in every state reached. -/
lemma driven_of_reach (h : timedMachine.Reach KnownSpeed t) : Driven t := by
  refine h.invariant (I := Driven) ?_ ?_
  · rintro s ⟨ep, speed, rfl⟩ (hrun | ⟨hidle, -⟩)
    · cases hrun
    · cases hidle
  · intro s a t hi hok hst
    exact hi.step hok hst

/-- While URBs are queued and the timer is not stopped, it is pending, or `v_timer` is in progress
and arms it at its end. -/
theorem urb_not_stranded (h : timedMachine.Reach KnownSpeed t) (hqueue : t.urbQueue ≠ [])
    (hstate : t.trState ≠ .stopped) :
    t.armed = true ∨ t.timer ≠ .idle ∧ (vTimerEnd t).armed = true := by
  have hticking : t.ticking := by
    apply driven_of_reach h
    cases hcase : t.trState with
    | running => exact Or.inl rfl
    | idle => exact Or.inr ⟨rfl, hqueue⟩
    | stopped => exact absurd hcase hstate
  refine hticking.imp id fun htimer => ⟨htimer, ?_⟩
  unfold vTimerEnd
  rw [if_neg hqueue]

/-- The timer is stopped while `v_timer` gives a gadget request back, and started again, and then
another URB comes in. -/
def restartedRun : List TimedAction :=
  [.device (.connect 0), .device (.rx .top), .device (.rx (.cmdSubmit 1 1 8)),
   .device (.rx .queue), .device (.timer (.start 5)), .device (.timer (.visit true 0 ⟨0, 0⟩)),
   .device (.timer (.giveback ⟨-EINPROGRESS, 4⟩)), .stop, .start 5, .device (.rx .top),
   .device (.rx (.cmdSubmit 2 1 8)), .device (.rx .queue), .device (.timer .resume)]

/-- Two URBs queued, with the timer armed. -/
theorem urb_not_stranded_restartedRun :
    ∃ t, timedMachine.Reach KnownSpeed t ∧ t.urbQueue.map Allocated.ticket = [0, 1] ∧
      (t.armed = true ∨ t.timer ≠ .idle ∧ (vTimerEnd t).armed = true) := by
  have hrun : ∃ t : State, timedMachine.Reach KnownSpeed t ∧
      (t.urbQueue.map Allocated.ticket = [0, 1] ∧ t.trState = .running) :=
    Machine.Reach.of_perform (M := timedMachine) restartedRun
      (s := { ep := fun _ => { type := .bulk }, speed := .high }) ⟨_, _, rfl⟩
      ⟨_, rfl, rfl, rfl⟩
  obtain ⟨t, ht, htickets, hstate⟩ := hrun
  refine ⟨t, ht, htickets, urb_not_stranded ht ?_ ?_⟩
  · rintro hnil
    rw [hnil] at htickets
    cases htickets
  · rw [hstate]
    decide

end Usbip.Vudc.Device
