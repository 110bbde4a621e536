import Usbip.Vudc.Flow
import Usbip.Vudc.Release

/-!
# What the steps of the vudc with its data do

Each function of `Usbip.Vudc.Flow` has an inversion lemma.  The steps outside `v_timer` are taken
together in `Quiet`: they leave `v_timer` where it is and change the queue of URBs at its end only
(`Other`), and the queues of requests as in `Served`.
-/

namespace Usbip.Vudc.Flow

open Usbip.Core Usbip.Common

variable {d d' t : Device.State}

/-! ## The steps of the device outside `v_timer` -/

/-- The `urbp`s on `urb_queue` with their endpoints. -/
def line (d : Device.State) : List (Nat × Option Nat) := d.urbQueue.map fun p => (p.ticket, p.ep)

/-- What the steps outside `v_timer` do to the queue. -/
inductive Moves (d t : Device.State) : Prop
  | same : line t = line d → t.accepted = d.accepted → (t.rx = d.rx ∨ t.rx.held = []) →
      d.allocs ≤ t.allocs → Moves d t
  | alloc : line t = line d → t.accepted = d.accepted → t.rx.held = [d.allocs] →
      t.allocs = d.allocs + 1 → Moves d t
  | queue (k : Nat) (e : Option Nat) : line t = line d ++ [(k, e)] →
      t.accepted = d.accepted ++ [k] → d.rx.held = [k] → t.rx.held = [] → t.allocs = d.allocs →
      (∃ p, d.rx = .submit p ∧ p.ticket = k ∧ p.ep = e) → Moves d t
  | clear : line t = [] → t.accepted = d.accepted → t.rx = d.rx →
      t.allocs = d.allocs → t.stopped = d.stopped ++ d.tickets → Moves d t

/-- A step outside `v_timer` that leaves the endpoints alone. -/
structure Other (d t : Device.State) : Prop where
  timer : t.timer = d.timer
  ep : t.ep = d.ep
  taken : t.taken = d.taken
  running : d.trState = .running → t.trState = .running
  state : t.trState = d.trState ∨ d.timer.unlocked = true
  moves : Moves d t

/-- Kicking the timer changes its own fields. -/
lemma vKickTimer_eq (d : Device.State) : ∃ state armed, Device.vKickTimer d =
    { d with trState := state, armed } ∧ (d.trState = .running → state = .running) := by
  unfold Device.vKickTimer
  cases hstate : d.trState with
  | running => exact ⟨_, _, rfl, fun _ => hstate⟩
  | idle => exact ⟨_, _, rfl, fun h => (by cases h)⟩
  | stopped => exact ⟨_, _, rfl, fun h => (by cases h)⟩

/-- Starting the timer changes its own fields. -/
lemma vStartTimer_eq (now : Int) (d : Device.State) : ∃ state armed frameStart frameLimit,
    Device.vStartTimer now d =
      { d with trState := state, armed, frameStart, frameLimit } ∧
        (d.trState = .running → state = .running) := by
  unfold Device.vStartTimer
  cases hstate : d.trState with
  | running => exact ⟨_, _, _, _, rfl, fun _ => hstate⟩
  | idle =>
      obtain ⟨state, armed, hkick, -⟩ := vKickTimer_eq d
      exact ⟨state, armed, _, _, hkick, fun h => (by cases h)⟩
  | stopped =>
      obtain ⟨state, armed, hkick, -⟩ := vKickTimer_eq { d with
        trState := .idle, frameStart := now, frameLimit := getFrameLimit d.speed }
      exact ⟨state, armed, _, _, hkick, fun h => (by cases h)⟩

/-- A store is a step besides the timer's. -/
lemma other_connect {now : Int} (h : Device.step d (.connect now) = some t) : Other d t := by
  simp only [Device.step] at h
  split at h <;> cases h
  rename_i hc
  obtain ⟨state, armed, frameStart, frameLimit, hstart, hrun⟩ := vStartTimer_eq now d
  have hfree : d.timer.unlocked = true := (Bool.and_eq_true_iff.mp hc.1).1
  unfold Device.storeSockfd
  rw [hstart]
  exact ⟨rfl, rfl, rfl, hrun, Or.inr hfree, .same rfl rfl (Or.inr rfl) le_rfl⟩

/-- A step of the receive thread is one besides the timer's. -/
lemma other_stepRx {a : Device.RxAction} (h : Device.stepRx d a = some t) : Other d t := by
  have hquiet : ∀ {rx : Device.RxPc} {event : Bool}, rx.held = [] →
      Other d { d with rx, event } := by
    intro rx event hheld
    exact ⟨rfl, rfl, rfl, id, Or.inl rfl, .same rfl rfl (Or.inr hheld) le_rfl⟩
  cases a with
  | top =>
      simp only [Device.stepRx] at h
      split at h <;> cases h
      refine hquiet ?_
      split <;> rfl
  | fail | submitFail =>
      simp only [Device.stepRx] at h
      split at h <;> cases h
      exact hquiet rfl
  | cmdSubmit n j len =>
      simp only [Device.stepRx] at h
      split at h <;> cases h
      exact ⟨rfl, rfl, rfl, id, Or.inl rfl, .alloc rfl rfl rfl rfl⟩
  | queue =>
      simp only [Device.stepRx] at h
      split at h
      · rename_i p hrx
        split at h <;> cases h
        rename_i hfree
        obtain ⟨state, armed, hkick, hrun⟩ := vKickTimer_eq d
        unfold Device.vQueueUrbp
        rw [hkick]
        refine ⟨rfl, rfl, rfl, hrun, Or.inr (Bool.and_eq_true_iff.mp hfree).1,
          .queue p.ticket p.ep ?_ rfl ?_ rfl rfl ⟨p, hrx, rfl, rfl⟩⟩
        · exact List.map_append
        · rw [hrx]
          rfl
      · cases h
  | cmdUnlink allocOk u n =>
      simp only [Device.stepRx] at h
      split at h
      · split at h <;> cases h
        rename_i hfree
        have hunlocked : d.timer.unlocked = true := (Bool.and_eq_true_iff.mp hfree).1
        unfold Device.vRecvCmdUnlink
        split
        · rename_i q hup
          obtain ⟨l₁, p, l₂, hq, -, -, rfl⟩ := updateFirst_eq_some hup
          obtain ⟨state, armed, hkick, hrun⟩ :=
            vKickTimer_eq { d with urbQueue := l₁ ++ Device.Allocated.unlink u d.connection p :: l₂ }
          rw [hkick]
          refine ⟨rfl, rfl, rfl, hrun, Or.inr hunlocked, .same ?_ rfl (Or.inr rfl) le_rfl⟩
          show (l₁ ++ Device.Allocated.unlink u d.connection p :: l₂).map _ = d.urbQueue.map _
          rw [hq, List.map_append, List.map_append]
          rfl
        · unfold Device.vEnqueueRetUnlink
          split <;> exact ⟨rfl, rfl, rfl, id, Or.inl rfl, .same rfl rfl (Or.inr rfl) le_rfl⟩
      · cases h

/-- A step of the transmit thread is one besides the timer's. -/
lemma other_stepTx {a : Device.TxAction} (h : Device.stepTx d a = some t) : Other d t := by
  cases a with
  | top =>
      simp only [Device.stepTx] at h
      split at h <;> cases h
      exact ⟨rfl, rfl, rfl, id, Or.inl rfl, .same rfl rfl (Or.inl rfl) le_rfl⟩
  | send sendOk =>
      simp only [Device.stepTx] at h
      split at h
      · split at h <;> cases h <;> exact ⟨rfl, rfl, rfl, id, Or.inl rfl, .same rfl rfl (Or.inl rfl) le_rfl⟩
      · split at h <;> cases h <;> exact ⟨rfl, rfl, rfl, id, Or.inl rfl, .same rfl rfl (Or.inl rfl) le_rfl⟩
      · cases h

/-- A step of the handler is one besides the timer's. -/
lemma other_stepEh {a : Device.EhAction} (h : Device.stepEh d a = some t) : Other d t := by
  have hquiet : ∀ {eh : Device.EhPc} {status : Device.Status} {event : Bool},
      Other d { d with eh, status, event } := by
    intro eh status event
    exact ⟨rfl, rfl, rfl, id, Or.inl rfl, .same rfl rfl (Or.inl rfl) le_rfl⟩
  cases a with
  | shutdown | reset | unusable | nuke | available =>
      simp only [Device.stepEh] at h
      split at h <;> cases h
      exact hquiet
  | stopped =>
      simp only [Device.stepEh] at h
      split at h
      · split at h <;> cases h
        exact hquiet
      · split at h <;> cases h
        exact hquiet
      · cases h
  | lock =>
      simp only [Device.stepEh] at h
      split at h
      · split at h <;> cases h
        exact hquiet
      · split at h <;> cases h
        exact hquiet
      · cases h
  | stopActivity event =>
      simp only [Device.stepEh] at h
      split at h
      · cases h
        exact ⟨rfl, rfl, rfl, id, Or.inl rfl, .clear rfl rfl rfl rfl rfl⟩
      · cases h
        exact ⟨rfl, rfl, rfl, id, Or.inl rfl, .clear rfl rfl rfl rfl rfl⟩
      · cases h

/-- `handle_control_request` halts an endpoint, or ends its halt. -/
lemma Control.setHalted_eq (c : Control) (d : Device.State) : ∃ ep : Nat → Vep,
    c.setHalted d = { d with ep } ∧
      ∀ j, (ep j).alreadySeen = (d.ep j).alreadySeen ∧ (ep j).type = (d.ep j).type := by
  unfold Control.setHalted
  split
  · rename_i j halted _
    refine ⟨_, rfl, fun k => ?_⟩
    by_cases hkj : k = j
    · subst hkj
      rw [Function.update_self]
      exact ⟨rfl, rfl⟩
    · rw [Function.update_of_ne hkj]
      exact ⟨rfl, rfl⟩
  · exact ⟨d.ep, rfl, fun _ => ⟨rfl, rfl⟩⟩

/-! ## The steps of `v_timer` -/

variable {allocOk : Bool}

/-- A URB has left the queue, and the loop is about to start over. -/
structure Returned (d t : Device.State) : Prop where
  sublist : t.tickets.Sublist d.tickets
  length : t.tickets.length + 1 = d.tickets.length
  visit : ∃ cur total, t.timer = .visit cur total

/-- Writing a URB leaves the queue. -/
lemma tickets_writeUrbp (n : Nat) (f : Urbp → Urbp) (d : Device.State) :
    (Device.writeUrbp n f d).tickets = d.tickets := by
  show (d.urbQueue.map _).map _ = _
  rw [List.map_map]
  refine List.map_congr_left fun p _ => ?_
  simp only [Function.comp_apply]
  split <;> rfl

/-- Returning a URB takes it off the queue. -/
lemma returned_of_returnUrb {n : Nat} {total : Int} (htickets : d'.tickets = d.tickets)
    (h : Device.returnUrb allocOk n total d' = some t) : Returned d t := by
  obtain ⟨p, hf, hp, hqueue, -, -, -, -, -, -, -, -, -, -, -, -, -, hpc⟩ := Device.returnUrb_cases h
  have hlen : t.urbQueue.length + 1 = d'.urbQueue.length := by
    have hmem := List.mem_of_find?_eq_some hf
    have hpos := List.length_pos_of_mem hmem
    rw [hqueue, List.length_eraseP_of_mem hmem (by simpa using hp)]
    omega
  refine ⟨?_, ?_, _, _, hpc⟩
  · rw [← htickets, Device.State.tickets, hqueue]
    exact List.eraseP_sublist.map _
  · rw [← htickets, Device.State.tickets, Device.State.tickets, List.length_map, List.length_map,
      hlen]

/-- Where an iteration leads: the URB ends, the loop goes on to the next one, or `v_timer` begins to
work on it. -/
inductive Visited (n : Nat) (total : Int) (d t : Device.State) : Device.Next → Prop
  | returned : Returned d t → Visited n total d t .returnUrb
  | skipped : t.tickets = d.tickets → t.timer = .visit (Device.nextUrbp n d.urbQueue) total →
      Visited n total d t .skip
  | setup : t.tickets = d.tickets → t.timer = .setup n (Device.nextUrbp n d.urbQueue) total →
      Visited n total d t .setup
  | transfer : t.tickets = d.tickets → t.timer = .transfer n (Device.nextUrbp n d.urbQueue) total →
      Visited n total d t .transfer

/-- A visit to a URB, in the device. -/
lemma visit_device {n : Nat} {total ret : Int} {w : Progress} (hpc : d.timer = .visit (some n) total)
    (h : Device.stepTimer d (.visit allocOk ret w) = some t) :
    ∃ p, d.urbQueue.find? (fun p => p.ticket = n) = some p ∧
      Visited n total d t
        (Device.visitUrbp (d.trState = .running) total ret w d.ep p.toUrbp).2.2 := by
  simp only [Device.stepTimer, hpc] at h
  unfold Device.vTimerVisit at h
  cases hf : d.urbQueue.find? (fun p => p.ticket = n) with
  | none => simp [hf] at h
  | some p =>
      refine ⟨p, rfl, ?_⟩
      rw [hf] at h
      dsimp only at h
      generalize Device.visitUrbp _ total ret w d.ep p.toUrbp = v at h ⊢
      obtain ⟨ep, q, goto⟩ := v
      dsimp only at h ⊢
      have htickets : (Device.writeUrbp n (fun _ => q) { d with ep }).tickets = d.tickets :=
        tickets_writeUrbp n _ { d with ep }
      cases goto with
      | skip =>
          cases h
          exact .skipped htickets rfl
      | setup =>
          cases h
          exact .setup htickets rfl
      | transfer =>
          cases h
          exact .transfer htickets rfl
      | returnUrb => exact .returned (returned_of_returnUrb htickets h)

/-- A visit at the end of the queue ends the run. -/
lemma visit_end {total ret : Int} {w : Progress} (hpc : d.timer = .visit none total)
    (h : Device.stepTimer d (.visit allocOk ret w) = some t) :
    t.tickets = d.tickets ∧ t.timer = .idle := by
  simp only [Device.stepTimer, hpc] at h
  cases h
  unfold Device.vTimerEnd
  split <;> exact ⟨rfl, rfl⟩

/-! ### The endpoints -/

/-- `f` is a part of endpoint `j` that `v_timer` does not write: it writes its own two flags, and
the halt of the control endpoint. -/
structure Unwritten {β : Type} (f : Vep → β) (j : Nat) : Prop where
  flags : ∀ e alreadySeen setupStage, f { e with alreadySeen, setupStage } = f e
  halted : j = 0 → ∀ e halted, f { e with halted } = f e

section Endpoints

variable {β : Type} {f : Vep → β} {j : Nat}

/-- A field that is not written is left by an update. -/
lemma Unwritten.update (hf : Unwritten f j) {ep : Nat → Vep} {i : Nat} {e : Vep}
    (he : i = j → f e = f (ep j)) : f (Function.update ep i e j) = f (ep j) := by
  by_cases hij : i = j
  · subst hij
    rw [Function.update_self, he rfl]
  · rw [Function.update_of_ne (Ne.symm hij)]

/-- A visit leaves a field that is not written. -/
lemma Unwritten.visitUrbp (hf : Unwritten f j) (running : Bool) (total ret : Int) (w : Progress)
    (ep : Nat → Vep) (p : Urbp) :
    f ((Device.visitUrbp running total ret w ep p).1 j) = f (ep j) := by
  unfold Device.visitUrbp
  split
  · rfl
  split
  · rfl
  split
  · rfl
  rename_i i _
  dsimp only
  split
  · rfl
  split
  · rfl
  -- the endpoint with the flags that `v_timer` sets when it comes to it
  have hseen : ∀ e, e = (if i = 0 ∧ p.new = true then
      { ep i with alreadySeen := true, setupStage := true } else
      { ep i with alreadySeen := true } : Vep) → f e = f (ep i) := by
    rintro e rfl
    split <;> exact hf.flags (ep i) _ _
  generalize (if i = 0 ∧ p.new = true then _ else _ : Vep) = e at hseen ⊢
  generalize (if i = 0 ∧ p.new = true then _ else p : Urbp) = q
  have he : f e = f (ep i) := hseen e rfl
  have hupdate : f (Function.update ep i e j) = f (ep j) := hf.update fun hij => hij ▸ he
  split
  · exact hupdate
  split
  · rename_i hsetup
    have hclear : f (Function.update ep i { e with setupStage := false, halted := false } j) =
        f (ep j) := by
      refine hf.update fun hij => ?_
      have hj : j = 0 := hij.symm.trans hsetup.1
      exact ((hf.halted hj { e with setupStage := false } false).trans
        (hf.flags e e.alreadySeen false)).trans (hij ▸ he)
    split
    · exact hclear
    split <;> exact hclear
  · split <;> exact hupdate

/-- A return leaves a field that is not written. -/
lemma Unwritten.returnUrb (hf : Unwritten f j) {n : Nat} {total : Int}
    (h : Device.returnUrb allocOk n total d = some t) : f (t.ep j) = f (d.ep j) := by
  have hforget : ∀ (i : Option Nat) (d : Device.State),
      f ((Device.forgetEp i d).ep j) = f (d.ep j) := by
    intro i d
    cases i with
    | none => rfl
    | some i => exact hf.update fun hij => hij ▸ hf.flags (d.ep i) false false
  have hreply : ∀ (p : Device.Allocated) (d : Device.State),
      (Device.queueReply allocOk p d).ep = d.ep := by
    intro p d
    unfold Device.queueReply Device.vEnqueueRetSubmit Device.vEnqueueRetUnlink
    split_ifs <;> rfl
  unfold Device.returnUrb at h
  split at h <;> cases h
  show f ((Device.queueReply allocOk _ _).ep j) = _
  rw [hreply, hforget]

/-- No step of `v_timer` changes it. -/
lemma Unwritten.stepTimer (hf : Unwritten f j) {a : Device.TimerAction}
    (h : Device.stepTimer d a = some t) : f (t.ep j) = f (d.ep j) := by
  cases a with
  | start now =>
      simp only [Device.stepTimer] at h
      split at h
      · split at h <;> cases h
        unfold Device.vTimerStart
        dsimp only
        split
        · rfl
        · exact hf.flags (d.ep j) false _
      · cases h
  | visit allocOk ret w =>
      simp only [Device.stepTimer] at h
      split at h
      · cases h
        unfold Device.vTimerEnd
        split <;> rfl
      · rename_i n total hpc
        unfold Device.vTimerVisit at h
        split at h
        · cases h
        · rename_i p _
          dsimp only at h
          have hvisit := hf.visitUrbp (d.trState = .running) total ret w d.ep p.toUrbp
          generalize Device.visitUrbp _ total ret w d.ep p.toUrbp = v at h hvisit
          obtain ⟨ep, q, goto⟩ := v
          dsimp only at h hvisit
          cases goto with
          | skip | setup | transfer =>
              cases h
              exact hvisit
          | returnUrb => exact (hf.returnUrb h).trans hvisit
      · cases h
  | setup allocOk ret =>
      simp only [Device.stepTimer] at h
      split at h
      · split at h
        · cases h
        split at h
        · cases h
          rfl
        · exact (hf.returnUrb h).trans rfl
      · cases h
  | giveback w =>
      simp only [Device.stepTimer] at h
      split at h <;> cases h
      rfl
  | resume =>
      simp only [Device.stepTimer] at h
      split at h
      · split at h <;> cases h
        rfl
      · cases h
  | transferred allocOk sent w =>
      simp only [Device.stepTimer] at h
      split at h
      · split at h
        · cases h
          rfl
        · exact (hf.returnUrb h).trans rfl
      · cases h

end Endpoints

/-! ## The functions -/

section Functions

variable {s t : State}

/-- `nuke` gives the first request back. -/
lemma nukeFirst_cases {i : Nat} (h : nukeFirst i s = some t) :
    ∃ r rest, s.queue i = r :: rest ∧ t = { s with
      queue := Function.update s.queue i rest, given := s.given ++ [(i, r, -ESHUTDOWN)] } := by
  unfold nukeFirst at h
  split at h <;> cases h
  exact ⟨_, _, by assumption, rfl⟩

/-- What a disable under way does. -/
lemma disableNuke_cases (i : Nat) (s : State) :
    disableNuke i s = { s with disabling := s.disabling.erase i } ∨
      ∃ r rest, s.queue i = r :: rest ∧ disableNuke i s = { s with
        queue := Function.update s.queue i rest, given := s.given ++ [(i, r, -ESHUTDOWN)] } := by
  unfold disableNuke
  cases h : nukeFirst i s with
  | none => exact Or.inl rfl
  | some t =>
      obtain ⟨r, rest, hqueue, rfl⟩ := nukeFirst_cases h
      exact Or.inr ⟨r, rest, hqueue, rfl⟩

/-- What `vep_disable` does. -/
lemma vepDisable_cases (i : Nat) (s : State) :
    (∃ desc disabling, (desc = s.desc ∨ ∃ j, Action.disable i = .disable j ∧
        desc = Function.update s.desc j none) ∧ vepDisable i s = { s with desc, disabling }) ∨
      ∃ desc disabling r rest, (desc = s.desc ∨ ∃ j, Action.disable i = .disable j ∧
        desc = Function.update s.desc j none) ∧ s.queue i = r :: rest ∧
          vepDisable i s = { s with
            desc, disabling
            queue := Function.update s.queue i rest
            given := s.given ++ [(i, r, -ESHUTDOWN)] } := by
  unfold vepDisable
  split
  · exact Or.inl ⟨_, _, Or.inl rfl, rfl⟩
  rcases disableNuke_cases i
    { s with desc := Function.update s.desc i none, disabling := i :: s.disabling } with
    h | ⟨r, rest, hqueue, h⟩
  · exact Or.inl ⟨_, _, Or.inr ⟨i, rfl, rfl⟩, h⟩
  · exact Or.inr ⟨_, _, r, rest, Or.inr ⟨i, rfl, rfl⟩, hqueue, h⟩

/-- What `vep_enable` does. -/
lemma vepEnable_cases (i : Nat) (type : XferType) (maxp : {n : Nat // 0 < n}) (toHost : Bool)
    (s : State) : vepEnable i type maxp toHost s = s ∨ enables i s = true ∧
      vepEnable i type maxp toHost s = { s with
        dev := setEp i (fun e => { e with type, halted := false }) s.dev
        maxpacket := Function.update s.maxpacket i maxp
        desc := Function.update s.desc i (some toHost) } := by
  unfold vepEnable
  split
  · exact Or.inr ⟨by assumption, rfl⟩
  · exact Or.inl rfl

/-- `vep_set_halt_and_wedge` changes no more than `halted`. -/
lemma vepSetHaltAndWedge_cases (i : Nat) (value : Bool) (s : State) :
    vepSetHaltAndWedge i value s = s ∨ ∃ halted, (halted = true → value = true) ∧
      vepSetHaltAndWedge i value s = { s with dev := setHalted i halted s.dev } := by
  unfold vepSetHaltAndWedge
  split
  · exact Or.inl rfl
  split
  · exact Or.inr ⟨false, fun h => (by cases h), rfl⟩
  split
  · exact Or.inl rfl
  · rename_i hvalue _
    exact Or.inr ⟨true, fun _ => by simpa using hvalue, rfl⟩

/-- What a submit does. -/
lemma cmdSubmit_cases {n : Seqnum} {i : Nat} {toHost : Bool} {data : List Byte} {zeroPacket : Bool}
    (h : cmdSubmit n i toHost data zeroPacket s = some t) :
    ∃ d, Device.stepRx s.dev (.cmdSubmit n i (BitVec.ofNat 32 data.length)) = some d ∧
      ((finds i toHost s = true ∧ t = { s with
          dev := d
          urb := Function.update s.urb s.dev.allocs
            ⟨toHost, data, 0, zeroPacket, -EINPROGRESS, Nat.zero_le _⟩
          epOf := Function.update s.epOf s.dev.allocs i }) ∨
        ∃ d', Device.stepRx d (.submitFail true) = some d' ∧ t = { s with dev := d' }) := by
  obtain ⟨d, hd, h⟩ := Option.bind_eq_some_iff.mp h
  refine ⟨d, hd, ?_⟩
  split at h
  · rename_i hfinds
    cases h
    exact Or.inl ⟨hfinds, rfl⟩
  · obtain ⟨d', hd', rfl⟩ := Option.map_eq_some_iff.mp h
    exact Or.inr ⟨d', hd', rfl⟩

/-- A pass exchanges data between the URB and the first request, which then stays or is given
back. -/
lemma pass_cases (h : pass s = some t) :
    ∃ n next total r rest, s.dev.timer = .transfer n next total ∧ s.ended = false ∧
      s.queue (s.epOf n) = r :: rest ∧
      ∃ e, e = (batch (s.maxpacket (s.epOf n)) (s.urb n) r).1 ∧
        ∃ dev queue given, t = { s with
          dev, queue := Function.update s.queue (s.epOf n) queue, given
          urb := Function.update s.urb n e.urb
          sent := s.sent + e.len
          ended := e.urb.status ≠ -EINPROGRESS
          moved := if (s.dev.ep (s.epOf n)).type = .bulk then s.moved + e.len else s.moved } ∧
        (e.reqStatus = -EINPROGRESS ∧ dev = s.dev ∧ queue = e.req :: rest ∧ given = s.given ∨
          e.reqStatus ≠ -EINPROGRESS ∧
            Device.stepTimer s.dev (.giveback (progress e.urb)) = some dev ∧
            queue = rest ∧ given = s.given ++ [(s.epOf n, e.req, e.reqStatus)]) := by
  unfold pass at h
  split at h
  · rename_i n next total hpc
    dsimp only at h
    split at h
    · rename_i r rest hended hqueue
      refine ⟨n, next, total, r, rest, hpc, hended, hqueue, _, rfl, ?_⟩
      unfold afterPass at h
      split at h
      · rename_i hreq
        cases h
        exact ⟨_, _, _, rfl, Or.inl ⟨hreq, rfl, rfl, rfl⟩⟩
      · rename_i hreq
        obtain ⟨d, hd, rfl⟩ := Option.map_eq_some_iff.mp h
        dsimp only at hd
        rw [Function.update_self] at hd
        exact ⟨_, _, _, rfl, Or.inr ⟨hreq, hd, rfl, rfl⟩⟩
    · cases h
  · cases h

/-- What the end of a transfer does. -/
lemma transferred_cases {allocOk : Bool} (h : transferred allocOk s = some t) :
    ∃ n next total d, s.dev.timer = .transfer n next total ∧
      (s.ended = true ∨ s.queue (s.epOf n) = []) ∧
      Device.stepTimer s.dev (.transferred allocOk s.sent (progress (s.urb n))) = some d ∧
      t = record d s := by
  unfold transferred at h
  split at h
  · rename_i n next total hpc
    split at h
    · rename_i hdone
      obtain ⟨d, hd, rfl⟩ := Option.map_eq_some_iff.mp h
      exact ⟨n, next, total, d, hpc, hdone, hd, rfl⟩
    · cases h
  · cases h

/-- An iteration of `v_timer` moves the device, and changes no other URB than a control one. -/
lemma visit_cases {allocOk : Bool} {ret : Int} {c : Control} (h : visit allocOk ret c s = some t) :
    ∃ w d, Device.stepTimer s.dev (.visit allocOk ret w) = some d ∧
      (t = record d s ∧ (∀ n total, s.dev.timer ≠ .visit (some n) total) ∨
        ∃ n total p, s.dev.timer = .visit (some n) total ∧
          s.dev.urbQueue.find? (fun p => p.ticket = n) = some p ∧
          ((handlesControl s.dev total p.toUrbp = false ∧
              t = { record d s with sent := 0, ended := false }) ∨
            handlesControl s.dev total p.toUrbp = true ∧
              c.urb.transferBuffer.length = (s.urb n).transferBuffer.length ∧
              t = { record d s with
                dev := c.setHalted d
                urb := Function.update s.urb n c.urb
                sent := 0
                ended := false })) := by
  unfold visit at h
  split at h
  · rename_i n total hpc
    split at h
    · cases h
    rename_i p hf
    split at h
    · rename_i hctl
      split at h
      · rename_i hlen
        obtain ⟨d, hd, rfl⟩ := Option.map_eq_some_iff.mp h
        exact ⟨_, d, hd, Or.inr ⟨n, total, p, hpc, hf, Or.inr ⟨hctl, hlen, rfl⟩⟩⟩
      · cases h
    · rename_i hctl
      obtain ⟨d, hd, rfl⟩ := Option.map_eq_some_iff.mp h
      exact ⟨_, d, hd, Or.inr ⟨n, total, p, hpc, hf, Or.inl ⟨by simpa using hctl, rfl⟩⟩⟩
  · rename_i hpc
    obtain ⟨d, hd, rfl⟩ := Option.map_eq_some_iff.mp h
    exact ⟨_, d, hd, Or.inl ⟨rfl, fun n total hn => hpc n total hn⟩⟩

end Functions

/-! ## The steps outside `v_timer` -/

/-- The endpoint whose requests a step takes off its queue, other than a pass of `transfer`. -/
def Action.takesFrom : Action → Option Nat
  | .disable i | .disableNuke i | .dequeue i _ | .nuke i => some i
  | _ => none

/-- The steps of `v_timer`. -/
def Action.timer : Action → Bool
  | .start _ | .visit _ _ _ | .setup _ _ | .pass | .resume | .transferred _ => true
  | _ => false

variable {s t' : State} {a : Action}

/-- A step leaves the requests on their queues, queues one, or gives one back: the first of an
endpoint, unless it is dequeued. -/
inductive Served (a : Action) (s t : State) : Prop
  | keeps : t.queue = s.queue → t.queued = s.queued → t.given = s.given → Served a s t
  | queues (i : Nat) (r : VRequest) : a = .queue i r.id r.buf r.zero → r.actual = 0 →
      t.queue = Function.update s.queue i (s.queue i ++ [r]) → t.queued = s.queued ++ [(i, r)] →
      t.given = s.given → Served a s t
  | gives (i : Nat) (q₁ q₂ : List VRequest) (r : VRequest) (status : BitVec 32) :
      a.takesFrom = some i → s.queue i = q₁ ++ r :: q₂ →
      (status = -ECONNRESET ∨ status = -ESHUTDOWN ∧ q₁ = []) →
      t.queue = Function.update s.queue i (q₁ ++ q₂) → t.queued = s.queued →
      t.given = s.given ++ [(i, r, status)] → Served a s t

/-- The receiving thread has no new `urbp` in hand. -/
def NoSubmit (d t : Device.State) : Prop :=
  ∀ p, t.rx = .submit p → d.rx = .submit p

/-- A receive thread that stays brings no submit. -/
lemma noSubmit_of_rx (h : t.rx = d.rx) : NoSubmit d t :=
  fun _ hp => h.symm.trans hp

/-- Only `v_recv_cmd_submit` brings a submit. -/
lemma noSubmit_stepRx {a : Device.RxAction} (ha : ∀ n i len, a ≠ .cmdSubmit n i len)
    (h : Device.stepRx d a = some t) : NoSubmit d t := by
  intro p hp
  cases a with
  | top =>
      simp only [Device.stepRx] at h
      split at h <;> cases h
      dsimp only at hp
      split at hp <;> cases hp
  | fail | submitFail =>
      simp only [Device.stepRx] at h
      split at h <;> cases h
      cases hp
  | cmdSubmit n i len => exact absurd rfl (ha n i len)
  | queue | cmdUnlink =>
      simp only [Device.stepRx] at h
      split at h
      · split at h <;> cases h
        cases hp
      · cases h

/-- The transmit thread leaves the receive thread. -/
lemma rx_stepTx {a : Device.TxAction} (h : Device.stepTx d a = some t) : t.rx = d.rx := by
  cases a with
  | top =>
      simp only [Device.stepTx] at h
      split at h <;> cases h
      rfl
  | send =>
      simp only [Device.stepTx] at h
      split at h
      · split at h <;> cases h <;> rfl
      · split at h <;> cases h <;> rfl
      · cases h

/-- The handler leaves the receive thread. -/
lemma rx_stepEh {a : Device.EhAction} (h : Device.stepEh d a = some t) : t.rx = d.rx := by
  cases a with
  | shutdown | reset | unusable | nuke | available =>
      simp only [Device.stepEh] at h
      split at h <;> cases h
      rfl
  | stopped =>
      simp only [Device.stepEh] at h
      split at h
      · split at h <;> cases h
        rfl
      · split at h <;> cases h
        rfl
      · cases h
  | lock =>
      simp only [Device.stepEh] at h
      split at h
      · split at h <;> cases h
        rfl
      · split at h <;> cases h
        rfl
      · cases h
  | stopActivity =>
      simp only [Device.stepEh] at h
      split at h <;> cases h <;> rfl

/-- A store brings no submit. -/
lemma noSubmit_connect {now : Int} (h : Device.step d (.connect now) = some t) : NoSubmit d t := by
  intro p hp
  simp only [Device.step] at h
  split at h <;> cases h
  cases hp

/-- What a step outside `v_timer` changes. -/
inductive Quiet (a : Action) (s : State) : State → Prop
  /-- The other threads, and the gadget as a whole. -/
  | device (d : Device.State) (moved : Nat) (frameSpeed : Speed)
      (maxpacket : Nat → {n : Nat // 0 < n}) (driver : Bool) : Other s.dev d → NoSubmit s.dev d →
      (moved = s.moved ∧ frameSpeed = s.frameSpeed ∨ moved = 0) →
      Quiet a s { s with dev := d, moved, frameSpeed, maxpacket, driver }
  /-- A new `urbp`. -/
  | submit (d : Device.State) (n : Seqnum) (i : Nat) (toHost : Bool) (data : List Byte)
      (zeroPacket : Bool) : a = .cmdSubmit n i toHost data zeroPacket →
      Device.stepRx s.dev (.cmdSubmit n i (BitVec.ofNat 32 data.length)) = some d →
      finds i toHost s = true → Quiet a s { s with
        dev := d
        urb := Function.update s.urb s.dev.allocs
          ⟨toHost, data, 0, zeroPacket, -EINPROGRESS, Nat.zero_le _⟩
        epOf := Function.update s.epOf s.dev.allocs i }
  /-- `vep_enable` and `vep_set_halt_and_wedge`. -/
  | endpoint (i : Nat) (f : Vep → Vep) (maxpacket : Nat → {n : Nat // 0 < n})
      (desc : Nat → Option Bool) : s.dev.timer.unlocked = true →
      (f (s.dev.ep i)).alreadySeen = (s.dev.ep i).alreadySeen →
      ((f (s.dev.ep i)).halted = true → a = .setHalt i true) →
      ((f (s.dev.ep i)).type = (s.dev.ep i).type ∧ desc = s.desc ∨ ∃ maxp toHost,
        a = .enable i (f (s.dev.ep i)).type maxp toHost ∧ enables i s = true ∧
          desc = Function.update s.desc i (some toHost)) →
      Quiet a s { s with dev := setEp i f s.dev, maxpacket, desc }
  /-- The queues of requests. -/
  | requests (d : Device.State) (queue : Nat → List VRequest) (desc : Nat → Option Bool)
      (disabling : List Nat) (udc : Nat → Bool) (requests : Nat) (oops : Bool)
      (queued : List (Nat × VRequest)) (given : List (Nat × VRequest × BitVec 32))
      (dequeued : List (Nat × Nat × Int)) : Other s.dev d → NoSubmit s.dev d →
      (desc = s.desc ∨ ∃ i, a = .disable i ∧ desc = Function.update s.desc i none) →
      (udc = s.udc ∨ udc = Function.update s.udc s.requests false) →
      Served a s { s with
        dev := d, queue, desc, disabling, udc, requests, oops, queued, given, dequeued } →
      Quiet a s { s with
        dev := d, queue, desc, disabling, udc, requests, oops, queued, given, dequeued }

/-- Nothing changed is a step besides the timer's. -/
lemma Other.refl (d : Device.State) : Other d d :=
  ⟨rfl, rfl, rfl, id, Or.inl rfl, .same rfl rfl (Or.inl rfl) le_rfl⟩

/-- A step of the device besides the timer's is quiet. -/
lemma quiet_device {d : Device.State} (h : Other s.dev d) (hrx : NoSubmit s.dev d) :
    Quiet a s { s with dev := d } :=
  .device d _ _ _ _ h hrx (Or.inl ⟨rfl, rfl⟩)

/-- Nothing changed is quiet. -/
lemma quiet_same : Quiet a s s :=
  quiet_device (.refl s.dev) (noSubmit_of_rx rfl)

/-- A disable is quiet. -/
lemma quiet_vepDisable (i : Nat) (s : State) : Quiet (.disable i) s (vepDisable i s) := by
  rcases vepDisable_cases i s with ⟨desc, disabling, hdesc, heq⟩ |
    ⟨desc, disabling, r, rest, hdesc, hqueue, heq⟩
  · rw [heq]
    exact .requests s.dev _ desc disabling _ _ _ _ _ _ (.refl _) (noSubmit_of_rx rfl) hdesc (Or.inl rfl)
      (.keeps rfl rfl rfl)
  · rw [heq]
    exact .requests s.dev _ desc disabling _ _ _ _ _ _ (.refl _) (noSubmit_of_rx rfl) hdesc (Or.inl rfl)
      (.gives i [] rest r (-ESHUTDOWN) rfl hqueue (Or.inr ⟨rfl, rfl⟩) rfl rfl rfl)

/-- A disable under way is quiet. -/
lemma quiet_disableNuke (i : Nat) (s : State) : Quiet (.disableNuke i) s (disableNuke i s) := by
  rcases disableNuke_cases i s with heq | ⟨r, rest, hqueue, heq⟩
  · rw [heq]
    exact .requests s.dev _ _ _ _ _ _ _ _ _ (.refl _) (noSubmit_of_rx rfl) (Or.inl rfl) (Or.inl rfl)
      (.keeps rfl rfl rfl)
  · rw [heq]
    exact .requests s.dev _ _ _ _ _ _ _ _ _ (.refl _) (noSubmit_of_rx rfl) (Or.inl rfl) (Or.inl rfl)
      (.gives i [] rest r (-ESHUTDOWN) rfl hqueue (Or.inr ⟨rfl, rfl⟩) rfl rfl rfl)

/-- A dequeue is quiet. -/
lemma quiet_vepDequeue (i id : Nat) (s : State) :
    Quiet (.dequeue i id) s (vepDequeue i id s) := by
  unfold vepDequeue
  split
  · exact .requests s.dev _ _ _ _ _ _ _ _ _ (.refl _) (noSubmit_of_rx rfl) (Or.inl rfl) (Or.inl rfl)
      (.keeps rfl rfl rfl)
  split
  · exact .requests s.dev _ _ _ _ _ _ _ _ _ (.refl _) (noSubmit_of_rx rfl) (Or.inl rfl) (Or.inl rfl)
      (.keeps rfl rfl rfl)
  split
  · rename_i r hfind
    obtain ⟨hr, q₁, q₂, hq, hq₁⟩ := List.find?_eq_some_iff_append.mp hfind
    refine .requests s.dev _ _ _ _ _ _ _ _ _ (.refl _) (noSubmit_of_rx rfl) (Or.inl rfl) (Or.inl rfl)
      (.gives i q₁ q₂ r (-ECONNRESET) rfl hq (Or.inl rfl) ?_ rfl rfl)
    show Function.update s.queue i ((s.queue i).eraseP _) = _
    have herase : (r :: q₂).eraseP (fun r => r.id = id) = q₂ := List.eraseP_cons_of_pos hr
    rw [hq, List.eraseP_append_right _ (by simpa using hq₁), herase]
  · exact .requests s.dev _ _ _ _ _ _ _ _ _ (.refl _) (noSubmit_of_rx rfl) (Or.inl rfl) (Or.inl rfl)
      (.keeps rfl rfl rfl)

/-- A submit is quiet. -/
lemma quiet_cmdSubmit {n : Seqnum} {i : Nat} {toHost : Bool} {data : List Byte} {zeroPacket : Bool}
    (h : cmdSubmit n i toHost data zeroPacket s = some t') :
    Quiet (.cmdSubmit n i toHost data zeroPacket) s t' := by
  obtain ⟨d, hd, ⟨hfinds, rfl⟩ | ⟨d', hd', rfl⟩⟩ := cmdSubmit_cases h
  · exact .submit d n i toHost data zeroPacket rfl hd hfinds
  · simp only [Device.stepRx] at hd
    split at hd <;> cases hd
    cases hd'
    exact quiet_device ⟨rfl, rfl, rfl, id, Or.inl rfl, .same rfl rfl (Or.inr rfl) (Nat.le_succ _)⟩
      fun p hp => (by cases hp)

/-- Every step outside `v_timer`. -/
theorem quiet_step (ha : a.timer = false) (h : step s a = some t') : Quiet a s t' := by
  cases a with
  | start | visit | setup | pass | resume | transferred => cases ha
  | eventAdd =>
      cases h
      exact quiet_device ⟨rfl, rfl, rfl, id, Or.inl rfl, .same rfl rfl (Or.inl rfl) le_rfl⟩
        (noSubmit_of_rx rfl)
  | connect now =>
      obtain ⟨d, hd, rfl⟩ := Option.map_eq_some_iff.mp h
      refine .device d _ _ _ _ (other_connect hd) (noSubmit_connect hd) ?_
      split
      · exact Or.inr rfl
      · exact Or.inl ⟨rfl, rfl⟩
  | bind driver =>
      simp only [step] at h
      split at h <;> cases h
      exact .device s.dev _ _ _ _ (.refl _) (noSubmit_of_rx rfl) (Or.inl ⟨rfl, rfl⟩)
  | pullup speed =>
      simp only [step] at h
      split at h <;> cases h
      exact .device _ _ _ _ _ ⟨rfl, rfl, rfl, id, Or.inl rfl, .same rfl rfl (Or.inl rfl) le_rfl⟩
        (noSubmit_of_rx rfl) (Or.inl ⟨rfl, rfl⟩)
  | enable i type maxp toHost =>
      simp only [step] at h
      split at h <;> cases h
      rename_i hfree
      rcases vepEnable_cases i type maxp toHost s with heq | ⟨henables, heq⟩
      · rw [heq]
        exact quiet_same
      · rw [heq]
        exact .endpoint i (fun e => { e with type, halted := false }) _ _
          (Bool.and_eq_true_iff.mp hfree).1 rfl (fun h => (by cases h))
          (Or.inr ⟨maxp, toHost, rfl, henables, rfl⟩)
  | disable i =>
      simp only [step] at h
      split at h <;> cases h
      exact quiet_vepDisable i s
  | disableNuke i =>
      simp only [step] at h
      split at h <;> cases h
      exact quiet_disableNuke i s
  | setHalt i value =>
      simp only [step] at h
      split at h <;> cases h
      rename_i hfree
      rcases vepSetHaltAndWedge_cases i value s with heq | ⟨halted, hvalue, heq⟩
      · rw [heq]
        exact quiet_same
      · rw [heq]
        refine .endpoint i (fun e => { e with halted }) _ _
          (Bool.and_eq_true_iff.mp hfree).1 rfl ?_ (Or.inl ⟨rfl, rfl⟩)
        intro hhalted
        obtain rfl : halted = true := hhalted
        rw [hvalue rfl]
  | allocRequest =>
      cases h
      exact .requests s.dev _ _ _ _ _ _ _ _ _ (.refl _) (noSubmit_of_rx rfl) (Or.inl rfl) (Or.inr rfl)
        (.keeps rfl rfl rfl)
  | queue i id buf zero =>
      simp only [step] at h
      split at h <;> cases h
      exact .requests s.dev _ _ _ _ _ _ _ _ _ (.refl _) (noSubmit_of_rx rfl) (Or.inl rfl) (Or.inl rfl)
        (.queues i ⟨id, buf, 0, zero, Nat.zero_le _⟩ rfl rfl rfl rfl rfl)
  | dequeue i id =>
      simp only [step] at h
      split at h <;> cases h
      exact quiet_vepDequeue i id s
  | cmdSubmit n i toHost data zeroPacket =>
      simp only [step] at h
      split at h
      · exact quiet_cmdSubmit h
      · cases h
  | rx a =>
      cases a with
      | cmdSubmit => cases h
      | top | fail | cmdUnlink | queue | submitFail =>
          obtain ⟨d, hd, rfl⟩ := Option.map_eq_some_iff.mp h
          exact quiet_device (other_stepRx hd) (noSubmit_stepRx (fun _ _ _ h => (by cases h)) hd)
  | tx a =>
      obtain ⟨d, hd, rfl⟩ := Option.map_eq_some_iff.mp h
      exact quiet_device (other_stepTx hd) (noSubmit_of_rx (rx_stepTx hd))
  | nuke i =>
      obtain ⟨d, hd, h⟩ := Option.bind_eq_some_iff.mp h
      obtain ⟨r, rest, hqueue, rfl⟩ := nukeFirst_cases h
      exact .requests d _ _ _ _ _ _ _ _ _ (other_stepEh hd)
        (noSubmit_of_rx (rx_stepEh hd)) (Or.inl rfl) (Or.inl rfl)
        (.gives i [] rest r (-ESHUTDOWN) rfl hqueue (Or.inr ⟨rfl, rfl⟩) rfl rfl rfl)
  | eh a =>
      cases a with
      | nuke => cases h
      | shutdown | stopped | reset | unusable | lock | stopActivity | available =>
          obtain ⟨d, hd, rfl⟩ := Option.map_eq_some_iff.mp h
          exact quiet_device (other_stepEh hd) (noSubmit_of_rx (rx_stepEh hd))

end Usbip.Vudc.Flow
