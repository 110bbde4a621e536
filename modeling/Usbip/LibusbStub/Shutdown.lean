import Usbip.LibusbStub.Events

/-!
# What a session of the libusb stub does to its device

The event thread goes round its loop as often as it is woken up, and any thread may add an event at
any time, also while another one is handled.  Yet the device is shut down once: every event asks for
a shutdown, so that the first pass that finds one is told to be the last.  And nothing else ends a
session: a thread that has returned has found an event, or was stopped because of one
(`ends_once`).
-/

namespace Usbip.LibusbStub.Events

open Usbip.Core Usbip.Event

variable {s t : State} {a : Action} {ops : List EhOp}

/-! ## The operations -/

/-- The operation that a step begins. -/
def State.begins (s : State) : Action → Option EhOp
  | .eh =>
      match s.eh with
      | .at event op => if Asks event op then some op else none
      | _ => none
  | _ => none

/-- The machine with the operations that have begun. -/
def recorded : Machine (State × List EhOp) Action :=
  machine.withHistory [] fun s a _ ops => ops ++ (s.begins a).toList

/-- The operations that may have begun when the event thread is here. -/
def EhPc.upTo : EhPc → List EhOp
  | .at _ .reset | .stopThreads _ | .stopEh _ | .wakeUp _ | .running _ .shutdown => [.shutdown]
  | .running _ .reset | .at _ .unusable => [.shutdown, .reset]
  | .test | .lock | .get | .at _ .shutdown | .running _ .unusable | .bye _ | .returned =>
      [.shutdown, .reset, .unusable]

/-- In `stub_shutdown`, before `ud->eh_should_stop = 1`. -/
def EhPc.Stopping (pc : EhPc) : Prop := ∃ event, pc = .stopThreads event ∨ pc = .stopEh event

/-- What has happened when the threads are where they are. -/
structure Recorded (s : State) (ops : List EhOp) : Prop where
  /-- Every event asks for a shutdown. -/
  quiet : s.event ≠ 0#64 → Asks s.event .shutdown
  /-- The pass that handles one is the one that shuts down. -/
  pass : ∀ event ∈ s.eh.event, event ≠ 0#64 → s.eh.Shutting ∨ s.ehShouldStop = true
  /-- Nothing is told to stop without an event. -/
  event : s.event ≠ 0#64 → s.added = true
  shutting : s.eh.Shutting → s.added = true
  stop : s.shouldStop = true → s.added = true
  rx : s.rx = .returned → s.added = true
  tx : s.tx = .returned ∨ s.tx = .unlockSend → s.added = true
  idle : s.ehShouldStop = false → ¬ s.eh.Stopping → ops = []
  busy : s.ehShouldStop = true ∨ s.eh.Stopping → .shutdown ∈ ops ∧ ops.Sublist s.eh.upTo

/-- Nothing has begun at the start. -/
lemma recorded_start : Recorded {} [] where
  quiet h := absurd rfl h
  pass event h := by cases h
  event h := absurd rfl h
  shutting h := absurd h id
  stop h := by cases h
  rx h := by cases h
  tx h := by rcases h with h | h <;> cases h
  idle _ _ := rfl
  busy h := by
    rcases h with h | ⟨event, h | h⟩ <;> cases h

/-- The receive thread begins no operation. -/
lemma Recorded.stubRxLoop (h : Recorded s ops) (hst : stubRxLoop s = some t) : Recorded t ops := by
  unfold Events.stubRxLoop at hst
  cases hrx : s.rx with
  | test | happened =>
      rw [hrx] at hst
      obtain rfl := Option.some.inj hst
      refine { h with rx := fun hret => ?_ }
      have hstop := h.stop
      have hevent := h.event
      grind
  | pdu | unlock =>
      rw [hrx] at hst
      obtain rfl := Option.some.inj hst
      exact { h with rx := fun hret => by cases hret }
  | returned =>
      rw [hrx] at hst
      cases hst

/-- The transmit thread begins no operation. -/
lemma Recorded.stubTxLoop (h : Recorded s ops) (hst : stubTxLoop s = some t) : Recorded t ops := by
  unfold Events.stubTxLoop at hst
  cases htx : s.tx with
  | test | happened =>
      rw [htx] at hst
      obtain rfl := Option.some.inj hst
      refine { h with tx := fun hret => ?_ }
      have hstop := h.stop
      have hevent := h.event
      grind
  | poll | unlockPoll | send =>
      rw [htx] at hst
      obtain rfl := Option.some.inj hst
      exact { h with tx := fun hret => by rcases hret with hret | hret <;> cases hret }
  | unlockSend =>
      rw [htx] at hst
      obtain rfl := Option.some.inj hst
      exact { h with tx := fun _ => h.tx (Or.inr htx) }
  | returned =>
      rw [htx] at hst
      cases hst

/-- Adding an event begins no operation. -/
lemma Recorded.add (h : Recorded s ops) (e : SdevEvent) (rx : RxPc) (tx : TxPc) :
    Recorded { s.add e with rx := rx, tx := tx } ops where
  quiet _ := (asks_or _ _ _).mpr (Or.inr (asks_code e))
  pass := h.pass
  event _ := rfl
  shutting _ := rfl
  stop _ := rfl
  rx _ := rfl
  tx _ := rfl
  idle := h.idle
  busy := h.busy

/-- A step of the event thread that begins nothing, and neither starts nor ends a shutdown. -/
lemma Recorded.goOn (h : Recorded s ops) (pc : EhPc) (locked : Bool)
    (hevent : ∀ event ∈ pc.event, event ∈ s.eh.event)
    (hshut : pc.Shutting ↔ s.eh.Shutting)
    (hstopping : pc.Stopping ↔ s.eh.Stopping) (hupTo : s.eh.upTo.Sublist pc.upTo) :
    Recorded { s with eh := pc, locked := locked } ops where
  quiet := h.quiet
  pass event he hne := (h.pass event (hevent event he) hne).imp_left hshut.mpr
  event := h.event
  shutting he := h.shutting (hshut.mp he)
  stop := h.stop
  rx := h.rx
  tx := h.tx
  idle hs hn := h.idle hs (hstopping.not.mp hn)
  busy hb := (h.busy (hb.imp_right hstopping.mp)).imp_right fun hsub => hsub.trans hupTo

/-- Outside the two operations of a shutdown the thread is not stopping. -/
lemma EhPc.not_stopping {pc : EhPc} (hthreads : ∀ event, pc ≠ .stopThreads event)
    (heh : ∀ event, pc ≠ .stopEh event) : ¬ pc.Stopping := by
  rintro ⟨event, h | h⟩
  · exact hthreads event h
  · exact heh event h

/-- An event that asks for an operation is one. -/
lemma ne_zero_of_asks {event : BitVec 64} {op : EhOp} (h : Asks event op) : event ≠ 0#64 := by
  rintro rfl
  exact not_asks_zero op h

/-- The pass that asks for an operation other than the shutdown comes behind one. -/
lemma Recorded.beginOp (h : Recorded s ops) {event : BitVec 64} {op : EhOp}
    (heh : s.eh = .at event op) (hasks : Asks event op) (hop : op ≠ .shutdown)
    (hupTo : (s.eh.upTo ++ [op]).Sublist (EhPc.running event op).upTo) :
    Recorded { s with eh := .running event op } (ops ++ [op]) := by
  have hstop : s.ehShouldStop = true := by
    refine (h.pass event (by rw [heh]; rfl) (ne_zero_of_asks hasks)).resolve_left ?_
    rw [heh]
    cases op with
    | shutdown => exact absurd rfl hop
    | reset | unusable => exact id
  obtain ⟨hmem, hsub⟩ := h.busy (Or.inl hstop)
  exact
    { quiet := h.quiet
      pass := fun _ _ _ => Or.inr hstop
      event := h.event
      shutting := fun he => absurd he id
      stop := h.stop
      rx := h.rx
      tx := h.tx
      idle := fun hs _ => by rw [hstop] at hs; cases hs
      busy := fun _ => ⟨List.mem_append_left _ hmem, (hsub.append_right _).trans hupTo⟩ }

/-- Early in its loop the event thread has not been told to stop. -/
lemma Inv.not_stop_of_early (hi : Inv s) (he : s.eh.early = true) : ¬ s.ehShouldStop = true := by
  rw [hi.early he]
  exact Bool.false_ne_true

/-- A pass that fetches the events has begun nothing. -/
lemma Recorded.getEvent (hi : Inv s) (h : Recorded s ops) (heh : s.eh = .get) :
    Recorded { s with event := 0#64, eh := .at s.event .shutdown } ops where
  quiet hne := absurd rfl hne
  pass event he hne := by
    obtain rfl := Option.some.inj he
    exact Or.inl (h.quiet hne)
  event hne := absurd rfl hne
  shutting hasks := h.event (ne_zero_of_asks hasks)
  stop := h.stop
  rx := h.rx
  tx := h.tx
  idle _ _ :=
    h.idle (hi.early (by rw [heh]; rfl)) (EhPc.not_stopping (by simp [heh]) (by simp [heh]))
  busy hb := absurd hb (not_or.mpr
    ⟨hi.not_stop_of_early (by rw [heh]; rfl), EhPc.not_stopping (by simp) (by simp)⟩)

/-- The first operation of a pass is the first of the session. -/
lemma Recorded.beginShutdown (hi : Inv s) (h : Recorded s ops) {event : BitVec 64}
    (heh : s.eh = .at event .shutdown) (hasks : Asks event .shutdown) :
    Recorded { s with eh := .stopThreads event } (ops ++ [.shutdown]) := by
  have hnone : ops = [] :=
    h.idle (hi.early (by rw [heh]; rfl)) (EhPc.not_stopping (by simp [heh]) (by simp [heh]))
  exact
    { h with
      pass := fun _ _ _ => Or.inl trivial
      shutting := fun _ => h.shutting (by rw [heh]; exact hasks)
      idle := fun _ hn => absurd ⟨event, Or.inl rfl⟩ hn
      busy := fun _ => by rw [hnone]; exact ⟨List.mem_singleton_self _, .refl _⟩ }

/-- A pass without an event goes past the shutdown. -/
lemma Recorded.passShutdown (hi : Inv s) (h : Recorded s ops) {event : BitVec 64}
    (heh : s.eh = .at event .shutdown) (hasks : ¬ Asks event .shutdown) :
    Recorded { s with eh := EhPc.next event .shutdown } ops := by
  have hstop : ¬ s.ehShouldStop = true := hi.not_stop_of_early (by rw [heh]; rfl)
  have hnone : ¬ s.eh.Stopping := EhPc.not_stopping (by simp [heh]) (by simp [heh])
  exact
    { h with
      pass := fun event' he hne => by
        refine (h.pass event' (by rw [heh]; exact he) hne).imp_left fun hshut => ?_
        rw [heh] at hshut
        exact absurd hshut hasks
      shutting := fun he => absurd he id
      idle := fun hs _ => h.idle hs hnone
      busy := fun hb => absurd hb (not_or.mpr
        ⟨hstop, EhPc.not_stopping (by simp [EhPc.next]) (by simp [EhPc.next])⟩) }

/-- `stub_shutdown` stops the threads. -/
lemma Recorded.stopThreads (h : Recorded s ops) {event : BitVec 64}
    (heh : s.eh = .stopThreads event) :
    Recorded { s with shouldStop := true, eh := .stopEh event } ops := by
  have hadded := h.shutting (by rw [heh]; trivial)
  have hbusy := h.busy (Or.inr ⟨event, Or.inl heh⟩)
  rw [heh] at hbusy
  exact
    { h with
      pass := fun _ _ _ => Or.inl trivial
      shutting := fun _ => hadded
      stop := fun _ => hadded
      idle := fun _ hn => absurd ⟨event, Or.inr rfl⟩ hn
      busy := fun _ => hbusy }

/-- `stub_shutdown` tells the event thread to stop. -/
lemma Recorded.stopEh (h : Recorded s ops) {event : BitVec 64} (heh : s.eh = .stopEh event) :
    Recorded { s with ehShouldStop := true, eh := .wakeUp event } ops := by
  have hbusy := h.busy (Or.inr ⟨event, Or.inr heh⟩)
  rw [heh] at hbusy
  exact
    { h with
      pass := fun _ _ _ => Or.inr rfl
      shutting := fun he => absurd he id
      idle := fun hs _ => by cases hs
      busy := fun _ => hbusy }

/-- The event thread records the operation that it begins. -/
lemma Recorded.eventHandlerLoop (hi : Inv s) (h : Recorded s ops)
    (hst : eventHandlerLoop s = some t) : Recorded t (ops ++ (s.begins .eh).toList) := by
  unfold Events.eventHandlerLoop at hst
  have hbegins : (∀ event op, s.eh ≠ .at event op) → ops ++ (s.begins .eh).toList = ops := by
    intro hat
    cases heh : s.eh with
    | «at» event op => exact absurd heh (hat event op)
    | _ => simp [State.begins, heh]
  cases heh : s.eh with
  | test =>
      rw [heh] at hst
      obtain rfl := Option.some.inj hst
      rw [hbegins (by simp [heh])]
      split
      · refine h.goOn .returned s.locked ?_ ?_ ?_ ?_ <;>
          simp [heh, EhPc.event, EhPc.Shutting, EhPc.Stopping, EhPc.upTo]
      · refine h.goOn .lock s.locked ?_ ?_ ?_ ?_ <;>
          simp [heh, EhPc.event, EhPc.Shutting, EhPc.Stopping, EhPc.upTo]
  | lock =>
      rw [heh] at hst
      obtain rfl := Option.some.inj (Option.ite_none_left_eq_some.mp hst).2
      rw [hbegins (by simp [heh])]
      refine h.goOn .get true ?_ ?_ ?_ ?_ <;>
        simp [heh, EhPc.event, EhPc.Shutting, EhPc.Stopping, EhPc.upTo]
  | get =>
      rw [heh] at hst
      obtain rfl := Option.some.inj hst
      rw [hbegins (by simp [heh])]
      exact h.getEvent hi heh
  | «at» event op =>
      rw [heh] at hst
      dsimp only at hst
      split at hst
      · rename_i hasks
        have hop : ops ++ (s.begins .eh).toList = ops ++ [op] := by
          simp [State.begins, heh, hasks]
        rw [hop]
        cases op with
        | shutdown =>
            obtain rfl := Option.some.inj hst
            exact h.beginShutdown hi heh hasks
        | reset | unusable =>
            obtain rfl := Option.some.inj hst
            exact h.beginOp heh hasks (by decide) (by rw [heh]; exact .refl _)
      · rename_i hasks
        obtain rfl := Option.some.inj hst
        have hop : ops ++ (s.begins .eh).toList = ops := by
          simp [State.begins, heh, hasks]
        rw [hop]
        cases op with
        | shutdown => exact h.passShutdown hi heh hasks
        | reset | unusable =>
            refine h.goOn _ s.locked ?_ ?_ ?_ ?_ <;>
              simp [heh, EhPc.next, EhPc.event, EhPc.Shutting, EhPc.Stopping, EhPc.upTo]
  | stopThreads event =>
      rw [heh] at hst
      obtain rfl := Option.some.inj hst
      rw [hbegins (by simp [heh])]
      exact h.stopThreads heh
  | stopEh event =>
      rw [heh] at hst
      obtain rfl := Option.some.inj hst
      rw [hbegins (by simp [heh])]
      exact h.stopEh heh
  | wakeUp event =>
      rw [heh] at hst
      obtain rfl := Option.some.inj hst
      rw [hbegins (by simp [heh])]
      refine h.goOn _ false ?_ ?_ ?_ ?_ <;>
        simp [heh, EhPc.next, EhPc.event, EhPc.Shutting, EhPc.Stopping, EhPc.upTo]
  | running event op =>
      rw [heh] at hst
      obtain rfl := Option.some.inj hst
      rw [hbegins (by simp [heh])]
      cases op with
      | shutdown | reset | unusable =>
          refine h.goOn _ s.locked ?_ ?_ ?_ ?_ <;>
            simp [heh, EhPc.next, EhPc.event, EhPc.Shutting, EhPc.Stopping, EhPc.upTo]
  | bye event =>
      rw [heh] at hst
      obtain rfl := Option.some.inj hst
      rw [hbegins (by simp [heh]), if_neg (hi.noBye.2 event (by rw [heh]; rfl))]
      refine h.goOn .test s.locked ?_ ?_ ?_ ?_ <;>
        simp [heh, EhPc.event, EhPc.Shutting, EhPc.Stopping, EhPc.upTo]
  | returned =>
      rw [heh] at hst
      cases hst

/-- What one step of any thread keeps. -/
lemma Recorded.step (hi : Inv s) (h : Recorded s ops) (hst : step s a = some t) :
    Recorded t (ops ++ (s.begins a).toList) := by
  have hnone (ha : a ≠ .eh) : ops ++ (s.begins a).toList = ops := by
    cases a with
    | eh => exact absurd rfl ha
    | _ => exact List.append_nil ops
  cases a with
  | eh => exact h.eventHandlerLoop hi hst
  | rx =>
      rw [hnone (by decide)]
      exact h.stubRxLoop hst
  | rxAdd e =>
      obtain rfl := Option.some.inj (Option.ite_none_right_eq_some.mp hst).2
      rw [hnone (by simp)]
      exact h.add e _ _
  | tx =>
      rw [hnone (by decide)]
      exact h.stubTxLoop hst
  | txAdd e =>
      rw [hnone (by simp)]
      simp only [Events.step] at hst
      split at hst
      · obtain rfl := Option.some.inj hst
        exact h.add e _ _
      · obtain rfl := Option.some.inj hst
        exact h.add e _ _
      · cases hst
  | main =>
      rw [hnone (by decide)]
      obtain ⟨main, rfl⟩ := stubTryTransfer_frame hst
      exact { h with }

/-- A session ends only because of an event, and by one shutdown that comes before all else: in
every run each operation begins at most once and in order, none before the shutdown; no thread has
returned without an event; and the shutdown has begun when the event thread has returned, and so
before `stub_try_transfer` frees anything. -/
theorem ends_once {x : State × List EhOp} (h : recorded.Reachable x) :
    x.2.Sublist [.shutdown, .reset, .unusable] ∧ (x.2 ≠ [] → .shutdown ∈ x.2) ∧
      (x.1.eh = .returned ∨ x.1.rx = .returned ∨ x.1.tx = .returned → x.1.added = true) ∧
      (x.1.eh = .returned ∨ x.1.main ≠ .joinEh → .shutdown ∈ x.2) := by
  obtain ⟨hi, hrec⟩ : Inv x.1 ∧ Recorded x.1 x.2 := by
    refine h.invariant (I := fun x => Inv x.1 ∧ Recorded x.1 x.2) ?_ ?_
    · rintro x ⟨hs, hops⟩
      rw [hops, hs]
      exact ⟨inv_start, recorded_start⟩
    · rintro x a y ⟨hi, hrec⟩ - hst
      obtain ⟨hst, hops⟩ := Machine.withHistory_step hst
      rw [hops]
      exact ⟨hi.step hst, hrec.step hi hst⟩
  have hbusy : x.2 ≠ [] → x.1.ehShouldStop = true ∨ x.1.eh.Stopping := by
    intro hne
    by_contra hidle
    obtain ⟨hstop, hstopping⟩ := not_or.mp hidle
    exact hne (hrec.idle (Bool.eq_false_iff.mpr hstop) hstopping)
  have hupTo : x.1.eh.upTo.Sublist [.shutdown, .reset, .unusable] := by
    cases x.1.eh with
    | «at» event op | running event op => cases op <;> simp [EhPc.upTo]
    | _ => simp [EhPc.upTo]
  refine ⟨?_, fun hne => (hrec.busy (hbusy hne)).1, ?_, ?_⟩
  · by_cases hne : x.2 = []
    · rw [hne]
      exact List.nil_sublist _
    · exact (hrec.busy (hbusy hne)).2.trans hupTo
  · rintro (heh | hrx | htx)
    · exact hrec.stop (hi.stop (hi.returned heh))
    · exact hrec.rx hrx
    · exact hrec.tx (Or.inl htx)
  · intro hend
    have heh : x.1.eh = .returned := hend.elim id hi.joinedEh
    exact (hrec.busy (Or.inl (hi.returned heh))).1

/-- The session of an error that was handled: shut down and reset. -/
theorem ends_once_stopRun :
    ∃ ops, ops = [EhOp.shutdown, .reset] ∧ waiting.eh = .returned ∧
      ops.Sublist [.shutdown, .reset, .unusable] ∧ waiting.added = true ∧ .shutdown ∈ ops := by
  have hreach : recorded.Reachable (waiting, [.shutdown, .reset]) :=
    ⟨({}, []), ⟨rfl, rfl⟩, Machine.run_of_perform ([.rx, .rx, .tx, .txAdd .errorSubmit] ++ stopRun) rfl⟩
  obtain ⟨hsub, -, hadded, hshutdown⟩ := ends_once hreach
  exact ⟨_, rfl, rfl, hsub, hadded (Or.inl rfl), hshutdown (Or.inl rfl)⟩

end Usbip.LibusbStub.Events
