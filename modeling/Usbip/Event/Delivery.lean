import Usbip.Event.Steps

/-!
# Events are kept and handled

A bit that asks for an operation is never stranded: its device waits on `event_list`, or the
event work is at the device and has the bit still before it, or the thread that set the bit has
not come to the list yet (`event_not_stranded`).

That does not mean that every call is answered by a run of the operation.  `event_handler` clears
a bit after the operation has run, so a call that sets the bit while the operation runs has it
cleared without a run of its own (`event_lost`).  In the runs without such a call every operation
asked for is run after the call began (`event_answered`).
-/

namespace Usbip.Event

open Usbip.Core

variable {ι δ : Type*} {s s' : State ι δ} {a : Action ι δ}

/-! ## No bit is stranded -/

/-- The event work is at the device and has not passed the bit of the operation: it has still to
test it, or is to clear it. -/
def HandlerPc.Facing (pc : HandlerPc δ) (ud : δ) (op : EhOp) : Prop :=
  ∃ o stage, pc = .at ud o stage ∧ o.shift ≤ op.shift

/-- After a bit the event work faces the ones behind it. -/
lemma facing_next {ud : δ} {o op : EhOp} (h : o.shift ≤ op.shift) (hne : op ≠ o) :
    (o.next ud).Facing ud op := by
  cases o with
  | shutdown =>
      refine ⟨.reset, .test, rfl, ?_⟩
      cases op with
      | shutdown => exact absurd rfl hne
      | reset | unusable => decide
  | reset =>
      refine ⟨.unusable, .test, rfl, ?_⟩
      cases op with
      | reset => exact absurd rfl hne
      | shutdown => exact absurd h (by decide)
      | unusable => decide
  | unusable =>
      cases op with
      | unusable => exact absurd rfl hne
      | shutdown | reset => exact absurd h (by decide)

/-- The device waits on the list, or the event work is at it with the bit still to come. -/
def State.Waiting (s : State ι δ) (ud : δ) (op : EhOp) : Prop :=
  ud ∈ s.eventList ∨ s.handler.Facing ud op

/-- Some call for the device, whose bits satisfy `P`, is between `set_event` and the end of its
section on `event_list`. -/
def State.OnItsWay (s : State ι δ) (ud : δ) (P : BitVec 64 → Prop) : Prop :=
  ∃ t c, s.calls t = some c ∧ c.ud = ud ∧ c.pc = .list ∧ P c.event

variable [DecidableEq ι] [DecidableEq δ] {ud : δ} {op : EhOp} {P : BitVec 64 → Prop}

/-- A device that waits for an operation does so until the bit is cleared. -/
lemma waiting_of_step (hst : Event.step s a = some s') (hw : s.Waiting ud op)
    (hasks : Asks (s'.event ud) op) : s'.Waiting ud op := by
  rcases hw with hlist | ⟨o, stage, hat, hle⟩
  · cases step_effect hst with
    | queued => exact .inl (List.mem_append_left _ hlist)
    | pop hget hcons =>
        rw [hcons] at hlist
        rcases List.mem_cons.mp hlist with rfl | hrest
        · exact .inr ⟨.shutdown, .test, rfl, Nat.zero_le _⟩
        · exact .inl hrest
    | _ => exact .inl hlist
  · refine .inr ?_
    cases step_effect hst with
    | runWork h | sleep h | pop h | wakeUp h =>
        rw [hat] at h
        cases h
    | found h | start h | finish h =>
        rw [hat] at h
        cases h
        exact ⟨o, _, rfl, hle⟩
    | skip h hclear =>
        rw [hat] at h
        cases h
        refine facing_next hle ?_
        rintro rfl
        exact hclear hasks
    | unsetEvent h =>
        rw [hat] at h
        cases h
        exact facing_next hle fun hop => (asks_update_and_not.mp hasks).2 ⟨rfl, hop⟩
    | _ => exact ⟨o, stage, hat, hle⟩

omit [DecidableEq δ] in
/-- A call that moves elsewhere is not the one on its way. -/
lemma onItsWay_of_update (h : s.OnItsWay ud P) {t : ι} {c : Call δ}
    (ht : ∀ c₀, s.calls t = some c₀ → c₀.pc ≠ .list)
    (hcalls : s'.calls = Function.update s.calls t (some c)) : s'.OnItsWay ud P := by
  obtain ⟨t', c', hc', hud, hpc, hP⟩ := h
  have hne : t' ≠ t := by
    rintro rfl
    exact ht c' hc' hpc
  refine ⟨t', c', ?_, hud, hpc, hP⟩
  rw [hcalls, Function.update_of_ne hne, hc']

omit [DecidableEq δ] in
/-- A call that ends its section leaves its own device on the list. -/
lemma onItsWay_of_listed (h : s.OnItsWay ud P) {t : ι} {c c' : Call δ}
    (ht : s.calls t = some c) (hcalls : s'.calls = Function.update s.calls t (some c'))
    (hlist : c.ud ∈ s'.eventList) : s'.OnItsWay ud P ∨ ud ∈ s'.eventList := by
  obtain ⟨t', c₁, hc₁, rfl, hpc, hP⟩ := h
  by_cases hne : t' = t
  · subst hne
    obtain rfl : c₁ = c := Option.some.inj (hc₁.symm.trans ht)
    exact .inr hlist
  · refine .inl ⟨t', c₁, ?_, rfl, hpc, hP⟩
    rw [hcalls, Function.update_of_ne hne, hc₁]

/-- A call on its way to the list gets there. -/
lemma onItsWay_of_step (hst : Event.step s a = some s') (h : s.OnItsWay ud P) :
    s'.OnItsWay ud P ∨ ud ∈ s'.eventList := by
  cases step_effect hst with
  | add hnew | teardown _ hnew =>
      refine .inl (onItsWay_of_update h ?_ rfl)
      simp [hnew]
  | setEvent hcall =>
      refine .inl (onItsWay_of_update h ?_ rfl)
      simp [hcall]
  | listed hcall hmem => exact onItsWay_of_listed h hcall rfl hmem
  | queued hcall =>
      exact onItsWay_of_listed h hcall rfl (List.mem_append_right _ List.mem_cons_self)
  | _ => exact .inl h

/-- A bit that is set was set before the step, or the step is the `set_event` of a call that is
then on its way. -/
lemma asks_cases (hst : Event.step s a = some s') (hasks : Asks (s'.event ud) op) :
    Asks (s.event ud) op ∨ s'.OnItsWay ud (Asks · op) := by
  cases step_effect hst with
  | @setEvent t ud' event hcall =>
      rcases asks_update_or.mp hasks with hold | ⟨rfl, hnew⟩
      · exact .inl hold
      · exact .inr ⟨t, ⟨ud, event, .list⟩, Function.update_self .., rfl, rfl, hnew⟩
  | unsetEvent => exact .inl (asks_update_and_not.mp hasks).1
  | _ => exact .inl hasks

/-- Every bit that asks for an operation is looked after. -/
def NotStranded (s : State ι δ) : Prop :=
  ∀ ud op, Asks (s.event ud) op → s.Waiting ud op ∨ s.OnItsWay ud (Asks · op)

/-- Every step keeps the account. -/
theorem NotStranded.step (hi : NotStranded s) (hst : Event.step s a = some s') :
    NotStranded s' := by
  intro ud op hasks
  rcases asks_cases hst hasks with hold | hnew
  · rcases hi ud op hold with hw | hway
    · exact .inl (waiting_of_step hst hw hasks)
    · rcases onItsWay_of_step hst hway with hway | hlist
      · exact .inr hway
      · exact .inl (.inl hlist)
  · exact .inr hnew

/-- In every reachable state no device is twice on `event_list`, and every device with a bit that
asks for an operation is on it, or is being handled with the bit still to come, or some thread
that set the bit is on its way to the list. -/
theorem event_not_stranded (h : machine.Reachable s) :
    s.eventList.Nodup ∧ ∀ ud op, Asks (s.event ud) op →
      ud ∈ s.eventList ∨ s.handler.Facing ud op ∨
        ∃ t c, s.calls t = some c ∧ c.ud = ud ∧ c.pc = .list ∧ Asks c.event op := by
  have hi : s.eventList.Nodup ∧ NotStranded s := ?_
  · exact ⟨hi.1, fun ud op hasks => or_assoc.mp (hi.2 ud op hasks)⟩
  refine h.invariant (I := fun s => s.eventList.Nodup ∧ NotStranded s) ?_ ?_
  · rintro s rfl
    refine ⟨List.nodup_nil, fun ud op hasks => ?_⟩
    exact absurd hasks (not_asks_zero op)
  · rintro s a t ⟨hnodup, hi⟩ - hst
    exact ⟨nodup_of_step hnodup hst, hi.step hst⟩

/-- A call has ended the connection of device 0 and the event work is past the SHUTDOWN bit when
a second call sets that bit again and has not come to the list. -/
def racingRun : List (Action Nat Nat) :=
  [.add 0 0 eventDown, .setEvent 0, .addToList 0, .runWork,
   .handler, .handler, .handler, .handler, .handler,   -- shutdown, and its bit is cleared
   .add 1 0 eventDown, .setEvent 1]

/-- The state behind a race: the bit is set, the device not listed, and its handling under way. -/
theorem event_not_stranded_racingRun :
    ∃ s : State Nat Nat, machine.Reachable s ∧
      (Asks (s.event 0) .shutdown ∧ s.eventList = [] ∧ s.handler = .at 0 .reset .test) ∧
      (s.eventList.Nodup ∧ ∀ ud op, Asks (s.event ud) op →
        ud ∈ s.eventList ∨ s.handler.Facing ud op ∨
          ∃ t c, s.calls t = some c ∧ c.ud = ud ∧ c.pc = .list ∧ Asks c.event op) := by
  have hrun : ∃ s : State Nat Nat, machine.Reachable s ∧
      (Asks (s.event 0) .shutdown ∧ s.eventList = [] ∧ s.handler = .at 0 .reset .test) := by
    apply Machine.Reach.of_perform racingRun (s := {}) rfl
    exact ⟨_, rfl, by decide⟩
  obtain ⟨s, hs, hstate⟩ := hrun
  exact ⟨s, hs, hstate, event_not_stranded hs⟩

/-! ## What a call is answered by -/

/-- What is recorded of a run. -/
inductive Entry (ι δ : Type*)
  /-- The call `t` of `usbip_event_add` begins. -/
  | began (t : ι)
  /-- The event work starts the operation of a device. -/
  | started (ud : δ) (op : EhOp)
  deriving DecidableEq

/-- The entry of an action, if it has one. -/
def entry (s : State ι δ) : Action ι δ → Option (Entry ι δ)
  | .add t _ _ | .teardown t _ => some (.began t)
  | .handler =>
      match s.handler with
      | .at ud op .call => some (.started ud op)
      | _ => none
  | _ => none

/-- The event machine with a record of its run. -/
def recorded : Machine (State ι δ × List (Entry ι δ)) (Action ι δ) :=
  machine.withHistory [] fun s a _ log => log ++ (entry s a).toList

/-- A run of the operation has started since the call began. -/
def Answered (log : List (Entry ι δ)) (t : ι) (ud : δ) (op : EhOp) : Prop :=
  .started ud op ∈ log.dropWhile (fun e => e ≠ .began t)

instance (log : List (Entry ι δ)) (t : ι) (ud : δ) (op : EhOp) :
    Decidable (Answered log t ud op) :=
  inferInstanceAs (Decidable (_ ∈ _))

/-- What was answered stays answered. -/
lemma Answered.append {log : List (Entry ι δ)} {t : ι} {ud : δ} {op : EhOp}
    (h : Answered log t ud op) (more : List (Entry ι δ)) : Answered (log ++ more) t ud op := by
  unfold Answered at h ⊢
  rw [List.dropWhile_append, if_neg]
  · exact List.mem_append_left _ h
  · intro hempty
    rw [List.isEmpty_iff.mp hempty] at h
    cases h

/-- A run that starts behind a call answers it. -/
lemma answered_started {log : List (Entry ι δ)} {t : ι} (hbegan : .began t ∈ log) (ud : δ)
    (op : EhOp) : Answered (log ++ [.started ud op]) t ud op := by
  unfold Answered
  rw [List.dropWhile_append, if_neg]
  · exact List.mem_append_right _ List.mem_cons_self
  · intro hempty
    have hall := List.dropWhile_eq_nil_iff.mp (List.isEmpty_iff.mp hempty) _ hbegan
    simp at hall

/-- The event work is running the operation of the device, or has run it and is to clear its
bit. -/
def HandlerPc.InRun (pc : HandlerPc δ) (ud : δ) (op : EhOp) : Prop :=
  pc = .at ud op .running ∨ pc = .at ud op .clear

instance (pc : HandlerPc δ) (ud : δ) (op : EhOp) : Decidable (pc.InRun ud op) :=
  inferInstanceAs (Decidable (_ ∨ _))

/-- The next run of the operation is still to come: its bit is set and will not be cleared by the
run that is going on. -/
def State.Kept (s : State ι δ) (ud : δ) (op : EhOp) : Prop :=
  Asks (s.event ud) op ∧ ¬ s.handler.InRun ud op

omit [DecidableEq δ] in
/-- Going on to the next operation leaves the run. -/
lemma not_inRun_next (ud ud' : δ) (o op : EhOp) : ¬ (o.next ud).InRun ud' op := by
  cases o <;> simp [EhOp.next, HandlerPc.InRun]

omit [DecidableEq δ] in
/-- The handler is in no run when it takes the next device. -/
lemma not_inRun_getEvent (ud : δ) (op : EhOp) : ¬ HandlerPc.getEvent.InRun ud op := by
  simp [HandlerPc.InRun]

variable {log : List (Entry ι δ)} {t : ι}

/-- Until the operation is run for a call, its bit stays set. -/
lemma kept_of_step (hbegan : .began t ∈ log) (hk : s.Kept ud op)
    (hst : Event.step s a = some s') :
    Answered (log ++ (entry s a).toList) t ud op ∨ s'.Kept ud op := by
  obtain ⟨hasks, hrun⟩ := hk
  cases step_effect hst with
  | setEvent hcall => exact .inr ⟨asks_update_or.mpr (.inl hasks), hrun⟩
  | @start ud' op' hat =>
      by_cases hsame : ud' = ud ∧ op' = op
      · obtain ⟨rfl, rfl⟩ := hsame
        refine .inl ?_
        simp only [entry, hat, Option.toList_some]
        exact answered_started hbegan ud' op'
      · refine .inr ⟨hasks, ?_⟩
        rintro (h | h)
        · cases h
          exact hsame ⟨rfl, rfl⟩
        · cases h
  | finish hat =>
      refine .inr ⟨hasks, ?_⟩
      rintro (h | h)
      · cases h
      · cases h
        exact hrun (.inl hat)
  | @unsetEvent ud' op' hat =>
      refine .inr ⟨asks_update_and_not.mpr ⟨hasks, ?_⟩, not_inRun_next ud' ud op' op⟩
      rintro ⟨rfl, rfl⟩
      exact hrun (.inr hat)
  | runWork | wakeUp => exact .inr ⟨hasks, not_inRun_getEvent ud op⟩
  | skip => exact .inr ⟨hasks, not_inRun_next _ ud _ op⟩
  | sleep | pop | found =>
      refine .inr ⟨hasks, ?_⟩
      rintro (h | h) <;> cases h
  | _ => exact .inr ⟨hasks, hrun⟩

/-- No call sets a bit while the event work is running its operation, or has run it and not yet
cleared the bit, unless that run has started since the call began. -/
def NotDuringRun (x : State ι δ × List (Entry ι δ)) : Action ι δ → Prop
  | .setEvent t =>
      match x.1.calls t with
      | some c => ∀ op, Asks c.event op → x.1.handler.InRun c.ud op → Answered x.2 t c.ud op
      | none => True
  | _ => True

instance (x : State ι δ × List (Entry ι δ)) (a : Action ι δ) : Decidable (NotDuringRun x a) := by
  unfold NotDuringRun
  split
  · split <;> infer_instance
  · infer_instance

/-- Every call that has set its bits has been answered for each of them, or the bit is kept and,
once the call has returned, looked after. -/
structure Delivered (x : State ι δ × List (Entry ι δ)) : Prop where
  began : ∀ t c, x.1.calls t = some c → .began t ∈ x.2
  kept : ∀ t c, x.1.calls t = some c → c.pc = .list ∨ c.pc = .done → ∀ op, Asks c.event op →
    Answered x.2 t c.ud op ∨ x.1.Kept c.ud op
  waiting : ∀ t c, x.1.calls t = some c → c.pc = .done → ∀ op, Asks c.event op →
    Answered x.2 t c.ud op ∨ x.1.Waiting c.ud op

/-- Every step that sets no bit during a run keeps the account. -/
theorem Delivered.step {x y : State ι δ × List (Entry ι δ)} (hi : Delivered x)
    (hok : NotDuringRun x a) (hst : recorded.step x a = some y) : Delivered y := by
  obtain ⟨s, log⟩ := x
  obtain ⟨s', log'⟩ := y
  obtain ⟨hst', rfl⟩ : Event.step s a = some s' ∧ log' = log ++ (entry s a).toList :=
    Machine.withHistory_step hst
  refine ⟨fun t c hc => ?_, fun t c hc hpc op hasks => ?_, fun t c hc hpc op hasks => ?_⟩
  · cases came_of_step hst' hc with
    | stayed hcall | set _ hcall | listed _ hcall =>
        exact List.mem_append_left _ (hi.began t _ hcall)
    | began hact =>
        refine List.mem_append_right _ ?_
        rcases hact with rfl | ⟨rfl, -⟩ <;> exact List.mem_cons_self
  · have hstep : ∀ c₀, s.calls t = some c₀ →
        Answered log t c.ud op ∨ s.Kept c.ud op →
        Answered (log ++ (entry s a).toList) t c.ud op ∨ s'.Kept c.ud op := by
      rintro c₀ hcall (hans | hk)
      · exact .inl (hans.append _)
      · exact kept_of_step (hi.began t c₀ hcall) hk hst'
    cases came_of_step hst' hc with
    | stayed hcall => exact hstep c hcall (hi.kept t c hcall hpc op hasks)
    | began _ _ hpc' =>
        rw [hpc'] at hpc
        split at hpc <;> simp at hpc
    | set hact hcall _ hevent hhandler =>
        subst hact
        simp only [NotDuringRun, hcall] at hok
        by_cases hrun : s.handler.InRun c.ud op
        · exact .inl ((hok op hasks hrun).append _)
        · refine .inr ⟨?_, ?_⟩
          · rw [hevent, asks_or]
            exact .inr hasks
          · rwa [hhandler]
    | listed _ hcall => exact hstep _ hcall (hi.kept t _ hcall (.inl rfl) op hasks)
  · cases came_of_step hst' hc with
    | stayed hcall =>
        rcases hi.waiting t c hcall hpc op hasks with hans | hw
        · exact .inl (hans.append _)
        rcases hi.kept t c hcall (.inr hpc) op hasks with hans | hk
        · exact .inl (hans.append _)
        rcases kept_of_step (hi.began t c hcall) hk hst' with hans | hk'
        · exact .inl hans
        · exact .inr (waiting_of_step hst' hw hk'.1)
    | began _ _ hpc' =>
        rw [hpc'] at hpc
        split at hpc <;> cases hpc
    | set _ _ hpc' =>
        rw [hpc'] at hpc
        cases hpc
    | listed _ _ _ hmem => exact .inr (.inl hmem)

/-- In every run in which no call sets a bit while its operation is being run for an earlier one,
whenever a call has returned and the event work is idle with an empty list, every operation the
call asked for has been started since the call began. -/
theorem event_answered {x : State ι δ × List (Entry ι δ)} (h : recorded.Reach NotDuringRun x)
    {t : ι} {c : Call δ} (hcall : x.1.calls t = some c) (hreturned : c.pc = .done)
    (hidle : x.1.handler = .idle) (hempty : x.1.eventList = []) {op : EhOp}
    (hasks : Asks c.event op) : Answered x.2 t c.ud op := by
  have hi : Delivered x := by
    refine h.invariant (I := Delivered) ?_ fun x a y hi hok hst => hi.step hok hst
    rintro ⟨s, log⟩ ⟨rfl, rfl⟩
    refine ⟨fun t c hc => ?_, fun t c hc => ?_, fun t c hc => ?_⟩ <;> cases hc
  refine (hi.waiting t c hcall hreturned op hasks).resolve_right ?_
  rintro (hlist | ⟨o, stage, hat, -⟩)
  · rw [hempty] at hlist
    cases hlist
  · rw [hidle] at hat
    cases hat

/-- A call ends the connection of device 0, and a second one asks for the same before the event
work has started the operation. -/
def answeredRun : List (Action Nat Nat) := List.flatten [
  [.add 0 0 eventDown, .setEvent 0, .addToList 0, .runWork, .handler,
   .add 1 0 eventDown, .setEvent 1, .addToList 1],
  List.replicate 10 .handler,                 -- shutdown, reset
  List.replicate 5 .handler, [.handler]]      -- nothing is left to do

/-- Two calls for one device, the second of which returns while it is handled. -/
theorem event_answered_answeredRun :
    ∃ x : State Nat Nat × List (Entry Nat Nat), recorded.Reach NotDuringRun x ∧
      x.1.calls 1 = some ⟨0, eventDown, .done⟩ ∧ x.1.handler = .idle ∧ x.1.eventList = [] ∧
      Answered x.2 1 0 .shutdown ∧ Answered x.2 1 0 .reset := by
  have hrun : ∃ x : State Nat Nat × List (Entry Nat Nat), recorded.Reach NotDuringRun x ∧
      (x.1.calls 1 = some ⟨0, eventDown, .done⟩ ∧ x.1.handler = .idle ∧ x.1.eventList = []) := by
    apply Machine.Reach.of_perform (M := recorded) answeredRun (s := ({}, [])) ⟨rfl, rfl⟩
    exact ⟨_, rfl, rfl, rfl, rfl⟩
  obtain ⟨x, hx, hcall, hidle, hempty⟩ := hrun
  refine ⟨x, hx, hcall, hidle, hempty, ?_, ?_⟩
  · exact event_answered hx hcall rfl hidle hempty (by decide)
  · exact event_answered hx hcall rfl hidle hempty (by decide)

/-- The second call comes while the shutdown operation is running. -/
def lostRun : List (Action Nat Nat) := List.flatten [
  [.add 0 0 eventDown, .setEvent 0, .addToList 0, .runWork,
   .handler, .handler, .handler,              -- the shutdown operation starts
   .add 1 0 eventDown, .setEvent 1, .addToList 1],
  List.replicate 8 .handler,                  -- its bit is cleared; reset
  List.replicate 5 .handler, [.handler]]      -- no bit is left

/-- The bit that the second call has set is cleared by the run that was going on, and no run
comes after it. -/
theorem event_lost :
    ∃ x : State Nat Nat × List (Entry Nat Nat), recorded.Reachable x ∧
      x.1.calls 1 = some ⟨0, eventDown, .done⟩ ∧ x.1.handler = .idle ∧ x.1.eventList = [] ∧
      Asks eventDown .shutdown ∧ ¬ Answered x.2 1 0 .shutdown := by
  apply Machine.Reach.of_perform (M := recorded) lostRun (s := ({}, [])) ⟨rfl, rfl⟩
  exact ⟨_, rfl, rfl, rfl, rfl, by decide, by decide⟩

end Usbip.Event
