import Usbip.Common.Basic
import Usbip.Event.Delivery

/-!
# Waiting in usbip_stop_eh

A teardown adds a REMOVED event and then waits in `usbip_stop_eh` for the bits of the device to be
cleared; its caller frees the device.  The wait looks at the bits alone, and the bits can be
cleared while the device is on `event_list` (`stop_eh_too_early`): by a pass of the event work
that began before the section of the REMOVED event on the list, or because a call that has tested
`USBIP_EH_BYE` before it was set comes to the list after them.  They are clear, too, while the pass
that has cleared the last of them goes on to the other bits and to `wake_up`
(`stop_eh_during_pass`).  Without such a pass and such a call nothing is left of the device when
`usbip_stop_eh` returns, and it may be freed (`stop_eh_barrier`).
-/

namespace Usbip.Event

open Usbip.Core

variable {ι δ : Type*} [DecidableEq ι] [DecidableEq δ] {s s' : State ι δ} {a : Action ι δ}

/-! ## The condition -/

/-- The call is past `usbip_event_add`. -/
def Call.Finished (c : Call δ) : Prop := c.pc = .done ∨ c.pc = .refused

instance (c : Call δ) : Decidable c.Finished := inferInstanceAs (Decidable (_ ∨ _))

/-- A REMOVED event is added by the teardown of the device only. -/
def OneTeardown : Action ι δ → Prop
  | .add _ _ event => ¬ Bye event
  | _ => True

instance (a : Action ι δ) : Decidable (OneTeardown a) :=
  match a with
  | .add _ _ event => inferInstanceAs (Decidable (¬ Bye event))
  | .setEvent _ | .addToList _ | .runWork | .handler | .teardown _ _ | .stopEh _ | .stopEhSleep _
  | .stopEhReturn _ => isTrue trivial

/-- The event work is in a pass over the device, up to `wake_up` at its end. -/
def HandlerPc.Over (pc : HandlerPc δ) (ud : δ) : Prop :=
  match pc with
  | .at ud' _ _ | .wakeUp ud' => ud' = ud
  | .idle | .getEvent => False

instance (pc : HandlerPc δ) (ud : δ) : Decidable (pc.Over ud) := by
  unfold HandlerPc.Over
  split <;> infer_instance

/-- When the teardown sets the bits of its REMOVED event, no other call of `usbip_event_add` for
the device is unfinished, and the event work is not in a pass over the device with the SHUTDOWN bit
still to come; such a pass does not begin before the teardown has been to the list; and the wait
does not look at the bits between their clearing and the end of the pass that has cleared them. -/
def Settled (s : State ι δ) : Action ι δ → Prop
  | .setEvent t => ∀ c ∈ s.calls t, Bye c.event →
      (∀ t', ∀ c' ∈ s.calls t', c'.ud = c.ud → t' ≠ t → c'.Finished) ∧
        ¬ s.handler.Facing c.ud .shutdown
  | .handler => s.handler = .getEvent → ∀ t, ∀ c ∈ s.calls t, Bye c.event → c.pc = .list →
      s.eventList.head? ≠ some c.ud
  | .stopEhReturn ud => ¬ s.handler.Over ud
  | _ => True

instance (pc : HandlerPc δ) (ud : δ) (op : EhOp) : Decidable (pc.Facing ud op) :=
  match pc with
  | .at ud' o stage => decidable_of_iff (ud' = ud ∧ o.shift ≤ op.shift) <| by
      constructor
      · rintro ⟨rfl, hle⟩
        exact ⟨o, stage, rfl, hle⟩
      · rintro ⟨o', stage', hat, hle⟩
        cases hat
        exact ⟨rfl, hle⟩
  | .idle | .getEvent | .wakeUp _ => isFalse <| by
      rintro ⟨o, stage, hat, -⟩
      cases hat

instance [Fintype ι] (s : State ι δ) (a : Action ι δ) : Decidable (Settled s a) :=
  match a with
  | .setEvent t => inferInstanceAs (Decidable (∀ c ∈ s.calls t, Bye c.event →
      (∀ t', ∀ c' ∈ s.calls t', c'.ud = c.ud → t' ≠ t → c'.Finished) ∧
        ¬ s.handler.Facing c.ud .shutdown))
  | .handler => inferInstanceAs (Decidable (s.handler = .getEvent → ∀ t, ∀ c ∈ s.calls t,
      Bye c.event → c.pc = .list → s.eventList.head? ≠ some c.ud))
  | .stopEhReturn ud => inferInstanceAs (Decidable (¬ s.handler.Over ud))
  | .add _ _ _ | .addToList _ | .runWork | .teardown _ _ | .stopEh _ | .stopEhSleep _ =>
      isTrue trivial

/-! ## What the wait can rely on -/

/-- Some call for the device is on its way to the list. -/
def State.Unlisted (s : State ι δ) (ud : δ) : Prop :=
  s.OnItsWay ud fun _ => True

/-- The SHUTDOWN bit of the REMOVED event is still set, and a new pass of the event work will find
it; or that pass has begun, and nothing will put the device on the list again. -/
def State.Removing (s : State ι δ) (ud : δ) : Prop :=
  (Asks (s.event ud) .shutdown ∧ ¬ s.handler.Facing ud .shutdown ∧
    (s.Unlisted ud ∨ ud ∈ s.eventList)) ∨
  (¬ s.Unlisted ud ∧ ud ∉ s.eventList)

/-- Nothing in the event code has the device: it is not on `event_list`, the event work is not at
it, and every call of `usbip_event_add` for it has returned. -/
structure State.MayFree (s : State ι δ) (ud : δ) : Prop where
  unlisted : ud ∉ s.eventList
  passed : ¬ s.handler.Over ud
  finished : ∀ t c, s.calls t = some c → c.ud = ud → c.Finished

/-- The state of a teardown, and of the device it removes. -/
structure Barrier (s : State ι δ) : Prop where
  nodup : s.eventList.Nodup
  /-- REMOVED events are those of the teardowns. -/
  removal : ∀ t c, s.calls t = some c → Bye c.event →
    c.event = eventRemoved ∧ (c.pc = .set ∨ c.pc = .list → s.stop c.ud = .adding t)
  adding : ∀ ud t, s.stop ud = .adding t →
    ∃ c, s.calls t = some c ∧ c.ud = ud ∧ Bye c.event ∧ (c.pc ≠ .set → Bye (s.event ud))
  stopped : ∀ ud, s.stop ud = .waiting ∨ s.stop ud = .asleep ∨ s.stop ud = .returned →
    Bye (s.event ud)
  /-- Once the device is being removed, the teardown alone is in `usbip_event_add`. -/
  closed : ∀ t c, s.calls t = some c → Bye (s.event c.ud) →
    c.pc ≠ .set ∧ (c.pc = .list → Bye c.event)
  removing : ∀ ud, Bye (s.event ud) → s.Removing ud
  clear : ∀ ud, s.stop ud = .returned → ∀ op, ¬ Asks (s.event ud) op
  passed : ∀ ud, s.stop ud = .returned → ¬ s.handler.Over ud

/-! ### Bits -/

/-- REMOVED asks for a shutdown. -/
lemma asks_eventRemoved : Asks eventRemoved .shutdown := by
  decide

/-- REMOVED has the bit that ends the handler. -/
lemma bye_eventRemoved : Bye eventRemoved := by
  decide

/-- `USBIP_EH_BYE` is set by a call that has it among its bits. -/
lemma bye_cases (hst : Event.step s a = some s') {ud : δ} (h : Bye (s'.event ud)) :
    Bye (s.event ud) ∨
      ∃ t event, a = .setEvent t ∧ s.calls t = some ⟨ud, event, .set⟩ ∧ Bye event := by
  cases step_effect hst with
  | @setEvent t ud' event hcall =>
      rcases bye_update_or.mp h with h | ⟨rfl, hbye⟩
      · exact .inl h
      · exact .inr ⟨t, event, rfl, hcall, hbye⟩
  | unsetEvent => exact .inl (bye_update_and_not.mp h)
  | _ => exact .inl h

/-- A bit of a device for which no call is at `set_event` is not set by a step. -/
lemma asks_of_asks_step (hst : Event.step s a = some s') {ud : δ} {op : EhOp}
    (hno : ∀ t event, s.calls t ≠ some ⟨ud, event, .set⟩) (h : Asks (s'.event ud) op) :
    Asks (s.event ud) op := by
  cases step_effect hst with
  | @setEvent t ud' event hcall =>
      rcases asks_update_or.mp h with h | ⟨rfl, -⟩
      · exact h
      · exact absurd hcall (hno t event)
  | unsetEvent => exact (asks_update_and_not.mp h).1
  | _ => exact h

/-- The SHUTDOWN bit is cleared only by a pass that is at it. -/
lemma asks_step_of_not_facing (hst : Event.step s a = some s') {ud : δ}
    (hface : ¬ s.handler.Facing ud .shutdown) (h : Asks (s.event ud) .shutdown) :
    Asks (s'.event ud) .shutdown := by
  cases step_effect hst with
  | setEvent => exact asks_update_or.mpr (.inl h)
  | @unsetEvent ud' op hat =>
      refine asks_update_and_not.mpr ⟨h, ?_⟩
      rintro ⟨rfl, rfl⟩
      exact hface ⟨.shutdown, .clear, hat, le_rfl⟩
  | _ => exact h

/-! ### Positions -/

omit [DecidableEq δ] in
/-- The shutdown is the first operation, so that none of a pass is followed by it. -/
lemma not_facing_shutdown_next (ud ud' : δ) (o : EhOp) : ¬ (o.next ud).Facing ud' .shutdown := by
  rintro ⟨o', stage, hat, hle⟩
  cases o with
  | shutdown | reset =>
      cases hat
      exact absurd hle (by decide)
  | unusable => cases hat

/-- A pass over a device begins when `get_event` takes it from the head of the list. -/
lemma facing_shutdown_cases (hst : Event.step s a = some s') {ud : δ}
    (h : s'.handler.Facing ud .shutdown) :
    s.handler.Facing ud .shutdown ∨
      a = .handler ∧ s.handler = .getEvent ∧ s.eventList.head? = some ud := by
  cases step_effect hst with
  | runWork | sleep | wakeUp =>
      obtain ⟨o, stage, hat, -⟩ := h
      cases hat
  | pop hget hcons =>
      obtain ⟨o, stage, hat, -⟩ := h
      cases hat
      exact .inr ⟨rfl, hget, by rw [hcons]; rfl⟩
  | @found _ o hat | @start _ o hat | @finish _ o hat =>
      obtain ⟨o', stage, hat', hle⟩ := h
      cases hat'
      exact .inl ⟨o, _, hat, hle⟩
  | skip | unsetEvent => exact absurd h (not_facing_shutdown_next _ _ _)
  | _ => exact .inl h

/-- A call on its way to the list was so before the step, or the step is its `set_event`. -/
lemma unlisted_cases (hst : Event.step s a = some s') {ud : δ} (h : s'.Unlisted ud) :
    s.Unlisted ud ∨ ∃ t event, a = .setEvent t ∧ s.calls t = some ⟨ud, event, .set⟩ := by
  obtain ⟨t, c, hc, rfl, hpc, -⟩ := h
  cases came_of_step hst hc with
  | stayed hcall => exact .inl ⟨t, c, hcall, rfl, hpc, trivial⟩
  | began _ _ hpc' =>
      rw [hpc'] at hpc
      split at hpc <;> cases hpc
  | set hact hcall => exact .inr ⟨t, c.event, hact, hcall⟩
  | listed _ _ hpc' =>
      rw [hpc'] at hpc
      cases hpc

/-- A device comes onto the list by a call that was on its way to it. -/
lemma mem_eventList_cases (hst : Event.step s a = some s') {ud : δ} (h : ud ∈ s'.eventList) :
    ud ∈ s.eventList ∨ s.Unlisted ud := by
  cases step_effect hst with
  | @queued t ud' event hcall hmem =>
      rcases List.mem_append.mp h with h | h
      · exact .inl h
      · obtain rfl := List.mem_singleton.mp h
        exact .inr ⟨t, _, hcall, rfl, rfl, trivial⟩
  | pop hget hcons =>
      rw [hcons]
      exact .inl (List.mem_cons_of_mem _ h)
  | _ => exact .inl h

/-- A device whose pass does not begin stays on the list, and a call for it gets there. -/
lemma listed_of_step (hst : Event.step s a = some s') {ud : δ}
    (hpop : a = .handler → s.handler = .getEvent → s.eventList.head? ≠ some ud)
    (h : s.Unlisted ud ∨ ud ∈ s.eventList) : s'.Unlisted ud ∨ ud ∈ s'.eventList := by
  rcases h with hun | hmem
  · exact onItsWay_of_step hst hun
  · refine .inr ?_
    cases step_effect hst with
    | queued => exact List.mem_append_left _ hmem
    | pop hget hcons =>
        rw [hcons] at hmem
        rcases List.mem_cons.mp hmem with rfl | hmem
        · exact absurd (by rw [hcons]; rfl) (hpop rfl hget)
        · exact hmem
    | _ => exact hmem

/-- A pass over a device takes it off the list. -/
lemma not_mem_of_pop (hnodup : s.eventList.Nodup) (hst : Event.step s .handler = some s')
    (hget : s.handler = .getEvent) {ud : δ} (hhead : s.eventList.head? = some ud) :
    ud ∉ s'.eventList ∧ s'.calls = s.calls := by
  cases step_effect hst with
  | @pop ud' rest _ hcons =>
      rw [hcons, List.head?_cons, Option.some.injEq] at hhead
      subst hhead
      rw [hcons] at hnodup
      exact ⟨(List.nodup_cons.mp hnodup).1, rfl⟩
  | sleep _ hnil =>
      rw [hnil] at hhead
      cases hhead
  | found hat | skip hat | start hat | finish hat | unsetEvent hat | wakeUp hat =>
      rw [hget] at hat
      cases hat

/-- In `usbip_stop_eh`. -/
def StopPc.InWait (pc : StopPc ι) : Prop := pc = .waiting ∨ pc = .asleep

omit [DecidableEq ι] in
/-- `wake_up` concerns the wait of its own device, and only when it is asleep. -/
lemma wakeUp_cases (ud ud' : δ) (stop : δ → StopPc ι) :
    wakeUp ud stop ud' = stop ud' ∨ (stop ud').InWait ∧ (wakeUp ud stop ud').InWait := by
  unfold wakeUp
  cases hpc : stop ud with
  | asleep =>
      by_cases hud : ud' = ud
      · subst hud
        exact .inr ⟨.inr hpc, .inl (Function.update_self ..)⟩
      · exact .inl (Function.update_of_ne hud ..)
  | _ => exact .inl rfl

/-- What a step does to a teardown. -/
lemma stop_cases (hst : Event.step s a = some s') (ud : δ) :
    s'.stop ud = s.stop ud ∨
    (∃ t, a = .teardown t ud ∧ s.stop ud = .none ∧ s'.stop ud = .adding t) ∨
    (∃ t c, s.stop ud = .adding t ∧ s.calls t = some c ∧ c.Finished ∧ s'.stop ud = .waiting) ∨
    ((s.stop ud).InWait ∧ (s'.stop ud).InWait) ∨
    (a = .stopEhReturn ud ∧ s.stop ud = .waiting ∧ s.event ud &&& ~~~usbipEhBye = 0#64 ∧
      s'.event = s.event ∧ s'.handler = s.handler ∧ s'.stop ud = .returned) := by
  cases step_effect hst with
  | @teardown t ud' hstop =>
      by_cases hud : ud = ud'
      · subst hud
        exact .inr (.inl ⟨t, rfl, hstop, Function.update_self ..⟩)
      · exact .inl (Function.update_of_ne hud ..)
  | @stopEh ud' t c hstop hcall hpc =>
      by_cases hud : ud = ud'
      · subst hud
        exact .inr (.inr (.inl ⟨t, c, hstop, hcall, hpc, Function.update_self ..⟩))
      · exact .inl (Function.update_of_ne hud ..)
  | @stopEhSleep ud' hstop =>
      by_cases hud : ud = ud'
      · subst hud
        exact .inr (.inr (.inr (.inl ⟨.inl hstop, .inr (Function.update_self ..)⟩)))
      · exact .inl (Function.update_of_ne hud ..)
  | @wakeUp ud' =>
      rcases wakeUp_cases ud' ud s.stop with h | h
      · exact .inl h
      · exact .inr (.inr (.inr (.inl h)))
  | @stopEhReturn ud' hstop hclear =>
      by_cases hud : ud = ud'
      · subst hud
        exact .inr (.inr (.inr (.inr ⟨rfl, hstop, hclear, rfl, rfl, Function.update_self ..⟩)))
      · exact .inl (Function.update_of_ne hud ..)
  | _ => exact .inl rfl

/-- The event work comes to a device from the list. -/
lemma over_cases (hst : Event.step s a = some s') {ud : δ} (h : s'.handler.Over ud) :
    s.handler.Over ud ∨ ud ∈ s.eventList := by
  cases step_effect hst with
  | runWork | sleep | wakeUp => cases h
  | pop _ hcons =>
      rw [hcons]
      exact .inr (h ▸ List.mem_cons_self)
  | found hat | start hat | finish hat =>
      refine .inl ?_
      rw [hat]
      exact h
  | @skip _ op hat | @unsetEvent _ op hat =>
      refine .inl ?_
      rw [hat]
      cases op <;> exact h
  | _ => exact .inl h

namespace Barrier

omit [DecidableEq ι] [DecidableEq δ] in
/-- When `usbip_stop_eh` has returned, the device is not on the list and no call will put it
there. -/
lemma unlisted (hi : Barrier s) {ud : δ} (hstop : s.stop ud = .returned) :
    ¬ s.Unlisted ud ∧ ud ∉ s.eventList := by
  rcases hi.removing ud (hi.stopped ud (.inr (.inr hstop))) with ⟨hasks, -⟩ | hgone
  · exact absurd hasks (hi.clear ud hstop _)
  · exact hgone

omit [DecidableEq ι] [DecidableEq δ] in
/-- Nothing has been stopped at the start. -/
lemma start : Barrier ({} : State ι δ) where
  nodup := List.nodup_nil
  removal _ _ h := by cases h
  adding _ _ h := by cases h
  stopped _ h := by rcases h with h | h | h <;> cases h
  closed _ _ h := by cases h
  removing ud h := absurd h (by simp [Bye])
  clear _ h := by cases h
  passed _ h := by cases h

/-- A call with the BYE bit is the one that `usbip_stop_eh` waits for. -/
lemma removal_of_step (hi : Barrier s) (hone : OneTeardown a) (hst : Event.step s a = some s')
    {t : ι} {c : Call δ} (hc : s'.calls t = some c) (hbye : Bye c.event) :
    c.event = eventRemoved ∧ (c.pc = .set ∨ c.pc = .list → s'.stop c.ud = .adding t) := by
  -- the teardown of an unfinished call stays in `usbip_event_add`
  have hkeep : ∀ {c₀ : Call δ}, s.calls t = some c₀ → ¬ c₀.Finished →
      s.stop c.ud = .adding t → s'.stop c.ud = .adding t := by
    intro c₀ hcall hnot hstop
    rcases stop_cases hst c.ud with h | ⟨t', -, h, -⟩ | ⟨t', c', h, hcall', hfin, -⟩ |
      ⟨h | h, -⟩ | ⟨-, h, -⟩
    · rw [h, hstop]
    · rw [hstop] at h
      cases h
    · rw [hstop] at h
      cases h
      obtain rfl := Option.some.inj (hcall.symm.trans hcall')
      exact absurd hfin hnot
    all_goals
      rw [hstop] at h
      cases h
  cases came_of_step hst hc with
  | stayed hcall =>
      obtain ⟨hevent, hstop⟩ := hi.removal t c hcall hbye
      refine ⟨hevent, fun hpc => hkeep hcall ?_ (hstop hpc)⟩
      rintro (h | h) <;> rw [h] at hpc <;> simp at hpc
  | began hact =>
      rcases hact with rfl | ⟨rfl, hevent⟩
      · exact absurd hbye hone
      · refine ⟨hevent, fun _ => ?_⟩
        cases step_effect hst with
        | teardown => exact Function.update_self ..
  | set _ hcall hpc =>
      obtain ⟨hevent, hstop⟩ := hi.removal t _ hcall hbye
      refine ⟨hevent, fun _ => hkeep hcall ?_ (hstop (.inl rfl))⟩
      rintro (h | h) <;> cases h
  | listed _ hcall hpc =>
      refine ⟨(hi.removal t _ hcall hbye).1, fun h => ?_⟩
      rw [hpc] at h
      rcases h with h | h <;> cases h

/-- `usbip_stop_eh` adds REMOVED until the call has set its bits. -/
lemma adding_of_step (hi : Barrier s) (hst : Event.step s a = some s') {ud : δ} {t : ι}
    (hstop' : s'.stop ud = .adding t) :
    ∃ c, s'.calls t = some c ∧ c.ud = ud ∧ Bye c.event ∧ (c.pc ≠ .set → Bye (s'.event ud)) := by
  rcases stop_cases hst ud with h | ⟨t', rfl, -, h⟩ | ⟨_, _, _, _, _, h⟩ | ⟨-, h | h⟩ |
    ⟨_, _, _, _, _, h⟩
  · obtain ⟨c₀, hc₀, rfl, hbye, hpc₀⟩ := hi.adding ud t (h.symm.trans hstop')
    obtain ⟨c, hc, hud, hevent, hpc⟩ := bye_of_call hst hc₀ hbye hpc₀
    exact ⟨c, hc, hud, hevent ▸ hbye, hud ▸ hpc⟩
  · rw [hstop'] at h
    cases h
    cases step_effect hst with
    | teardown hstop hnew =>
        refine ⟨_, Function.update_self .., rfl, bye_eventRemoved, fun hpc => ?_⟩
        by_contra hbye
        exact hpc (if_neg hbye)
  all_goals
    rw [hstop'] at h
    cases h

/-- Behind its call `usbip_stop_eh` finds the BYE bit set. -/
lemma stopped_of_step (hi : Barrier s) (hst : Event.step s a = some s') {ud : δ}
    (hstop' : s'.stop ud = .waiting ∨ s'.stop ud = .asleep ∨ s'.stop ud = .returned) :
    Bye (s'.event ud) := by
  refine bye_of_step hst ?_
  rcases stop_cases hst ud with h | ⟨t, -, -, h⟩ | ⟨t, c, hstop, hcall, hfin, -⟩ |
    ⟨hstop | hstop, -⟩ | ⟨-, hstop, -⟩
  · exact hi.stopped ud (h ▸ hstop')
  · rw [h] at hstop'
    rcases hstop' with h | h | h <;> cases h
  · obtain ⟨c', hc', -, -, hbye⟩ := hi.adding ud t hstop
    obtain rfl := Option.some.inj (hc'.symm.trans hcall)
    refine hbye ?_
    rcases hfin with h | h <;> simp [h]
  · exact hi.stopped ud (.inl hstop)
  · exact hi.stopped ud (.inr (.inl hstop))
  · exact hi.stopped ud (.inl hstop)

/-- Once the BYE bit is set no other call for the device is on its way. -/
lemma closed_of_step (hi : Barrier s) (hset : Settled s a) (hst : Event.step s a = some s')
    {t : ι} {c : Call δ} (hc : s'.calls t = some c) (hbye : Bye (s'.event c.ud)) :
    c.pc ≠ .set ∧ (c.pc = .list → Bye c.event) := by
  rcases bye_cases hst hbye with hold | ⟨t₀, event, rfl, hcall₀, hevent⟩
  · cases came_of_step hst hc with
    | stayed hcall => exact hi.closed t c hcall hold
    | began _ _ hpc => simp [hpc, hold]
    | set _ hcall => exact absurd rfl (hi.closed t _ hcall hold).1
    | listed _ _ hpc => simp [hpc]
  · -- the teardown sets its bits, and every other call for the device is finished
    obtain ⟨hfin, -⟩ := hset _ hcall₀ hevent
    cases came_of_step hst hc with
    | stayed hcall =>
        by_cases ht : t = t₀
        · subst ht
          have hpc : c.pc = .set := congrArg Call.pc (Option.some.inj (hcall.symm.trans hcall₀))
          cases step_effect hst with
          | setEvent hcall' =>
              have hcc := Option.some.inj (hc.symm.trans (Function.update_self ..))
              rw [hcc] at hpc
              cases hpc
        · rcases hfin t c hcall rfl ht with h | h <;> simp [h]
    | began hact => rcases hact with h | ⟨h, -⟩ <;> cases h
    | set hact hcall hpc =>
        cases hact
        obtain ⟨-, rfl, -⟩ := Call.mk.inj (Option.some.inj (hcall.symm.trans hcall₀))
        exact ⟨by simp [hpc], fun _ => hevent⟩
    | listed hact => cases hact

/-- The BYE bit is set by `usbip_stop_eh` alone. -/
lemma removing_of_step (hi : Barrier s) (hset : Settled s a) (hst : Event.step s a = some s')
    {ud : δ} (hbye : Bye (s'.event ud)) : s'.Removing ud := by
  rcases bye_cases hst hbye with hold | ⟨t, event, rfl, hcall, hevent⟩
  · rcases hi.removing ud hold with ⟨hasks, hface, hway⟩ | ⟨hun, hmem⟩
    · by_cases hpop : a = .handler ∧ s.handler = .getEvent ∧ s.eventList.head? = some ud
      · -- the pass that will clear the bit begins after the teardown has been to the list
        obtain ⟨rfl, hget, hhead⟩ := hpop
        obtain ⟨hnot, hcalls⟩ := not_mem_of_pop hi.nodup hst hget hhead
        refine .inr ⟨?_, hnot⟩
        rintro ⟨t, c, hc, rfl, hpc, -⟩
        rw [hcalls] at hc
        exact hset hget t c hc ((hi.closed t c hc hold).2 hpc) hpc hhead
      · refine .inl ⟨asks_step_of_not_facing hst hface hasks, fun hface' => ?_, ?_⟩
        · rcases facing_shutdown_cases hst hface' with h | h
          · exact hface h
          · exact hpop h
        · exact listed_of_step hst (fun ha hget hhead => hpop ⟨ha, hget, hhead⟩) hway
    · refine .inr ⟨fun hun' => ?_, fun hmem' => ?_⟩
      · rcases unlisted_cases hst hun' with h | ⟨t, event, -, hcall⟩
        · exact hun h
        · exact (hi.closed t _ hcall hold).1 rfl
      · rcases mem_eventList_cases hst hmem' with h | h
        · exact hmem h
        · exact hun h
  · obtain ⟨-, hface⟩ := hset _ hcall hevent
    obtain ⟨hremoved, -⟩ := hi.removal t _ hcall hevent
    cases step_effect hst with
    | setEvent hcall' =>
        obtain ⟨rfl, rfl, -⟩ := Call.mk.inj (Option.some.inj (hcall.symm.trans hcall'))
        refine .inl ⟨asks_update_or.mpr (.inr ⟨rfl, ?_⟩), hface, .inl ?_⟩
        · have hevent : event = eventRemoved := hremoved
          rw [hevent]
          exact asks_eventRemoved
        · exact ⟨t, _, Function.update_self .., rfl, rfl, trivial⟩

/-- Once `usbip_stop_eh` has returned nothing is asked for. -/
lemma clear_of_step (hi : Barrier s) (hst : Event.step s a = some s') {ud : δ}
    (hstop' : s'.stop ud = .returned) (op : EhOp) : ¬ Asks (s'.event ud) op := by
  rcases stop_cases hst ud with h | ⟨t, -, -, h⟩ | ⟨_, _, _, _, _, h⟩ | ⟨-, h | h⟩ |
    ⟨-, -, hclear, hevent, -⟩
  · have hstop : s.stop ud = .returned := h ▸ hstop'
    intro hasks
    refine hi.clear ud hstop op (asks_of_asks_step hst (fun t event hcall => ?_) hasks)
    exact (hi.closed t _ hcall (hi.stopped ud (.inr (.inr hstop)))).1 rfl
  · rw [hstop'] at h
    cases h
  · rw [hstop'] at h
    cases h
  · rw [hstop'] at h
    cases h
  · rw [hstop'] at h
    cases h
  · rw [hevent]
    exact not_asks_of_clear hclear op

/-- The event work comes to a device only from the list. -/
lemma passed_of_step (hi : Barrier s) (hset : Settled s a) (hst : Event.step s a = some s') {ud : δ}
    (hstop' : s'.stop ud = .returned) : ¬ s'.handler.Over ud := by
  rcases stop_cases hst ud with h | ⟨t, -, -, h⟩ | ⟨_, _, _, _, _, h⟩ | ⟨-, h | h⟩ |
    ⟨rfl, -, -, -, hhandler, -⟩
  · have hstop : s.stop ud = .returned := h ▸ hstop'
    intro hover
    rcases over_cases hst hover with hold | hmem
    · exact hi.passed ud hstop hold
    · exact (hi.unlisted hstop).2 hmem
  · rw [hstop'] at h
    cases h
  · rw [hstop'] at h
    cases h
  · rw [hstop'] at h
    cases h
  · rw [hstop'] at h
    cases h
  · rw [hhandler]
    exact hset

/-- Every step keeps the barrier, when each device is removed once and its calls have settled. -/
theorem step (hi : Barrier s) (hone : OneTeardown a) (hset : Settled s a)
    (hst : Event.step s a = some s') : Barrier s' where
  nodup := nodup_of_step hi.nodup hst
  removal _ _ := hi.removal_of_step hone hst
  adding _ _ := hi.adding_of_step hst
  stopped _ := hi.stopped_of_step hst
  closed _ _ := hi.closed_of_step hset hst
  removing _ := hi.removing_of_step hset hst
  clear _ := hi.clear_of_step hst
  passed _ := hi.passed_of_step hset hst

omit [DecidableEq ι] [DecidableEq δ] in
/-- When `usbip_stop_eh` has returned, nothing in the event code has the device any more. -/
lemma gone (hi : Barrier s) {ud : δ} (hstop : s.stop ud = .returned) : s.MayFree ud where
  unlisted := (hi.unlisted hstop).2
  passed := hi.passed ud hstop
  finished := by
    intro t c hc hud
    obtain ⟨hset, hlist⟩ := hi.closed t c hc (hud ▸ hi.stopped ud (.inr (.inr hstop)))
    cases hpc : c.pc with
    | set => exact absurd hpc hset
    | list => exact absurd ⟨t, c, hc, hud, hpc, trivial⟩ (hi.unlisted hstop).1
    | done => exact .inl hpc
    | refused => exact .inr hpc

end Barrier

/-- `usbip_stop_eh` has returned for good. -/
lemma returned_of_run {ok : State ι δ → Action ι δ → Prop} (h : machine.Run ok s s') {ud : δ}
    (hstop : s.stop ud = .returned) : s'.stop ud = .returned := by
  refine h.preserves (I := fun s => s.stop ud = .returned) (fun s a t hs _ hst => ?_) hstop
  rcases stop_cases hst ud with h | ⟨_, _, h, _⟩ | ⟨_, _, h, _⟩ | ⟨h | h, _⟩ | ⟨_, h, _⟩
  · rw [h, hs]
  all_goals
    rw [hs] at h
    cases h

/-- In every run in which the teardown finds the device settled, from the return of
`usbip_stop_eh` on the device is not on `event_list`, the event work is not at it and no call is
at it, so that it may be freed. -/
theorem stop_eh_barrier (h : machine.Reach (fun s a => OneTeardown a ∧ Settled s a) s) {ud : δ}
    (hstop : s.stop ud = .returned)
    (hrun : machine.Run (fun s a => OneTeardown a ∧ Settled s a) s s') : s'.MayFree ud := by
  have hi : Barrier s' := by
    refine (h.run hrun).invariant (I := Barrier) ?_ ?_
    · rintro s rfl
      exact .start
    · rintro s a t hi ⟨hone, hset⟩ hst
      exact hi.step hone hset hst
  exact hi.gone (returned_of_run hrun hstop)

/-- Device 0 is removed after the connection has been ended by an earlier event. -/
def removedRun : List (Action (Fin 2) Nat) := List.flatten [
  [.add 0 0 eventDown, .setEvent 0, .addToList 0, .runWork],
  List.replicate 12 .handler,
  [.teardown 1 0, .setEvent 1, .addToList 1, .runWork, .stopEh 0, .stopEhSleep 0],
  List.replicate 8 .handler,        -- up to `wake_up`
  [.stopEhReturn 0]]

/-- A device that is removed while another one is handled. -/
theorem stop_eh_barrier_removedRun :
    ∃ s : State (Fin 2) Nat, machine.Reach (fun s a => OneTeardown a ∧ Settled s a) s ∧
      s.stop 0 = .returned ∧ ∀ s', machine.Run (fun s a => OneTeardown a ∧ Settled s a) s s' →
        s'.MayFree 0 := by
  have hrun : ∃ s : State (Fin 2) Nat,
      machine.Reach (fun s a => OneTeardown a ∧ Settled s a) s ∧ s.stop 0 = .returned := by
    apply Machine.Reach.of_perform removedRun (s := {}) rfl
    decide +kernel
  obtain ⟨s, hs, hstop⟩ := hrun
  exact ⟨s, hs, hstop, fun s' hrun => stop_eh_barrier hs hstop hrun⟩

/-- The teardown sets its bits while the event work is in a pass over the device for an earlier
event. -/
def earlyRun : List (Action (Fin 2) Nat) := List.flatten [
  [.add 0 0 eventDown, .setEvent 0, .addToList 0, .runWork, .handler,
   .teardown 1 0, .setEvent 1, .addToList 1, .stopEh 0],
  List.replicate 9 .handler,        -- the pass clears the bits of both events
  [.stopEhReturn 0]]

/-- The wait ends with the device on the list, from where the event work takes it once more. -/
theorem stop_eh_too_early :
    ∃ s : State (Fin 2) Nat, machine.Reach (fun _ a => OneTeardown a) s ∧
      s.stop 0 = .returned ∧ 0 ∈ s.eventList := by
  apply Machine.Reach.of_perform earlyRun (s := {}) rfl
  decide +kernel

/-- The wait looks at the bits for the first time when the pass has cleared the SHUTDOWN bit. -/
def passRun : List (Action (Fin 2) Nat) := List.flatten [
  [.teardown 1 0, .setEvent 1, .addToList 1, .runWork],
  List.replicate 5 .handler,        -- the SHUTDOWN bit is clear
  [.stopEh 0, .stopEhReturn 0]]

/-- The wait ends with the event work at the device, whose RESET bit it tests next. -/
theorem stop_eh_during_pass :
    ∃ s : State (Fin 2) Nat, machine.Reach (fun _ a => OneTeardown a) s ∧
      s.stop 0 = .returned ∧ 0 ∉ s.eventList ∧ s.handler = .at 0 .reset .test := by
  apply Machine.Reach.of_perform passRun (s := {}) rfl
  decide +kernel

end Usbip.Event
