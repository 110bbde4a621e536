import Usbip.Event.Machine

/-!
# What a step of the event machine does

`Effect s a t` lists what the actions can do, one constructor for each way a step can end, and
`step_effect` says that this is all they do.  The invariants of the event machine go by cases on
it.
-/

namespace Usbip.Event

open Usbip.Core

variable {ι δ : Type*} [DecidableEq δ]

section

variable {event : δ → BitVec 64} {ud ud' : δ} {bits : BitVec 64} {op o : EhOp}

/-- The bits of a device after `set_event` on another or the same device. -/
lemma asks_update_or :
    Asks (Function.update event ud' (event ud' ||| bits) ud) op ↔
      Asks (event ud) op ∨ ud = ud' ∧ Asks bits op := by
  by_cases hud : ud = ud'
  · subst hud
    simp
  · simp [hud]

/-- The bits of a device after `unset_event` on another or the same device. -/
lemma asks_update_and_not :
    Asks (Function.update event ud' (event ud' &&& ~~~o.bit) ud) op ↔
      Asks (event ud) op ∧ ¬ (ud = ud' ∧ op = o) := by
  by_cases hud : ud = ud'
  · subst hud
    simp
  · simp [hud]

/-- Who has BYE after an event was added to one device. -/
lemma bye_update_or :
    Bye (Function.update event ud' (event ud' ||| bits) ud) ↔
      Bye (event ud) ∨ ud = ud' ∧ Bye bits := by
  by_cases hud : ud = ud'
  · subst hud
    simp
  · simp [hud]

/-- Clearing the bit of an operation keeps BYE everywhere. -/
lemma bye_update_and_not :
    Bye (Function.update event ud' (event ud' &&& ~~~o.bit) ud) ↔ Bye (event ud) := by
  by_cases hud : ud = ud'
  · subst hud
    simp
  · simp [hud]

end

/-- When the wait is over no bit asks for an operation. -/
lemma not_asks_of_clear {event : BitVec 64} (h : event &&& ~~~usbipEhBye = 0#64) (op : EhOp) :
    ¬ Asks event op := by
  intro hasks
  have hbit := congrArg (fun x => BitVec.getLsbD x op.shift) h
  have hbye : usbipEhBye = BitVec.twoPow 64 1 := rfl
  have hne : 1 ≠ op.shift := by cases op <;> decide
  simp only [BitVec.getLsbD_and, (asks_iff event op).mp hasks, hbye, BitVec.getLsbD_not,
    BitVec.getLsbD_twoPow, op.shift_lt, hne, BitVec.getLsbD_zero] at hbit
  simp at hbit

variable [DecidableEq ι]

/-- What a step from `s` can do. -/
inductive Effect (s : State ι δ) : Action ι δ → State ι δ → Prop
  | add {t : ι} {ud : δ} {event : BitVec 64} (hnew : s.calls t = none) :
      Effect s (.add t ud event) { s with
        calls := Function.update s.calls t
          (some ⟨ud, event, if Bye (s.event ud) then .refused else .set⟩) }
  | teardown {t : ι} {ud : δ} (hstop : s.stop ud = .none) (hnew : s.calls t = none) :
      Effect s (.teardown t ud) { s with
        calls := Function.update s.calls t
          (some ⟨ud, eventRemoved, if Bye (s.event ud) then .refused else .set⟩)
        stop := Function.update s.stop ud (.adding t) }
  | setEvent {t : ι} {ud : δ} {event : BitVec 64} (hcall : s.calls t = some ⟨ud, event, .set⟩) :
      Effect s (.setEvent t) { s with
        event := Function.update s.event ud (s.event ud ||| event)
        calls := Function.update s.calls t (some ⟨ud, event, .list⟩) }
  | listed {t : ι} {ud : δ} {event : BitVec 64} (hcall : s.calls t = some ⟨ud, event, .list⟩)
      (hmem : ud ∈ s.eventList) :
      Effect s (.addToList t) { s with
        calls := Function.update s.calls t (some ⟨ud, event, .done⟩) }
  | queued {t : ι} {ud : δ} {event : BitVec 64} (hcall : s.calls t = some ⟨ud, event, .list⟩)
      (hmem : ud ∉ s.eventList) :
      Effect s (.addToList t) { s with
        calls := Function.update s.calls t (some ⟨ud, event, .done⟩)
        eventList := s.eventList ++ [ud]
        pending := true }
  | runWork (hidle : s.handler = .idle) (hpending : s.pending = true) :
      Effect s .runWork { s with handler := .getEvent, pending := false }
  | sleep (hget : s.handler = .getEvent) (hnil : s.eventList = []) :
      Effect s .handler { s with handler := .idle }
  | pop {ud : δ} {rest : List δ} (hget : s.handler = .getEvent)
      (hcons : s.eventList = ud :: rest) :
      Effect s .handler { s with eventList := rest, handler := .at ud .shutdown .test }
  | found {ud : δ} {op : EhOp} (hat : s.handler = .at ud op .test) (hasks : Asks (s.event ud) op) :
      Effect s .handler { s with handler := .at ud op .call }
  | skip {ud : δ} {op : EhOp} (hat : s.handler = .at ud op .test)
      (hasks : ¬ Asks (s.event ud) op) :
      Effect s .handler { s with handler := op.next ud }
  | start {ud : δ} {op : EhOp} (hat : s.handler = .at ud op .call) :
      Effect s .handler { s with handler := .at ud op .running }
  | finish {ud : δ} {op : EhOp} (hat : s.handler = .at ud op .running) :
      Effect s .handler { s with handler := .at ud op .clear }
  | unsetEvent {ud : δ} {op : EhOp} (hat : s.handler = .at ud op .clear) :
      Effect s .handler { s with
        event := Function.update s.event ud (s.event ud &&& ~~~op.bit)
        handler := op.next ud }
  | wakeUp {ud : δ} (hat : s.handler = .wakeUp ud) :
      Effect s .handler { s with handler := .getEvent, stop := wakeUp ud s.stop }
  | stopEh {ud : δ} {t : ι} {c : Call δ} (hstop : s.stop ud = .adding t)
      (hcall : s.calls t = some c) (hpc : c.pc = .done ∨ c.pc = .refused) :
      Effect s (.stopEh ud) { s with stop := Function.update s.stop ud .waiting }
  | stopEhSleep {ud : δ} (hstop : s.stop ud = .waiting)
      (hset : s.event ud &&& ~~~usbipEhBye ≠ 0#64) :
      Effect s (.stopEhSleep ud) { s with stop := Function.update s.stop ud .asleep }
  | stopEhReturn {ud : δ} (hstop : s.stop ud = .waiting)
      (hclear : s.event ud &&& ~~~usbipEhBye = 0#64) :
      Effect s (.stopEhReturn ud) { s with stop := Function.update s.stop ud .returned }

variable {s s' : State ι δ} {a : Action ι δ}

omit [DecidableEq δ] in
/-- A call begins where there was none. -/
lemma beginAdd_eq_some {t : ι} {ud : δ} {event : BitVec 64} (h : beginAdd t ud event s = some s') :
    s.calls t = none ∧ s' = { s with
      calls := Function.update s.calls t
        (some ⟨ud, event, if Bye (s.event ud) then .refused else .set⟩) } := by
  unfold beginAdd at h
  split at h
  · cases h
  · next hnew => exact ⟨hnew, (Option.some.inj h).symm⟩

/-- What a step of the handler does. -/
lemma eventHandler_effect (h : eventHandler s = some s') : Effect s .handler s' := by
  unfold eventHandler at h
  split at h
  · cases h
  · next hget =>
    split at h
    · next hnil => exact Option.some.inj h ▸ .sleep hget hnil
    · next ud rest hcons => exact Option.some.inj h ▸ .pop hget hcons
  · next ud op hat =>
    by_cases hasks : Asks (s.event ud) op
    · rw [if_pos hasks] at h
      exact Option.some.inj h ▸ .found hat hasks
    · rw [if_neg hasks] at h
      exact Option.some.inj h ▸ .skip hat hasks
  · next hat => exact Option.some.inj h ▸ .start hat
  · next hat => exact Option.some.inj h ▸ .finish hat
  · next hat => exact Option.some.inj h ▸ .unsetEvent hat
  · next hat => exact Option.some.inj h ▸ .wakeUp hat

/-- Every step has one of the effects. -/
theorem step_effect (h : step s a = some s') : Effect s a s' := by
  cases a with
  | add t ud event =>
      obtain ⟨hnew, rfl⟩ := beginAdd_eq_some h
      exact .add hnew
  | setEvent t =>
      simp only [step, setEvent] at h
      split at h
      · next hcall => exact Option.some.inj h ▸ .setEvent hcall
      · cases h
  | addToList t =>
      simp only [step, addToList] at h
      split at h
      · next ud event hcall =>
        by_cases hmem : ud ∈ s.eventList
        · rw [if_pos hmem] at h
          exact Option.some.inj h ▸ .listed hcall hmem
        · rw [if_neg hmem] at h
          exact Option.some.inj h ▸ .queued hcall hmem
      · cases h
  | runWork =>
      simp only [step] at h
      split at h
      · next hidle hpending => exact Option.some.inj h ▸ .runWork hidle hpending
      · cases h
  | handler => exact eventHandler_effect h
  | teardown t ud =>
      simp only [step] at h
      split at h
      · next hstop =>
        obtain ⟨s₁, h₁, rfl⟩ := Option.map_eq_some_iff.mp h
        obtain ⟨hnew, rfl⟩ := beginAdd_eq_some h₁
        exact .teardown hstop hnew
      · cases h
  | stopEh ud =>
      simp only [step] at h
      split at h
      · next t hstop =>
        split at h
        · next hcall => exact Option.some.inj h ▸ .stopEh hstop hcall (.inl rfl)
        · next hcall => exact Option.some.inj h ▸ .stopEh hstop hcall (.inr rfl)
        · cases h
      · cases h
  | stopEhSleep ud =>
      simp only [step] at h
      split at h
      · next hstop =>
        split at h
        · cases h
        · next hset => exact Option.some.inj h ▸ .stopEhSleep hstop hset
      · cases h
  | stopEhReturn ud =>
      simp only [step] at h
      split at h
      · next hstop =>
        split at h
        · next hclear => exact Option.some.inj h ▸ .stopEhReturn hstop hclear
        · cases h
      · cases h

/-- A device is never on `event_list` twice. -/
theorem nodup_of_step (hnodup : s.eventList.Nodup) (h : step s a = some s') :
    s'.eventList.Nodup := by
  cases step_effect h with
  | queued hcall hmem =>
      exact hnodup.append (List.nodup_singleton _) (List.disjoint_singleton.mpr hmem)
  | pop hget hcons =>
      rw [hcons] at hnodup
      exact hnodup.of_cons
  | _ => exact hnodup

/-- How a call has come to its position. -/
inductive Came (s : State ι δ) (a : Action ι δ) (s' : State ι δ) (t : ι) (c : Call δ) : Prop
  /-- It was there before the step. -/
  | stayed (hcall : s.calls t = some c)
  | began (hact : a = .add t c.ud c.event ∨ a = .teardown t c.ud ∧ c.event = eventRemoved)
      (hnew : s.calls t = none) (hpc : c.pc = if Bye (s.event c.ud) then .refused else .set)
  | set (hact : a = .setEvent t) (hcall : s.calls t = some { c with pc := .set })
      (hpc : c.pc = .list) (hevent : s'.event c.ud = s.event c.ud ||| c.event)
      (hhandler : s'.handler = s.handler)
  | listed (hact : a = .addToList t) (hcall : s.calls t = some { c with pc := .list })
      (hpc : c.pc = .done) (hmem : c.ud ∈ s'.eventList) (hevent : s'.event = s.event)
      (hhandler : s'.handler = s.handler)

omit [DecidableEq δ] in
/-- A step that moves the call `t'` leaves the others where they were. -/
lemma came_of_update {t t' : ι} {c c' : Call δ} (hc : s'.calls t = some c)
    (hcalls : s'.calls = Function.update s.calls t' (some c'))
    (hself : t = t' → c = c' → Came s a s' t c) : Came s a s' t c := by
  by_cases ht : t = t'
  · have hcall := hc
    rw [hcalls, ht, Function.update_self, Option.some.injEq] at hcall
    exact hself ht hcall.symm
  · rw [hcalls, Function.update_of_ne ht] at hc
    exact .stayed hc

/-- A call is where it was before the step, or the step is one of its own. -/
theorem came_of_step (h : step s a = some s') {t : ι} {c : Call δ} (hc : s'.calls t = some c) :
    Came s a s' t c := by
  cases step_effect h with
  | add hnew =>
      refine came_of_update hc rfl ?_
      rintro rfl rfl
      exact .began (.inl rfl) hnew rfl
  | teardown hstop hnew =>
      refine came_of_update hc rfl ?_
      rintro rfl rfl
      exact .began (.inr ⟨rfl, rfl⟩) hnew rfl
  | setEvent hcall =>
      refine came_of_update hc rfl ?_
      rintro rfl rfl
      exact .set rfl hcall rfl (Function.update_self ..) rfl
  | listed hcall hmem =>
      refine came_of_update hc rfl ?_
      rintro rfl rfl
      exact .listed rfl hcall rfl hmem rfl rfl
  | queued hcall hmem =>
      refine came_of_update hc rfl ?_
      rintro rfl rfl
      exact .listed rfl hcall rfl (List.mem_append_right _ List.mem_cons_self) rfl rfl
  | _ => exact .stayed hc

/-- `USBIP_EH_BYE` is never cleared. -/
lemma bye_of_step (hst : step s a = some s') {ud : δ} (h : Bye (s.event ud)) :
    Bye (s'.event ud) := by
  cases step_effect hst with
  | setEvent => exact bye_update_or.mpr (.inl h)
  | unsetEvent => exact bye_update_and_not.mpr h
  | _ => exact h

/-- A call goes on in its place, with its device and its bits. -/
lemma calls_of_step (hst : step s a = some s') {t : ι} {c : Call δ}
    (hc : s.calls t = some c) : ∃ c', s'.calls t = some c' ∧ c'.ud = c.ud ∧ c'.event = c.event := by
  have hupdate : ∀ {t' : ι} {c₁ : Call δ}, s'.calls = Function.update s.calls t' (some c₁) →
      (t = t' → c₁.ud = c.ud ∧ c₁.event = c.event) →
      ∃ c', s'.calls t = some c' ∧ c'.ud = c.ud ∧ c'.event = c.event := by
    intro t' c₁ hcalls hself
    by_cases ht : t = t'
    · refine ⟨c₁, ?_, hself ht⟩
      rw [hcalls, ht, Function.update_self]
    · refine ⟨c, ?_, rfl, rfl⟩
      rw [hcalls, Function.update_of_ne ht, hc]
  cases step_effect hst with
  | add hnew | teardown _ hnew =>
      refine hupdate rfl ?_
      rintro rfl
      rw [hnew] at hc
      cases hc
  | setEvent hcall | listed hcall | queued hcall =>
      refine hupdate rfl ?_
      rintro rfl
      obtain rfl := Option.some.inj (hc.symm.trans hcall)
      exact ⟨rfl, rfl⟩
  | _ => exact ⟨c, hc, rfl, rfl⟩

/-- A call with `USBIP_EH_BYE` among its bits has set it when it is past its `set_event`. -/
lemma bye_of_call (hst : step s a = some s') {t : ι} {c₀ : Call δ} (hc₀ : s.calls t = some c₀)
    (hbye : Bye c₀.event) (hset₀ : c₀.pc ≠ .set → Bye (s.event c₀.ud)) :
    ∃ c, s'.calls t = some c ∧ c.ud = c₀.ud ∧ c.event = c₀.event ∧
      (c.pc ≠ .set → Bye (s'.event c.ud)) := by
  obtain ⟨c, hc, hud, hevent⟩ := calls_of_step hst hc₀
  refine ⟨c, hc, hud, hevent, fun hpc => ?_⟩
  cases came_of_step hst hc with
  | stayed hcall =>
      obtain rfl := Option.some.inj (hc₀.symm.trans hcall)
      exact bye_of_step hst (hset₀ hpc)
  | began _ hnew =>
      rw [hnew] at hc₀
      cases hc₀
  | set _ _ _ hset =>
      rw [hset, bye_or]
      exact .inr (hevent ▸ hbye)
  | listed _ hcall =>
      obtain rfl := Option.some.inj (hc₀.symm.trans hcall)
      exact bye_of_step hst (hset₀ (by simp))

end Usbip.Event
