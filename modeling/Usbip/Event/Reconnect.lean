import Usbip.Event.Connection

/-!
# What is left of the connection before

`event_handler` clears the RESET bit after the reset operation, which has made the device free
already; a call of `usbip_event_add` that has been made for a connection can set its bits at
any later time; and in the vudc `USBIP_EH_BYE` of a gadget that was pulled down stays set until the
next one's `usbip_start_eh`, which comes after `udc->pullup`.  A new connection that falls into the
first window or the third, or comes before the second, finds bits of the old one and ends
(`old_event_ends_connection`).  Outside these windows both threads start with no bit set for another
connection (`connection_starts_clean`).
-/

namespace Usbip.Event

open Usbip.Core Usbip.Common

variable {ι δ : Type*} [DecidableEq ι] [DecidableEq δ] {d : Driver} {s s' : Conn ι δ}
  {a : ConnAction ι δ}

/-! ## The condition -/

/-- The event work is past the SHUTDOWN bit of the device and not at the end of a reset operation
that it will run with these bits. -/
def HandlerPc.Resetting (pc : HandlerPc δ) (ud : δ) (event : BitVec 64) : Prop :=
  ∃ stage, stage ≠ .clear ∧ pc = .at ud .reset stage ∧ (stage = .test → Asks event .reset)

instance (pc : HandlerPc δ) (ud : δ) (event : BitVec 64) : Decidable (pc.Resetting ud event) := by
  unfold HandlerPc.Resetting
  infer_instance

/-- The device is not connected while `USBIP_EH_BYE` is set, nor between the return of the reset
operation and the clearing of its bit, nor while the pass has still to mark it unusable.  A call
does not set its bits between the SHUTDOWN bit and the end of a reset operation, nor on a free
device whose connection has been reset, unless the device is being removed; and a call made for a
connection does not set its bits when the next one is about to start its threads. -/
def Undisturbed (d : Driver) (s : Conn ι δ) : ConnAction ι δ → Prop
  | .check ud =>
      ¬ Bye (s.ev.event ud) ∧ s.ev.handler ≠ .at ud .reset .clear ∧
        (Asks (s.ev.event ud) .unusable → ∀ stage, s.ev.handler ≠ .at ud .unusable stage)
  | .setEvent t => ∀ c ∈ s.ev.calls t,
      ((s.presence c.ud).Settled = true →
        ¬ s.ev.handler.Resetting c.ud (s.ev.event c.ud ||| c.event) ∧
          (s.ended c.ud = true → s.status c.ud ≠ d.free)) ∧
      (s.madeFor t < s.conn c.ud → ¬ (s.store c.ud).Starting)
  | _ => True

instance (d : Driver) (s : Conn ι δ) (a : ConnAction ι δ) : Decidable (Undisturbed d s a) := by
  unfold Undisturbed
  split <;> infer_instance

/-! ## Steps -/

omit [DecidableEq ι] [DecidableEq δ] in
/-- The operations asked for are listed. -/
@[simp] lemma mem_asked {event : BitVec 64} {op : EhOp} : op ∈ asked event ↔ Asks event op := by
  cases op <;> simp [asked]

/-- The next position of the event work, when it neither returns from an operation nor clears a
bit. -/
inductive Moves (s : State ι δ) : HandlerPc δ → Prop
  | runWork (hidle : s.handler = .idle) : Moves s .getEvent
  | sleep (hget : s.handler = .getEvent) : Moves s .idle
  | pop {ud : δ} (hget : s.handler = .getEvent) : Moves s (.at ud .shutdown .test)
  | found {ud : δ} {op : EhOp} (hat : s.handler = .at ud op .test)
      (hasks : Asks (s.event ud) op) : Moves s (.at ud op .call)
  | skip {ud : δ} {op : EhOp} (hat : s.handler = .at ud op .test)
      (hasks : ¬ Asks (s.event ud) op) : Moves s (op.next ud)
  | start {ud : δ} {op : EhOp} (hat : s.handler = .at ud op .call) : Moves s (.at ud op .running)
  | wakeUp {ud : δ} (hat : s.handler = .wakeUp ud) : Moves s .getEvent

/-- What a step can do to the device and its bits. -/
inductive ConnEffect (d : Driver) (s : Conn ι δ) : ConnAction ι δ → Conn ι δ → Prop
  | add {t : ι} {ud : δ} {c : Nat} {cause : Cause} {ev : State ι δ} (hle : c ≤ s.conn ud)
      (hnew : s.ev.calls t = none) (hev : Event.step s.ev (.add t ud cause.event) = some ev)
      (hevent : ev.event = s.ev.event) (hhandler : ev.handler = s.ev.handler) :
      ConnEffect d s (.add t ud c cause)
        { s with ev, madeFor := Function.update s.madeFor t c }
  | setEvent {t : ι} {c : Call δ} {ev : State ι δ} (hcall : s.ev.calls t = some c)
      (hev : Event.step s.ev (.setEvent t) = some ev)
      (hevent : ev.event = Function.update s.ev.event c.ud (s.ev.event c.ud ||| c.event))
      (hhandler : ev.handler = s.ev.handler) :
      ConnEffect d s (.setEvent t) { s with
        ev
        setBy := Function.update s.setBy c.ud
          (s.setBy c.ud ++ (asked c.event).map fun op => (s.madeFor t, op))
        byeBy := Function.update s.byeBy c.ud
          (s.byeBy c.ud ++ if Bye c.event then [s.madeFor t] else []) }
  | addToList {t : ι} {ev : State ι δ} (hev : Event.step s.ev (.addToList t) = some ev)
      (hevent : ev.event = s.ev.event) (hhandler : ev.handler = s.ev.handler) :
      ConnEffect d s (.addToList t) { s with ev }
  | moves {a : ConnAction ι δ} {a' : Action ι δ} {ev : State ι δ}
      (hev : Event.step s.ev a' = some ev) (hcalls : ev.calls = s.ev.calls)
      (hevent : ev.event = s.ev.event) (hmoves : Moves s.ev ev.handler) :
      ConnEffect d s a { s with ev }
  | opReturn {ok : Bool} {ud : δ} {op : EhOp} (hat : s.ev.handler = .at ud op .running) :
      ConnEffect d s (.handler ok)
        (opReturn d ok ud op { s with ev := { s.ev with handler := .at ud op .clear } })
  | unsetEvent {ok : Bool} {ud : δ} {op : EhOp} (hat : s.ev.handler = .at ud op .clear) :
      ConnEffect d s (.handler ok) { s with
        ev := { s.ev with
          event := Function.update s.ev.event ud (s.ev.event ud &&& ~~~op.bit)
          handler := op.next ud }
        setBy := Function.update s.setBy ud ((s.setBy ud).filter (·.2 ≠ op)) }
  | check {ud : δ} (hidle : s.store ud = .idle) (hopen : (s.presence ud).Open)
      (hfree : s.status ud = d.free) :
      ConnEffect d s (.check ud) { s with
        status := if d = .vhci then Function.update s.status ud .vdevNotassigned else s.status
        store := Function.update s.store ud .linked
        conn := Function.update s.conn ud (s.conn ud + 1)
        ended := Function.update s.ended ud false }
  | startRx {ud : δ} (hstore : s.store ud = .linked) :
      ConnEffect d s (.startRx ud) { s with store := Function.update s.store ud .rxStarted }
  | startTx {ud : δ} (hstore : s.store ud = .rxStarted) :
      ConnEffect d s (.startTx ud) { s with store := Function.update s.store ud .txStarted }
  | finishStore {ud : δ} (hstore : s.store ud = .txStarted) :
      ConnEffect d s (.finishStore ud) (storeFinish d ud s)
  | remove {t : ι} {ud : δ} {ev : State ι δ} (hopen : (s.presence ud).Open)
      (hev : Event.step s.ev (.add t ud d.removed) = some ev)
      (hevent : ev.event = s.ev.event) (hhandler : ev.handler = s.ev.handler) :
      ConnEffect d s (.remove t ud) { s with
        ev
        presence := Function.update s.presence ud (.leaving t)
        madeFor := Function.update s.madeFor t (s.conn ud) }
  | stopEhReturn {ud : δ} {t : ι} {c : Call δ} {signal waited : Bool}
      (hleaving : s.presence ud = .leaving t) (hcall : s.ev.calls t = some c) (hpc : c.pc ≠ .set)
      (hclear : waited = true → s.ev.event ud &&& ~~~usbipEhBye = 0#64) :
      ConnEffect d s (.stopEhReturn ud signal)
        { s with presence := Function.update s.presence ud (.absent waited) }
  | udcStart {ud : δ} :
      ConnEffect d s (.udcStart ud) { s with connected := Function.update s.connected ud false }
  | pullUp {ud : δ} {waited : Bool} (habsent : s.presence ud = .absent waited) :
      ConnEffect d s (.pullUp ud)
        { s with presence := Function.update s.presence ud (.rising waited) }
  | startEh {ud : δ} : ConnEffect d s (.startEh ud) (startEh ud s)

/-- What a step of the event work does to a connection. -/
lemma connHandler_effect {ok : Bool} (h : connHandler d ok s = some s') :
    ConnEffect d s (.handler ok) s' := by
  obtain ⟨ev, hev, rfl⟩ := Option.map_eq_some_iff.mp h
  have hstep : Event.step s.ev .handler = some ev := hev
  cases eventHandler_effect hev with
  | sleep hget =>
      simp only [hget]
      exact .moves hstep rfl rfl (.sleep hget)
  | pop hget =>
      simp only [hget]
      exact .moves hstep rfl rfl (.pop hget)
  | found hat hasks =>
      simp only [hat]
      exact .moves hstep rfl rfl (.found hat hasks)
  | skip hat hasks =>
      simp only [hat]
      exact .moves hstep rfl rfl (.skip hat hasks)
  | start hat =>
      simp only [hat]
      exact .moves hstep rfl rfl (.start hat)
  | wakeUp hat =>
      simp only [hat]
      exact .moves hstep rfl rfl (.wakeUp hat)
  | finish hat =>
      simp only [hat]
      exact .opReturn hat
  | unsetEvent hat =>
      simp only [hat]
      exact .unsetEvent hat

/-- Every step has one of the effects. -/
theorem connStep_effect (h : connStep d s a = some s') : ConnEffect d s a s' := by
  cases a with
  | add t ud c cause =>
      simp only [connStep, Option.ite_none_right_eq_some] at h
      obtain ⟨hle, h⟩ := h
      obtain ⟨ev, hev, rfl⟩ := Option.map_eq_some_iff.mp h
      obtain ⟨hnew, rfl⟩ := beginAdd_eq_some hev
      exact .add hle hnew hev rfl rfl
  | setEvent t =>
      simp only [connStep, connSetEvent] at h
      split at h
      · next c hcall =>
        obtain ⟨ev, hev, rfl⟩ := Option.map_eq_some_iff.mp h
        have hstep : Event.step s.ev (.setEvent t) = some ev := hev
        cases step_effect hstep with
        | setEvent hcall' =>
            obtain rfl := Option.some.inj (hcall.symm.trans hcall')
            exact .setEvent hcall hstep rfl rfl
      · cases h
  | addToList t =>
      obtain ⟨ev, hev, rfl⟩ := Option.map_eq_some_iff.mp h
      have hstep : Event.step s.ev (.addToList t) = some ev := hev
      cases step_effect hstep with
      | listed | queued => exact .addToList hstep rfl rfl
  | runWork =>
      obtain ⟨ev, hev, rfl⟩ := Option.map_eq_some_iff.mp h
      cases step_effect hev with
      | runWork hidle => exact .moves hev rfl rfl (.runWork hidle)
  | handler ok => exact connHandler_effect h
  | check ud =>
      simp only [connStep, storeCheck, Option.ite_none_right_eq_some] at h
      obtain ⟨⟨hidle, hopen, hfree, -⟩, h⟩ := h
      exact Option.some.inj h ▸ .check hidle hopen hfree
  | startRx ud =>
      simp only [connStep, Option.ite_none_right_eq_some] at h
      exact Option.some.inj h.2 ▸ .startRx h.1
  | startTx ud =>
      simp only [connStep, Option.ite_none_right_eq_some] at h
      exact Option.some.inj h.2 ▸ .startTx h.1
  | finishStore ud =>
      simp only [connStep, Option.ite_none_right_eq_some] at h
      exact Option.some.inj h.2 ▸ .finishStore h.1
  | remove t ud =>
      simp only [connStep, remove, Option.ite_none_right_eq_some] at h
      obtain ⟨⟨hopen, -⟩, h⟩ := h
      obtain ⟨ev, hev, rfl⟩ := Option.map_eq_some_iff.mp h
      obtain ⟨-, rfl⟩ := beginAdd_eq_some hev
      exact .remove hopen hev rfl rfl
  | stopEhReturn ud signal =>
      simp only [connStep, stopEhReturn] at h
      split at h
      · next t hleaving =>
        split at h
        · next hcall =>
          obtain ⟨-, h⟩ := Option.ite_none_right_eq_some.mp h
          exact Option.some.inj h ▸ .stopEhReturn hleaving hcall (by simp) of_decide_eq_true
        · next hcall =>
          obtain ⟨-, h⟩ := Option.ite_none_right_eq_some.mp h
          exact Option.some.inj h ▸ .stopEhReturn hleaving hcall (by simp) of_decide_eq_true
        · cases h
      · cases h
  | udcStart ud =>
      simp only [connStep] at h
      split at h
      · exact Option.some.inj h ▸ .udcStart
      · cases h
  | pullUp ud =>
      simp only [connStep, pullUp] at h
      split at h
      · next habsent => exact Option.some.inj h ▸ .pullUp habsent
      · cases h
  | startEh ud =>
      simp only [connStep] at h
      split at h
      · exact Option.some.inj h ▸ .startEh
      · cases h

/-! ## The bits and their connections -/

/-- The bits of `ud->event` are those of the record. -/
def Recorded (s : Conn ι δ) : Prop :=
  ∀ ud op, Asks (s.ev.event ud) op ↔ ∃ c, (c, op) ∈ s.setBy ud

/-- Every step records who has set the bits. -/
theorem Recorded.step (hi : Recorded s) (h : connStep d s a = some s') : Recorded s' := by
  intro ud op
  cases connStep_effect h with
  | add _ _ _ hevent | addToList _ hevent | moves _ _ hevent | remove _ _ hevent =>
      rw [hevent]
      exact hi ud op
  | @setEvent t c ev _ _ hevent =>
      rw [hevent, asks_update_or, hi ud op]
      by_cases hud : ud = c.ud
      · subst hud
        simp [exists_or]
      · simp [hud]
  | @opReturn ok ud' op' => cases op' <;> exact hi ud op
  | @unsetEvent ok ud' op' =>
      rw [asks_update_and_not, hi ud op]
      by_cases hud : ud = ud'
      · subst hud
        simp
      · simp [hud]
  | @startEh ud' =>
      by_cases hud : ud = ud'
      · subst hud
        simp [startEh]
      · simpa [startEh, hud] using hi ud op
  | finishStore => cases d <;> exact hi ud op
  | check | startRx | startTx | stopEhReturn | udcStart | pullUp => exact hi ud op

/-- `USBIP_EH_BYE` is set when the record says so. -/
def ByeRecorded (s : Conn ι δ) : Prop :=
  ∀ ud, Bye (s.ev.event ud) ↔ ∃ c, c ∈ s.byeBy ud

/-- Every step records who has set BYE. -/
theorem ByeRecorded.step (hi : ByeRecorded s) (h : connStep d s a = some s') :
    ByeRecorded s' := by
  intro ud
  cases connStep_effect h with
  | add _ _ _ hevent | addToList _ hevent | moves _ _ hevent | remove _ _ hevent =>
      rw [hevent]
      exact hi ud
  | @setEvent t c ev _ _ hevent =>
      rw [hevent, bye_update_or, hi ud]
      by_cases hud : ud = c.ud
      · subst hud
        by_cases hbye : Bye c.event
        · simp [hbye]
        · simp [hbye]
      · simp [hud]
  | @opReturn ok ud' op' => cases op' <;> exact hi ud
  | unsetEvent =>
      rw [bye_update_and_not]
      exact hi ud
  | @startEh ud' =>
      by_cases hud : ud = ud'
      · subst hud
        simp [startEh, Bye]
      · simpa [startEh, hud] using hi ud
  | finishStore => cases d <;> exact hi ud
  | check | startRx | startTx | stopEhReturn | udcStart | pullUp => exact hi ud

/-! ## Removals -/

/-- What a step does to `ud->event` and to the calls. -/
lemma event_of_connStep (h : connStep d s a = some s') :
    (∃ a', Event.step s.ev a' = some s'.ev) ∨
      s'.ev.calls = s.ev.calls ∧ ∀ ud, s'.ev.event ud = s.ev.event ud ∨ a = .startEh ud := by
  have hsame : ∀ {s₁ : Conn ι δ}, s₁.ev = s.ev → (∃ a', Event.step s.ev a' = some s₁.ev) ∨
      s₁.ev.calls = s.ev.calls ∧ ∀ ud, s₁.ev.event ud = s.ev.event ud ∨ a = .startEh ud := by
    intro s₁ hev
    rw [hev]
    exact .inr ⟨rfl, fun _ => .inl rfl⟩
  cases connStep_effect h with
  | add _ _ hev | setEvent _ hev | addToList hev | moves hev | remove _ hev =>
      exact .inl ⟨_, hev⟩
  | @opReturn ok ud op hat =>
      have hev : Event.step s.ev .handler = some { s.ev with handler := .at ud op .clear } := by
        simp [Event.step, eventHandler, hat]
      refine .inl ⟨_, hev.trans ?_⟩
      cases op <;> rfl
  | unsetEvent hat => exact .inl ⟨.handler, by simp [Event.step, eventHandler, hat]⟩
  | @startEh ud' =>
      refine .inr ⟨rfl, fun ud => ?_⟩
      by_cases hud : ud = ud'
      · exact .inr (hud ▸ rfl)
      · exact .inl (Function.update_of_ne hud ..)
  | finishStore => cases d <;> exact hsame rfl
  | check | startRx | startTx | stopEhReturn | udcStart | pullUp => exact hsame rfl

/-- Where the presence of a device comes from. -/
inductive CameFrom (d : Driver) (s s' : Conn ι δ) (ud : δ) : Prop
  | same (hpresence : s'.presence ud = s.presence ud)
  | removed {t : ι} (hev : Event.step s.ev (.add t ud d.removed) = some s'.ev)
      (hpresence : s'.presence ud = .leaving t)
  | returned {t : ι} {c : Call δ} {waited : Bool} (hleaving : s.presence ud = .leaving t)
      (hcall : s.ev.calls t = some c) (hpc : c.pc ≠ .set) (hev : s'.ev = s.ev)
      (hpresence : s'.presence ud = .absent waited)
  | rising {waited : Bool} (habsent : s.presence ud = .absent waited) (hev : s'.ev = s.ev)
      (hpresence : s'.presence ud = .rising waited)
  | started (hpresence : s'.presence ud = .present)

/-- A device is present, absent or being removed as before, or the step is one of its own. -/
lemma presence_of_step (h : connStep d s a = some s') (ud : δ) : CameFrom d s s' ud := by
  cases connStep_effect h with
  | @remove t ud' ev _ hev =>
      by_cases hud : ud = ud'
      · subst hud
        exact .removed hev (Function.update_self ..)
      · exact .same (Function.update_of_ne hud ..)
  | @stopEhReturn ud' t c signal waited hleaving hcall hpc =>
      by_cases hud : ud = ud'
      · subst hud
        exact .returned hleaving hcall hpc rfl (Function.update_self ..)
      · exact .same (Function.update_of_ne hud ..)
  | @pullUp ud' waited habsent =>
      by_cases hud : ud = ud'
      · subst hud
        exact .rising habsent rfl (Function.update_self ..)
      · exact .same (Function.update_of_ne hud ..)
  | @startEh ud' =>
      by_cases hud : ud = ud'
      · subst hud
        exact .started (Function.update_self ..)
      · exact .same (Function.update_of_ne hud ..)
  | @opReturn ok ud' op => cases op <;> exact .same rfl
  | finishStore => cases d <;> exact .same rfl
  | _ => exact .same rfl

/-- What the removals have done to the bits. -/
structure Removals (s : Conn ι δ) : Prop where
  /-- The call of a removal has set BYE when it is past its `set_event`. -/
  leaving : ∀ ud t, s.presence ud = .leaving t → ∃ c, s.ev.calls t = some c ∧ c.ud = ud ∧
    Bye c.event ∧ (c.pc ≠ .set → Bye (s.ev.event ud))
  /-- After a removal that was interrupted BYE is set until `usbip_start_eh`. -/
  interrupted : ∀ ud, s.presence ud = .absent false ∨ s.presence ud = .rising false →
    Bye (s.ev.event ud)

/-- Each REMOVED event has BYE among its bits. -/
lemma Driver.bye_removed (d : Driver) : Bye d.removed := by
  cases d <;> decide

/-- BYE is cleared by `usbip_start_eh` alone. -/
lemma bye_of_connStep (h : connStep d s a = some s') {ud : δ} (hbye : Bye (s.ev.event ud)) :
    Bye (s'.ev.event ud) ∨ s'.presence ud = .present := by
  rcases event_of_connStep h with ⟨a', hev⟩ | ⟨-, hevent⟩
  · exact .inl (bye_of_step hev hbye)
  · rcases hevent ud with hevent | rfl
    · exact .inl (hevent ▸ hbye)
    · simp only [connStep] at h
      split at h
      · obtain rfl := Option.some.inj h
        exact .inr (Function.update_self ..)
      · cases h

/-- Every step keeps what the removals have done. -/
theorem Removals.step (hi : Removals s) (h : connStep d s a = some s') : Removals s' where
  leaving ud t hleaving := by
    have hold (hl : s.presence ud = .leaving t) : ∃ c, s'.ev.calls t = some c ∧ c.ud = ud ∧
        Bye c.event ∧ (c.pc ≠ .set → Bye (s'.ev.event ud)) := by
      obtain ⟨c₀, hc₀, rfl, hbye, hset⟩ := hi.leaving ud t hl
      rcases event_of_connStep h with ⟨a', hev⟩ | ⟨hcalls, -⟩
      · obtain ⟨c, hc, hud, hevent, hpc⟩ := bye_of_call hev hc₀ hbye hset
        exact ⟨c, hc, hud, hevent ▸ hbye, hud ▸ hpc⟩
      · refine ⟨c₀, hcalls ▸ hc₀, rfl, hbye, fun hpc => ?_⟩
        refine (bye_of_connStep h (hset hpc)).resolve_right fun hpresent => ?_
        rw [hleaving] at hpresent
        cases hpresent
    cases presence_of_step h ud with
    | same hpresence => exact hold (hpresence ▸ hleaving)
    | removed hev hpresence =>
        obtain rfl : _ = t := by simpa using hpresence.symm.trans hleaving
        obtain ⟨-, hev⟩ := beginAdd_eq_some hev
        rw [hev]
        refine ⟨_, Function.update_self .., rfl, d.bye_removed, fun hpc => ?_⟩
        by_contra hbye
        exact hpc (if_neg hbye)
    | returned _ _ _ _ hpresence | rising _ _ hpresence | started hpresence =>
        rw [hpresence] at hleaving
        cases hleaving
  interrupted ud hout := by
    cases presence_of_step h ud with
    | same hpresence =>
        refine (bye_of_connStep h (hi.interrupted ud (hpresence ▸ hout))).resolve_right ?_
        intro hpresent
        rw [hpresent] at hout
        rcases hout with hout | hout <;> cases hout
    | removed _ hpresence | started hpresence =>
        rw [hpresence] at hout
        rcases hout with hout | hout <;> cases hout
    | returned hleaving hcall hpc hev =>
        obtain ⟨c, hc, -, -, hset⟩ := hi.leaving ud _ hleaving
        obtain rfl := Option.some.inj (hcall.symm.trans hc)
        exact hev ▸ hset hpc
    | rising habsent hev hpresence =>
        rw [hpresence] at hout
        rcases hout with hout | hout
        · cases hout
        · cases hout
          exact hev ▸ hi.interrupted ud (.inl habsent)

/-! ## A free device has no bits -/

/-- What may still be set on a free device: bits that the pass which has reset it is about to
clear. -/
def Conn.Leftover (s : Conn ι δ) (ud : δ) : Prop :=
  ∀ op, Asks (s.ev.event ud) op → op ≠ .shutdown ∧
    (s.ev.handler = .at ud .reset .clear ∨
      op = .unusable ∧ ∃ stage, s.ev.handler = .at ud .unusable stage)

/-- No connection begins or is reset with the bits of another one. -/
structure Clean (d : Driver) (s : Conn ι δ) : Prop where
  recorded : Recorded s
  byeRecorded : ByeRecorded s
  removals : Removals s
  /-- The reset operation runs after the shutdown operation. -/
  inOrder : ∀ ud, (s.presence ud).Settled = true →
    s.ev.handler.Resetting ud (s.ev.event ud) → ¬ Asks (s.ev.event ud) .shutdown
  leftover : ∀ ud, (s.presence ud).Settled = true → s.status ud = d.free → s.ended ud = true →
    s.Leftover ud
  used : ∀ ud, s.status ud = d.free → s.ended ud = false → d ≠ .vhci ∧ s.store ud ≠ .idle
  starting : ∀ ud, (s.store ud).Starting → ∀ x ∈ s.setBy ud, ¬ x.1 < s.conn ud
  byeStarting : ∀ ud, (s.store ud).Starting → ∀ c ∈ s.byeBy ud, ¬ c < s.conn ud

namespace Clean

omit [DecidableEq ι] [DecidableEq δ] in
/-- A new device is clean. -/
lemma start : Clean d (connStart d : Conn ι δ) where
  recorded ud op := by simp [connStart]
  byeRecorded ud := by simp [connStart, Bye]
  removals := by
    constructor
    · intro ud t h
      cases d <;> cases h
    · intro ud h
      cases d <;> rcases h with h | h <;> cases h
  inOrder _ _ _ := not_asks_zero _
  leftover _ _ _ _ op h := absurd h (not_asks_zero op)
  used _ _ h := by cases h
  starting _ h := by rcases h with h | h <;> cases h
  byeStarting _ h := by rcases h with h | h <;> cases h

omit [DecidableEq ι] [DecidableEq δ] in
/-- The event work comes past the SHUTDOWN bit of a device when that bit is clear. -/
lemma inOrder_of_moves {ud : δ} {ev : State ι δ}
    (hi : s.ev.handler.Resetting ud (s.ev.event ud) → ¬ Asks (s.ev.event ud) .shutdown)
    (hmoves : Moves s.ev ev.handler) (h : ev.handler.Resetting ud (s.ev.event ud)) :
    ¬ Asks (s.ev.event ud) .shutdown := by
  obtain ⟨stage, hstage, hat, htest⟩ := h
  rw [hat] at hmoves
  generalize hpc : HandlerPc.at ud EhOp.reset stage = pc at hmoves
  cases hmoves with
  | runWork | sleep | pop | wakeUp => cases hpc
  | found hat' hasks =>
      cases hpc
      exact hi ⟨.test, by simp, hat', fun _ => hasks⟩
  | start hat' =>
      cases hpc
      exact hi ⟨.call, by simp, hat', by simp⟩
  | @skip ud' op hat' hclear =>
      cases op with
      | shutdown =>
          cases hpc
          exact hclear
      | reset | unusable => cases hpc

/-- A settled device is not reset while a shutdown is still asked for. -/
lemma inOrder_of_step (hi : Clean d s) (hok : Undisturbed d s a) (h : connStep d s a = some s')
    {ud : δ} (hsettled : (s'.presence ud).Settled = true)
    (hreset : s'.ev.handler.Resetting ud (s'.ev.event ud)) :
    ¬ Asks (s'.ev.event ud) .shutdown := by
  cases connStep_effect h with
  | add _ _ _ hevent hhandler | addToList _ hevent hhandler =>
      rw [hhandler, hevent] at hreset
      rw [hevent]
      exact hi.inOrder ud hsettled hreset
  | @setEvent t c ev hcall _ hevent hhandler =>
      rw [hhandler, hevent] at hreset
      rw [hevent]
      by_cases hud : ud = c.ud
      · subst hud
        rw [Function.update_self] at hreset
        exact absurd hreset ((hok c hcall).1 hsettled).1
      · rw [Function.update_of_ne hud] at hreset ⊢
        exact hi.inOrder ud hsettled hreset
  | moves _ _ hevent hmoves =>
      rw [hevent] at hreset ⊢
      exact inOrder_of_moves (hi.inOrder ud hsettled) hmoves hreset
  | @opReturn ok ud' op hat =>
      obtain ⟨stage, hstage, hat', -⟩ := hreset
      cases op <;> cases hat'
      exact absurd rfl hstage
  | @unsetEvent ok ud' op hat =>
      obtain ⟨stage, hstage, hat', -⟩ := hreset
      cases op with
      | shutdown =>
          cases hat'
          intro hshutdown
          exact (asks_update_and_not.mp hshutdown).2 ⟨rfl, rfl⟩
      | reset | unusable => cases hat'
  | @remove t ud' ev _ _ hevent hhandler =>
      have hud : ud ≠ ud' := by
        rintro rfl
        simp [Presence.Settled] at hsettled
      rw [hhandler, hevent] at hreset
      rw [hevent]
      exact hi.inOrder ud (by simpa [hud] using hsettled) hreset
  | @stopEhReturn ud' t c signal waited _ _ _ hclear =>
      by_cases hud : ud = ud'
      · subst hud
        exact not_asks_of_clear (hclear (by simpa [Presence.Settled] using hsettled)) _
      · exact hi.inOrder ud (by simpa [hud] using hsettled) hreset
  | @pullUp ud' waited habsent =>
      by_cases hud : ud = ud'
      · subst hud
        refine hi.inOrder ud ?_ hreset
        simpa [habsent, Presence.Settled] using hsettled
      · exact hi.inOrder ud (by simpa [hud] using hsettled) hreset
  | @startEh ud' =>
      by_cases hud : ud = ud'
      · subst hud
        simp [startEh]
      · have hold := hi.inOrder ud (by simpa [startEh, hud] using hsettled)
        simpa [startEh, hud] using hold (by simpa [startEh, hud] using hreset)
  | finishStore => cases d <;> exact hi.inOrder ud hsettled hreset
  | check | startRx | startTx | udcStart => exact hi.inOrder ud hsettled hreset

omit [DecidableEq ι] [DecidableEq δ] in
/-- A pass that is about to clear what is left goes on to do so. -/
lemma leftover_of_moves {ud : δ} {ev : State ι δ} (hl : s.Leftover ud)
    (hevent : ev.event = s.ev.event) (hmoves : Moves s.ev ev.handler) :
    ({ s with ev } : Conn ι δ).Leftover ud := by
  intro op hasks
  have hasks' : Asks (s.ev.event ud) op := hevent ▸ hasks
  obtain ⟨hne, hat | ⟨rfl, stage, hat⟩⟩ := hl op hasks'
  · generalize hpc : ev.handler = pc at hmoves
    cases hmoves with
    | runWork h | sleep h | pop h | wakeUp h | found h | skip h | start h =>
        rw [hat] at h
        cases h
  · refine ⟨hne, .inr ⟨rfl, ?_⟩⟩
    dsimp only
    generalize ev.handler = pc at hmoves
    cases hmoves with
    | runWork h | sleep h | pop h | wakeUp h =>
        rw [hat] at h
        cases h
    | found h | start h =>
        rw [hat] at h
        cases h
        exact ⟨_, rfl⟩
    | skip h hclear =>
        rw [hat] at h
        cases h
        exact absurd hasks' hclear

omit [DecidableEq ι] [DecidableEq δ] in
/-- Nothing is left of a device while the event work is in an operation of it other than its
reset, or in one of another device. -/
lemma not_asks_of_running {ud ud' : δ} {o : EhOp} (hl : s.Leftover ud)
    (hat : s.ev.handler = .at ud' o .running) (hne : ud = ud' → o ≠ .unusable) (op : EhOp) :
    ¬ Asks (s.ev.event ud) op := by
  intro hasks
  obtain ⟨-, h | ⟨-, stage, h⟩⟩ := hl op hasks
  · rw [hat] at h
    cases h
  · rw [hat] at h
    cases h
    exact hne rfl rfl

/-- A settled device that is free again has only the end of a pass left to do. -/
lemma leftover_of_step (hi : Clean d s) (hok : Undisturbed d s a) (h : connStep d s a = some s')
    {ud : δ} (hsettled : (s'.presence ud).Settled = true) (hfree : s'.status ud = d.free)
    (hended : s'.ended ud = true) : s'.Leftover ud := by
  cases connStep_effect h with
  | add _ _ _ hevent hhandler | addToList _ hevent hhandler =>
      intro op hasks
      dsimp only at hasks ⊢
      rw [hevent] at hasks
      rw [hhandler]
      exact hi.leftover ud hsettled hfree hended op hasks
  | @setEvent t c ev hcall _ hevent hhandler =>
      have hud : ud ≠ c.ud := by
        rintro rfl
        exact ((hok c hcall).1 hsettled).2 hended hfree
      intro op hasks
      dsimp only at hasks ⊢
      rw [hevent, Function.update_of_ne hud] at hasks
      rw [hhandler]
      exact hi.leftover ud hsettled hfree hended op hasks
  | moves _ _ hevent hmoves =>
      exact leftover_of_moves (hi.leftover ud hsettled hfree hended) hevent hmoves
  | @opReturn ok ud' op' hat =>
      cases op' with
      | shutdown =>
          intro op hasks
          have hl := hi.leftover ud hsettled hfree hended
          exact absurd hasks (not_asks_of_running hl hat (by simp) op)
      | reset =>
          by_cases hud : ud = ud'
          · -- the shutdown operation has run before, and its bit is clear
            subst hud
            intro op hasks
            refine ⟨?_, .inl rfl⟩
            rintro rfl
            exact hi.inOrder ud hsettled ⟨.running, by simp, hat, by simp⟩ hasks
          · intro op hasks
            have hl := hi.leftover ud hsettled (by simpa [opReturn, hud] using hfree)
              (by simpa [opReturn, hud] using hended)
            exact absurd hasks (not_asks_of_running hl hat (fun h => absurd h hud) op)
      | unusable =>
          have hud : ud ≠ ud' := by
            rintro rfl
            cases d <;> simp [opReturn, Driver.free] at hfree
          intro op hasks
          have hl := hi.leftover ud hsettled (by simpa [opReturn, hud] using hfree) hended
          exact absurd hasks (not_asks_of_running hl hat (fun h => absurd h hud) op)
  | @unsetEvent ok ud' op' hat =>
      intro op hasks
      obtain ⟨hold, hne⟩ := asks_update_and_not.mp hasks
      obtain ⟨hop, h | ⟨rfl, stage, h⟩⟩ := hi.leftover ud hsettled hfree hended op hold
      · rw [hat] at h
        cases h
        refine ⟨hop, .inr ⟨?_, .test, rfl⟩⟩
        cases op with
        | shutdown => exact absurd rfl hop
        | reset => exact absurd ⟨rfl, rfl⟩ hne
        | unusable => rfl
      · rw [hat] at h
        cases h
        exact absurd ⟨rfl, rfl⟩ hne
  | @check ud' =>
      have hud : ud ≠ ud' := by
        rintro rfl
        simp at hended
      refine hi.leftover ud hsettled ?_ (by simpa [hud] using hended)
      cases d <;> simpa [hud] using hfree
  | startRx | startTx | udcStart => exact hi.leftover ud hsettled hfree hended
  | @finishStore ud' =>
      cases d with
      | vhci => exact hi.leftover ud hsettled hfree hended
      | stub | vudc =>
          have hud : ud ≠ ud' := by
            rintro rfl
            simp [storeFinish, Driver.free] at hfree
          exact hi.leftover ud hsettled (by simpa [storeFinish, hud] using hfree) hended
  | @remove t ud' ev _ _ hevent hhandler =>
      have hud : ud ≠ ud' := by
        rintro rfl
        simp [Presence.Settled] at hsettled
      intro op hasks
      dsimp only at hasks ⊢
      rw [hevent] at hasks
      rw [hhandler]
      exact hi.leftover ud (by simpa [hud] using hsettled) hfree hended op hasks
  | @stopEhReturn ud' t c signal waited _ _ _ hclear =>
      by_cases hud : ud = ud'
      · subst hud
        have hwaited : waited = true := by simpa [Presence.Settled] using hsettled
        exact fun op hasks => absurd hasks (not_asks_of_clear (hclear hwaited) op)
      · exact hi.leftover ud (by simpa [hud] using hsettled) hfree hended
  | @pullUp ud' waited habsent =>
      by_cases hud : ud = ud'
      · subst hud
        refine hi.leftover ud ?_ hfree hended
        simpa [habsent, Presence.Settled] using hsettled
      · exact hi.leftover ud (by simpa [hud] using hsettled) hfree hended
  | @startEh ud' =>
      intro op hasks
      have hud : ud ≠ ud' := by
        rintro rfl
        simp [startEh] at hasks
      exact hi.leftover ud (by simpa [startEh, hud] using hsettled) hfree hended op
        (by simpa [startEh, hud] using hasks)

/-- A device that is free and not ended is being connected, and is no port of a vhci. -/
lemma used_of_step (hi : Clean d s) (h : connStep d s a = some s') {ud : δ}
    (hfree : s'.status ud = d.free) (hended : s'.ended ud = false) :
    d ≠ .vhci ∧ s'.store ud ≠ .idle := by
  cases connStep_effect h with
  | add | setEvent | addToList | moves | unsetEvent | remove | stopEhReturn | udcStart | pullUp
  | startEh => exact hi.used ud hfree hended
  | @opReturn ok ud' op' hat =>
      cases op' with
      | shutdown => exact hi.used ud hfree hended
      | reset =>
          have hud : ud ≠ ud' := by
            rintro rfl
            simp [opReturn] at hended
          exact hi.used ud (by simpa [opReturn, hud] using hfree)
            (by simpa [opReturn, hud] using hended)
      | unusable =>
          have hud : ud ≠ ud' := by
            rintro rfl
            cases d <;> simp [opReturn, Driver.free] at hfree
          exact hi.used ud (by simpa [opReturn, hud] using hfree) hended
  | @check ud' =>
      by_cases hud : ud = ud'
      · subst hud
        refine ⟨?_, by simp⟩
        rintro rfl
        simp [Driver.free] at hfree
      · have hold := hi.used ud (by cases d <;> simpa [hud] using hfree)
          (by simpa [hud] using hended)
        simpa [hud] using hold
  | @startRx ud' | @startTx ud' =>
      refine ⟨(hi.used ud hfree hended).1, ?_⟩
      by_cases hud : ud = ud'
      · subst hud
        simp
      · simpa [hud] using (hi.used ud hfree hended).2
  | @finishStore ud' =>
      cases d with
      | vhci => exact absurd rfl (hi.used ud hfree hended).1
      | stub | vudc =>
          have hud : ud ≠ ud' := by
            rintro rfl
            simp [storeFinish, Driver.free] at hfree
          have hold := hi.used ud (by simpa [storeFinish, hud] using hfree) hended
          simpa [storeFinish, hud] using hold

omit [DecidableEq ι] [DecidableEq δ] in
/-- The device is found free after everything of the connection before has been cleared. -/
lemma setBy_of_check (hi : Clean d s) {ud : δ} (hok : Undisturbed d s (.check ud))
    (hidle : s.store ud = .idle) (hopen : (s.presence ud).Open) (hfree : s.status ud = d.free) :
    s.setBy ud = [] ∧ s.byeBy ud = [] := by
  obtain ⟨hbye, hreset, hunusable⟩ := hok
  have hended : s.ended ud = true := by
    by_contra hnot
    exact (hi.used ud hfree (by simpa using hnot)).2 hidle
  have hsettled : (s.presence ud).Settled = true := by
    rcases hopen with h | h | h
    · rw [h]
      rfl
    · rw [h]
      rfl
    · exact absurd (hi.removals.interrupted ud (.inr h)) hbye
  constructor
  · rw [List.eq_nil_iff_forall_not_mem]
    rintro ⟨c, op⟩ hmem
    have hasks : Asks (s.ev.event ud) op := (hi.recorded ud op).mpr ⟨c, hmem⟩
    obtain ⟨-, h | ⟨rfl, stage, h⟩⟩ := hi.leftover ud hsettled hfree hended op hasks
    · exact hreset h
    · exact hunusable hasks stage h
  · rw [List.eq_nil_iff_forall_not_mem]
    exact fun c hmem => hbye ((hi.byeRecorded ud).mpr ⟨c, hmem⟩)

/-- Nothing comes to the record of a device whose threads are being started but bits for its
connection or a later one. -/
lemma record_of_step (hok : Undisturbed d s a) (h : connStep d s a = some s') {ud : δ}
    (hstart : (s'.store ud).Starting) (hold : (s.store ud).Starting) :
    s'.conn ud = s.conn ud ∧ (∀ x ∈ s'.setBy ud, x ∈ s.setBy ud ∨ ¬ x.1 < s.conn ud) ∧
      ∀ c ∈ s'.byeBy ud, c ∈ s.byeBy ud ∨ ¬ c < s.conn ud := by
  have hsame : ∀ {s₁ : Conn ι δ}, s₁.conn ud = s.conn ud → s₁.setBy ud = s.setBy ud →
      s₁.byeBy ud = s.byeBy ud → s₁.conn ud = s.conn ud ∧
        (∀ x ∈ s₁.setBy ud, x ∈ s.setBy ud ∨ ¬ x.1 < s.conn ud) ∧
          ∀ c ∈ s₁.byeBy ud, c ∈ s.byeBy ud ∨ ¬ c < s.conn ud := by
    intro s₁ hconn hset hbye
    rw [hset, hbye]
    exact ⟨hconn, fun _ => .inl, fun _ => .inl⟩
  cases connStep_effect h with
  | @setEvent t c ev hcall =>
      by_cases hud : ud = c.ud
      · subst hud
        have hlater : ¬ s.madeFor t < s.conn c.ud := fun hlt => (hok c hcall).2 hlt hstart
        refine ⟨rfl, fun x hx => ?_, fun c' hc' => ?_⟩
        · dsimp only at hx
          rw [Function.update_self, List.mem_append] at hx
          refine hx.imp_right fun hx => ?_
          obtain ⟨op, -, rfl⟩ := List.mem_map.mp hx
          exact hlater
        · dsimp only at hc'
          rw [Function.update_self, List.mem_append] at hc'
          refine hc'.imp_right fun hc' => ?_
          split at hc'
          · exact List.mem_singleton.mp hc' ▸ hlater
          · cases hc'
      · exact hsame rfl (Function.update_of_ne hud ..) (Function.update_of_ne hud ..)
  | @opReturn ok ud' op' => cases op' <;> exact hsame rfl rfl rfl
  | @unsetEvent ok ud' op' =>
      refine ⟨rfl, fun x hx => .inl ?_, fun _ => .inl⟩
      by_cases hud : ud = ud'
      · subst hud
        simp only [Function.update_self, List.mem_filter] at hx
        exact hx.1
      · simpa [hud] using hx
  | @check ud' hidle =>
      have hud : ud ≠ ud' := by
        rintro rfl
        rcases hold with h | h <;> rw [hidle] at h <;> cases h
      exact hsame (Function.update_of_ne hud ..) rfl rfl
  | @startEh ud' =>
      by_cases hud : ud = ud'
      · subst hud
        refine ⟨rfl, fun x hx => ?_, fun c hc => ?_⟩
        · simp [startEh] at hx
        · simp [startEh] at hc
      · exact hsame rfl (Function.update_of_ne hud ..) (Function.update_of_ne hud ..)
  | finishStore => cases d <;> exact hsame rfl rfl rfl
  | _ => exact hsame rfl rfl rfl

/-- A call whose threads are being started was so before the step, or it has just found the device
free. -/
lemma starting_cases (h : connStep d s a = some s') {ud : δ} (hstart : (s'.store ud).Starting) :
    (s.store ud).Starting ∨ a = .check ud ∧ s.store ud = .idle ∧ (s.presence ud).Open ∧
      s.status ud = d.free ∧ s'.setBy ud = s.setBy ud ∧ s'.byeBy ud = s.byeBy ud := by
  cases connStep_effect h with
  | @opReturn ok ud' op' => cases op' <;> exact .inl hstart
  | @check ud' hidle hopen hfree =>
      by_cases hud : ud = ud'
      · subst hud
        exact .inr ⟨rfl, hidle, hopen, hfree, rfl, rfl⟩
      · exact .inl (by simpa [hud] using hstart)
  | @startRx ud' hstore =>
      by_cases hud : ud = ud'
      · exact .inl (.inl (hud ▸ hstore))
      · exact .inl (by simpa [hud] using hstart)
  | @startTx ud' hstore =>
      by_cases hud : ud = ud'
      · exact .inl (.inr (hud ▸ hstore))
      · exact .inl (by simpa [hud] using hstart)
  | @finishStore ud' =>
      by_cases hud : ud = ud'
      · subst hud
        cases d <;> rcases hstart with h | h <;> simp [storeFinish] at h
      · refine .inl ?_
        cases d <;> simpa [storeFinish, hud] using hstart
  | _ => exact .inl hstart

/-- A store that starts a connection finds no bit of an earlier one. -/
lemma starting_of_step (hi : Clean d s) (hok : Undisturbed d s a) (h : connStep d s a = some s')
    {ud : δ} (hstart : (s'.store ud).Starting) :
    (∀ x ∈ s'.setBy ud, ¬ x.1 < s'.conn ud) ∧ ∀ c ∈ s'.byeBy ud, ¬ c < s'.conn ud := by
  rcases starting_cases h hstart with hold | ⟨rfl, hidle, hopen, hfree, hset, hbye⟩
  · obtain ⟨hconn, hset, hbye⟩ := record_of_step hok h hstart hold
    rw [hconn]
    exact ⟨fun x hx => (hset x hx).elim (hi.starting ud hold x) id,
      fun c hc => (hbye c hc).elim (hi.byeStarting ud hold c) id⟩
  · obtain ⟨hset', hbye'⟩ := hi.setBy_of_check hok hidle hopen hfree
    rw [hset, hbye, hset', hbye']
    simp

/-- Every undisturbed step keeps the device clean. -/
theorem step (hi : Clean d s) (hok : Undisturbed d s a) (h : connStep d s a = some s') :
    Clean d s' where
  recorded := hi.recorded.step h
  byeRecorded := hi.byeRecorded.step h
  removals := hi.removals.step h
  inOrder _ := hi.inOrder_of_step hok h
  leftover _ := hi.leftover_of_step hok h
  used _ := hi.used_of_step h
  starting _ hstart := (hi.starting_of_step hok h hstart).1
  byeStarting _ hstart := (hi.starting_of_step hok h hstart).2

end Clean

/-- In every run in which the device is not disturbed while it is free, the receiving and the
sending thread of a connection start with no bit set that was set for an earlier one. -/
theorem connection_starts_clean (d : Driver) (h : (connMachine d).Reach (Undisturbed d) s) {ud : δ}
    (hstart : (connStep d s (.startRx ud)).isSome ∨ (connStep d s (.startTx ud)).isSome) :
    ((∀ op, Asks (s.ev.event ud) op ↔ ∃ c, (c, op) ∈ s.setBy ud) ∧
        (Bye (s.ev.event ud) ↔ ∃ c, c ∈ s.byeBy ud)) ∧
      (∀ x ∈ s.setBy ud, ¬ x.1 < s.conn ud) ∧ ∀ c ∈ s.byeBy ud, ¬ c < s.conn ud := by
  have hi : Clean d s := by
    refine h.invariant (I := Clean d) ?_ fun s a t hi hok hst => hi.step hok hst
    rintro s rfl
    exact .start
  have hstarting : (s.store ud).Starting := by
    rcases hstart with h | h
    · left
      by_contra hnot
      simp [connStep, hnot] at h
    · right
      by_contra hnot
      simp [connStep, hnot] at h
  exact ⟨⟨hi.recorded ud, hi.byeRecorded ud⟩, hi.starting ud hstarting,
    hi.byeStarting ud hstarting⟩

/-- In the vudc a gadget is pulled up. -/
def gadgetUp : Driver → List (ConnAction Nat Nat)
  | .stub | .vhci => []
  | .vudc => [.udcStart 0, .pullUp 0, .startEh 0]

/-- The gadget of a connection is pulled down, which ends the connection, and the next one is pulled
up. -/
def nextGadget : List (ConnAction Nat Nat) :=
  gadgetUp .vudc ++
  [.check 0, .startRx 0, .startTx 0, .finishStore 0,
   .remove 0 0, .setEvent 0, .addToList 0, .runWork] ++
  List.replicate 9 (.handler true) ++     -- shutdown and reset
  [.stopEhReturn 0 false, .udcStart 0, .pullUp 0]

/-- The device is connected again after `usbip_start_eh`. -/
def reconnectedRun : List (ConnAction Nat Nat) :=
  nextGadget ++ [.startEh 0, .check 0]

/-- A vudc that is connected for the second time. -/
theorem connection_starts_clean_reconnectedRun :
    ∃ s : Conn Nat Nat, (connMachine .vudc).Reach (Undisturbed .vudc) s ∧ s.conn 0 = 2 ∧
      ((∀ op, Asks (s.ev.event 0) op ↔ ∃ c, (c, op) ∈ s.setBy 0) ∧
          (Bye (s.ev.event 0) ↔ ∃ c, c ∈ s.byeBy 0)) ∧
        (∀ x ∈ s.setBy 0, ¬ x.1 < s.conn 0) ∧ ∀ c ∈ s.byeBy 0, ¬ c < s.conn 0 := by
  have hrun : ∃ s : Conn Nat Nat, (connMachine .vudc).Reach (Undisturbed .vudc) s ∧
      (s.conn 0 = 2 ∧ (connStep .vudc s (.startRx 0)).isSome) := by
    apply Machine.Reach.of_perform reconnectedRun (s := connStart .vudc) rfl
    exact ⟨_, rfl, rfl, rfl⟩
  obtain ⟨s, hs, hconn, hstart⟩ := hrun
  exact ⟨s, hs, hconn, connection_starts_clean .vudc hs (.inl hstart)⟩

/-- The first connection of device 0 is established, and ended by an event. -/
def firstConnection (d : Driver) : List (ConnAction Nat Nat) :=
  gadgetUp d ++
  [.check 0, .startRx 0, .startTx 0, .finishStore 0,
   .add 0 0 1 .down, .setEvent 0, .addToList 0, .runWork] ++
  List.replicate 8 (.handler true)     -- shutdown, and the reset operation has returned

/-- The second connection starts its receiving thread with the RESET bit set, which was set for the
first. -/
structure StartsWithReset (d : Driver) (s : Conn Nat Nat) : Prop where
  starts : (connStep d s (.startRx 0)).isSome
  asks : Asks (s.ev.event 0) .reset
  old : (1, EhOp.reset) ∈ s.setBy 0
  later : 1 < s.conn 0

/-- It is established before the RESET bit is cleared. -/
lemma exists_startsWithReset (d : Driver) :
    ∃ s : Conn Nat Nat, (connMachine d).Reachable s ∧ StartsWithReset d s := by
  apply Machine.Reach.of_perform (firstConnection d ++ [.check 0]) (s := connStart d) rfl
  cases d <;> exact ⟨_, rfl, rfl, by decide, by decide, by decide⟩

/-- The second connection starts its receiving thread with `USBIP_EH_BYE` set, which was set when the
first was ended. -/
structure StartsWithBye (s : Conn Nat Nat) : Prop where
  starts : (connStep .vudc s (.startRx 0)).isSome
  bye : Bye (s.ev.event 0)
  old : 1 ∈ s.byeBy 0
  later : 1 < s.conn 0

/-- The next gadget is connected before `usbip_start_eh`. -/
lemma exists_startsWithBye :
    ∃ s : Conn Nat Nat, (connMachine .vudc).Reachable s ∧ StartsWithBye s := by
  apply Machine.Reach.of_perform (nextGadget ++ [.check 0]) (s := connStart .vudc) rfl
  exact ⟨_, rfl, rfl, by decide, by decide, by decide⟩

/-- So it is in each driver, and with the next gadget in the vudc. -/
theorem old_event_ends_connection :
    (∃ s : Conn Nat Nat, (connMachine .stub).Reachable s ∧ StartsWithReset .stub s) ∧
      (∃ s : Conn Nat Nat, (connMachine .vudc).Reachable s ∧ StartsWithReset .vudc s) ∧
      (∃ s : Conn Nat Nat, (connMachine .vhci).Reachable s ∧ StartsWithReset .vhci s) ∧
      ∃ s : Conn Nat Nat, (connMachine .vudc).Reachable s ∧ StartsWithBye s :=
  ⟨exists_startsWithReset .stub, exists_startsWithReset .vudc, exists_startsWithReset .vhci,
    exists_startsWithBye⟩

end Usbip.Event
