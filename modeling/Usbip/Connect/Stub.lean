import Usbip.Connect.Machine

/-!
# What SDEV_ST_USED says

`store_sockfd` marks the device used in a last section, whatever has happened since the first one.
If the event work resets the device in between, the device ends up used with no socket and no
thread (`used_and_shut`).  `used_established` says under which conditions the status is right.
-/

namespace Usbip.Connect.Stub

open Usbip.Core Usbip.Common

variable {ι : Type*} {s t : State ι}

/-- Socket and threads of a call are those of the device, and both threads are in their loops. -/
def Established (s : State ι) (t : ι) : Prop :=
  s.tcpSocket = some t ∧ s.tcpRx = .thread t ∧ s.tcpTx = .thread t ∧
    s.rx t = .looping ∧ s.tx t = .looping

/-- No call is in progress, and the event work is idle with nothing to do. -/
def Settled (s : State ι) : Prop :=
  (∀ t, ¬ (s.calls t).Midway) ∧ s.eh = .idle ∧ ¬ s.event.Any

/-- The event work is still to write the status. -/
def WillWrite (s : State ι) : Prop :=
  s.event.reset = true ∧ s.eh ≠ .unsetReset ∨ s.event.unusable = true ∧ s.eh ≠ .unsetUnusable

instance [DecidableEq ι] (s : State ι) : Decidable (WillWrite s) :=
  inferInstanceAs (Decidable (_ ∨ _))

/-- A call finds the device available only when no other is in progress, and begins a connection
only when no event is set, unless the event work is still to write the status; threads can be
created; and the event work writes the status only when no call is in progress. -/
def Orderly (s : State ι) : Action ι → Prop
  | .check _ o =>
      s.status = .sdevAvailable →
        (∀ u, ¬ (s.calls u).Midway) ∧ (o = .linked → s.event.Any → WillWrite s)
  | .createRx _ ok => ok = true
  | .createTx _ ok => ok = true
  | .handler _ => s.eh = .reset ∨ s.eh = .unusable → ∀ u, ¬ (s.calls u).Midway
  | _ => True

/-! ## The bit of the operation that is running -/

/-- The bit of an operation is set until the event work clears it. -/
def Bit (e : Events) : EhPc ι → Prop
  | .readRx | .stopRx _ | .readTx | .stopTx _ | .closeSocket | .unsetShutdown => e.shutdown = true
  | .reset | .unsetReset => e.reset = true
  | .unusable | .unsetUnusable => e.unusable = true
  | _ => True

/-- Another event takes no bit away. -/
lemma bit_add {e : Events} {pc : EhPc ι} (h : Bit e pc) (c : Cause) : Bit (e.add c) pc := by
  cases pc <;> cases c <;> first | exact h | rfl

/-- What the handler has been asked to do it is asked until it has done it. -/
lemma bit_eventHandler [DecidableEq ι] {d : Driver} {ok : Bool} (hs : Bit s.event s.eh)
    (h : eventHandler d ok s = some t) : Bit t.event t.eh := by
  unfold eventHandler at h
  split at h <;> rename_i heh <;> rw [heh] at hs
  case h_2 =>
    split at h
    · rename_i hset
      cases h
      exact hset
    · cases h
      trivial
  case h_3 =>
    split at h <;> cases h
    · exact hs
    · exact hs
    · trivial
  case h_4 =>
    split at h <;> cases h
    exact hs
  case h_5 =>
    split at h <;> cases h
    · exact hs
    · exact hs
    · trivial
  case h_6 =>
    split at h <;> cases h
    exact hs
  case h_9 =>
    cases h
    dsimp only
    split
    · assumption
    · trivial
  case h_12 =>
    cases h
    dsimp only
    split
    · assumption
    · trivial
  case h_15 => cases h
  all_goals
    cases h
    first | exact hs | trivial

/-- The bit of the event work's position asks for something. -/
lemma any_of_bit {e : Events} {pc : EhPc ι} (h : Bit e pc)
    (hpc : pc ≠ .idle ∧ pc ≠ .testShutdown ∧ pc ≠ .testReset ∧ pc ≠ .testUnusable ∧ pc ≠ .crashed) :
    e.Any := by
  cases pc <;> simp [Bit, Events.Any] at h hpc ⊢ <;> simp [h]

/-! ## The invariant -/

/-- What a call has done is in place. -/
def Built (s : State ι) (t : ι) : StorePc → Prop
  | .linked => s.tcpSocket = some t
  | .rxCreated => s.tcpSocket = some t ∧ s.rx t = .looping
  | .rxStarted => s.tcpSocket = some t ∧ s.tcpRx = .thread t ∧ s.rx t = .looping
  | .txCreated =>
      s.tcpSocket = some t ∧ s.tcpRx = .thread t ∧ s.rx t = .looping ∧ s.tx t = .looping
  | _ => Established s t

/-- A connection that is begun or established is whole, or the event work is still to write the
status. -/
structure Consistent (s : State ι) : Prop where
  bit : Bit s.event s.eh
  one : ∀ t u, (s.calls t).Midway → (s.calls u).Midway → t = u
  free : ∀ t, (s.calls t).Midway → s.status = .sdevAvailable
  begun : ∀ t, (s.calls t).Midway → WillWrite s ∨ ¬ s.event.Any ∧ Built s t (s.calls t)
  used : s.status = .sdevUsed → WillWrite s ∨ ¬ s.event.Any ∧ ∃ t, Established s t

/-- Nothing that a whole connection has is missing in `t`. -/
structure Keeps (s t : State ι) : Prop where
  socket : t.tcpSocket = s.tcpSocket
  tcpRx : t.tcpRx = s.tcpRx
  tcpTx : t.tcpTx = s.tcpTx
  rx : ∀ u, s.rx u = .looping → t.rx u = .looping
  tx : ∀ u, s.tx u = .looping → t.tx u = .looping

/-- What does not touch the call's sockets and threads keeps its connection. -/
lemma Established.keeps {u : ι} (hs : Established s u) (h : Keeps s t) : Established t u := by
  obtain ⟨hsocket, hrx, htx, hrx', htx'⟩ := hs
  exact ⟨h.socket.trans hsocket, h.tcpRx.trans hrx, h.tcpTx.trans htx, h.rx u hrx', h.tx u htx'⟩

/-- What does not touch the call's sockets and threads keeps what it has built. -/
lemma Built.keeps {u : ι} {pc : StorePc} (hs : Built s u pc) (h : Keeps s t) : Built t u pc := by
  cases pc with
  | linked => exact h.socket.trans hs
  | rxCreated => exact ⟨h.socket.trans hs.1, h.rx u hs.2⟩
  | rxStarted => exact ⟨h.socket.trans hs.1, h.tcpRx.trans hs.2.1, h.rx u hs.2.2⟩
  | txCreated =>
      obtain ⟨hsocket, hrx, hrx', htx'⟩ := hs
      exact ⟨h.socket.trans hsocket, h.tcpRx.trans hrx, h.rx u hrx', h.tx u htx'⟩
  | idle | txStarted | returned => exact Established.keeps hs h

namespace Consistent

/-- A step that takes nothing away. -/
lemma keep (hs : Consistent s) (hbit : Bit t.event t.eh) (hcalls : t.calls = s.calls)
    (hstatus : t.status = s.status) (hevent : t.event = s.event)
    (hwill : WillWrite s → WillWrite t) (hkeeps : Keeps s t) : Consistent t where
  bit := hbit
  one := hcalls ▸ hs.one
  free := hcalls ▸ hstatus ▸ hs.free
  begun u hu := by
    rw [hcalls] at hu ⊢
    rw [hevent]
    exact (hs.begun u hu).imp hwill fun h => ⟨h.1, h.2.keeps hkeeps⟩
  used hused := by
    rw [hstatus] at hused
    rw [hevent]
    refine (hs.used hused).imp hwill fun h => ⟨h.1, ?_⟩
    obtain ⟨u, hu⟩ := h.2
    exact ⟨u, hu.keeps hkeeps⟩

/-- A step after which the event work is still to write the status, if a connection is there. -/
lemma willWrite (hs : Consistent s) (hbit : Bit t.event t.eh) (hcalls : t.calls = s.calls)
    (hstatus : t.status = s.status)
    (hwill : ¬ s.event.Any ∨ WillWrite s → WillWrite t) : Consistent t where
  bit := hbit
  one := hcalls ▸ hs.one
  free := hcalls ▸ hstatus ▸ hs.free
  begun u hu := by
    rw [hcalls] at hu
    exact .inl (hwill ((hs.begun u hu).symm.imp And.left id))
  used hused := by
    rw [hstatus] at hused
    exact .inl (hwill ((hs.used hused).symm.imp And.left id))

/-- A step while an event is set. -/
lemma ofAny (hs : Consistent s) (hbit : Bit t.event t.eh) (hcalls : t.calls = s.calls)
    (hstatus : t.status = s.status) (hany : s.event.Any)
    (hwill : WillWrite s → WillWrite t) : Consistent t :=
  hs.willWrite hbit hcalls hstatus fun h => hwill (h.resolve_left (not_not.mpr hany))

/-- No call is in progress. -/
lemma ofNone (hbit : Bit t.event t.eh) (hcalls : ∀ u, ¬ (t.calls u).Midway)
    (hused : t.status = .sdevUsed → WillWrite t ∨ ¬ t.event.Any ∧ ∃ u, Established t u) :
    Consistent t where
  bit := hbit
  one u _ hu := absurd hu (hcalls u)
  free u hu := absurd hu (hcalls u)
  begun u hu := absurd hu (hcalls u)
  used := hused

/-- Adding an event keeps the account. -/
lemma eventAdd (hs : Consistent s) (c : Cause) (heh : t.eh = s.eh) (hcalls : t.calls = s.calls)
    (hstatus : t.status = s.status) (hevent : t.event = s.event.add c) : Consistent t := by
  refine hs.willWrite (by rw [heh, hevent]; exact bit_add hs.bit c) hcalls hstatus ?_
  unfold WillWrite
  rw [heh, hevent]
  rintro (hnone | ⟨hreset, hne⟩ | ⟨hunusable, hne⟩)
  · cases c with
    | down => exact .inl ⟨rfl, fun h => hnone (any_of_bit hs.bit (by simp [h]))⟩
    | error => exact .inr ⟨rfl, fun h => hnone (any_of_bit hs.bit (by simp [h]))⟩
  · cases c with
    | down => exact .inl ⟨rfl, hne⟩
    | error => exact .inl ⟨hreset, hne⟩
  · cases c with
    | down => exact .inr ⟨hunusable, hne⟩
    | error => exact .inr ⟨rfl, hne⟩

variable [DecidableEq ι]

/-- The handler keeps the account, when the steps are orderly. -/
lemma eventHandler {ok : Bool} (hs : Consistent s) (hok : Orderly s (.handler ok))
    (h : eventHandler .stub ok s = some t) : Consistent t := by
  have hbit := bit_eventHandler hs.bit h
  -- Every position but the tests has its bit set.
  have hany := any_of_bit hs.bit
  unfold Connect.eventHandler at h
  split at h <;> rename_i heh <;> simp only [heh] at hany
  case h_1 =>
    cases h
    exact hs.keep hbit rfl rfl rfl (by simp [WillWrite, heh]) ⟨rfl, rfl, rfl, by simp, by simp⟩
  case h_2 =>
    split at h
    · rename_i hset
      cases h
      exact hs.ofAny hbit rfl rfl (.inl hset) (by simp [WillWrite, heh])
    · cases h
      exact hs.keep hbit rfl rfl rfl (by simp [WillWrite, heh]) ⟨rfl, rfl, rfl, by simp, by simp⟩
  case h_3 =>
    split at h <;> cases h <;>
      exact hs.ofAny hbit rfl rfl (hany (by simp)) (by simp [WillWrite, heh])
  case h_4 =>
    split at h <;> cases h
    exact hs.ofAny hbit rfl rfl (hany (by simp)) (by simp [WillWrite, heh])
  case h_5 =>
    split at h <;> cases h <;>
      exact hs.ofAny hbit rfl rfl (hany (by simp)) (by simp [WillWrite, heh])
  case h_6 =>
    split at h <;> cases h
    exact hs.ofAny hbit rfl rfl (hany (by simp)) (by simp [WillWrite, heh])
  case h_9 =>
    cases h
    refine hs.keep hbit rfl rfl rfl ?_ ⟨rfl, rfl, rfl, by simp, by simp⟩
    simp only [WillWrite, heh]
    split <;> simp
  case h_10 =>
    cases h
    refine ofNone hbit (hok (.inl heh)) fun hused => absurd hused ?_
    simp only [deviceReset]
    split_ifs <;> decide
  case h_12 =>
    cases h
    refine hs.keep hbit rfl rfl rfl ?_ ⟨rfl, rfl, rfl, by simp, by simp⟩
    simp only [WillWrite, heh]
    split <;> simp
  case h_13 =>
    cases h
    exact ofNone hbit (hok (.inr heh)) fun hused => (by cases hused)
  case h_15 => cases h
  all_goals
    cases h
    exact hs.ofAny hbit rfl rfl (hany (by simp)) (by simp [WillWrite, heh])

/-- The call in progress goes on. -/
lemma advance {u : ι} {pc : StorePc} (hs : Consistent s) (hu : (s.calls u).Midway)
    (hcalls : t.calls = Function.update s.calls u pc) (hstatus : t.status = s.status)
    (hevent : t.event = s.event) (heh : t.eh = s.eh)
    (hbuilt : Built s u (s.calls u) → Built t u pc) : Consistent t := by
  have hback : ∀ v, (t.calls v).Midway → v = u := by
    intro v hv
    by_contra hne
    rw [hcalls, Function.update_of_ne hne] at hv
    exact hne (hs.one v u hv hu)
  have hwill : WillWrite s → WillWrite t := by simp [WillWrite, hevent, heh]
  refine ⟨by rw [hevent, heh]; exact hs.bit, fun v w hv hw => (hback v hv).trans (hback w hw).symm,
    fun v _ => hstatus.trans (hs.free u hu), fun v hv => ?_, fun hused => ?_⟩
  · rw [hback v hv, hcalls, Function.update_self, hevent]
    exact (hs.begun u hu).imp hwill fun h => ⟨h.1, hbuilt h.2⟩
  · rw [hstatus, hs.free u hu] at hused
    cases hused

/-- No call is in progress once the only one has returned. -/
lemma not_midway_goto {u : ι} {ok : Bool} (h : ∀ v, v ≠ u → ¬ (s.calls v).Midway) (v : ι) :
    ¬ ((s.goto u (.returned ok)).calls v).Midway := by
  intro hv
  by_cases hvu : v = u
  · subst hvu
    simp only [State.goto, Function.update_self] at hv
    cases hv
  · simp only [State.goto, Function.update_of_ne hvu] at hv
    exact h v hvu hv

/-- The last section of a store keeps the account. -/
lemma storeFinish {u : ι} (hs : Consistent s) (hu : s.calls u = .txStarted) :
    Consistent (storeFinish .stub u s) := by
  have hmid : (s.calls u).Midway := hu ▸ .txStarted
  have hbegun := hs.begun u hmid
  rw [hu] at hbegun
  exact ofNone hs.bit (not_midway_goto fun v hvu hv => hvu (hs.one v u hv hmid))
    fun _ => hbegun.imp id fun h => ⟨h.1, u, h.2⟩

/-- The first section of a store keeps the account. -/
lemma storeCheck {u : ι} {o : Outcome} (hs : Consistent s) (hok : Orderly s (.check u o)) :
    Consistent (storeCheck .stub u o s) := by
  unfold Connect.storeCheck
  split
  · rename_i hstatus
    exact ofNone hs.bit (not_midway_goto fun v _ hv => hstatus (hs.free v hv)) hs.used
  · rename_i hstatus
    have hfree : s.status = .sdevAvailable := not_not.mp hstatus
    obtain ⟨hnone, hlink⟩ := hok hfree
    have hused : s.status ≠ .sdevUsed := by simp [hfree]
    cases o with
    | noSocket | notLinked =>
        exact ofNone hs.bit (not_midway_goto fun v _ => hnone v) fun h => absurd h hused
    | linked =>
        have hback : ∀ v, (Function.update s.calls u .linked v).Midway → v = u := by
          intro v hv
          by_contra hne
          rw [Function.update_of_ne hne] at hv
          exact hnone v hv
        refine ⟨hs.bit, fun v w hv hw => (hback v hv).trans (hback w hw).symm, fun _ _ => hfree,
          fun v hv => ?_, fun h => absurd h hused⟩
        by_cases hany : s.event.Any
        · exact .inl (hlink rfl hany)
        · refine .inr ⟨hany, ?_⟩
          rw [hback v hv]
          show Built _ u (Function.update s.calls u .linked u)
          rw [Function.update_self]
          rfl

end Consistent

/-! ## Every step -/

variable [DecidableEq ι]

/-- A receiving thread that is not looping yet may change. -/
lemma keeps_setRx {u : ι} {k : Thread} (h : s.rx u ≠ .looping) : Keeps s (s.setRx u k) := by
  refine ⟨rfl, rfl, rfl, fun v hv => ?_, fun _ => id⟩
  have hne : v ≠ u := fun hvu => h (hvu ▸ hv)
  exact (Function.update_of_ne hne k s.rx).trans hv

/-- A sending thread that is not looping yet may change. -/
lemma keeps_setTx {u : ι} {k : Thread} (h : s.tx u ≠ .looping) : Keeps s (s.setTx u k) := by
  refine ⟨rfl, rfl, rfl, fun _ => id, fun v hv => ?_⟩
  have hne : v ≠ u := fun hvu => h (hvu ▸ hv)
  exact (Function.update_of_ne hne k s.tx).trans hv

/-- Every orderly step keeps the account. -/
theorem consistent_step {a : Action ι} (hs : Consistent s) (hok : Orderly s a)
    (h : step .stub s a = some t) : Consistent t := by
  cases a with
  | check u o =>
      obtain ⟨-, h⟩ := Option.ite_none_right_eq_some.mp h
      cases h
      exact hs.storeCheck hok
  | createRx u ok =>
      obtain ⟨hu, h⟩ := Option.ite_none_right_eq_some.mp h
      cases h
      cases hok
      refine hs.advance (u := u) (hu ▸ .linked) rfl rfl rfl rfl fun hbuilt => ?_
      rw [hu] at hbuilt
      exact ⟨hbuilt, Function.update_self ..⟩
  | recordRx u =>
      obtain ⟨hu, h⟩ := Option.ite_none_right_eq_some.mp h
      cases h
      refine hs.advance (u := u) (hu ▸ .rxCreated) rfl rfl rfl rfl fun hbuilt => ?_
      rw [hu] at hbuilt
      refine ⟨hbuilt.1, ?_, hbuilt.2⟩
      show taskOf u (s.rx u) = _
      rw [hbuilt.2]
      rfl
  | createTx u ok =>
      obtain ⟨hu, h⟩ := Option.ite_none_right_eq_some.mp h
      cases h
      cases hok
      refine hs.advance (u := u) (hu ▸ .rxStarted) rfl rfl rfl rfl fun hbuilt => ?_
      rw [hu] at hbuilt
      exact ⟨hbuilt.1, hbuilt.2.1, hbuilt.2.2, Function.update_self ..⟩
  | recordTx u =>
      obtain ⟨hu, h⟩ := Option.ite_none_right_eq_some.mp h
      cases h
      refine hs.advance (u := u) (hu ▸ .txCreated) rfl rfl rfl rfl fun hbuilt => ?_
      rw [hu] at hbuilt
      obtain ⟨hsocket, hrx, hrx', htx'⟩ := hbuilt
      refine ⟨hsocket, hrx, ?_, hrx', htx'⟩
      show taskOf u (s.tx u) = _
      rw [htx']
      rfl
  | finish u =>
      obtain ⟨hu, h⟩ := Option.ite_none_right_eq_some.mp h
      cases h
      exact hs.storeFinish hu
  | disconnect =>
      cases h
      unfold disconnect
      dsimp only
      split
      · exact hs
      · exact hs.eventAdd .down rfl rfl rfl rfl
  | eventAdd c =>
      cases h
      exact hs.eventAdd c rfl rfl rfl rfl
  | leaveRx u =>
      obtain ⟨⟨-, hleave⟩, h⟩ := Option.ite_none_right_eq_some.mp h
      cases h
      have hany : s.event.Any :=
        hleave.elim id fun heh => any_of_bit hs.bit (by simp [heh])
      exact hs.ofAny hs.bit rfl rfl hany id
  | endRx u =>
      obtain ⟨hu, h⟩ := Option.ite_none_right_eq_some.mp h
      cases h
      exact hs.keep hs.bit rfl rfl rfl id (keeps_setRx (by simp [hu]))
  | leaveTx u =>
      obtain ⟨⟨-, hleave⟩, h⟩ := Option.ite_none_right_eq_some.mp h
      cases h
      have hany : s.event.Any :=
        hleave.elim And.right fun heh => any_of_bit hs.bit (by simp [heh])
      exact hs.ofAny hs.bit rfl rfl hany id
  | failTx u c =>
      obtain ⟨-, h⟩ := Option.ite_none_right_eq_some.mp h
      cases h
      exact hs.eventAdd c rfl rfl rfl rfl
  | endTx u =>
      obtain ⟨hu, h⟩ := Option.ite_none_right_eq_some.mp h
      cases h
      exact hs.keep hs.bit rfl rfl rfl id (keeps_setTx (by simp [hu]))
  | handler ok => exact hs.eventHandler hok h

/-- The account holds in every orderly run. -/
lemma consistent_of_reach (h : (machine .stub).Reach Orderly s) : Consistent s := by
  refine h.invariant (I := Consistent) ?_ fun s a t hs hok hstep => consistent_step hs hok hstep
  rintro s rfl
  exact .ofNone trivial (fun _ h => (by cases h)) fun h => (by cases h)

/-- In every run that is `Orderly`, a device that is used when all is settled has the socket and
the running threads of one call. -/
theorem used_established (h : (machine .stub).Reach Orderly s) (hsettled : Settled s)
    (hused : s.status = .sdevUsed) : ∃ t, Established s t := by
  rcases (consistent_of_reach h).used hused with (⟨hset, -⟩ | ⟨hset, -⟩) | ⟨-, hwhole⟩
  · exact absurd (.inr (.inl hset)) hsettled.2.2
  · exact absurd (.inr (.inr hset)) hsettled.2.2
  · exact hwhole

/-! ## Runs -/

instance (s : State ι) (t : ι) : Decidable (Established s t) := inferInstanceAs (Decidable (_ ∧ _))

instance [Fintype ι] (s : State ι) : Decidable (Settled s) := inferInstanceAs (Decidable (_ ∧ _))

instance [Fintype ι] (s : State ι) (a : Action ι) : Decidable (Orderly s a) :=
  match a with
  | .check _ o => inferInstanceAs (Decidable (s.status = .sdevAvailable →
      (∀ u, ¬ (s.calls u).Midway) ∧ (o = .linked → s.event.Any → WillWrite s)))
  | .createRx _ ok | .createTx _ ok => inferInstanceAs (Decidable (ok = true))
  | .handler _ =>
      inferInstanceAs (Decidable (s.eh = .reset ∨ s.eh = .unusable → ∀ u, ¬ (s.calls u).Midway))
  | .recordRx _ | .recordTx _ | .finish _ | .disconnect | .eventAdd _ | .leaveRx _ | .endRx _
  | .leaveTx _ | .failTx _ _ | .endTx _ => isTrue trivial

/-- A call up to its last section. -/
def start (t : ι) : List (Action ι) :=
  [.check t .linked, .createRx t true, .recordRx t, .createTx t true, .recordTx t]

/-- The threads end, and a whole pass of the event work shuts the connection down and resets the
device. -/
def tearDown (t : ι) : List (Action ι) :=
  [.leaveRx t, .endRx t, .leaveTx t, .endTx t] ++ List.replicate 12 (.handler true)

/-- A connection is made, lost and made again. -/
def reconnectRun : List (Action (Fin 2)) :=
  start 0 ++ [.finish 0, .disconnect] ++ tearDown 0 ++ start 1 ++ [.finish 1]

/-- After a disconnect and a second store there is an established connection. -/
theorem used_established_reconnect :
    ∃ s : State (Fin 2), s.status = .sdevUsed ∧ ∃ t, Established s t := by
  have hrun : ∃ s : State (Fin 2), (machine .stub).Reach Orderly s ∧
      Settled s ∧ s.status = .sdevUsed :=
    Machine.Reach.of_perform reconnectRun rfl (by decide +kernel)
  obtain ⟨s, hs, hsettled, hused⟩ := hrun
  exact ⟨s, hused, used_established hs hsettled hused⟩

/-- The receiving thread meets an error before `store_sockfd` has set the status: the device ends
up used, with neither socket nor threads. -/
theorem used_and_shut : ¬ ∀ s : State Unit, (machine .stub).Reachable s → Settled s →
    s.status = .sdevUsed → ∃ t, Established s t := by
  intro hall
  have hrun : ∃ s : State Unit, (machine .stub).Reachable s ∧
      Settled s ∧ s.status = .sdevUsed ∧ ∀ t, ¬ Established s t :=
    Machine.Reach.of_perform (start () ++ [.eventAdd .down] ++ tearDown () ++ [.finish ()]) rfl
      (by decide +kernel)
  obtain ⟨s, hs, hsettled, hused, hnone⟩ := hrun
  obtain ⟨t, ht⟩ := hall s hs hsettled hused
  exact hnone t ht

end Usbip.Connect.Stub
