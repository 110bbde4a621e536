import Usbip.Connect.Machine

/-!
# The threads that a shutdown stops

The shutdown stops the threads that `ud->tcp_rx` and `ud->tcp_tx` name when it looks.  A call
creates its threads and records them after it has taken the port, so a shutdown in between misses
them (`threads_left_behind`).  `threads_stopped` says that they are stopped whenever the shutdown
finds the threads of the connections it closes recorded, and none is overwritten.
-/

namespace Usbip.Connect

open Usbip.Core Usbip.Common

variable {ι : Type*} {s t : State ι} {u : ι}

/-- The call has taken the port, and its threads are not both recorded. -/
inductive StorePc.Starting : StorePc → Prop
  | linked : Starting .linked
  | rxCreated : Starting .rxCreated
  | rxStarted : Starting .rxStarted
  | txCreated : Starting .txCreated

/-- The call has recorded its receiving thread. -/
inductive StorePc.RxPast : StorePc → Prop
  | rxStarted : RxPast .rxStarted
  | txCreated : RxPast .txCreated
  | txStarted : RxPast .txStarted
  | returned (ok : Bool) : RxPast (.returned ok)

/-- The call has recorded its sending thread. -/
inductive StorePc.TxPast : StorePc → Prop
  | txStarted : TxPast .txStarted
  | returned (ok : Bool) : TxPast (.returned ok)

instance (pc : StorePc) : Decidable pc.Starting :=
  match pc with
  | .linked => isTrue .linked
  | .rxCreated => isTrue .rxCreated
  | .rxStarted => isTrue .rxStarted
  | .txCreated => isTrue .txCreated
  | .idle | .txStarted | .returned _ => isFalse fun h => (by cases h)

instance (pc : StorePc) : Decidable pc.RxPast :=
  match pc with
  | .rxStarted => isTrue .rxStarted
  | .txCreated => isTrue .txCreated
  | .txStarted => isTrue .txStarted
  | .returned ok => isTrue (.returned ok)
  | .idle | .linked | .rxCreated => isFalse fun h => (by cases h)

instance (pc : StorePc) : Decidable pc.TxPast :=
  match pc with
  | .txStarted => isTrue .txStarted
  | .returned ok => isTrue (.returned ok)
  | .idle | .linked | .rxCreated | .rxStarted | .txCreated => isFalse fun h => (by cases h)

/-- A thread is recorded in the device. -/
def Task.IsThread (k : Task ι) : Prop := ∃ t, k = .thread t

instance (k : Task ι) : Decidable k.IsThread := by
  cases k with
  | thread t => exact isTrue ⟨t, rfl⟩
  | null | error => exact isFalse (by rintro ⟨t, h⟩; cases h)

/-- A call takes the port only when no thread is recorded and no other call still has to record
one, and the shutdown looks at a pointer only when the calls whose connections it closes have
written it. -/
def Covered (d : Driver) (s : State ι) : Action ι → Prop
  | .check _ o =>
      s.status = d.free ∧ o = .linked →
        ¬ s.tcpRx.IsThread ∧ ¬ s.tcpTx.IsThread ∧ ∀ u, ¬ (s.calls u).Starting
  | .handler _ => ∀ u, s.stage u = .closing →
      (s.eh = .readRx → (s.calls u).RxPast) ∧ (s.eh = .readTx → (s.calls u).TxPast)
  | _ => True

/-! ## Running threads are recorded -/

/-- Every thread is recorded, or its call is about to do so and overwrites nothing. -/
structure Tracked (s : State ι) : Prop where
  rx : ∀ u, (s.rx u).Running → s.tcpRx = .thread u ∨ s.calls u = .rxCreated
  tx : ∀ u, (s.tx u).Running → s.tcpTx = .thread u ∨ s.calls u = .txCreated
  one : ∀ u v, (s.calls u).Starting → (s.calls v).Starting → u = v
  rxFree : ∀ u, (s.calls u).Starting → (s.calls u).RxPast ∨ ¬ s.tcpRx.IsThread
  txFree : ∀ u, (s.calls u).Starting → ¬ s.tcpTx.IsThread
  stopRx : ∀ u, s.eh = .stopRx u → s.tcpRx = .thread u
  stopTx : ∀ u, s.eh = .stopTx u → s.tcpTx = .thread u

namespace Tracked

/-- A step by which no thread is created or recorded. -/
lemma keep (hs : Tracked s) (hrx : ∀ u, (t.rx u).Running → (s.rx u).Running)
    (htx : ∀ u, (t.tx u).Running → (s.tx u).Running)
    (hcalls : ∀ u, t.calls u = s.calls u ∨ ¬ (s.calls u).Starting ∧ ¬ (t.calls u).Starting)
    (htcpRx : t.tcpRx = s.tcpRx) (htcpTx : t.tcpTx = s.tcpTx)
    (hstopRx : ∀ u, t.eh = .stopRx u → s.tcpRx = .thread u)
    (hstopTx : ∀ u, t.eh = .stopTx u → s.tcpTx = .thread u) : Tracked t := by
  have hback : ∀ u, (t.calls u).Starting → t.calls u = s.calls u :=
    fun u hu => (hcalls u).resolve_right fun h => h.2 hu
  have hforth : ∀ u, (s.calls u).Starting → t.calls u = s.calls u :=
    fun u hu => (hcalls u).resolve_right fun h => h.1 hu
  refine ⟨fun u hu => ?_, fun u hu => ?_, fun u v hu hv => ?_, fun u hu => ?_, fun u hu => ?_,
    htcpRx ▸ hstopRx, htcpTx ▸ hstopTx⟩
  · rw [htcpRx]
    exact (hs.rx u (hrx u hu)).imp id fun (h : s.calls u = .rxCreated) =>
      (hforth u (h ▸ .rxCreated)).trans h
  · rw [htcpTx]
    exact (hs.tx u (htx u hu)).imp id fun (h : s.calls u = .txCreated) =>
      (hforth u (h ▸ .txCreated)).trans h
  · exact hs.one u v (hback u hu ▸ hu) (hback v hv ▸ hv)
  · rw [htcpRx, hback u hu]
    exact hs.rxFree u (hback u hu ▸ hu)
  · rw [htcpTx]
    exact hs.txFree u (hback u hu ▸ hu)

/-- A call that was the only one to have threads to record, if there was one, goes on. -/
lemma advance [DecidableEq ι] {pc : StorePc} (hu : ∀ v, v ≠ u → ¬ (s.calls v).Starting)
    (hcalls : t.calls = Function.update s.calls u pc)
    (hrx : ∀ v, (t.rx v).Running → t.tcpRx = .thread v ∨ v = u ∧ pc = .rxCreated)
    (htx : ∀ v, (t.tx v).Running → t.tcpTx = .thread v ∨ v = u ∧ pc = .txCreated)
    (hrxFree : pc.Starting → pc.RxPast ∨ ¬ t.tcpRx.IsThread)
    (htxFree : pc.Starting → ¬ t.tcpTx.IsThread)
    (hstopRx : ∀ v, t.eh = .stopRx v → t.tcpRx = .thread v)
    (hstopTx : ∀ v, t.eh = .stopTx v → t.tcpTx = .thread v) : Tracked t := by
  have hself : t.calls u = pc := by rw [hcalls, Function.update_self]
  have hback : ∀ v, (t.calls v).Starting → v = u := by
    intro v hv
    by_contra hne
    rw [hcalls, Function.update_of_ne hne] at hv
    exact hu v hne hv
  refine ⟨fun v hv => (hrx v hv).imp id ?_, fun v hv => (htx v hv).imp id ?_,
    fun v w hv hw => (hback v hv).trans (hback w hw).symm, fun v hv => ?_, fun v hv => ?_,
    hstopRx, hstopTx⟩
  · rintro ⟨rfl, rfl⟩
    exact hself
  · rintro ⟨rfl, rfl⟩
    exact hself
  · obtain rfl := hback v hv
    rw [hself] at hv ⊢
    exact hrxFree hv
  · obtain rfl := hback v hv
    exact htxFree (hself ▸ hv)

section Calls

variable [DecidableEq ι] {d : Driver}

omit [DecidableEq ι] in
/-- While a call has threads to record, no other has. -/
lemma others (hs : Tracked s) (hu : (s.calls u).Starting) (v : ι) (hne : v ≠ u) :
    ¬ (s.calls v).Starting :=
  fun hv => hne (hs.one v u hv hu)

/-- The first section of a store keeps track. -/
lemma storeCheck {o : Outcome} (hs : Tracked s) (hok : Covered d s (.check u o))
    (hu : s.calls u = .idle) : Tracked (storeCheck d u o s) := by
  have hfail : ∀ socket, Tracked { s.goto u (.returned false) with tcpSocket := socket } := by
    refine fun socket => hs.keep (fun _ => id) (fun _ => id) (fun v => ?_) rfl rfl hs.stopRx hs.stopTx
    by_cases hvu : v = u
    · subst hvu
      refine .inr ⟨by rw [hu]; decide, ?_⟩
      show ¬ (Function.update s.calls v (.returned false) v).Starting
      rw [Function.update_self]
      decide
    · exact .inl (Function.update_of_ne hvu ..)
  unfold Connect.storeCheck
  split
  · exact hfail s.tcpSocket
  · rename_i hfree
    cases o with
    | noSocket | notLinked => exact hfail _
    | linked =>
        obtain ⟨hrx, htx, hnone⟩ := hok ⟨not_not.mp hfree, rfl⟩
        refine advance (u := u) (fun v _ => hnone v) rfl (fun v hv => ?_) (fun v hv => ?_)
          (fun _ => .inr hrx) (fun _ => htx) hs.stopRx hs.stopTx
        · rcases hs.rx v hv with hv | hv
          · exact absurd ⟨v, hv⟩ hrx
          · exact absurd (hv ▸ .rxCreated) (hnone v)
        · rcases hs.tx v hv with hv | hv
          · exact absurd ⟨v, hv⟩ htx
          · exact absurd (hv ▸ .txCreated) (hnone v)

/-- Creating the receiving thread keeps track. -/
lemma createRx {ok : Bool} (hs : Tracked s) (hu : s.calls u = .linked) :
    Tracked ((s.goto u .rxCreated).setRx u (created ok)) := by
  have hstart : (s.calls u).Starting := hu ▸ .linked
  have hfree : ¬ s.tcpRx.IsThread :=
    (hs.rxFree u hstart).resolve_left (by rw [hu]; decide)
  refine advance (u := u) (hs.others hstart) rfl (fun v hv => ?_) (fun v hv => ?_)
    (fun _ => .inr hfree) (fun _ => hs.txFree u hstart) hs.stopRx hs.stopTx
  · by_cases hvu : v = u
    · exact .inr ⟨hvu, rfl⟩
    · have hold : ((s.goto u .rxCreated).setRx u (created ok)).rx v = s.rx v :=
        Function.update_of_ne hvu ..
      rw [hold] at hv
      rcases hs.rx v hv with hv | hv
      · exact .inl hv
      · exact absurd (hv ▸ .rxCreated) (hs.others hstart v hvu)
  · rcases hs.tx v hv with hv | hv
    · exact .inl hv
    · have hvu : v = u := hs.one v u (hv ▸ .txCreated) hstart
      rw [hvu, hu] at hv
      cases hv

/-- Storing it in `tcp_rx` keeps track. -/
lemma recordRx (hs : Tracked s) (hu : s.calls u = .rxCreated) :
    Tracked { s.goto u .rxStarted with tcpRx := taskOf u (s.rx u) } := by
  have hstart : (s.calls u).Starting := hu ▸ .rxCreated
  have hfree : ¬ s.tcpRx.IsThread :=
    (hs.rxFree u hstart).resolve_left (by rw [hu]; decide)
  refine advance (u := u) (hs.others hstart) rfl (fun v hv => ?_) (fun v hv => ?_)
    (fun _ => .inl .rxStarted) (fun _ => hs.txFree u hstart)
    (fun v hv => absurd ⟨v, hs.stopRx v hv⟩ hfree) hs.stopTx
  · rcases hs.rx v hv with hv' | hv'
    · exact absurd ⟨v, hv'⟩ hfree
    · obtain rfl : v = u := hs.one v u (hv' ▸ .rxCreated) hstart
      replace hv : (s.rx v).Running := hv
      refine .inl (if_neg fun habsent => ?_)
      rw [habsent] at hv
      exact absurd hv (by decide)
  · rcases hs.tx v hv with hv | hv
    · exact .inl hv
    · have hvu : v = u := hs.one v u (hv ▸ .txCreated) hstart
      rw [hvu, hu] at hv
      cases hv

/-- Creating the sending thread keeps track. -/
lemma createTx {ok : Bool} (hs : Tracked s) (hu : s.calls u = .rxStarted) :
    Tracked ((s.goto u .txCreated).setTx u (created ok)) := by
  have hstart : (s.calls u).Starting := hu ▸ .rxStarted
  refine advance (u := u) (hs.others hstart) rfl (fun v hv => ?_) (fun v hv => ?_)
    (fun _ => .inl .txCreated) (fun _ => hs.txFree u hstart) hs.stopRx hs.stopTx
  · rcases hs.rx v hv with hv | hv
    · exact .inl hv
    · have hvu : v = u := hs.one v u (hv ▸ .rxCreated) hstart
      rw [hvu, hu] at hv
      cases hv
  · by_cases hvu : v = u
    · exact .inr ⟨hvu, rfl⟩
    · have hold : ((s.goto u .txCreated).setTx u (created ok)).tx v = s.tx v :=
        Function.update_of_ne hvu ..
      rw [hold] at hv
      rcases hs.tx v hv with hv | hv
      · exact .inl hv
      · exact absurd (hv ▸ .txCreated) (hs.others hstart v hvu)

/-- Storing it in `tcp_tx` keeps track. -/
lemma recordTx (hs : Tracked s) (hu : s.calls u = .txCreated) :
    Tracked { s.goto u .txStarted with tcpTx := taskOf u (s.tx u) } := by
  have hstart : (s.calls u).Starting := hu ▸ .txCreated
  have hfree := hs.txFree u hstart
  refine advance (u := u) (hs.others hstart) rfl (fun v hv => ?_) (fun v hv => ?_)
    (fun h => (by cases h)) (fun h => (by cases h)) hs.stopRx
    (fun v hv => absurd ⟨v, hs.stopTx v hv⟩ hfree)
  · rcases hs.rx v hv with hv | hv
    · exact .inl hv
    · have hvu : v = u := hs.one v u (hv ▸ .rxCreated) hstart
      rw [hvu, hu] at hv
      cases hv
  · rcases hs.tx v hv with hv' | hv'
    · exact absurd ⟨v, hv'⟩ hfree
    · obtain rfl : v = u := hs.one v u (hv' ▸ .txCreated) hstart
      replace hv : (s.tx v).Running := hv
      refine .inl (if_neg fun habsent => ?_)
      rw [habsent] at hv
      exact absurd hv (by decide)

/-- The last section of a store keeps track. -/
lemma storeFinish (hs : Tracked s) (hu : s.calls u = .txStarted) : Tracked (storeFinish d u s) := by
  refine hs.keep (fun _ => id) (fun _ => id) (fun v => ?_) rfl rfl hs.stopRx hs.stopTx
  by_cases hvu : v = u
  · subst hvu
    refine .inr ⟨by rw [hu]; decide, ?_⟩
    show ¬ (Function.update s.calls v (.returned true) v).Starting
    rw [Function.update_self]
    decide
  · exact .inl (Function.update_of_ne hvu ..)

/-- A thread leaves its loop or ends. -/
lemma setRx {k : Thread} (hs : Tracked s) (hu : (s.rx u).Running) : Tracked (s.setRx u k) := by
  refine hs.keep (fun v hv => ?_) (fun _ => id) (fun _ => .inl rfl) rfl rfl hs.stopRx hs.stopTx
  by_cases hvu : v = u
  · exact hvu ▸ hu
  · have hold : (s.setRx u k).rx v = s.rx v := Function.update_of_ne hvu ..
    exact hold ▸ hv

/-- A sending thread that runs may go on. -/
lemma setTx {k : Thread} (hs : Tracked s) (hu : (s.tx u).Running) : Tracked (s.setTx u k) := by
  refine hs.keep (fun _ => id) (fun v hv => ?_) (fun _ => .inl rfl) rfl rfl hs.stopRx hs.stopTx
  by_cases hvu : v = u
  · exact hvu ▸ hu
  · have hold : (s.setTx u k).tx v = s.tx v := Function.update_of_ne hvu ..
    exact hold ▸ hv

omit [DecidableEq ι] in
/-- Adding an event moves no thread. -/
lemma usbipEventAdd (hs : Tracked s) (c : Cause) : Tracked (usbipEventAdd c s) :=
  hs.keep (fun _ => id) (fun _ => id) (fun _ => .inl rfl) rfl rfl hs.stopRx hs.stopTx

end Calls

end Tracked

/-! ## The event work -/

section EventHandler

variable {d : Driver} {ok : Bool}

/-- The handler stops only threads that it finds recorded. -/
lemma Tracked.eventHandler (hs : Tracked s) (h : eventHandler d ok s = some t) : Tracked t := by
  unfold Connect.eventHandler at h
  split at h <;> rename_i heh
  case h_3 =>
    split at h <;> rename_i hrx <;> cases h
    · exact hs.keep (fun _ => id) (fun _ => id) (fun _ => .inl rfl) rfl rfl (by simp) (by simp)
    · exact hs.keep (fun _ => id) (fun _ => id) (fun _ => .inl rfl) rfl rfl (by simp [hrx]) (by simp)
    · exact hs.keep (fun _ => id) (fun _ => id) (fun _ => .inl rfl) rfl rfl (by simp) (by simp)
  case h_4 u =>
    obtain ⟨hended, h⟩ := Option.ite_none_right_eq_some.mp h
    cases h
    -- The thread that has ended is the only one that is recorded.
    have hrec := hs.stopRx u heh
    refine ⟨fun v hv => ?_, hs.tx, hs.one, fun _ _ => .inr (by simp [Task.IsThread]), hs.txFree,
      by simp, by simp⟩
    refine .inr ((hs.rx v hv).resolve_left fun hv' => ?_)
    obtain rfl : v = u := by simpa [hrec] using hv'.symm
    replace hv : (s.rx v).Running := hv
    rw [hended] at hv
    exact absurd hv (by decide)
  case h_5 =>
    split at h <;> rename_i htx <;> cases h
    · exact hs.keep (fun _ => id) (fun _ => id) (fun _ => .inl rfl) rfl rfl (by simp) (by simp)
    · exact hs.keep (fun _ => id) (fun _ => id) (fun _ => .inl rfl) rfl rfl (by simp) (by simp [htx])
    · exact hs.keep (fun _ => id) (fun _ => id) (fun _ => .inl rfl) rfl rfl (by simp) (by simp)
  case h_6 u =>
    obtain ⟨hended, h⟩ := Option.ite_none_right_eq_some.mp h
    cases h
    have hrec := hs.stopTx u heh
    refine ⟨hs.rx, fun v hv => ?_, hs.one, hs.rxFree, fun _ _ => (by simp [Task.IsThread]),
      by simp, by simp⟩
    refine .inr ((hs.tx v hv).resolve_left fun hv' => ?_)
    obtain rfl : v = u := by simpa [hrec] using hv'.symm
    replace hv : (s.tx v).Running := hv
    rw [hended] at hv
    exact absurd hv (by decide)
  case h_2 =>
    split at h <;> cases h <;>
      exact hs.keep (fun _ => id) (fun _ => id) (fun _ => .inl rfl) rfl rfl (by simp) (by simp)
  case h_9 =>
    cases h
    refine hs.keep (fun _ => id) (fun _ => id) (fun _ => .inl rfl) rfl rfl ?_ ?_ <;> dsimp only <;>
      split <;> simp
  case h_12 =>
    cases h
    refine hs.keep (fun _ => id) (fun _ => id) (fun _ => .inl rfl) rfl rfl ?_ ?_ <;> dsimp only <;>
      split <;> simp
  case h_15 => cases h
  all_goals
    cases h
    exact hs.keep (fun _ => id) (fun _ => id) (fun _ => .inl rfl) rfl rfl (by simp) (by simp)

end EventHandler

variable [DecidableEq ι] {d : Driver} {a : Action ι}

/-- Every covered step keeps track. -/
theorem tracked_step (hs : Tracked s) (hok : Covered d s a) (h : step d s a = some t) :
    Tracked t := by
  cases a with
  | check u o =>
      obtain ⟨hu, h⟩ := Option.ite_none_right_eq_some.mp h
      cases h
      exact hs.storeCheck hok hu
  | createRx u ok =>
      obtain ⟨hu, h⟩ := Option.ite_none_right_eq_some.mp h
      cases h
      exact hs.createRx hu
  | recordRx u =>
      obtain ⟨hu, h⟩ := Option.ite_none_right_eq_some.mp h
      cases h
      exact hs.recordRx hu
  | createTx u ok =>
      obtain ⟨hu, h⟩ := Option.ite_none_right_eq_some.mp h
      cases h
      exact hs.createTx hu
  | recordTx u =>
      obtain ⟨hu, h⟩ := Option.ite_none_right_eq_some.mp h
      cases h
      exact hs.recordTx hu
  | finish u =>
      obtain ⟨hu, h⟩ := Option.ite_none_right_eq_some.mp h
      cases h
      exact hs.storeFinish hu
  | disconnect =>
      cases h
      cases d <;> simp only [disconnect] <;> split <;> first | exact hs | exact hs.usbipEventAdd _
  | eventAdd c =>
      cases h
      exact hs.usbipEventAdd c
  | leaveRx u =>
      obtain ⟨⟨hu, -⟩, h⟩ := Option.ite_none_right_eq_some.mp h
      cases h
      exact hs.setRx (.inl hu)
  | endRx u =>
      obtain ⟨hu, h⟩ := Option.ite_none_right_eq_some.mp h
      cases h
      exact hs.setRx (.inr hu)
  | leaveTx u =>
      obtain ⟨⟨hu, -⟩, h⟩ := Option.ite_none_right_eq_some.mp h
      cases h
      exact hs.setTx (.inl hu)
  | failTx u c =>
      obtain ⟨hu, h⟩ := Option.ite_none_right_eq_some.mp h
      cases h
      exact (hs.setTx (.inl hu)).usbipEventAdd c
  | endTx u =>
      obtain ⟨hu, h⟩ := Option.ite_none_right_eq_some.mp h
      cases h
      exact hs.setTx (.inr hu)
  | handler ok => exact hs.eventHandler h

/-! ## Threads that are gone stay away -/

/-- One step of a call. -/
inductive StorePc.Next : StorePc → StorePc → Prop
  | fail : Next .idle (.returned false)
  | link : Next .idle .linked
  | createRx : Next .linked .rxCreated
  | recordRx : Next .rxCreated .rxStarted
  | createTx : Next .rxStarted .txCreated
  | recordTx : Next .txCreated .txStarted
  | finish : Next .txStarted (.returned true)

/-- A call that has recorded its receiving thread has recorded it for good. -/
lemma StorePc.RxPast.next {pc pc' : StorePc} (hs : pc.RxPast) (h : pc.Next pc') : pc'.RxPast := by
  cases hs <;> cases h <;> constructor

/-- A call that has recorded its sending thread has recorded it for good. -/
lemma StorePc.TxPast.next {pc pc' : StorePc} (hs : pc.TxPast) (h : pc.Next pc') : pc'.TxPast := by
  cases hs <;> cases h
  exact .returned true

/-- A step leaves a call where it is or moves it on by one. -/
lemma calls_step (h : step d s a = some t) (u : ι) :
    t.calls u = s.calls u ∨ (s.calls u).Next (t.calls u) := by
  have hgoto : ∀ {v pc}, (s.calls v).Next pc →
      (s.goto v pc).calls u = s.calls u ∨ (s.calls u).Next ((s.goto v pc).calls u) := by
    intro v pc hnext
    rw [goto_calls]
    split
    · rename_i huv
      exact .inr (huv ▸ hnext)
    · exact .inl rfl
  cases a with
  | check v o =>
      obtain ⟨hv, h⟩ := Option.ite_none_right_eq_some.mp h
      cases h
      rcases storeCheck_calls d v u o s with h | ⟨rfl, h | h⟩
      · exact .inl h
      · exact .inr (by rw [h, hv]; exact .link)
      · exact .inr (by rw [h, hv]; exact .fail)
  | createRx v ok =>
      obtain ⟨hv, h⟩ := Option.ite_none_right_eq_some.mp h
      cases h
      exact hgoto (hv ▸ .createRx)
  | recordRx v =>
      obtain ⟨hv, h⟩ := Option.ite_none_right_eq_some.mp h
      cases h
      exact hgoto (hv ▸ .recordRx)
  | createTx v ok =>
      obtain ⟨hv, h⟩ := Option.ite_none_right_eq_some.mp h
      cases h
      exact hgoto (hv ▸ .createTx)
  | recordTx v =>
      obtain ⟨hv, h⟩ := Option.ite_none_right_eq_some.mp h
      cases h
      exact hgoto (hv ▸ .recordTx)
  | finish v =>
      obtain ⟨hv, h⟩ := Option.ite_none_right_eq_some.mp h
      cases h
      exact hgoto (hv ▸ .finish)
  | disconnect =>
      cases h
      rcases disconnect_eq d s with h | h <;> rw [h] <;> exact .inl rfl
  | eventAdd c =>
      cases h
      exact .inl rfl
  | leaveRx v | endRx v | leaveTx v | failTx v c | endTx v =>
      obtain ⟨-, h⟩ := Option.ite_none_right_eq_some.mp h
      cases h
      exact .inl rfl
  | handler ok => exact .inl (congrFun (eventHandler_frame h).1 u)

/-- A receiving thread comes from its call, and so does the pointer to it. -/
lemma rx_step (h : step d s a = some t) (u : ι) :
    ((t.rx u).Running → (s.rx u).Running ∨ s.calls u = .linked) ∧
      (t.tcpRx = .thread u → s.tcpRx = .thread u ∨ s.calls u = .rxCreated) := by
  have hset : ∀ v k, (s.rx v).Running → ((s.setRx v k).rx u).Running → (s.rx u).Running := by
    intro v k hv hu
    rw [setRx_rx] at hu
    split at hu
    · rename_i huv
      exact huv ▸ hv
    · exact hu
  cases a with
  | check v o =>
      obtain ⟨-, h⟩ := Option.ite_none_right_eq_some.mp h
      cases h
      have hthreads := storeCheck_threads d v o s
      rw [State.threads, State.threads, Prod.mk.injEq, Prod.mk.injEq, Prod.mk.injEq] at hthreads
      obtain ⟨hrx, -, htcpRx, -⟩ := hthreads
      rw [hrx, htcpRx]
      exact ⟨.inl, .inl⟩
  | createRx v ok =>
      obtain ⟨hv, h⟩ := Option.ite_none_right_eq_some.mp h
      cases h
      refine ⟨fun hu => ?_, .inl⟩
      rw [setRx_rx] at hu
      split at hu
      · rename_i huv
        exact .inr (huv ▸ hv)
      · exact .inl hu
  | recordRx v =>
      obtain ⟨hv, h⟩ := Option.ite_none_right_eq_some.mp h
      cases h
      refine ⟨.inl, fun hu => .inr ?_⟩
      replace hu : taskOf v (s.rx v) = .thread u := hu
      unfold taskOf at hu
      split at hu <;> cases hu
      exact hv
  | createTx v ok | recordTx v | finish v | leaveTx v | failTx v c | endTx v =>
      obtain ⟨-, h⟩ := Option.ite_none_right_eq_some.mp h
      cases h
      exact ⟨.inl, .inl⟩
  | disconnect =>
      cases h
      rcases disconnect_eq d s with h | h <;> rw [h] <;> exact ⟨.inl, .inl⟩
  | eventAdd c =>
      cases h
      exact ⟨.inl, .inl⟩
  | leaveRx v =>
      obtain ⟨⟨hv, -⟩, h⟩ := Option.ite_none_right_eq_some.mp h
      cases h
      exact ⟨fun hu => .inl (hset v _ (.inl hv) hu), .inl⟩
  | endRx v =>
      obtain ⟨hv, h⟩ := Option.ite_none_right_eq_some.mp h
      cases h
      exact ⟨fun hu => .inl (hset v _ (.inr hv) hu), .inl⟩
  | handler ok =>
      obtain ⟨-, hrx, -, htcpRx | htcpRx, -⟩ := eventHandler_frame h <;> rw [hrx, htcpRx]
      · exact ⟨.inl, .inl⟩
      · exact ⟨.inl, fun h => (by cases h)⟩

/-- The same of a sending thread. -/
lemma tx_step (h : step d s a = some t) (u : ι) :
    ((t.tx u).Running → (s.tx u).Running ∨ s.calls u = .rxStarted) ∧
      (t.tcpTx = .thread u → s.tcpTx = .thread u ∨ s.calls u = .txCreated) := by
  have hset : ∀ v k, (s.tx v).Running → ((s.setTx v k).tx u).Running → (s.tx u).Running := by
    intro v k hv hu
    rw [setTx_tx] at hu
    split at hu
    · rename_i huv
      exact huv ▸ hv
    · exact hu
  cases a with
  | check v o =>
      obtain ⟨-, h⟩ := Option.ite_none_right_eq_some.mp h
      cases h
      have hthreads := storeCheck_threads d v o s
      rw [State.threads, State.threads, Prod.mk.injEq, Prod.mk.injEq, Prod.mk.injEq] at hthreads
      obtain ⟨-, htx, -, htcpTx⟩ := hthreads
      rw [htx, htcpTx]
      exact ⟨.inl, .inl⟩
  | createTx v ok =>
      obtain ⟨hv, h⟩ := Option.ite_none_right_eq_some.mp h
      cases h
      refine ⟨fun hu => ?_, .inl⟩
      rw [setTx_tx] at hu
      split at hu
      · rename_i huv
        exact .inr (huv ▸ hv)
      · exact .inl hu
  | recordTx v =>
      obtain ⟨hv, h⟩ := Option.ite_none_right_eq_some.mp h
      cases h
      refine ⟨.inl, fun hu => .inr ?_⟩
      replace hu : taskOf v (s.tx v) = .thread u := hu
      unfold taskOf at hu
      split at hu <;> cases hu
      exact hv
  | createRx v ok | recordRx v | finish v | leaveRx v | endRx v =>
      obtain ⟨-, h⟩ := Option.ite_none_right_eq_some.mp h
      cases h
      exact ⟨.inl, .inl⟩
  | disconnect =>
      cases h
      rcases disconnect_eq d s with h | h <;> rw [h] <;> exact ⟨.inl, .inl⟩
  | eventAdd c =>
      cases h
      exact ⟨.inl, .inl⟩
  | leaveTx v =>
      obtain ⟨⟨hv, -⟩, h⟩ := Option.ite_none_right_eq_some.mp h
      cases h
      exact ⟨fun hu => .inl (hset v _ (.inl hv) hu), .inl⟩
  | failTx v c =>
      obtain ⟨hv, h⟩ := Option.ite_none_right_eq_some.mp h
      cases h
      exact ⟨fun hu => .inl (hset v _ (.inl hv) hu), .inl⟩
  | endTx v =>
      obtain ⟨hv, h⟩ := Option.ite_none_right_eq_some.mp h
      cases h
      exact ⟨fun hu => .inl (hset v _ (.inr hv) hu), .inl⟩
  | handler ok =>
      obtain ⟨-, -, htx, -, htcpTx | htcpTx⟩ := eventHandler_frame h <;> rw [htx, htcpTx]
      · exact ⟨.inl, .inl⟩
      · exact ⟨.inl, fun h => (by cases h)⟩

/-- The receiving thread of a call has been stopped for good. -/
structure RxGone (s : State ι) (u : ι) : Prop where
  stopped : ¬ (s.rx u).Running
  unrecorded : s.tcpRx ≠ .thread u
  past : (s.calls u).RxPast

/-- The sending thread of a call has been stopped for good. -/
structure TxGone (s : State ι) (u : ι) : Prop where
  stopped : ¬ (s.tx u).Running
  unrecorded : s.tcpTx ≠ .thread u
  past : (s.calls u).TxPast

/-- The receiving thread of a call stays recorded. -/
lemma rxPast_step (hs : (s.calls u).RxPast) (h : step d s a = some t) : (t.calls u).RxPast :=
  (calls_step h u).elim (fun heq => heq ▸ hs) hs.next

/-- The sending thread of a call stays recorded. -/
lemma txPast_step (hs : (s.calls u).TxPast) (h : step d s a = some t) : (t.calls u).TxPast :=
  (calls_step h u).elim (fun heq => heq ▸ hs) hs.next

/-- A receiving thread that is gone stays gone. -/
lemma rxGone_step (hs : RxGone s u) (h : step d s a = some t) : RxGone t u := by
  obtain ⟨hrx, htcpRx⟩ := rx_step h u
  have hpast := hs.past
  refine ⟨fun hu => ?_, fun hu => ?_, rxPast_step hpast h⟩
  · rcases hrx hu with hu | hu
    · exact hs.stopped hu
    · rw [hu] at hpast
      cases hpast
  · rcases htcpRx hu with hu | hu
    · exact hs.unrecorded hu
    · rw [hu] at hpast
      cases hpast

/-- A sending thread that is gone stays gone. -/
lemma txGone_step (hs : TxGone s u) (h : step d s a = some t) : TxGone t u := by
  obtain ⟨htx, htcpTx⟩ := tx_step h u
  have hpast := hs.past
  refine ⟨fun hu => ?_, fun hu => ?_, txPast_step hpast h⟩
  · rcases htx hu with hu | hu
    · exact hs.stopped hu
    · rw [hu] at hpast
      cases hpast
  · rcases htcpTx hu with hu | hu
    · exact hs.unrecorded hu
    · rw [hu] at hpast
      cases hpast

/-! ## Connections that are over -/

/-- What the shutdown has done by a position for a connection that it closes. -/
def Cleared (s : State ι) (u : ι) : EhPc ι → Prop
  | .readRx | .crashed => True
  | .stopRx _ => (s.calls u).RxPast
  | .readTx => RxGone s u
  | .stopTx _ => RxGone s u ∧ (s.calls u).TxPast
  | .closeSocket => RxGone s u ∧ TxGone s u
  | _ => False

/-- The threads of connections that are shut down are gone. -/
structure Stopped (s : State ι) : Prop where
  closing : ∀ u, s.stage u = .closing → Cleared s u s.eh
  gone : ∀ u, s.stage u = .shut ∨ s.stage u = .over → RxGone s u ∧ TxGone s u

omit [DecidableEq ι] in
/-- What opens no connection and leaves what is gone gone keeps the threads stopped. -/
lemma Stopped.mono (hs : Stopped s) (heh : t.eh = s.eh)
    (hstage : ∀ u, t.stage u = s.stage u ∨ t.stage u = .opened)
    (hcleared : ∀ u pc, Cleared s u pc → Cleared t u pc)
    (hgone : ∀ u, RxGone s u ∧ TxGone s u → RxGone t u ∧ TxGone t u) : Stopped t := by
  refine ⟨fun u hu => ?_, fun u hu => ?_⟩
  · rcases hstage u with h | h
    · rw [heh]
      exact hcleared u s.eh (hs.closing u (h ▸ hu))
    · rw [h] at hu
      cases hu
  · rcases hstage u with h | h
    · exact hgone u (hs.gone u (h ▸ hu))
    · rw [h] at hu
      rcases hu with hu | hu <;> cases hu

/-- A pointer that was cleared stays cleared. -/
lemma cleared_step {pc : EhPc ι} (hs : Cleared s u pc) (h : step d s a = some t) :
    Cleared t u pc := by
  cases pc with
  | readRx | crashed => trivial
  | stopRx => exact rxPast_step hs h
  | readTx => exact rxGone_step hs h
  | stopTx => exact ⟨rxGone_step hs.1 h, txPast_step hs.2 h⟩
  | closeSocket => exact ⟨rxGone_step hs.1 h, txGone_step hs.2 h⟩
  | _ => exact hs

/-- Only the event work changes its position, and only a call opens a connection. -/
lemma stage_step (h : step d s a = some t) (ha : ∀ ok, a ≠ .handler ok) :
    t.eh = s.eh ∧ ∀ u, t.stage u = s.stage u ∨ t.stage u = .opened := by
  cases a with
  | check v o =>
      obtain ⟨-, h⟩ := Option.ite_none_right_eq_some.mp h
      cases h
      unfold storeCheck
      split
      · exact ⟨rfl, fun _ => .inl rfl⟩
      · cases o with
        | noSocket | notLinked => exact ⟨rfl, fun _ => .inl rfl⟩
        | linked =>
            refine ⟨rfl, fun u => ?_⟩
            by_cases huv : u = v
            · exact .inr (huv ▸ Function.update_self ..)
            · exact .inl (Function.update_of_ne huv ..)
  | disconnect =>
      cases h
      rcases disconnect_eq d s with h | h <;> rw [h] <;> exact ⟨rfl, fun _ => .inl rfl⟩
  | eventAdd c =>
      cases h
      exact ⟨rfl, fun _ => .inl rfl⟩
  | handler ok => exact absurd rfl (ha ok)
  | _ =>
      obtain ⟨-, h⟩ := Option.ite_none_right_eq_some.mp h
      cases h
      exact ⟨rfl, fun _ => .inl rfl⟩

section EventHandler

variable {ok : Bool}

omit [DecidableEq ι] in
/-- Once `ud->tcp_rx` is NULL, no thread of a call that has recorded its own is running. -/
lemma Tracked.rxGone (ht : Tracked s) (hpast : (s.calls u).RxPast) (hnull : s.tcpRx = .null) :
    RxGone s u := by
  refine ⟨fun hrun => ?_, by simp [hnull], hpast⟩
  rcases ht.rx u hrun with h | h
  · rw [hnull] at h
    cases h
  · rw [h] at hpast
    cases hpast

omit [DecidableEq ι] in
/-- A call whose sending thread is recorded, with the pointer cleared, has lost it. -/
lemma Tracked.txGone (ht : Tracked s) (hpast : (s.calls u).TxPast) (hnull : s.tcpTx = .null) :
    TxGone s u := by
  refine ⟨fun hrun => ?_, by simp [hnull], hpast⟩
  rcases ht.tx u hrun with h | h
  · rw [hnull] at h
    cases h
  · rw [h] at hpast
    cases hpast

/-- The handler ends a connection only when its threads are gone. -/
lemma Stopped.eventHandler (hs : Stopped s) (ht : Tracked t) (hok : Covered d s (.handler ok))
    (h : eventHandler d ok s = some t) : Stopped t := by
  have hstep : step d s (.handler ok) = some t := h
  have hrxGone : ∀ u, RxGone s u → RxGone t u := fun u hu => rxGone_step hu hstep
  have hgone : ∀ u, RxGone s u ∧ TxGone s u → RxGone t u ∧ TxGone t u := fun u hu =>
    ⟨hrxGone u hu.1, txGone_step hu.2 hstep⟩
  have hclosing := hs.closing
  have hsame : t.stage = s.stage → (∀ u, Cleared s u s.eh → Cleared t u t.eh) → Stopped t :=
    fun hstage hcleared =>
      ⟨fun u hu => hcleared u (hs.closing u (hstage ▸ hu)), fun u hu => hgone u (hs.gone u (hstage ▸ hu))⟩
  unfold Connect.eventHandler at h
  split at h <;> rename_i heh <;> simp only [heh] at hclosing hsame
  case h_2 =>
    split at h
    · cases h
      refine ⟨fun u hu => trivial, fun u hu => hgone u (hs.gone u ?_)⟩
      by_cases hopen : s.stage u = .opened
      · simp [hopen] at hu
      · simpa [hopen] using hu
    · cases h
      exact hsame rfl fun _ => False.elim
  case h_3 =>
    have hpast : ∀ u, s.stage u = .closing → (s.calls u).RxPast := fun u hu => (hok u hu).1 heh
    split at h <;> rename_i hrx <;> cases h
    · exact ⟨fun u hu => ht.rxGone (hpast u hu) hrx, fun u hu => hgone u (hs.gone u hu)⟩
    · exact ⟨fun u hu => hpast u hu, fun u hu => hgone u (hs.gone u hu)⟩
    · exact ⟨fun u hu => trivial, fun u hu => hgone u (hs.gone u hu)⟩
  case h_4 v =>
    obtain ⟨-, h⟩ := Option.ite_none_right_eq_some.mp h
    cases h
    exact hsame rfl fun u hu => ht.rxGone hu rfl
  case h_5 =>
    have hpast : ∀ u, s.stage u = .closing → (s.calls u).TxPast := fun u hu => (hok u hu).2 heh
    split at h <;> rename_i htx <;> cases h
    · exact ⟨fun u hu => ⟨hrxGone u (hclosing u hu), ht.txGone (hpast u hu) htx⟩,
        fun u hu => hgone u (hs.gone u hu)⟩
    · exact ⟨fun u hu => ⟨hrxGone u (hclosing u hu), hpast u hu⟩, fun u hu => hgone u (hs.gone u hu)⟩
    · exact ⟨fun u hu => trivial, fun u hu => hgone u (hs.gone u hu)⟩
  case h_6 v =>
    obtain ⟨-, h⟩ := Option.ite_none_right_eq_some.mp h
    cases h
    exact hsame rfl fun u hu => ⟨hrxGone u hu.1, ht.txGone hu.2 rfl⟩
  case h_7 =>
    cases h
    refine ⟨fun u hu => ?_, fun u hu => ?_⟩
    · by_cases hclose : s.stage u = .closing <;> simp [hclose] at hu
    · by_cases hclose : s.stage u = .closing
      · exact hgone u (hclosing u hclose)
      · exact hgone u (hs.gone u (by simpa [hclose] using hu))
  case h_9 =>
    cases h
    exact hsame rfl fun _ => False.elim
  case h_10 =>
    cases h
    refine ⟨fun u hu => ?_, fun u hu => ?_⟩
    · by_cases hshut : s.stage u = .shut
      · simp [deviceReset, hshut] at hu
      · exact hclosing u (by simpa [deviceReset, hshut] using hu)
    · by_cases hshut : s.stage u = .shut
      · exact hgone u (hs.gone u (.inl hshut))
      · exact hgone u (hs.gone u (by simpa [deviceReset, hshut] using hu))
  case h_15 => cases h
  all_goals
    cases h
    exact hsame rfl fun _ => False.elim

end EventHandler

/-- Every covered step keeps the threads of ended connections stopped. -/
theorem stopped_step (hs : Stopped s) (ht : Tracked t) (hok : Covered d s a)
    (h : step d s a = some t) : Stopped t := by
  by_cases ha : ∃ ok, a = .handler ok
  · obtain ⟨ok, rfl⟩ := ha
    exact hs.eventHandler ht hok h
  · obtain ⟨heh, hstage⟩ := stage_step h fun ok hok => ha ⟨ok, hok⟩
    exact hs.mono heh hstage (fun u pc hu => cleared_step hu h)
      fun u hu => ⟨rxGone_step hu.1 h, txGone_step hu.2 h⟩

/-- Threads are tracked and stopped in every covered run. -/
lemma stopped_of_reach (h : (machine d).Reach (Covered d) s) : Tracked s ∧ Stopped s := by
  refine h.invariant (I := fun s => Tracked s ∧ Stopped s) ?_ ?_
  · rintro s rfl
    refine ⟨⟨fun _ h => ?_, fun _ h => ?_, fun _ _ h => (by cases h), fun _ h => (by cases h),
      fun _ h => (by cases h), fun _ h => (by cases h), fun _ h => (by cases h)⟩,
      fun _ h => (by cases h), fun _ h => ?_⟩
    · exact absurd h (show ¬ Thread.absent.Running by decide)
    · exact absurd h (show ¬ Thread.absent.Running by decide)
    · rcases h with h | h <;> cases h
  · intro s a t hs hok hstep
    have ht := tracked_step hs.1 hok hstep
    exact ⟨ht, stopped_step hs.2 ht hok hstep⟩

/-- In every run that is `Covered`, a connection that has been shut down and reset has no thread
left, running or recorded. -/
theorem threads_stopped (h : (machine .vhci).Reach (Covered .vhci) s) (hover : s.stage u = .over) :
    ¬ (s.rx u).Running ∧ ¬ (s.tx u).Running ∧ s.tcpRx ≠ .thread u ∧ s.tcpTx ≠ .thread u := by
  obtain ⟨hrx, htx⟩ := (stopped_of_reach h).2.gone u (.inr hover)
  exact ⟨hrx.stopped, htx.stopped, hrx.unrecorded, htx.unrecorded⟩

/-! ## Runs -/

instance [Fintype ι] (d : Driver) (s : State ι) (a : Action ι) : Decidable (Covered d s a) :=
  match a with
  | .check _ o => inferInstanceAs (Decidable (s.status = d.free ∧ o = .linked →
      ¬ s.tcpRx.IsThread ∧ ¬ s.tcpTx.IsThread ∧ ∀ u, ¬ (s.calls u).Starting))
  | .handler _ => inferInstanceAs (Decidable (∀ u, s.stage u = .closing →
      (s.eh = .readRx → (s.calls u).RxPast) ∧ (s.eh = .readTx → (s.calls u).TxPast)))
  | .createRx _ _ | .recordRx _ | .createTx _ _ | .recordTx _ | .finish _ | .disconnect
  | .eventAdd _ | .leaveRx _ | .endRx _ | .leaveTx _ | .failTx _ _ | .endTx _ => isTrue trivial

/-- A call that takes the port and returns. -/
def attach (t : ι) : List (Action ι) :=
  [.check t .linked, .createRx t true, .recordRx t, .createTx t true, .recordTx t, .finish t]

/-- A detach, with all that the event work does for it. -/
def detach (t : ι) : List (Action ι) :=
  List.flatten [[.disconnect], List.replicate 3 (.handler true), [.leaveRx t, .endRx t],
    List.replicate 2 (.handler true), [.leaveTx t, .endTx t], List.replicate 7 (.handler true)]

/-- A connection that was opened and shut down. -/
theorem threads_stopped_detach : ∃ s : State Unit, s.stage () = .over ∧
    ¬ (s.rx ()).Running ∧ ¬ (s.tx ()).Running ∧ s.tcpRx ≠ .thread () ∧ s.tcpTx ≠ .thread () := by
  have hrun : ∃ s : State Unit, (machine .vhci).Reach (Covered .vhci) s ∧ s.stage () = .over :=
    Machine.Reach.of_perform (attach () ++ detach ()) rfl (by decide +kernel)
  obtain ⟨s, hs, hover⟩ := hrun
  exact ⟨s, hover, threads_stopped hs hover⟩

/-- A detach that is handled before `store_attach` has created its threads: they run on a port that
is free. -/
theorem threads_left_behind : ¬ ∀ s : State Unit, (machine .vhci).Reachable s →
    s.stage () = .over → ¬ (s.rx ()).Running ∧ ¬ (s.tx ()).Running ∧
      s.tcpRx ≠ .thread () ∧ s.tcpTx ≠ .thread () := by
  intro hall
  have hrun : ∃ s : State Unit, (machine .vhci).Reachable s ∧ s.stage () = .over ∧
      (s.rx ()).Running ∧ s.status = .vdevNull :=
    Machine.Reach.of_perform
      (List.flatten [[.check () .linked, .disconnect], List.replicate 10 (.handler true),
        [.createRx () true, .recordRx (), .createTx () true, .recordTx (), .finish ()]])
      rfl (by decide +kernel)
  obtain ⟨s, hs, hover, hrx, -⟩ := hrun
  exact (hall s hs hover).1 hrx

end Usbip.Connect
