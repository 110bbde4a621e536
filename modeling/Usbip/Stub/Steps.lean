import Usbip.Stub.Machine

/-!
# Steps of the kernel stub

What an action can do, said once (`moves_of_step`).  From it `step_effect` for the lists, and
`Quiet.step` for the shutdown (the socket is closed only after both threads have returned).  The
invariants of the machine are derived from these.
-/

namespace Usbip.Stub

open Usbip.Core Usbip.Common

variable {s t : State} {a : Action}

/-! ## What an action does -/

/-- What an action finds, and the state that it leaves. -/
inductive Moves (s : State) : Action → State → Prop
  | eventAdd : Moves s .eventAdd { s with event := true }
  | rxTop (hrx : s.rx = .top) :
      Moves s .rxTop { s with rx := if s.event then .stopped else .pdu }
  | rxFail (hrx : s.rx = .pdu) : Moves s .rxFail { s with rx := .top, event := true }
  | rxCmdUnlink {u n : Seqnum} (hrx : s.rx = .pdu) :
      Moves s (.rxCmdUnlink u n) { s with lists := s.lists.stubRecvCmdUnlink 0 u n, rx := .top }
  | rxCmdSubmit {n : Seqnum} (hrx : s.rx = .pdu) :
      Moves s (.rxCmdSubmit n) { s with lists := s.lists.stubPrivAlloc n, rx := .submit n }
  | rxSubmitUrb {n : Seqnum} (hrx : s.rx = .submit n) :
      Moves s .rxSubmitUrb { s with inFlight := s.inFlight ++ [n], rx := .top }
  | rxSubmitFail {n : Seqnum} {addsEvent : Bool} (hrx : s.rx = .submit n) :
      Moves s (.rxSubmitFail addsEvent) { s with event := s.event || addsEvent, rx := .top }
  | ignored {n : Seqnum} {r : UrbResult} (hn : n ∈ s.inFlight)
      (h : r.status = -ENOENT ∨ s.tcpSocket = false) :
      Moves s (.complete n r) { s with inFlight := s.inFlight.erase n }
  | complete {n : Seqnum} {r : UrbResult} {lists : Session UrbResult (BitVec 32)}
      (hn : n ∈ s.inFlight) (hs : s.tcpSocket = true)
      (h : s.lists.stubComplete n r r.status = some lists) :
      Moves s (.complete n r) { s with inFlight := s.inFlight.erase n, lists }
  | txTop (htx : s.lists.tx = .top) :
      Moves s .txTop { s with lists := { s.lists with
        tx := if s.event then .stopped none else .submit } }
  | tx {sendOk : Bool} {lists : Session UrbResult (BitVec 32)}
      (h : s.lists.stubTxStep sendOk = some lists) :
      Moves s (.tx sendOk) { s with lists, event := s.event || lists.tx matches .stopped _ }
  | ehShutdown (he : s.eh = .idle) (hevent : s.event = true) :
      Moves s .ehShutdown { s with eh := .stopThreads }
  | ehClose {lost : Option (Ret UrbResult (BitVec 32))} (he : s.eh = .stopThreads)
      (hrx : s.rx = .stopped) (htx : s.lists.tx = .stopped lost) :
      Moves s .ehClose { s with tcpSocket := false, eh := .cleanup }
  | ehPop {p : StubPriv UrbResult} {lists : Session UrbResult (BitVec 32)} (he : s.eh = .cleanup)
      (h : stubPrivPop s.lists = some (p, lists)) : Moves s .ehPop { s with lists, eh := .kill p }
  | ehPopped (he : s.eh = .cleanup) (h : stubPrivPop s.lists = none) :
      Moves s .ehPop { s with eh := .freeUnlinks }
  | ehFree {p : StubPriv UrbResult} (he : s.eh = .kill p) (h : p.origin ∉ s.inFlight) :
      Moves s .ehFree { s with
        lists := { s.lists with freed := s.lists.freed ++ [p.origin] }
        eh := .cleanup }
  | ehFreeUnlinks (he : s.eh = .freeUnlinks) :
      Moves s .ehFreeUnlinks
        { s with lists := { s.lists with unlinkTx := [], unlinkFree := [] }, eh := .done }

/-- What a completion does to the state. -/
lemma moves_of_stubComplete {n : Seqnum} {r : UrbResult} (hn : n ∈ s.inFlight)
    (h : stubComplete n r s = some t) : Moves s (.complete n r) t := by
  unfold stubComplete at h
  by_cases hr : r.status = -ENOENT
  · rw [if_pos hr] at h
    obtain rfl := Option.some.inj h
    exact .ignored hn (Or.inl hr)
  · rw [if_neg hr] at h
    by_cases hs : s.tcpSocket = false
    · rw [if_pos hs] at h
      obtain rfl := Option.some.inj h
      exact .ignored hn (Or.inr hs)
    · rw [if_neg hs, Option.map_eq_some_iff] at h
      obtain ⟨lists, hl, rfl⟩ := h
      exact .complete hn (by simpa using hs) hl

/-- A step of the machine, taken apart. -/
lemma moves_of_step (h : step s a = some t) : Moves s a t := by
  cases a with
  | eventAdd =>
      obtain rfl := Option.some.inj h
      exact .eventAdd
  | rxTop =>
      simp only [step] at h
      split at h <;> cases h
      rename_i hrx
      exact .rxTop hrx
  | rxFail =>
      simp only [step] at h
      split at h <;> cases h
      rename_i hrx
      exact .rxFail hrx
  | rxCmdUnlink u n =>
      simp only [step] at h
      split at h <;> cases h
      rename_i hrx
      exact .rxCmdUnlink hrx
  | rxCmdSubmit n =>
      simp only [step] at h
      split at h <;> cases h
      rename_i hrx
      exact .rxCmdSubmit hrx
  | rxSubmitUrb =>
      simp only [step] at h
      split at h <;> cases h
      rename_i n hrx
      exact .rxSubmitUrb hrx
  | rxSubmitFail addsEvent =>
      simp only [step] at h
      split at h <;> cases h
      rename_i n hrx
      exact .rxSubmitFail hrx
  | complete n r =>
      simp only [step] at h
      split at h
      · rename_i hn
        exact moves_of_stubComplete hn h
      · cases h
  | txTop =>
      simp only [step] at h
      split at h <;> cases h
      rename_i htx
      exact .txTop htx
  | tx sendOk =>
      obtain ⟨lists, hl, rfl⟩ := Option.map_eq_some_iff.mp h
      exact .tx hl
  | ehShutdown =>
      simp only [step] at h
      split at h <;> cases h
      rename_i he
      exact .ehShutdown he.1 he.2
  | ehClose =>
      simp only [step] at h
      split at h <;> cases h
      rename_i he hrx htx
      exact .ehClose he hrx htx
  | ehPop =>
      simp only [step] at h
      split at h
      · rename_i he
        split at h <;> cases h
        · rename_i hp
          exact .ehPop he hp
        · rename_i hp
          exact .ehPopped he hp
      · cases h
  | ehFree =>
      simp only [step] at h
      split at h
      · rename_i he
        split at h <;> cases h
        rename_i hp
        exact .ehFree he hp
      · cases h
  | ehFreeUnlinks =>
      simp only [step] at h
      split at h <;> cases h
      rename_i he
      exact .ehFreeUnlinks he

/-! ## What a step does to the lists -/

/-- The effect of an action on the lists. -/
inductive Effect (s : State) : Action → Session UrbResult (BitVec 32) → Prop
  | keep (a : Action) : Effect s a s.lists
  | alloc {n : Seqnum} (hrx : s.rx = .pdu) : Effect s (.rxCmdSubmit n) (s.lists.stubPrivAlloc n)
  | unlink {u n : Seqnum} (hrx : s.rx = .pdu) :
      Effect s (.rxCmdUnlink u n) (s.lists.stubRecvCmdUnlink 0 u n)
  | complete {n : Seqnum} {r : UrbResult} {lists : Session UrbResult (BitVec 32)}
      (hs : s.tcpSocket = true) (h : s.lists.stubComplete n r r.status = some lists) :
      Effect s (.complete n r) lists
  | txTop {pc : TxPc UrbResult (BitVec 32)} (h : s.lists.tx = .top)
      (hpc : pc = .submit ∨ pc = .stopped none) : Effect s .txTop { s.lists with tx := pc }
  | tx {sendOk : Bool} {lists : Session UrbResult (BitVec 32)}
      (h : s.lists.stubTxStep sendOk = some lists) : Effect s (.tx sendOk) lists
  | pop {p : StubPriv UrbResult} {lists : Session UrbResult (BitVec 32)} (he : s.eh = .cleanup)
      (h : stubPrivPop s.lists = some (p, lists)) : Effect s .ehPop lists
  | free {p : StubPriv UrbResult} (he : s.eh = .kill p) :
      Effect s .ehFree { s.lists with freed := s.lists.freed ++ [p.origin] }
  | freeUnlinks (he : s.eh = .freeUnlinks) :
      Effect s .ehFreeUnlinks { s.lists with unlinkTx := [], unlinkFree := [] }

/-- What a step does to the lists. -/
lemma step_effect (h : step s a = some t) : Effect s a t.lists := by
  cases moves_of_step h with
  | eventAdd | rxTop | rxFail | rxSubmitUrb | rxSubmitFail | ignored | ehShutdown | ehClose
  | ehPopped => exact .keep _
  | rxCmdUnlink hrx => exact .unlink hrx
  | rxCmdSubmit hrx => exact .alloc hrx
  | complete _ hs hl => exact .complete hs hl
  | txTop htx =>
      apply Effect.txTop htx
      cases s.event <;> simp
  | tx hl => exact .tx hl
  | ehPop he hp => exact .pop he hp
  | ehFree he => exact .free he
  | ehFreeUnlinks he => exact .freeUnlinks he

/-! ## After the socket is closed -/

/-- The event handler is past the point where it closes the socket. -/
def EhPc.closed : EhPc → Bool
  | idle | stopThreads => false
  | cleanup | kill _ | freeUnlinks | done => true

/-- The socket is closed only when both threads have returned. -/
structure Quiet (s : State) : Prop where
  socket : s.tcpSocket = !s.eh.closed
  rx_stopped : s.tcpSocket = false → s.rx = .stopped
  tx_stopped : s.tcpSocket = false → ∃ lost, s.lists.tx = .stopped lost

/-- The socket is open at the start. -/
lemma quiet_start : Quiet {} :=
  ⟨rfl, fun h => (by cases h), fun h => (by cases h)⟩

/-- The receiving thread runs only while the socket is open. -/
lemma Quiet.open_of_rx (hq : Quiet s) {pc : RxPc} (hrx : s.rx = pc) (hpc : pc ≠ .stopped) :
    s.tcpSocket = true := by
  by_contra hs
  exact hpc (hrx.symm.trans (hq.rx_stopped (by simpa using hs)))

/-- Every step keeps the socket open until both threads have returned. -/
theorem Quiet.step (hq : Quiet s) (h : step s a = some t) : Quiet t := by
  have hopen : ∀ {u : State}, s.tcpSocket = true → u.tcpSocket = s.tcpSocket → u.eh = s.eh →
      Quiet u := fun hs hsocket heh =>
    ⟨by rw [hsocket, heh, hq.socket], by simp [hsocket, hs], by simp [hsocket, hs]⟩
  have hrun : ∀ {pc}, s.rx = pc → pc ≠ .stopped → ∀ {u : State},
      u.tcpSocket = s.tcpSocket → u.eh = s.eh → Quiet u := fun hrx hpc =>
    hopen (hq.open_of_rx hrx hpc)
  obtain ⟨hsocket, hrx, htx⟩ := hq
  cases moves_of_step h with
  | eventAdd | ignored => exact ⟨hsocket, hrx, htx⟩
  | rxTop hpc | rxFail hpc | rxCmdUnlink hpc | rxCmdSubmit hpc | rxSubmitUrb hpc
  | rxSubmitFail hpc => exact hrun hpc (by simp) rfl rfl
  | complete _ hs => exact hopen hs rfl rfl
  | txTop hpc =>
      refine ⟨hsocket, hrx, fun hs => ?_⟩
      obtain ⟨lost, hlost⟩ := htx hs
      cases hpc.symm.trans hlost
  | tx hl =>
      refine ⟨hsocket, hrx, fun hs => ?_⟩
      -- a stopped thread makes no step
      obtain ⟨lost, hlost⟩ := htx hs
      simp [Session.stubTxStep, hlost] at hl
  | ehShutdown he => exact ⟨by simp [hsocket, he, EhPc.closed], hrx, htx⟩
  | ehClose _ hr ht => exact ⟨rfl, fun _ => hr, fun _ => ⟨_, ht⟩⟩
  | ehPop he hp =>
      refine ⟨by simp [hsocket, he, EhPc.closed], hrx, fun hs => ?_⟩
      obtain ⟨lost, hlost⟩ := htx hs
      refine ⟨lost, ?_⟩
      unfold stubPrivPop at hp
      split at hp <;> cases hp <;> exact hlost
  | ehPopped he | ehFree he | ehFreeUnlinks he =>
      exact ⟨by simp [hsocket, he, EhPc.closed], hrx, htx⟩

/-- Past the shutdown the socket is closed. -/
lemma Quiet.closed_of_eh (hq : Quiet s) (he : s.eh.closed = true) : s.tcpSocket = false := by
  rw [hq.socket, he]
  rfl

/-- The socket stays as it is, or is closed in a step that leaves the lists alone. -/
lemma socket_of_step (h : step s a = some t) :
    t.tcpSocket = s.tcpSocket ∨ t.tcpSocket = false ∧ t.lists = s.lists := by
  cases moves_of_step h with
  | ehClose => exact Or.inr ⟨rfl, rfl⟩
  | _ => exact Or.inl rfl

/-- A socket that is open has been open before. -/
lemma tcpSocket_of_step (h : step s a = some t) (ht : t.tcpSocket = true) :
    s.tcpSocket = true := by
  rcases socket_of_step h with hs | ⟨hs, -⟩
  · exact hs ▸ ht
  · simp [hs] at ht

/-- Nothing is received or sent in the step that closes the socket or after it. -/
lemma wire_of_closed (hq : Quiet s) (h : step s a = some t) (ht : t.tcpSocket = false) :
    t.lists.wire = s.lists.wire ∧ t.lists.unlinks = s.lists.unlinks ∧
      t.lists.submits = s.lists.submits := by
  rcases socket_of_step h with hs | ⟨-, hl⟩
  swap
  · rw [hl]
    exact ⟨rfl, rfl, rfl⟩
  have hs : s.tcpSocket = false := hs ▸ ht
  obtain ⟨lost, hlost⟩ := hq.tx_stopped hs
  generalize t.lists = lists, step_effect h = heff
  cases heff with
  | keep a => exact ⟨rfl, rfl, rfl⟩
  | alloc hrx | unlink hrx => cases (hq.open_of_rx hrx (by simp)).symm.trans hs
  | complete hs' hl => simp [hs'] at hs
  | txTop htx => simp [hlost] at htx
  | tx hl => simp [Session.stubTxStep, hlost] at hl
  | pop he hp =>
      unfold stubPrivPop at hp
      split at hp <;> cases hp <;> exact ⟨rfl, rfl, rfl⟩
  | free he => exact ⟨rfl, rfl, rfl⟩
  | freeUnlinks he => exact ⟨rfl, rfl, rfl⟩

/-! ## What clients do -/

/-- No seqnum is used twice on a connection. -/
def DistinctSeqnums (s : State) : Action → Prop
  | .rxCmdSubmit n => n ∉ s.seqnums
  | .rxCmdUnlink u _ => u ∉ s.seqnums
  | _ => True

instance (s : State) (a : Action) : Decidable (DistinctSeqnums s a) :=
  match a with
  | .rxCmdSubmit n => inferInstanceAs (Decidable (n ∉ s.seqnums))
  | .rxCmdUnlink u _ => inferInstanceAs (Decidable (u ∉ s.seqnums))
  | .eventAdd | .rxTop | .rxFail | .rxSubmitUrb | .rxSubmitFail _ | .complete _ _ | .txTop
  | .tx _ | .ehShutdown | .ehClose | .ehPop | .ehFree | .ehFreeUnlinks => isTrue trivial

/-- A CMD_UNLINK is received after the CMD_SUBMIT it names. -/
def NamesSubmit (s : State) : Action → Prop
  | .rxCmdUnlink _ n => n ∈ s.lists.submits
  | _ => True

instance (s : State) (a : Action) : Decidable (NamesSubmit s a) :=
  match a with
  | .rxCmdUnlink _ n => inferInstanceAs (Decidable (n ∈ s.lists.submits))
  | .rxCmdSubmit _ | .eventAdd | .rxTop | .rxFail | .rxSubmitUrb | .rxSubmitFail _
  | .complete _ _ | .txTop | .tx _ | .ehShutdown | .ehClose | .ehPop | .ehFree
  | .ehFreeUnlinks => isTrue trivial

/-- A CMD_UNLINK does not name a CMD_UNLINK received before it. -/
def NamesNoUnlink (s : State) : Action → Prop
  | .rxCmdUnlink _ n => n ∉ s.lists.unlinks.map Prod.fst
  | _ => True

instance (s : State) (a : Action) : Decidable (NamesNoUnlink s a) :=
  match a with
  | .rxCmdUnlink _ n => inferInstanceAs (Decidable (n ∉ s.lists.unlinks.map Prod.fst))
  | .rxCmdSubmit _ | .eventAdd | .rxTop | .rxFail | .rxSubmitUrb | .rxSubmitFail _
  | .complete _ _ | .txTop | .tx _ | .ehShutdown | .ehClose | .ehPop | .ehFree
  | .ehFreeUnlinks => isTrue trivial

/-- An unlink that names a submit names no unlink. -/
lemma NamesSubmit.namesNoUnlink (h : NamesSubmit s a) (hs : s.lists.Answered) :
    NamesNoUnlink s a := by
  cases a with
  | rxCmdUnlink u n => exact fun hn => (List.nodup_append.mp hs.sound.numbers_nodup).2.2 n h n hn rfl
  | _ => trivial

/-- The accounting of the lists is preserved while the socket is open. -/
theorem answered_of_step (hq : Quiet s) (h : s.lists.Answered) (hd : DistinctSeqnums s a)
    (hn : NamesNoUnlink s a) (hs : s.tcpSocket = true) (hst : step s a = some t) :
    t.lists.Answered := by
  have hclosed : ∀ {e}, s.eh = e → e.closed = true → False := fun he hc => by
    simp [hq.closed_of_eh (he ▸ hc)] at hs
  generalize t.lists = lists, step_effect hst = heff
  cases heff with
  | keep a => exact h
  | alloc hrx => exact h.stubPrivAlloc hd
  | unlink hrx => exact h.stubRecvCmdUnlink 0 hd hn
  | complete _ hl => exact h.stubComplete hl
  | txTop htx hpc => exact h.setTx htx hpc
  | tx hl => exact h.stubTxStep hl
  | pop he => exact (hclosed he rfl).elim
  | free he => exact (hclosed he rfl).elim
  | freeUnlinks he => exact (hclosed he rfl).elim

end Usbip.Stub
