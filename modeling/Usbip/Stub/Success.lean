import Usbip.Stub.Order

/-!
# RET_UNLINKs with status 0

A RET_UNLINK carries status 0 when the stub did not find the request the unlink names, and then
this request has completed and its RET_SUBMIT is sent first; or when a URB completed successfully
after an unlink had marked it, and then there is no RET_SUBMIT.  In the runs without the latter, and
without the race of `NoLateUnlink`, a RET_UNLINK with status 0 comes after the RET_SUBMIT of the
request it names (`SuccessInv.step`), and the RET_SUBMIT carries what the device returned
(`Returned`).
-/

namespace Usbip.Stub

open Usbip.Core Usbip.Common

/-! ## What the clients and the devices do -/

/-- No two CMD_UNLINKs name the same request. -/
def DistinctTargets (s : State) : Action → Prop
  | .rxCmdUnlink _ n => n ∉ s.lists.unlinks.map Prod.snd
  | _ => True

/-- A URB does not complete with status 0 once an unlink has marked it. -/
def UnlinkedFails (s : State) : Action → Prop
  | .complete n r => ∀ p ∈ s.lists.privInit, p.origin = n → p.unlinking = true → r.status ≠ 0
  | _ => True

instance (s : State) (a : Action) : Decidable (UnlinkedFails s a) :=
  match a with
  | .complete n r => inferInstanceAs (Decidable
      (∀ p ∈ s.lists.privInit, p.origin = n → p.unlinking = true → r.status ≠ 0))
  | .rxCmdSubmit _ | .rxCmdUnlink _ _ | .eventAdd | .rxTop | .rxFail | .rxSubmitUrb
  | .rxSubmitFail _ | .txTop | .tx _ | .ehShutdown | .ehClose | .ehPop | .ehFree
  | .ehFreeUnlinks => isTrue trivial

namespace Session

section Drain

variable {ρ : Type} {s t : Session ρ (BitVec 32)}

/-! ## After the RET_SUBMIT -/

/-- The RET_UNLINK answers an unlink that names `n`, with status 0. -/
def Succeeds (s : Session ρ (BitVec 32)) (n : Seqnum) (b : StubUnlink (BitVec 32)) : Prop :=
  (b.seqnum, n) ∈ s.unlinks ∧ b.status = 0

/-- Every RET_UNLINK with status 0 has the RET_SUBMIT of the request it names before it. -/
def SuccessAfterSubmit (s : Session ρ (BitVec 32)) : Prop :=
  ∀ pre b post n, s.wire = pre ++ .unlink b :: post → s.Succeeds n b →
    ∃ urb, .submit n urb ∈ pre

/-- A covered drain sends success only behind the submit's reply. -/
lemma covered_successAfterSubmit (h : s.drain.Covered s.Succeeds) : s.SuccessAfterSubmit := by
  intro pre b post n hwire hb
  have hsent : s.drain.sent = pre.map Ret.item ++ .inr b :: (post.map Ret.item ++ s.tx.hand) := by
    simp [drain, hwire, Ret.item]
  obtain ⟨r, hr, hrn⟩ := List.mem_map.mp (h.mem_before hsent hb)
  cases r with
  | submit m urb =>
      obtain rfl : m = n := Sum.inl.inj hrn
      exact ⟨urb, hr⟩
  | unlink u => cases hrn

/-- CMD_UNLINK `u` for a request `n` received earlier, which no unlink has named before.  If `n`
waits on `privTx`, the sending thread must not be at `unlinkTx`. -/
theorem covered_stubRecvCmdUnlink (hcov : s.drain.Covered s.Succeeds) (h : s.Answered)
    {u n : Seqnum} (hu : u ∉ s.ledger.numbers) (hn : n ∈ s.submits)
    (hnamed : n ∉ s.unlinks.map Prod.snd)
    (hrace : s.tx.turn = .second → ∀ p ∈ s.privTx, p.seqnum ≠ n) :
    (s.stubRecvCmdUnlink 0 u n).drain.Covered (s.stubRecvCmdUnlink 0 u n).Succeeds := by
  have hfresh := Ledger.not_mem_cancels_of_not_mem_numbers hu
  -- nothing queued so far answers the new unlink
  have hcongr : s.drain.Covered
      (fun m b => (b.seqnum, m) ∈ s.unlinks ++ [(u, n)] ∧ b.status = 0) := by
    refine hcov.congr ?_
    rintro m b hb ⟨hmem, hzero⟩
    rcases List.mem_append.mp hmem with hmem | hmem
    · exact ⟨hmem, hzero⟩
    · have hbu : b.seqnum = u ∧ m = n := by simpa using hmem
      exact absurd (hbu.1 ▸ h.item_known hb) hfresh
  unfold Session.stubRecvCmdUnlink
  split
  · exact hcongr
  · rename_i hnone
    -- the request is neither pending nor caught, so it was answered by its RET_SUBMIT
    have hdone : Reply.done n ∈ s.queued := by
      apply h.sound.done_mem_of_cancel_none hn hnamed
      intro e he
      obtain ⟨p, hp, rfl⟩ := List.mem_map.mp he
      exact of_decide_eq_false (updateFirst_eq_none_iff.mp hnone p hp)
    have hitem : n ∈ s.drain.first ∨ .inl n ∈ s.drain.sent := by
      obtain ⟨x, hx, hxn⟩ := List.mem_map.mp (h.queued_perm.mem_iff.mp hdone)
      cases x with
      | inl m =>
          obtain rfl : m = n := by simpa [itemReply] using hxn
          simp only [Drain.items, List.mem_append, List.mem_map, Sum.inl.injEq, exists_eq_right,
            reduceCtorEq, and_false, exists_false, or_false] at hx
          exact hx.symm
      | inr b => cases hxn
    have htarget : ∀ m, (u, m) ∈ s.unlinks ++ [(u, n)] → m = n := by
      intro m hm
      rcases List.mem_append.mp hm with hm | hm
      · exact absurd (List.mem_map.mpr ⟨_, hm, rfl⟩) hfresh
      · exact (Prod.mk.inj (List.mem_singleton.mp hm)).2
    refine hcongr.pushSecond ?_ ?_
    · rintro m ⟨hm, -⟩
      rw [htarget m hm]
      exact hitem
    · rintro hturn m ⟨hm, -⟩
      rw [htarget m hm]
      refine hitem.resolve_left fun hfirst => ?_
      obtain ⟨p, hp, hpn⟩ := List.mem_map.mp hfirst
      exact hrace hturn p hp hpn

/-- A completion keeps the success covered, when a URB that was unlinked fails. -/
theorem covered_stubComplete (hcov : s.drain.Covered s.Succeeds) (h : s.Answered) {n : Seqnum}
    {r : ρ} {st : BitVec 32} (hst : s.stubComplete n r st = some t)
    (hfails : ∀ p ∈ s.privInit, p.origin = n → p.unlinking = true → st ≠ 0) :
    t.drain.Covered t.Succeeds := by
  obtain ⟨p, hf, hp, ⟨hu, rfl⟩ | ⟨hu, rfl⟩⟩ := stubComplete_cases hst
  · have hne := hfails p (List.mem_of_find?_eq_some hf) hp hu
    refine hcov.pushSecond ?_ ?_
    · exact fun m hm => absurd hm.2 hne
    · exact fun _ m hm => absurd hm.2 hne
  · have hseq : p.seqnum = n := (h.seqnum_eq (List.mem_of_find?_eq_some hf) hu).trans hp
    have hdrain : drain { s with
        privInit := s.privInit.eraseP (fun p => p.origin = n)
        privTx := s.privTx ++ [{ p with urb := some r }]
        queued := s.queued ++ [.done n] } = s.drain.pushFirst n := by
      simp [drain, Drain.pushFirst, hseq]
    rw [hdrain]
    exact hcov.pushFirst n

/-- The transmit thread keeps the success covered. -/
theorem covered_stubTxStep (hcov : s.drain.Covered s.Succeeds) {sendOk : Bool}
    (hst : s.stubTxStep sendOk = some t) : t.drain.Covered t.Succeeds := by
  have hunlinks : t.unlinks = s.unlinks := congrArg Ledger.cancels (ledger_stubTxStep hst)
  unfold Succeeds
  rw [hunlinks]
  rcases drain_stubTxStep hst with hd | hd | hd
  · rw [hd]
    exact hcov
  · rw [hd]
    exact hcov.advance
  · rw [hd]
    exact hcov.stop

/-- The transmit thread turns to its queues or stops. -/
theorem covered_setTx (hcov : s.drain.Covered s.Succeeds) (htx : s.tx = .top)
    {pc : TxPc ρ (BitVec 32)} (hpc : pc = .submit ∨ pc = .stopped none) :
    (drain { s with tx := pc }).Covered s.Succeeds := by
  rw [drain_setTx htx hpc]
  exact hcov

/-- What is replied to was received. -/
def RepliesKnown (s : Session ρ (BitVec 32)) : Prop :=
  (∀ n urb, .submit n urb ∈ s.wire → n ∈ s.submits) ∧
    ∀ b, .unlink b ∈ s.wire → b.seqnum ∈ s.unlinks.map Prod.fst

/-- Every reply answers a request that was read. -/
lemma Answered.repliesKnown (h : s.Answered) : s.RepliesKnown := by
  have hitem : ∀ r ∈ s.wire, r.item ∈ s.drain.items := fun r hr =>
    List.mem_append_left _ (List.mem_append_left _ (List.mem_map_of_mem hr))
  constructor
  · exact fun n urb hr => h.sound.done_known n (h.mem_queued (hitem _ hr))
  · exact fun b hr => h.item_known (hitem _ hr)

end Drain

/-! ## What the device returned -/

section Returned

variable {ρ σ : Type} {s t : Session ρ σ} {completed : List (Seqnum × ρ)}

/-- The entry of a completed URB, or its RET_SUBMIT. -/
def Carries (completed : List (Seqnum × ρ)) (n : Seqnum) (urb : Option ρ) : Prop :=
  ∃ r, urb = some r ∧ (n, r) ∈ completed

/-- What is on `priv_tx`, about to be sent, or sent was returned by the device. -/
structure Returned (completed : List (Seqnum × ρ)) (s : Session ρ σ) : Prop where
  privTx : ∀ p ∈ s.privTx, Carries completed p.seqnum p.urb
  hand : ∀ p, s.tx = .sendSubmit p → Carries completed p.seqnum p.urb
  wire : ∀ n urb, .submit n urb ∈ s.wire → Carries completed n urb

/-- A new session has nothing to send. -/
lemma returned_empty : Returned [] ({} : Session ρ σ) :=
  ⟨fun _ h => (by cases h), fun _ h => (by cases h), fun _ _ h => (by cases h)⟩

/-- A later completion changes no earlier one. -/
lemma Carries.snoc {n : Seqnum} {urb : Option ρ} (h : Carries completed n urb)
    (x : Seqnum × ρ) : Carries (completed ++ [x]) n urb := by
  obtain ⟨r, hr, hmem⟩ := h
  exact ⟨r, hr, List.mem_append_left _ hmem⟩

/-- A later completion changes nothing returned. -/
lemma Returned.snoc (h : s.Returned completed) (x : Seqnum × ρ) : s.Returned (completed ++ [x]) :=
  ⟨fun p hp => (h.privTx p hp).snoc x, fun p hp => (h.hand p hp).snoc x,
    fun n urb hw => (h.wire n urb hw).snoc x⟩

/-- A step that sends nothing. -/
lemma Returned.congr (h : s.Returned completed) (hprivTx : ∀ p ∈ t.privTx, p ∈ s.privTx)
    (htx : ∀ p, t.tx = .sendSubmit p → s.tx = .sendSubmit p) (hwire : t.wire = s.wire) :
    t.Returned completed :=
  ⟨fun p hp => h.privTx p (hprivTx p hp), fun p hp => h.hand p (htx p hp), hwire ▸ h.wire⟩

/-- An unlink queues no result. -/
lemma Returned.stubRecvCmdUnlink (h : s.Returned completed) (zero : σ) (u n : Seqnum) :
    (s.stubRecvCmdUnlink zero u n).Returned completed := by
  unfold Session.stubRecvCmdUnlink
  split
  · exact h.congr (fun _ hp => hp) (fun _ hp => hp) rfl
  · exact h.congr (fun _ hp => hp) (fun _ hp => hp) rfl

/-- What completes was returned by the device. -/
theorem Returned.stubComplete (h : s.Returned completed) (ha : s.Answered) {n : Seqnum} {r : ρ}
    {st : σ} (hst : s.stubComplete n r st = some t) : t.Returned (completed ++ [(n, r)]) := by
  have h := h.snoc (n, r)
  obtain ⟨p, hf, hp, ⟨hu, rfl⟩ | ⟨hu, rfl⟩⟩ := stubComplete_cases hst
  · exact h.congr (fun _ hp => hp) (fun _ hp => hp) rfl
  · have hseq : p.seqnum = n := (ha.seqnum_eq (List.mem_of_find?_eq_some hf) hu).trans hp
    refine ⟨fun q hq => ?_, h.hand, h.wire⟩
    rcases List.mem_append.mp hq with hq | hq
    · exact h.privTx q hq
    · obtain rfl := List.mem_singleton.mp hq
      refine ⟨r, rfl, ?_⟩
      rw [hseq]
      exact List.mem_append_right _ (List.mem_singleton_self _)

/-- What is sent was returned by the device. -/
theorem Returned.stubTxStep (h : s.Returned completed) {sendOk : Bool}
    (hst : s.stubTxStep sendOk = some t) : t.Returned completed := by
  unfold Session.stubTxStep at hst
  split at hst
  · cases hst
  · obtain rfl := Option.some.inj hst
    unfold dequeueFromPrivTx
    split
    · rename_i p rest hrest
      have hp : p ∈ s.privTx := by
        rw [hrest]
        exact List.mem_cons_self
      refine ⟨fun q hq => h.privTx q ?_, fun q hq => ?_, h.wire⟩
      · rw [hrest]
        exact List.mem_cons_of_mem p hq
      · obtain rfl : p = q := by simpa using hq
        exact h.privTx p hp
    · exact h.congr (fun _ hp => hp) (fun _ hp => (by cases hp)) rfl
  · rename_i p htx
    split at hst <;> cases hst
    · refine ⟨h.privTx, fun _ hp => (by cases hp), fun n urb hw => ?_⟩
      rcases List.mem_append.mp hw with hw | hw
      · exact h.wire n urb hw
      · obtain ⟨rfl, rfl⟩ : n = p.seqnum ∧ urb = p.urb := by simpa using hw
        exact h.hand p htx
    · exact h.congr (fun _ hp => hp) (fun _ hp => (by cases hp)) rfl
  · obtain rfl := Option.some.inj hst
    exact h.congr (fun _ hp => hp) (fun _ hp => (by cases hp)) rfl
  · obtain rfl := Option.some.inj hst
    unfold dequeueFromUnlinkTx
    split
    · exact h.congr (fun _ hp => hp) (fun _ hp => (by cases hp)) rfl
    · exact h.congr (fun _ hp => hp) (fun _ hp => (by cases hp)) rfl
  · split at hst <;> cases hst
    · refine ⟨h.privTx, fun _ hp => (by cases hp), fun n urb hw => ?_⟩
      rcases List.mem_append.mp hw with hw | hw
      · exact h.wire n urb hw
      · simp at hw
    · exact h.congr (fun _ hp => hp) (fun _ hp => (by cases hp)) rfl
  · obtain rfl := Option.some.inj hst
    exact h.congr (fun _ hp => hp) (fun _ hp => (by cases hp)) rfl
  · cases hst

end Returned

end Session

/-! ## The invariant of the stub -/

variable {s t : State} {a : Action} {completed : List (Seqnum × UrbResult)}

/-- While the socket is open the RET_UNLINKs with status 0 are queued behind the RET_SUBMITs of the
requests they name. -/
structure SuccessInv (s : State) : Prop where
  order : OrderInv s
  covered : s.tcpSocket = true → s.lists.drain.Covered s.lists.Succeeds
  wire : s.lists.SuccessAfterSubmit
  known : s.lists.RepliesKnown

/-- Nothing is under way at the start. -/
lemma successInv_start : SuccessInv {} := by
  refine ⟨orderInv_start, fun _ => Drain.covered_empty, ?_, ?_⟩
  · intro pre b post n hwire
    simp at hwire
  · exact ⟨fun _ _ h => (by cases h), fun _ h => (by cases h)⟩

/-- While the socket is open every step keeps the success covered. -/
lemma covered_of_step (h : SuccessInv s) (hd : DistinctSeqnums s a) (hn : NamesSubmit s a)
    (hl : NoLateUnlink s a) (ht : DistinctTargets s a) (hf : UnlinkedFails s a)
    (hs : s.tcpSocket = true) (hst : step s a = some t) :
    t.lists.drain.Covered t.lists.Succeeds := by
  have ha := h.order.answered hs
  have hcov := h.covered hs
  have hclosed : ∀ {e}, s.eh = e → e.closed = true → False := fun he hc => by
    simp [h.order.quiet.closed_of_eh (he ▸ hc)] at hs
  generalize t.lists = lists, step_effect hst = heff
  cases heff with
  | keep a => exact hcov
  | alloc hrx => exact hcov
  | unlink hrx => exact Session.covered_stubRecvCmdUnlink hcov ha hd hn ht hl
  | complete _ hc => exact Session.covered_stubComplete hcov ha hc hf
  | txTop htx hpc => exact Session.covered_setTx hcov htx hpc
  | tx htx => exact Session.covered_stubTxStep hcov htx
  | pop he => exact (hclosed he rfl).elim
  | free he => exact (hclosed he rfl).elim
  | freeUnlinks he => exact (hclosed he rfl).elim

/-- Every step keeps the invariant. -/
theorem SuccessInv.step (h : SuccessInv s) (hd : DistinctSeqnums s a) (hn : NamesSubmit s a)
    (hl : NoLateUnlink s a) (ht : DistinctTargets s a) (hf : UnlinkedFails s a)
    (hst : Stub.step s a = some t) : SuccessInv t := by
  have hcovered : t.tcpSocket = true → t.lists.drain.Covered t.lists.Succeeds := fun ho =>
    covered_of_step h hd hn hl ht hf (tcpSocket_of_step hst ho) hst
  have horder := h.order.step hd hn hl hst
  cases ho : t.tcpSocket with
  | true =>
      exact ⟨horder, hcovered, Session.covered_successAfterSubmit (hcovered ho),
        (horder.answered ho).repliesKnown⟩
  | false =>
      obtain ⟨hwire, hunlinks, hsubmits⟩ := wire_of_closed h.order.quiet hst ho
      refine ⟨horder, hcovered, ?_, ?_⟩
      · unfold Session.SuccessAfterSubmit Session.Succeeds
        rw [hwire, hunlinks]
        exact h.wire
      · unfold Session.RepliesKnown
        rw [hwire, hunlinks, hsubmits]
        exact h.known

/-! ## What a step receives, sends and completes -/

/-- The CMD_SUBMIT that is received. -/
def Action.submits : Action → List Seqnum
  | .rxCmdSubmit n => [n]
  | .eventAdd | .rxTop | .rxFail | .rxCmdUnlink _ _ | .rxSubmitUrb | .rxSubmitFail _
  | .complete _ _ | .txTop | .tx _ | .ehShutdown | .ehClose | .ehPop | .ehFree
  | .ehFreeUnlinks => []

/-- The CMD_UNLINK that is received. -/
def Action.unlinks : Action → List (Seqnum × Seqnum)
  | .rxCmdUnlink u n => [(u, n)]
  | .eventAdd | .rxTop | .rxFail | .rxCmdSubmit _ | .rxSubmitUrb | .rxSubmitFail _
  | .complete _ _ | .txTop | .tx _ | .ehShutdown | .ehClose | .ehPop | .ehFree
  | .ehFreeUnlinks => []

/-- Popping a record adds no reply. -/
lemma stubPrivPop_keeps {l l' : Session UrbResult (BitVec 32)} {p : StubPriv UrbResult}
    (h : stubPrivPop l = some (p, l')) :
    (∀ q ∈ l'.privTx, q ∈ l.privTx) ∧ l'.tx = l.tx ∧ l'.wire = l.wire := by
  unfold stubPrivPop at h
  split at h <;> cases h
  · exact ⟨fun _ hq => hq, rfl, rfl⟩
  · rename_i hrest
    refine ⟨fun q hq => ?_, rfl, rfl⟩
    rw [hrest]
    exact List.mem_cons_of_mem _ hq
  · exact ⟨fun _ hq => hq, rfl, rfl⟩

/-- Popping a record leaves what was read. -/
lemma stubPrivPop_history {l l' : Session UrbResult (BitVec 32)} {p : StubPriv UrbResult}
    (h : stubPrivPop l = some (p, l')) : l'.submits = l.submits ∧ l'.unlinks = l.unlinks := by
  unfold stubPrivPop at h
  split at h <;> cases h <;> exact ⟨rfl, rfl⟩

/-- A step reads what its action brings. -/
lemma received_of_step (hst : step s a = some t) :
    t.lists.submits = s.lists.submits ++ a.submits ∧
      t.lists.unlinks = s.lists.unlinks ++ a.unlinks := by
  have hcases : (∃ n, a = .rxCmdSubmit n) ∨ (∃ u n, a = .rxCmdUnlink u n) ∨
      a.submits = [] ∧ a.unlinks = [] := by
    cases a <;> simp [Action.submits, Action.unlinks]
  obtain ⟨n, rfl⟩ | ⟨u, n, rfl⟩ | ⟨hsubmits, hunlinks⟩ := hcases
  · simp only [step] at hst
    split at hst <;> cases hst
    exact ⟨rfl, (List.append_nil _).symm⟩
  · simp only [step] at hst
    split at hst <;> cases hst
    refine ⟨?_, ?_⟩ <;> dsimp only [Session.stubRecvCmdUnlink] <;> split <;>
      simp [Action.submits, Action.unlinks, Session.stubEnqueueRetUnlink]
  · rw [hsubmits, hunlinks, List.append_nil, List.append_nil]
    generalize t.lists = lists, step_effect hst = heff
    cases heff with
    | keep => exact ⟨rfl, rfl⟩
    | alloc => cases hsubmits
    | unlink => cases hunlinks
    | complete _ hc =>
        obtain ⟨p, -, -, ⟨-, rfl⟩ | ⟨-, rfl⟩⟩ := Session.stubComplete_cases hc <;> exact ⟨rfl, rfl⟩
    | txTop => exact ⟨rfl, rfl⟩
    | tx htx =>
        have hledger := Session.ledger_stubTxStep htx
        exact ⟨congrArg Ledger.reqs hledger, congrArg Ledger.cancels hledger⟩
    | pop _ hp => exact stubPrivPop_history hp
    | free => exact ⟨rfl, rfl⟩
    | freeUnlinks => exact ⟨rfl, rfl⟩

/-- The wire only grows. -/
lemma wire_stubTxStep {l l' : Session UrbResult (BitVec 32)} {sendOk : Bool}
    (h : l.stubTxStep sendOk = some l') : ∃ more, l'.wire = l.wire ++ more := by
  have hsame : ∀ m : Session UrbResult (BitVec 32), m.wire = l.wire →
      ∃ more, m.wire = l.wire ++ more := fun m hm => ⟨[], by rw [hm, List.append_nil]⟩
  unfold Session.stubTxStep at h
  split at h
  · cases h
  · obtain rfl := Option.some.inj h
    unfold Session.dequeueFromPrivTx
    split <;> exact hsame _ rfl
  · split at h <;> cases h
    · exact ⟨_, rfl⟩
    · exact hsame _ rfl
  · obtain rfl := Option.some.inj h
    exact hsame _ rfl
  · obtain rfl := Option.some.inj h
    unfold Session.dequeueFromUnlinkTx
    split <;> exact hsame _ rfl
  · split at h <;> cases h
    · exact ⟨_, rfl⟩
    · exact hsame _ rfl
  · obtain rfl := Option.some.inj h
    exact hsame _ rfl
  · cases h

/-- What was sent stays sent. -/
lemma wire_of_step (hst : step s a = some t) : ∃ more, t.lists.wire = s.lists.wire ++ more := by
  have hsame : ∀ l : Session UrbResult (BitVec 32), l.wire = s.lists.wire →
      ∃ more, l.wire = s.lists.wire ++ more := fun l hl => ⟨[], by rw [hl, List.append_nil]⟩
  generalize t.lists = lists, step_effect hst = heff
  cases heff with
  | keep => exact hsame _ rfl
  | alloc => exact hsame _ rfl
  | unlink =>
      unfold Session.stubRecvCmdUnlink
      split <;> exact hsame _ rfl
  | complete _ hc =>
      obtain ⟨p, -, -, ⟨-, rfl⟩ | ⟨-, rfl⟩⟩ := Session.stubComplete_cases hc <;> exact hsame _ rfl
  | txTop => exact hsame _ rfl
  | tx htx => exact wire_stubTxStep htx
  | pop _ hp => exact hsame _ (stubPrivPop_keeps hp).2.2
  | free => exact hsame _ rfl
  | freeUnlinks => exact hsame _ rfl

/-- What a completion returns. -/
def Action.completes : Action → List (Seqnum × UrbResult)
  | .complete n r => [(n, r)]
  | .eventAdd | .rxTop | .rxFail | .rxCmdUnlink _ _ | .rxCmdSubmit _ | .rxSubmitUrb
  | .rxSubmitFail _ | .txTop | .tx _ | .ehShutdown | .ehClose | .ehPop | .ehFree
  | .ehFreeUnlinks => []

/-- Every step sends only what the device has returned. -/
theorem returned_of_step (h : s.lists.Returned completed) (ho : OrderInv s)
    (hst : step s a = some t) : t.lists.Returned (completed ++ a.completes) := by
  have hkeep : ∀ {a : Action}, s.lists.Returned (completed ++ a.completes) := by
    intro a
    cases a with
    | complete n r => exact h.snoc (n, r)
    | eventAdd | rxTop | rxFail | rxCmdUnlink | rxCmdSubmit | rxSubmitUrb | rxSubmitFail | txTop
    | tx | ehShutdown | ehClose | ehPop | ehFree | ehFreeUnlinks =>
        simpa [Action.completes] using h
  generalize t.lists = lists, step_effect hst = heff
  cases heff with
  | keep a => exact hkeep
  | alloc hrx =>
      exact (hkeep (a := .rxCmdSubmit _)).congr (fun _ hp => hp) (fun _ hp => hp) rfl
  | unlink hrx => exact (hkeep (a := .rxCmdUnlink _ _)).stubRecvCmdUnlink 0 _ _
  | complete hs hc => exact h.stubComplete (ho.answered hs) hc
  | txTop htx hpc =>
      refine (hkeep (a := .txTop)).congr (fun _ hp => hp) (fun p hp => ?_) rfl
      rcases hpc with rfl | rfl <;> cases hp
  | tx htx => exact (hkeep (a := .tx _)).stubTxStep htx
  | pop he hp =>
      obtain ⟨hprivTx, htx, hwire⟩ := stubPrivPop_keeps hp
      exact (hkeep (a := .ehPop)).congr hprivTx (fun _ hq => htx ▸ hq) hwire
  | free he => exact (hkeep (a := .ehFree)).congr (fun _ hp => hp) (fun _ hp => hp) rfl
  | freeUnlinks he =>
      exact (hkeep (a := .ehFreeUnlinks)).congr (fun _ hp => hp) (fun _ hp => hp) rfl

end Usbip.Stub
