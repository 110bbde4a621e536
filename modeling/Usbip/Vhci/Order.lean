import Usbip.Core.Drain
import Usbip.Vhci.Custody

/-!
# The order of the requests on the wire

`vhci_tx_loop` sends everything on `priv_tx` and then everything on `unlink_tx`, so that a
CMD_UNLINK comes after the CMD_SUBMIT it names.  That is so unless a URB is enqueued and dequeued
while the sending thread is between finding `priv_tx` empty and finding `unlink_tx` empty
(`cmd_unlink_overtakes_cmd_submit`).  In every run in which no unlink is queued in that window for
an entry that is still on `priv_tx`, the order holds (`cmd_submit_precedes_cmd_unlink`).
-/

namespace Usbip.Vhci

open Usbip.Core Usbip.Common

variable {s t : State} {a : Action} {c : BitVec 32}

/-! ## The sending thread as a worker with two queues -/

/-- The number of a CMD_SUBMIT, as it is sent. -/
def VhciPriv.wireSeqnum (p : VhciPriv) : Seqnum := p.seqnum.setWidth 32

/-- The number of a CMD_UNLINK, and the number it names. -/
def VhciUnlink.wireSeqnums (e : VhciUnlink) : Seqnum × Seqnum :=
  (e.seqnum.setWidth 32, e.unlinkSeqnum.setWidth 32)

/-- The numbers in a request. -/
def Pdu.request (pdu : Pdu) : Seqnum ⊕ Seqnum × Seqnum :=
  if pdu.header.base.command = cmdSubmit then .inl pdu.header.base.seqnum
  else .inr (pdu.header.base.seqnum, pdu.header.u.w₀)

/-- A CMD_SUBMIT asks for its record. -/
@[simp] lemma request_cmdSubmitPdu (p : VhciPriv) (devid : BitVec 32) (urb : Urb) :
    (cmdSubmitPdu p devid urb).request = .inl p.wireSeqnum :=
  rfl

/-- A CMD_UNLINK asks for its unlink. -/
@[simp] lemma request_cmdUnlinkPdu (e : VhciUnlink) (devid : BitVec 32) :
    (cmdUnlinkPdu e devid).request = .inr e.wireSeqnums :=
  rfl

namespace TxPc

/-- From finding `priv_tx` empty to finding `unlink_tx` empty the thread is at `unlink_tx`. -/
def turn : TxPc → Turn
  | top | submit | sendSubmit _ | stopped => .first
  | unlink | sendUnlink _ => .second

/-- The entry whose CMD_SUBMIT is about to be sent. -/
def sending : TxPc → List VhciPriv
  | sendSubmit p => [p]
  | top | submit | unlink | sendUnlink _ | stopped => []

/-- The request that was dequeued and is not yet written. -/
def hand : TxPc → List (Seqnum ⊕ Seqnum × Seqnum)
  | sendSubmit p => [.inl p.wireSeqnum]
  | sendUnlink e => [.inr e.wireSeqnums]
  | top | submit | unlink | stopped => []

end TxPc

/-- The two sending queues and what was taken from them. -/
def State.drain (s : State) : Drain Seqnum (Seqnum × Seqnum) where
  first := s.privTx.map VhciPriv.wireSeqnum
  second := s.unlinkTx.map VhciUnlink.wireSeqnums
  turn := s.tx.turn
  sent := s.wire.map Pdu.request ++ s.tx.hand

/-- Only the queues, the transmit thread and the wire matter. -/
lemma State.drain_congr (hprivTx : t.privTx = s.privTx) (hunlinkTx : t.unlinkTx = s.unlinkTx)
    (htx : t.tx = s.tx) (hwire : t.wire = s.wire) : t.drain = s.drain := by
  unfold drain
  rw [hprivTx, hunlinkTx, htx, hwire]

/-- At the head of its loop the sending thread holds nothing. -/
lemma drain_txTop (h : s.tx = .top) :
    State.drain { s with tx := if s.shouldStop then .stopped else .submit } = s.drain := by
  unfold State.drain
  cases s.shouldStop <;> simp [h, TxPc.turn, TxPc.hand]

/-- A step of the sending thread: what it puts on `priv_rx` and `unlink_rx` is sent, or is what it
sends next. -/
structure Sends (s t : State) : Prop where
  drain : t.drain = s.drain ∨ t.drain = s.drain.advance
  privRx : ∀ p ∈ t.privRx, p ∈ s.privRx ∨ .inl p.wireSeqnum ∈ t.drain.sent
  unlinkRx : ∀ e ∈ t.unlinkRx, e ∈ s.unlinkRx ∨ .inr e.wireSeqnums ∈ t.drain.sent
  sending : ∀ p ∈ t.tx.sending, p ∈ t.privRx

/-- What was sent stays sent. -/
lemma Sends.mem_sent (h : Sends s t) {x : Seqnum ⊕ Seqnum × Seqnum} (hx : x ∈ s.drain.sent) :
    x ∈ t.drain.sent := by
  rcases h.drain with hdrain | hdrain
  · rw [hdrain]
    exact hx
  · rw [hdrain]
    exact Drain.mem_sent_advance hx

/-- The sending thread is the worker, as long as the entry it sends is that of the URB. -/
lemma sends_of_txStep (h : txStep true s = some t)
    (hlinked : ∀ p ∈ s.tx.sending, s.hcpriv p.urb = some p) : Sends s t := by
  unfold txStep at h
  split at h
  · cases h
  · cases h
  · rename_i htx
    split at h <;> cases h
    · rename_i p rest hrest
      refine ⟨Or.inr ?_, fun q hq => ?_, fun _ he => Or.inl he, fun q hq => ?_⟩
      · simp [State.drain, Drain.advance, htx, hrest, TxPc.turn, TxPc.hand]
      · rcases List.mem_append.mp hq with hq | hq
        · exact Or.inl hq
        · obtain rfl := List.mem_singleton.mp hq
          exact Or.inr (List.mem_append_right _ (List.mem_singleton_self _))
      · exact List.mem_append_right _ hq
    · rename_i hnil
      refine ⟨Or.inr ?_, fun _ hq => Or.inl hq, fun _ he => Or.inl he, fun _ hq => (by cases hq)⟩
      simp [State.drain, Drain.advance, htx, hnil, TxPc.turn, TxPc.hand]
  · rename_i p htx
    rw [hlinked p (by rw [htx]; exact List.mem_singleton_self p)] at h
    obtain rfl := Option.some.inj h
    refine ⟨Or.inl ?_, fun _ hq => Or.inl hq, fun _ he => Or.inl he, fun _ hq => (by cases hq)⟩
    simp [State.drain, htx, TxPc.turn, TxPc.hand]
  · rename_i htx
    split at h <;> cases h
    · rename_i e rest hrest
      refine ⟨Or.inr ?_, fun _ hq => Or.inl hq, fun f hf => ?_, fun _ hq => (by cases hq)⟩
      · simp [State.drain, Drain.advance, htx, hrest, TxPc.turn, TxPc.hand]
      · rcases List.mem_append.mp hf with hf | hf
        · exact Or.inl hf
        · obtain rfl := List.mem_singleton.mp hf
          exact Or.inr (List.mem_append_right _ (List.mem_singleton_self _))
    · rename_i hnil
      refine ⟨Or.inr ?_, fun _ hq => Or.inl hq, fun _ he => Or.inl he, fun _ hq => (by cases hq)⟩
      simp [State.drain, Drain.advance, htx, hnil, TxPc.turn, TxPc.hand]
  · rename_i e htx
    obtain rfl := Option.some.inj h
    refine ⟨Or.inl ?_, fun _ hq => Or.inl hq, fun _ he => Or.inl he, fun _ hq => (by cases hq)⟩
    simp [State.drain, htx, TxPc.turn, TxPc.hand]

/-- Only `store_attach` and the sending thread write `tx` and `wire`. -/
def Action.isSender : Action → Bool
  | .attach _ | .txTop | .tx _ => true
  | .eventAdd | .otherSeqnum | .enqueue _ _ _ | .txUrb _ | .dequeue _ | .dequeueFinish _ _ | .rxTop
  | .rxPdu _ | .rxFail _ | .rxPayload _ _ | .rxUnlink | .rxGiveback | .ehShutdown | .ehClose
  | .ehCleanup | .ehCleanupNext | .ehCleanupGiveback | .ehCleanupRelock | .ehReset | .ehUnusable
  | .ehFinish => false

/-- Enqueuing sends nothing. -/
lemma Enqueued.tx_wire {u : UrbId} {urb : Urb} (h : Enqueued u urb s t) :
    t.tx = s.tx ∧ t.wire = s.wire := by
  cases h <;> exact ⟨rfl, rfl⟩

/-- Receiving sends nothing. -/
lemma vhciRxPdu_tx_wire (pdu : Header) (s : State) :
    (vhciRxPdu pdu s).tx = s.tx ∧ (vhciRxPdu pdu s).wire = s.wire := by
  unfold vhciRxPdu vhciRecvRetSubmit vhciRecvRetUnlink
  split
  · split
    · exact ⟨rfl, rfl⟩
    · rename_i h
      obtain ⟨-, rfl⟩ := pickup_eq_some h
      exact ⟨rfl, rfl⟩
  · split
    · split
      · exact ⟨rfl, rfl⟩
      · rename_i h
        obtain ⟨-, rfl⟩ := dequeuePendingUnlink_eq_some h
        exact ⟨rfl, rfl⟩
    · exact ⟨rfl, rfl⟩

/-- Only the transmit thread sends. -/
lemma tx_wire_of_step (hst : step s a = some t) (ha : a.isSender = false) :
    t.tx = s.tx ∧ t.wire = s.wire := by
  cases a with
  | attach | txTop | tx => cases ha
  | eventAdd | otherSeqnum =>
      obtain rfl := Option.some.inj hst
      exact ⟨rfl, rfl⟩
  | enqueue u urb linkRet =>
      simp only [step] at hst
      split at hst <;> cases hst
      exact (vhciUrbEnqueue_enqueued u urb linkRet s).tx_wire
  | txUrb allocOk =>
      simp only [step] at hst
      split at hst <;> cases hst
      unfold vhciTxUrb
      split <;> [skip; split] <;> exact ⟨rfl, rfl⟩
  | dequeue u =>
      simp only [step] at hst
      split at hst <;> cases hst
      unfold vhciUrbDequeue
      split <;> [skip; split] <;> exact ⟨rfl, rfl⟩
  | dequeueFinish allocOk stale =>
      simp only [step] at hst
      split at hst <;> cases hst
      unfold vhciUrbDequeueFinish
      split <;> [skip; split] <;> exact ⟨rfl, rfl⟩
  | rxTop | rxFail | ehShutdown | ehClose | ehCleanup | ehCleanupRelock | ehReset
  | ehUnusable | ehFinish | ehCleanupGiveback =>
      simp only [step] at hst
      split at hst <;> cases hst
      exact ⟨rfl, rfl⟩
  | rxPdu pdu =>
      simp only [step] at hst
      split at hst <;> cases hst
      exact vhciRxPdu_tx_wire pdu s
  | rxPayload allocOk io =>
      simp only [step] at hst
      split at hst <;> cases hst
      rename_i p hrx
      obtain ⟨urb, event, h | h⟩ := recvPayload_cases p allocOk io s
      all_goals
        rw [h]
        exact ⟨rfl, rfl⟩
  | rxUnlink =>
      simp only [step] at hst
      split at hst <;> cases hst
      unfold recvUnlink
      split
      · exact ⟨rfl, rfl⟩
      · rename_i h
        obtain ⟨-, rfl⟩ := pickup_eq_some h
        exact ⟨rfl, rfl⟩
  | rxGiveback =>
      simp only [step] at hst
      split at hst
      · split at hst <;> cases hst
        exact ⟨rfl, rfl⟩
      · cases hst
  | ehCleanupNext =>
      simp only [step] at hst
      split at hst <;> cases hst
      unfold cleanupNext
      split
      · exact ⟨rfl, rfl⟩
      · split
        · exact ⟨rfl, rfl⟩
        · rename_i h
          obtain ⟨-, rfl⟩ := pickup_eq_some h
          exact ⟨rfl, rfl⟩

/-! ## What the runs are about -/

/-- The `vhci_priv` that `vhci_urb_dequeue` has read. -/
def Lock.dequeuing : Lock → List (UrbId × VhciPriv)
  | .dequeue u p => [(u, p)]
  | .free | .enqueue _ => []

/-- The unlink whose reply is being received. -/
def RxPc.unlinking : RxPc → List VhciUnlink
  | .unlink e _ => [e]
  | .top | .pdu | .payload _ | .giveback _ _ | .stopped => []

/-- No send fails; a connection is attached when the last shutdown is over and has left neither an
entry that waits for its reply nor an unlink that waits to be sent; and the `vhci_priv` that
`vhci_urb_dequeue` has read is not freed under it. -/
def InSequence (s : State) : Action → Prop
  | .attach _ => s.eh = .idle ∧ s.privRx = [] ∧ s.unlinkTx = []
  | .dequeueFinish _ _ => ∀ x ∈ s.lock.dequeuing, s.hcpriv x.1 = some x.2
  | .tx sendOk => sendOk = true
  | _ => True

instance (s : State) (a : Action) : Decidable (InSequence s a) :=
  match a with
  | .attach _ => inferInstanceAs (Decidable (s.eh = .idle ∧ s.privRx = [] ∧ s.unlinkTx = []))
  | .dequeueFinish _ _ =>
      inferInstanceAs (Decidable (∀ x ∈ s.lock.dequeuing, s.hcpriv x.1 = some x.2))
  | .tx sendOk => inferInstanceAs (Decidable (sendOk = true))
  | .eventAdd | .otherSeqnum | .enqueue _ _ _ | .txUrb _ | .dequeue _ | .txTop | .rxTop | .rxPdu _
  | .rxFail _ | .rxPayload _ _ | .rxUnlink | .rxGiveback | .ehShutdown | .ehClose | .ehCleanup
  | .ehCleanupNext | .ehCleanupGiveback | .ehCleanupRelock | .ehReset | .ehUnusable | .ehFinish =>
      isTrue trivial

/-- No reply is for the request that is just being sent. -/
def NoEarlyReply (s : State) : Action → Prop
  | .rxPdu pdu => ∀ p ∈ s.tx.sending, pdu.base.seqnum ≠ p.wireSeqnum
  | .rxUnlink =>
      ∀ p ∈ s.tx.sending, ∀ e ∈ s.rx.unlinking, e.unlinkSeqnum.setWidth 32 ≠ p.wireSeqnum
  | _ => True

instance (s : State) (a : Action) : Decidable (NoEarlyReply s a) :=
  match a with
  | .rxPdu pdu =>
      inferInstanceAs (Decidable (∀ p ∈ s.tx.sending, pdu.base.seqnum ≠ p.wireSeqnum))
  | .rxUnlink => inferInstanceAs (Decidable
      (∀ p ∈ s.tx.sending, ∀ e ∈ s.rx.unlinking, e.unlinkSeqnum.setWidth 32 ≠ p.wireSeqnum))
  | .attach _ | .eventAdd | .otherSeqnum | .enqueue _ _ _ | .txUrb _ | .dequeue _
  | .dequeueFinish _ _ | .txTop | .tx _ | .rxTop | .rxFail _ | .rxPayload _ _ | .rxGiveback
  | .ehShutdown | .ehClose | .ehCleanup | .ehCleanupNext | .ehCleanupGiveback | .ehCleanupRelock
  | .ehReset | .ehUnusable | .ehFinish => isTrue trivial

/-- No unlink is queued for an entry that is still on `priv_tx` while the sending thread is at
`unlink_tx`. -/
def NoEarlyUnlink (s : State) : Action → Prop
  | .dequeueFinish _ _ => s.tx.turn = .second → ∀ x ∈ s.lock.dequeuing, x.2 ∉ s.privTx
  | _ => True

instance (s : State) (a : Action) : Decidable (NoEarlyUnlink s a) :=
  match a with
  | .dequeueFinish _ _ => inferInstanceAs
      (Decidable (s.tx.turn = .second → ∀ x ∈ s.lock.dequeuing, x.2 ∉ s.privTx))
  | .attach _ | .eventAdd | .otherSeqnum | .enqueue _ _ _ | .txUrb _ | .dequeue _ | .txTop | .tx _
  | .rxTop | .rxPdu _ | .rxFail _ | .rxPayload _ _ | .rxUnlink | .rxGiveback | .ehShutdown
  | .ehClose | .ehCleanup | .ehCleanupNext | .ehCleanupGiveback | .ehCleanupRelock | .ehReset
  | .ehUnusable | .ehFinish => isTrue trivial

/-- Every CMD_UNLINK comes after the CMD_SUBMIT with the number it names. -/
def RequestsInOrder (wire : List Pdu) : Prop :=
  ∀ pre pdu post, wire = pre ++ pdu :: post → pdu.header.base.command = cmdUnlink →
    ∃ q ∈ pre, q.header.base.command = cmdSubmit ∧ q.header.base.seqnum = pdu.header.u.w₀

/-! ## The invariant -/

/-- A CMD_UNLINK names the number of a CMD_SUBMIT. -/
def Names (n : Seqnum) (b : Seqnum × Seqnum) : Prop := b.2 = n

/-- While a connection is open: the shutdown has not closed the socket, entries on `priv_rx` have
been sent or are being sent, and no unlink overtakes its target. -/
structure Sending (s : State) : Prop where
  eh : s.eh = .idle ∨ s.eh = .stopping
  sending : ∀ p ∈ s.tx.sending, p ∈ s.privRx
  sent : ∀ p ∈ s.privRx, .inl p.wireSeqnum ∈ s.drain.sent
  covered : s.drain.Covered Names

/-- `RequestsInOrder`, for the numbers of the requests. -/
def TargetsFirst (requests : List (Seqnum ⊕ Seqnum × Seqnum)) : Prop :=
  ∀ pre b post, requests = pre ++ .inr b :: post → .inl b.2 ∈ pre

/-- The targets are sent before their unlinks. -/
lemma Sending.targetsFirst (h : Sending s) : TargetsFirst (s.wire.map Pdu.request) := by
  intro pre b post hwire
  have hsent : s.drain.sent = pre ++ .inr b :: (post ++ s.tx.hand) := by
    simp [State.drain, hwire]
  exact h.covered.mem_before hsent rfl

/-- Requests whose targets come first are in order. -/
lemma TargetsFirst.requestsInOrder {wire : List Pdu} (h : TargetsFirst (wire.map Pdu.request)) :
    RequestsInOrder wire := by
  intro pre pdu post hwire hcommand
  have hrequest : pdu.request = .inr (pdu.header.base.seqnum, pdu.header.u.w₀) := by
    unfold Pdu.request
    rw [if_neg (by rw [hcommand]; decide)]
  have htarget := h (pre.map Pdu.request) (pdu.header.base.seqnum, pdu.header.u.w₀)
    (post.map Pdu.request) (by simp [hwire, hrequest])
  obtain ⟨q, hq, hqn⟩ := List.mem_map.mp htarget
  refine ⟨q, hq, ?_⟩
  unfold Pdu.request at hqn
  split at hqn
  · rename_i hsubmit
    exact ⟨hsubmit, Sum.inl.inj hqn⟩
  · cases hqn

/-- A step of another context that takes entries off `priv_rx`, but not the one being sent. -/
lemma Sending.congr (h : Sending s) (heh : t.eh = s.eh) (htx : t.tx = s.tx)
    (hwire : t.wire = s.wire) (hprivTx : t.privTx = s.privTx) (hunlinkTx : t.unlinkTx = s.unlinkTx)
    (hprivRx : ∀ p ∈ t.privRx, p ∈ s.privRx) (hsending : ∀ p ∈ s.tx.sending, p ∈ t.privRx) :
    Sending t := by
  have hdrain := State.drain_congr hprivTx hunlinkTx htx hwire
  exact ⟨heh ▸ h.eh, htx ▸ hsending, fun p hp => hdrain ▸ h.sent p (hprivRx p hp),
    hdrain ▸ h.covered⟩

/-- Picking up an entry that is not the one being sent. -/
lemma Sending.mem_privRx_of_pickup {n : BitVec 32} {p : VhciPriv} {s' : State} (h : Sending s)
    (hp : pickupUrbAndFreePriv n s = some (p, s')) (hn : ∀ q ∈ s.tx.sending, n ≠ q.wireSeqnum) :
    (∀ q ∈ s'.privRx, q ∈ s.privRx) ∧ ∀ q ∈ s.tx.sending, q ∈ s'.privRx := by
  obtain ⟨hfind, rfl⟩ := pickup_eq_some hp
  refine ⟨fun q hq => (mem_iff_of_find? hfind).mpr (Or.inr hq), fun q hq => ?_⟩
  rcases (mem_iff_of_find? hfind).mp (h.sending q hq) with rfl | hmem
  · have hseq : q.seqnum = n.setWidth 64 := of_decide_eq_true (List.find?_some hfind :)
    refine absurd ?_ (hn q hq)
    rw [VhciPriv.wireSeqnum, hseq]
    simp
  · exact hmem

/-- A new submit keeps the order. -/
lemma Sending.txUrb {u : UrbId} {allocOk : Bool} (h : Sending s) :
    Sending { vhciTxUrb u allocOk s with lock := .free } := by
  unfold vhciTxUrb
  split
  · exact h.congr rfl rfl rfl rfl rfl (fun _ hp => hp) h.sending
  · split
    · exact h.congr rfl rfl rfl rfl rfl (fun _ hp => hp) h.sending
    · refine ⟨h.eh, h.sending, h.sent, ?_⟩
      have hpush := h.covered.pushFirst (VhciPriv.wireSeqnum ⟨s.issued, s.nextSeqnum, u⟩)
      simpa [State.drain, Drain.pushFirst, State.incSeqnum] using hpush

/-- A new unlink keeps the order, unless its submit still waits between the two drains. -/
lemma Sending.dequeueFinish {u : UrbId} {p : VhciPriv} {allocOk : Bool} {stale : BitVec 64}
    (h : Sending s) (ho : Owned s) (hs : s.tcpSocket = true) (hp : s.hcpriv u = some p)
    (hearly : s.tx.turn = .second → p ∉ s.privTx) :
    Sending { vhciUrbDequeueFinish u p allocOk stale s with lock := .free } := by
  unfold vhciUrbDequeueFinish
  rw [if_neg (by rw [hs]; simp)]
  split
  · exact h.congr rfl rfl rfl rfl rfl (fun _ hp => hp) h.sending
  · refine ⟨h.eh, h.sending, h.sent, ?_⟩
    have hlisted : p ∈ s.privTx ∨ p ∈ s.privRx :=
      List.mem_append.mp ((ho.linked.ptr_iff u p).mp hp).1
    have hpush := h.covered.pushSecond
      (b := VhciUnlink.wireSeqnums ⟨s.issued, s.nextSeqnum, p.seqnum⟩) ?_ ?_
    · simpa [State.drain, Drain.pushSecond, State.incSeqnum, hp] using hpush
    · rintro n rfl
      rcases hlisted with hp | hp
      · exact Or.inl (List.mem_map_of_mem hp)
      · exact Or.inr (h.sent p hp)
    · rintro hturn n rfl
      exact h.sent p (hlisted.resolve_left (hearly hturn))

/-- The transmit thread sends from its queues. -/
lemma Sending.sends (h : Sending s) (ho : Owned s) (hst : txStep true s = some t) : Sends s t := by
  refine sends_of_txStep hst fun p hp => ?_
  exact (ho.linked.ptr_iff p.urb p).mpr ⟨List.mem_append_right _ (h.sending p hp), rfl⟩

/-- The transmit thread keeps the order. -/
theorem Sending.tx (h : Sending s) (ho : Owned s) (hst : txStep true s = some t) : Sending t := by
  have hsends := h.sends ho hst
  refine ⟨?_, hsends.sending, fun p hp => ?_, ?_⟩
  · rw [(txStep_frame hst).1]
    exact h.eh
  · rcases hsends.privRx p hp with hp | hp
    · exact hsends.mem_sent (h.sent p hp)
    · exact hp
  · rcases hsends.drain with hdrain | hdrain
    · rw [hdrain]
      exact h.covered
    · rw [hdrain]
      exact h.covered.advance

/-- The steps that a connection consists of, under the conditions. -/
theorem Sending.step (h : Sending s) (hi : Inv c s) (hs : s.tcpSocket = true)
    (hseq : InSequence s a) (hreply : NoEarlyReply s a) (hearly : NoEarlyUnlink s a)
    (ht : t.tcpSocket = true) (hst : Vhci.step s a = some t) : Sending t := by
  have hnot : s.eh ≠ .cleanup ∧ s.eh ≠ .closed ∧ ∀ u, s.eh ≠ .giveback u := by
    obtain he | he := h.eh <;> rw [he] <;> simp
  by_cases ha : a.isSender = true ∨ a.isHandler = true
  · cases a with
    | eventAdd | otherSeqnum | enqueue | txUrb | dequeue | dequeueFinish | rxTop | rxPdu | rxFail
    | rxPayload | rxUnlink | rxGiveback => simp [Action.isSender, Action.isHandler] at ha
    | attach devid =>
        simp only [Vhci.step] at hst
        split at hst <;> cases hst
        rename_i hl
        exact absurd (hi.control.null hl.2) (by rw [hs]; simp)
    | txTop =>
        simp only [Vhci.step] at hst
        split at hst <;> cases hst
        rename_i htx
        have hdrain := drain_txTop htx
        refine ⟨h.eh, fun p hp => ?_, fun p hp => hdrain ▸ h.sent p hp, hdrain ▸ h.covered⟩
        cases hstop : s.shouldStop <;> simp [hstop, TxPc.sending] at hp
    | tx sendOk =>
        obtain rfl : sendOk = true := hseq
        exact h.tx hi.owned hst
    | ehShutdown =>
        simp only [Vhci.step] at hst
        split at hst <;> cases hst
        exact ⟨Or.inr rfl, h.sending, h.sent, h.covered⟩
    | ehClose =>
        simp only [Vhci.step] at hst
        split at hst <;> cases hst
        cases ht
    | ehCleanup | ehCleanupNext | ehCleanupGiveback | ehCleanupRelock | ehReset | ehUnusable
    | ehFinish =>
        simp only [Vhci.step] at hst
        obtain he | he := h.eh <;> simp [he] at hst
  · obtain ⟨hsender, hhandler⟩ := not_or.mp ha
    rw [Bool.not_eq_true] at hsender hhandler
    obtain ⟨htx, hwire⟩ := tx_wire_of_step hst hsender
    have heh := (local_of_step hst hhandler).eh
    have hsame : t.privTx = s.privTx → t.unlinkTx = s.unlinkTx → t.privRx = s.privRx → Sending t :=
      fun hprivTx hunlinkTx hprivRx => h.congr heh htx hwire hprivTx hunlinkTx
        (fun p hp => hprivRx ▸ hp) fun p hp => hprivRx ▸ h.sending p hp
    cases step_effect hi.control hst with
    | frame hf => exact hsame hf.privTx hf.unlinkTx hf.privRx
    | otherSeqnum | dequeue | rxGiveback => exact hsame rfl rfl rfl
    | enqueue _ _ henq => cases henq <;> exact hsame rfl rfl rfl
    | txUrb => exact h.txUrb
    | @dequeueFinish u p _ _ hl =>
        have hmem : (u, p) ∈ s.lock.dequeuing := by
          rw [hl]
          exact List.mem_singleton_self _
        exact h.dequeueFinish hi.owned hs (hseq _ hmem) fun hturn => hearly hturn _ hmem
    | tx => cases hsender
    | retSubmit _ hp =>
        obtain ⟨hprivRx, hsending⟩ := h.mem_privRx_of_pickup hp hreply
        obtain ⟨-, rfl⟩ := pickup_eq_some hp
        exact h.congr heh htx hwire rfl rfl hprivRx hsending
    | retUnlink _ he =>
        obtain ⟨-, rfl⟩ := dequeuePendingUnlink_eq_some he
        exact hsame rfl rfl rfl
    | rxPayload hrx =>
        obtain ⟨urb, event, hr | hr⟩ := recvPayload_cases _ _ _ s
        all_goals
          rw [hr] at hsame ⊢
          exact hsame rfl rfl rfl
    | rxUnlink hrx hp =>
        obtain ⟨hprivRx, hsending⟩ := h.mem_privRx_of_pickup hp fun q hq =>
          hreply q hq _ (by rw [hrx]; exact List.mem_singleton_self _)
        obtain ⟨-, rfl⟩ := pickup_eq_some hp
        exact h.congr heh htx hwire rfl rfl hprivRx hsending
    | cleanup | cleanupSkip | cleanupPickup | cleanupGiveback => cases hhandler

/-! ## The order -/

structure OrderInv (c : BitVec 32) (s : State) : Prop where
  inv : Inv c s
  sending : s.tcpSocket = true → Sending s
  wire : TargetsFirst (s.wire.map Pdu.request)

/-- Nothing has been sent at the start. -/
lemma orderInv_start (c : BitVec 32) : OrderInv c { seqnum := c } := by
  refine ⟨inv_start c, fun h => (by cases h), ?_⟩
  intro pre b post hwire
  simp at hwire

/-- A connection is opened by `store_attach` only. -/
lemma attach_or_open (hst : step s a = some t) (ht : t.tcpSocket = true) :
    (∃ devid, a = .attach devid) ∨ s.tcpSocket = true := by
  cases ha : a.isHandler with
  | false => exact Or.inr ((local_of_step hst ha).socket.symm.trans ht)
  | true =>
      cases a with
      | eventAdd | otherSeqnum | enqueue | txUrb | dequeue | dequeueFinish | txTop | tx | rxTop
      | rxPdu | rxFail | rxPayload | rxUnlink | rxGiveback => cases ha
      | attach devid => exact Or.inl ⟨devid, rfl⟩
      | ehShutdown | ehCleanup | ehCleanupRelock | ehUnusable | ehFinish | ehCleanupGiveback =>
          simp only [step] at hst
          split at hst <;> cases hst
          exact Or.inr ht
      | ehClose | ehReset =>
          simp only [step] at hst
          split at hst <;> cases hst
          cases ht
      | ehCleanupNext =>
          simp only [step] at hst
          split at hst <;> cases hst
          unfold cleanupNext at ht
          split at ht
          · exact Or.inr ht
          · split at ht
            · exact Or.inr ht
            · rename_i hp
              obtain ⟨-, rfl⟩ := pickup_eq_some hp
              exact Or.inr ht

/-- Without a connection nothing is written. -/
lemma wire_of_closed (hc : Control s) (hst : step s a = some t) (ht : t.tcpSocket = false) :
    t.wire = s.wire := by
  cases ha : a.isSender with
  | false => exact (tx_wire_of_step hst ha).2
  | true =>
      cases a with
      | eventAdd | otherSeqnum | enqueue | txUrb | dequeue | dequeueFinish | rxTop | rxPdu | rxFail
      | rxPayload | rxUnlink | rxGiveback | ehShutdown | ehClose | ehCleanup | ehCleanupNext
      | ehCleanupGiveback | ehCleanupRelock | ehReset | ehUnusable | ehFinish => cases ha
      | attach devid =>
          simp only [step] at hst
          split at hst <;> cases hst
          cases ht
      | txTop =>
          simp only [step] at hst
          split at hst <;> cases hst
          rfl
      | tx sendOk =>
          have hs : s.tcpSocket = false := (local_of_step hst rfl).socket.symm.trans ht
          simp [step, txStep, (hc.stopped hs).2] at hst

/-- A connection starts with nothing sent and no unlink queued. -/
lemma sending_of_attach {devid : BitVec 32} (hseq : InSequence s (.attach devid))
    (hst : step s (.attach devid) = some t) : Sending t := by
  obtain ⟨heh, hprivRx, hunlinkTx⟩ := hseq
  simp only [step] at hst
  split at hst <;> cases hst
  refine ⟨Or.inl heh, fun p hp => (by cases hp), fun p hp => ?_, ?_⟩
  · exact absurd hp (by rw [hprivRx]; exact List.not_mem_nil)
  · refine ⟨justified_nil _, ?_, ?_⟩ <;> simp [State.drain, hunlinkTx]

/-- A socket that is open is not lost in a reset, because it is not reset before it is closed. -/
lemma OrderInv.stopsFirst (h : OrderInv c s) (hst : Vhci.step s a = some t) : StopsFirst s a := by
  by_cases ha : a = .ehReset
  · subst ha
    intro hs
    simp only [Vhci.step] at hst
    obtain he | he := (h.sending hs).eh <;> simp [he] at hst
  · cases a <;> trivial

/-- Every step keeps the order. -/
theorem OrderInv.step (h : OrderInv c s) (hseq : InSequence s a) (hreply : NoEarlyReply s a)
    (hearly : NoEarlyUnlink s a) (hst : Vhci.step s a = some t) : OrderInv c t := by
  have hsending : t.tcpSocket = true → Sending t := by
    intro ht
    obtain ⟨devid, rfl⟩ | hs := attach_or_open hst ht
    · exact sending_of_attach hseq hst
    · exact (h.sending hs).step h.inv hs hseq hreply hearly ht hst
  refine ⟨h.inv.step (h.stopsFirst hst) hst, hsending, ?_⟩
  cases ht : t.tcpSocket with
  | true => exact (hsending ht).targetsFirst
  | false =>
      rw [wire_of_closed h.inv.control hst ht]
      exact h.wire

/-- In every run in which no unlink is queued too early, every CMD_UNLINK on the wire comes after
the CMD_SUBMIT it names. -/
theorem cmd_submit_precedes_cmd_unlink
    (h : (machine c).Reach (fun s a => InSequence s a ∧ NoEarlyReply s a ∧ NoEarlyUnlink s a) t) :
    RequestsInOrder t.wire := by
  refine (h.invariant (I := OrderInv c) ?_ ?_).wire.requestsInOrder
  · rintro s rfl
    exact orderInv_start c
  · rintro s a t hi ⟨hseq, hreply, hearly⟩ hst
    exact hi.step hseq hreply hearly hst

/-- URB 0 is enqueued, and its CMD_SUBMIT is sent before it is dequeued. -/
def orderedRun : List Action :=
  [.attach 1, .txTop, .enqueue 0 getDescriptorUrb 0, .txUrb true, .tx true, .tx true, .tx true,
   .dequeue 0, .dequeueFinish true 0, .tx true, .tx true]

/-- A submit and its unlink, sent in that order. -/
theorem cmd_submit_precedes_cmd_unlink_orderedRun :
    ∃ t, (machine 0).Reach (fun s a => InSequence s a ∧ NoEarlyReply s a ∧ NoEarlyUnlink s a) t ∧
      t.wire.map Pdu.request = [.inl 1, .inr (2, 1)] ∧ RequestsInOrder t.wire := by
  have hrun : ∃ t, (machine 0).Reach
      (fun s a => InSequence s a ∧ NoEarlyReply s a ∧ NoEarlyUnlink s a) t ∧
      t.wire.map Pdu.request = [.inl 1, .inr (2, 1)] := by
    apply Machine.Reach.of_perform orderedRun (s := { seqnum := 0 }) rfl
    exact ⟨_, rfl, by decide⟩
  obtain ⟨t, ht, hwire⟩ := hrun
  exact ⟨t, ht, hwire, cmd_submit_precedes_cmd_unlink ht⟩

/-- URB 0 is enqueued and dequeued while the sending thread is between its two drains. -/
def overtakingRun : List Action :=
  [.attach 1, .txTop, .tx true,                     -- priv_tx is empty
   .enqueue 0 getDescriptorUrb 0, .txUrb true, .dequeue 0, .dequeueFinish true 0,
   .tx true, .tx true, .tx true,                    -- CMD_UNLINK 2
   .txTop, .tx true, .tx true]                      -- CMD_SUBMIT 1

/-- Its CMD_UNLINK is on the wire before its CMD_SUBMIT. -/
theorem cmd_unlink_overtakes_cmd_submit :
    ∃ t, (machine 0).Reach (fun s a => InSequence s a ∧ NoEarlyReply s a) t ∧
      t.wire.map Pdu.request = [.inr (2, 1), .inl 1] ∧ ¬ RequestsInOrder t.wire := by
  apply Machine.Reach.of_perform overtakingRun (s := { seqnum := 0 }) rfl
  refine ⟨_, rfl, by decide, fun h => ?_⟩
  obtain ⟨q, hq, -⟩ := h [] _ _ rfl rfl
  cases hq

end Usbip.Vhci
