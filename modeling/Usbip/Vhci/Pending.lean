import Usbip.Vhci.Matching
import Usbip.Vhci.Traffic

/-!
# What waits for a reply

While a connection is open, an unlink that was sent waits on `unlink_rx` until a RET_UNLINK with its
number is read, and a URB whose RET_SUBMIT or RET_UNLINK was read has no entry left.  The numbers
are those below 2^31, for which the comparison with the number of a reply finds the entry.
-/

namespace Usbip.Vhci

open Usbip.Core Usbip.Common

variable {s t : State} {a : Action} {c : BitVec 32}

/-! ## Small numbers -/

/-- A number that was taken before the counter has reached 2^31 is found by its number on the
wire. -/
lemma eq_setWidth_of_taken {x : BitVec 64} {k : Nat} (hk : k < s.issued)
    (hx : x = seqnumOf 0 k) (hissued : s.issued < 2 ^ 31) : x = (x.setWidth 32).setWidth 64 := by
  rw [hx, seqnumOf, setWidth_signExtend, signExtend_eq_setWidth_iff, zero_add,
    BitVec.toNat_ofNat]
  omega

namespace Numbered

variable (h : Numbered 0 s) (hissued : s.issued < 2 ^ 31)

include h hissued in
/-- The number of a record before the counter's sign bit. -/
lemma privs_setWidth {p : VhciPriv} (hp : p ∈ s.privs) :
    p.seqnum = p.wireSeqnum.setWidth 64 := by
  have hmem : (p.ticket, p.seqnum) ∈ s.numbers :=
    List.mem_append_left _ (List.mem_map.mpr ⟨p, hp, rfl⟩)
  obtain ⟨hlt, hseq⟩ := h.taken _ hmem
  exact eq_setWidth_of_taken hlt hseq hissued

include h hissued in
/-- The number of an unlink before the counter's sign bit. -/
lemma unlinkRx_setWidth {e : VhciUnlink} (he : e ∈ s.unlinkRx) :
    e.seqnum = e.wireSeqnums.1.setWidth 64 := by
  have hmem : (e.ticket, e.seqnum) ∈ s.numbers :=
    List.mem_append_right _ (List.mem_map.mpr ⟨e, List.mem_append_right _ he, rfl⟩)
  obtain ⟨hlt, hseq⟩ := h.taken _ hmem
  exact eq_setWidth_of_taken hlt hseq hissued

end Numbered

/-- The unlinks awaited have distinct numbers. -/
lemma Numbered.unlinkRx_seqnum_nodup (h : Numbered c s) (hissued : s.issued ≤ 2 ^ 32) :
    (s.unlinkRx.map VhciUnlink.seqnum).Nodup := by
  have hnodup := h.seqnums_nodup fun x _ => Nat.le_add_left_of_le hissued
  simp only [State.numbers, State.unlinks, List.map_append, List.map_map,
    List.nodup_append] at hnodup
  exact hnodup.2.1.2.1

/-- No number is issued back. -/
lemma issued_le_of_step (hst : step s a = some t) : s.issued ≤ t.issued := by
  rcases numbering_of_step hst with ⟨-, hissued, -⟩ | ⟨-, hissued, -⟩ <;> omega

/-! ## Numbers that were not written -/

/-- What is written has another number than what waits to be written. -/
lemma Tracked.written_ne (h : Tracked c s) {x y : Seqnum ⊕ Seqnum × Seqnum}
    (hx : x ∈ s.wire.map Pdu.request)
    (hy : y ∈ s.tx.hand ∨ y ∈ s.drain.first.map Sum.inl ∨ y ∈ s.drain.second.map Sum.inr) :
    requestNumber x ≠ requestNumber y := by
  have hnodup := h.distinct.numbers
  have hitems : s.drain.items = s.wire.map Pdu.request ++
      (s.tx.hand ++ (s.drain.first.map .inl ++ s.drain.second.map .inr)) := by
    simp [Drain.items, State.drain]
  rw [hitems, List.map_append, List.nodup_append] at hnodup
  refine hnodup.2.2 _ (List.mem_map_of_mem hx) _ (List.mem_map_of_mem ?_)
  simpa only [List.mem_append] using hy

/-- The unlink that is being sent is in hand. -/
lemma mem_hand_of_sendUnlink {e : VhciUnlink} (htx : s.tx = .sendUnlink e) :
    .inr e.wireSeqnums ∈ s.tx.hand := by
  rw [htx]
  exact List.mem_singleton_self _

/-! ## Unlinks that wait for their reply -/

/-- The entry that a header takes off `unlink_rx`. -/
def TakenBy (a : Action) (s : State) (e : VhciUnlink) : Prop :=
  ∃ pdu s', a = .rxPdu pdu ∧ pdu.base.command = retUnlink ∧
    dequeuePendingUnlink pdu.base.seqnum s = some (e, s')

/-- What a step does to `unlink_rx` as long as the connection is open. -/
structure UnlinksPass (s : State) (a : Action) (t : State) : Prop where
  kept : ∀ e ∈ s.unlinkRx, e ∈ t.unlinkRx ∨ TakenBy a s e
  new : ∀ e ∈ t.unlinkRx, e ∈ s.unlinkRx ∨ e ∈ s.unlinkTx
  sending : ∀ e, t.tx = .sendUnlink e → s.tx = .sendUnlink e ∨ e ∈ t.unlinkRx

/-- A step that leaves `unlink_rx` alone. -/
lemma UnlinksPass.same (hunlinkRx : t.unlinkRx = s.unlinkRx) (htx : t.tx = s.tx) :
    UnlinksPass s a t :=
  ⟨fun _ he => Or.inl (hunlinkRx ▸ he), fun _ he => Or.inl (hunlinkRx ▸ he),
    fun _ he => Or.inl (htx ▸ he)⟩

/-- What the transmit thread does to `unlink_rx`. -/
lemma unlinksPass_tx {sendOk : Bool} (h : txStep sendOk s = some t) :
    UnlinksPass s (.tx sendOk) t := by
  unfold txStep at h
  split at h
  · cases h
  · cases h
  · split at h <;> cases h <;>
      exact ⟨fun _ he => Or.inl he, fun _ he => Or.inl he, fun _ he => by cases he⟩
  · split at h
    · cases h
      exact ⟨fun _ he => Or.inl he, fun _ he => Or.inl he, fun _ he => by cases he⟩
    · split at h <;> cases h <;>
        exact ⟨fun _ he => Or.inl he, fun _ he => Or.inl he, fun _ he => by cases he⟩
  · split at h <;> cases h
    · rename_i e rest hrest
      refine ⟨fun _ he => Or.inl (List.mem_append_left _ he), fun f hf => ?_, fun f hf => ?_⟩
      · refine (List.mem_append.mp hf).imp_right fun hf => ?_
        rw [hrest, List.mem_singleton.mp hf]
        exact List.mem_cons_self
      · obtain rfl := TxPc.sendUnlink.inj hf
        exact Or.inr (List.mem_append_right _ (List.mem_singleton_self _))
    · exact ⟨fun _ he => Or.inl he, fun _ he => Or.inl he, fun _ he => by cases he⟩
  · split at h <;> cases h <;>
      exact ⟨fun _ he => Or.inl he, fun _ he => Or.inl he, fun _ he => by cases he⟩

/-- The clean-up of a connection comes after its end. -/
lemma unlinksPass_of_step (ho : OrderInv c s) (hs : s.tcpSocket = true)
    (hattach : ∀ devid, a ≠ .attach devid) (hst : step s a = some t) : UnlinksPass s a t := by
  have heh := (ho.sending hs).eh
  have hnot : s.eh ≠ .cleanup ∧ s.eh ≠ .closed := by
    obtain he | he := heh <;> rw [he] <;> simp
  cases ha : a.isSender with
  | true =>
      cases a with
      | eventAdd | otherSeqnum | enqueue | txUrb | dequeue | dequeueFinish | rxTop | rxPdu | rxFail
      | rxPayload | rxUnlink | rxGiveback | ehShutdown | ehClose | ehCleanup | ehCleanupNext
      | ehCleanupGiveback | ehCleanupRelock | ehReset | ehUnusable | ehFinish => cases ha
      | attach devid => exact absurd rfl (hattach devid)
      | txTop =>
          simp only [step] at hst
          split at hst <;> cases hst
          refine ⟨fun _ he => Or.inl he, fun _ he => Or.inl he, fun e he => ?_⟩
          dsimp only at he
          split at he <;> cases he
      | tx sendOk => exact unlinksPass_tx hst
  | false =>
      obtain ⟨htx, -⟩ := tx_wire_of_step hst ha
      cases step_effect ho.inv.control hst with
      | frame hf => exact .same hf.unlinkRx htx
      | otherSeqnum | dequeue | rxGiveback => exact .same rfl htx
      | enqueue _ _ henq => cases henq <;> exact .same rfl htx
      | txUrb =>
          unfold vhciTxUrb at htx ⊢
          split <;> [skip; split] <;> exact .same rfl rfl
      | dequeueFinish =>
          unfold vhciUrbDequeueFinish at htx ⊢
          split <;> [skip; split] <;> exact .same rfl rfl
      | tx => cases ha
      | retSubmit _ hp | rxUnlink _ hp =>
          obtain ⟨-, rfl⟩ := pickup_eq_some hp
          exact .same rfl htx
      | retUnlink _ hd hcommand =>
          obtain ⟨hfind, rfl⟩ := dequeuePendingUnlink_eq_some hd
          refine ⟨fun e he => ?_, fun e he => Or.inl (List.eraseP_sublist.subset he),
            fun e he => Or.inl he⟩
          rcases (mem_iff_of_find? hfind).mp he with rfl | he
          · exact Or.inr ⟨_, _, rfl, hcommand, hd⟩
          · exact Or.inl he
      | rxPayload =>
          obtain ⟨urb, event, hr | hr⟩ := recvPayload_cases _ _ _ s
          all_goals
            rw [hr]
            exact .same rfl rfl
      | cleanup he => exact absurd he hnot.2
      | cleanupSkip he | cleanupPickup he => exact absurd he hnot.1
      | cleanupGiveback he => obtain he' | he' := heh <;> rw [he] at he' <;> cases he'

/-- What is written next was dequeued before. -/
lemma wire_unlink_of_step (hattach : ∀ devid, a ≠ .attach devid) (hst : step s a = some t)
    {b : Seqnum × Seqnum} (hb : .inr b ∈ t.wire.map Pdu.request) :
    .inr b ∈ s.wire.map Pdu.request ∨ .inr b ∈ s.tx.hand := by
  cases ha : a.isSender with
  | false => exact Or.inl ((tx_wire_of_step hst ha).2 ▸ hb)
  | true =>
      cases a with
      | eventAdd | otherSeqnum | enqueue | txUrb | dequeue | dequeueFinish | rxTop | rxPdu | rxFail
      | rxPayload | rxUnlink | rxGiveback | ehShutdown | ehClose | ehCleanup | ehCleanupNext
      | ehCleanupGiveback | ehCleanupRelock | ehReset | ehUnusable | ehFinish => cases ha
      | attach devid => exact absurd rfl (hattach devid)
      | txTop =>
          simp only [step] at hst
          split at hst <;> cases hst
          exact Or.inl hb
      | tx sendOk =>
          have hst : txStep sendOk s = some t := hst
          unfold txStep at hst
          split at hst
          · cases hst
          · cases hst
          · split at hst <;> cases hst <;> exact Or.inl hb
          · split at hst
            · cases hst
              exact Or.inl hb
            · split at hst <;> cases hst
              · exact Or.inl (by simpa using hb)
              · exact Or.inl hb
          · split at hst <;> cases hst <;> exact Or.inl hb
          · rename_i e htx
            split at hst <;> cases hst
            · rw [htx]
              simpa [TxPc.hand] using hb
            · exact Or.inl hb

/-! ## Entries whose reply was read -/

/-- A RET_UNLINK was read, and the unlink it answers was found. -/
lemma found_of_retUnlink {pdu : Header} (hcommand : pdu.base.command = retUnlink)
    {e : VhciUnlink} {s' : State} (hd : dequeuePendingUnlink pdu.base.seqnum s = some (e, s'))
    (hst : step s (.rxPdu pdu) = some t) : t.rx = .unlink e pdu.u.w₀ := by
  simp only [step] at hst
  split at hst <;> cases hst
  unfold vhciRxPdu vhciRecvRetUnlink
  rw [if_neg (by rw [hcommand]; decide), if_pos hcommand, hd]

/-- When the header of a RET_UNLINK was read, no unlink that waits has its number any more. -/
lemma Numbered.gone_of_retUnlink (h : Numbered c s) (hissued : s.issued ≤ 2 ^ 32) {pdu : Header}
    (hcommand : pdu.base.command = retUnlink) (hst : Vhci.step s (.rxPdu pdu) = some t) :
    ∀ e ∈ t.unlinkRx, e.seqnum ≠ pdu.base.seqnum.setWidth 64 := by
  simp only [Vhci.step] at hst
  split at hst <;> cases hst
  unfold vhciRxPdu vhciRecvRetUnlink
  rw [if_neg (by rw [hcommand]; decide), if_pos hcommand]
  split
  · rename_i hnone
    intro e he hseq
    have hfind := Option.map_eq_none_iff.mp hnone
    exact List.find?_eq_none.mp hfind e he (decide_eq_true hseq)
  · rename_i f s' hf
    obtain ⟨hfind, rfl⟩ := dequeuePendingUnlink_eq_some hf
    have hfseq : f.seqnum = pdu.base.seqnum.setWidth 64 :=
      of_decide_eq_true (List.find?_some hfind :)
    have hnodup := ((perm_cons_eraseP_of_find? hfind).map VhciUnlink.seqnum).nodup_iff.mp
      (h.unlinkRx_seqnum_nodup hissued)
    rw [List.map_cons, List.nodup_cons, hfseq] at hnodup
    exact fun e he hseq => hnodup.1 (List.mem_map.mpr ⟨e, he, hseq⟩)

/-- When the target of a RET_UNLINK was looked up, no entry has its number any more. -/
lemma Tracked.gone_of_rxUnlink (h : Tracked 0 s) (hn : Numbered 0 s) (hissued : s.issued < 2 ^ 31)
    {e : VhciUnlink} {status : BitVec 32} (hrx : s.rx = .unlink e status)
    (hsent : .inl e.wireSeqnums.2 ∈ s.wire.map Pdu.request)
    (hst : Vhci.step s .rxUnlink = some t) :
    ∀ p ∈ t.privs, p.wireSeqnum ≠ e.wireSeqnums.2 := by
  have hwaits : ∀ p ∈ s.privTx, p.wireSeqnum ≠ e.wireSeqnums.2 := fun p hp hseq =>
    h.privTx_fresh hp hsent hseq.symm
  have hsmall : ∀ p ∈ s.privs, p.wireSeqnum = e.wireSeqnums.2 →
      p.seqnum = (e.unlinkSeqnum.setWidth 32).setWidth 64 := by
    intro p hp hseq
    rw [hn.privs_setWidth hissued hp, hseq]
    rfl
  simp only [Vhci.step, hrx] at hst
  cases hst
  unfold recvUnlink
  split
  · rename_i hnone
    intro p hp hseq
    rcases List.mem_append.mp hp with hptx | hprx
    · exact hwaits p hptx hseq
    · have hfind := Option.map_eq_none_iff.mp hnone
      exact List.find?_eq_none.mp hfind p hprx (decide_eq_true (hsmall p hp hseq))
  · rename_i q s' hq
    obtain ⟨-, hqseq, -⟩ := wireSeqnum_of_pickup hq
    have hperm := perm_privs_of_pickup hq
    have hnodup := (hperm.map VhciPriv.seqnum).nodup_iff.mp
      (hn.privs_seqnum_nodup (by omega))
    rw [List.map_cons, List.nodup_cons, hqseq] at hnodup
    intro p hp hseq
    have hmem : p ∈ s.privs := hperm.mem_iff.mpr (List.mem_cons_of_mem _ hp)
    exact hnodup.1 (List.mem_map.mpr ⟨p, hp, hsmall p hmem hseq⟩)

/-- The reply to an unlink is being received until its target is looked up. -/
lemma unlink_of_step (hst : step s a = some t) {e : VhciUnlink} {status : BitVec 32}
    (hrx : s.rx = .unlink e status) (ha : a ≠ .rxUnlink) (hattach : ∀ devid, a ≠ .attach devid) :
    t.rx = .unlink e status := by
  cases a with
  | attach devid => exact absurd rfl (hattach devid)
  | rxUnlink => exact absurd rfl ha
  | eventAdd | otherSeqnum =>
      obtain rfl := Option.some.inj hst
      exact hrx
  | enqueue u urb linkRet =>
      simp only [step] at hst
      split at hst <;> cases hst
      generalize hv : vhciUrbEnqueue u urb linkRet s = v
      have henq : Enqueued u urb s v := hv ▸ vhciUrbEnqueue_enqueued u urb linkRet s
      cases henq <;> exact hrx
  | txUrb allocOk =>
      simp only [step] at hst
      split at hst <;> cases hst
      unfold vhciTxUrb
      split <;> [skip; split] <;> exact hrx
  | dequeue u =>
      simp only [step] at hst
      split at hst <;> cases hst
      unfold vhciUrbDequeue
      split <;> [skip; split] <;> exact hrx
  | dequeueFinish allocOk stale =>
      simp only [step] at hst
      split at hst <;> cases hst
      unfold vhciUrbDequeueFinish
      split <;> [skip; split] <;> exact hrx
  | txTop | ehShutdown | ehClose | ehCleanup | ehCleanupGiveback | ehCleanupRelock | ehReset
  | ehUnusable | ehFinish =>
      simp only [step] at hst
      split at hst <;> cases hst
      exact hrx
  | tx sendOk =>
      have hframe := (txStep_frame hst).1
      rw [hframe]
      exact hrx
  | rxTop | rxFail | rxPdu | rxPayload =>
      simp only [step, hrx] at hst
      cases hst
  | rxGiveback =>
      simp only [step, hrx] at hst
      cases hst
  | ehCleanupNext =>
      simp only [step] at hst
      split at hst <;> cases hst
      unfold cleanupNext
      split
      · exact hrx
      · split
        · exact hrx
        · rename_i hp
          obtain ⟨-, rfl⟩ := pickup_eq_some hp
          exact hrx

end Usbip.Vhci
