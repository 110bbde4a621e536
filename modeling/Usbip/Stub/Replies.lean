import Usbip.Stub.Session

/-!
# Replies of the stub: exactly one, and in order

`Session.Answered` says that the lists owe each request and each unlink exactly one reply, and
that what is queued is what is on the lists, in the hand of the sending thread, or on the wire.
Every operation preserves it.

`Session.InOrder` says that no RET_SUBMIT is queued behind, or will be sent after, a RET_UNLINK
for an unlink of the same request.  The one operation that can break it is the receipt of a
CMD_UNLINK whose target waits on `privTx` while the sending thread is at `unlinkTx`
(`InOrder.stubRecvCmdUnlink`).
-/

namespace Usbip.Stub.Session

open Usbip.Core Usbip.Common

variable {ρ σ : Type} {s t : Session ρ σ}

/-! ## Exactly one reply -/

/-- The lists are a sound ledger, and what was queued is what the sending thread has or had. -/
structure Answered (s : Session ρ σ) : Prop where
  sound : s.ledger.Sound
  queued_perm : s.queued.Perm (s.drain.items.map itemReply)

/-- A new session has nothing to answer. -/
lemma answered_empty : Answered ({} : Session ρ σ) := by
  refine ⟨Ledger.sound_empty, ?_⟩
  exact List.Perm.refl _

/-- An item of the drain is a queued reply. -/
lemma Answered.mem_queued (h : s.Answered) {x : Seqnum ⊕ StubUnlink σ} :
    x ∈ s.drain.items → itemReply x ∈ s.queued :=
  fun hx => h.queued_perm.mem_iff.mpr (List.mem_map_of_mem hx)

/-- A RET_UNLINK that was ever queued is for an unlink that was received. -/
lemma Answered.item_known (h : s.Answered) {b : StubUnlink σ} (hb : .inr b ∈ s.drain.items) :
    b.seqnum ∈ s.unlinks.map Prod.fst := by
  obtain ⟨t, ht, -⟩ := h.sound.cancelled_known b.seqnum b.caught (h.mem_queued hb)
  exact List.mem_map.mpr ⟨_, ht, rfl⟩

/-- A new submit is to be answered. -/
theorem Answered.stubPrivAlloc (h : s.Answered) {n : Seqnum} (hn : n ∉ s.ledger.numbers) :
    (s.stubPrivAlloc n).Answered := by
  refine ⟨?_, h.queued_perm⟩
  rw [ledger_stubPrivAlloc]
  exact h.sound.accept hn

/-- A new unlink is to be answered. -/
theorem Answered.stubRecvCmdUnlink (h : s.Answered) (zero : σ) {u n : Seqnum}
    (hu : u ∉ s.ledger.numbers) (hn : n ∉ s.unlinks.map Prod.fst) :
    (s.stubRecvCmdUnlink zero u n).Answered := by
  refine ⟨?_, ?_⟩
  · rw [ledger_stubRecvCmdUnlink]
    exact h.sound.cancel hu hn
  · unfold Session.stubRecvCmdUnlink
    split
    · exact h.queued_perm
    · show (s.queued ++ [_]).Perm ((s.drain.pushSecond _).items.map itemReply)
      refine (h.queued_perm.append_right _).trans ?_
      have hpush := (Drain.perm_items_pushSecond ⟨u, zero, none⟩ s.drain).symm.map itemReply
      rwa [List.map_append] at hpush

/-- An entry that no unlink has marked still has the seqnum it arrived with. -/
lemma Answered.seqnum_eq (h : s.Answered) {p : StubPriv ρ} (hp : p ∈ s.privInit)
    (hu : p.unlinking = false) : p.seqnum = p.origin :=
  h.sound.pending_key p.entry (List.mem_map_of_mem hp) hu

/-- A completion queues the answer. -/
theorem Answered.stubComplete (h : s.Answered) {n : Seqnum} {r : ρ} {st : σ}
    (hst : s.stubComplete n r st = some t) : t.Answered := by
  refine ⟨?_, ?_⟩
  · rw [ledger_stubComplete hst]
    exact h.sound.finish n
  · obtain ⟨p, hf, hp, ⟨hu, rfl⟩ | ⟨hu, rfl⟩⟩ := stubComplete_cases hst
    · show (s.queued ++ [_]).Perm ((s.drain.pushSecond _).items.map itemReply)
      refine (h.queued_perm.append_right _).trans ?_
      have hpush := (Drain.perm_items_pushSecond ⟨p.seqnum, st, some n⟩ s.drain).symm.map itemReply
      rwa [List.map_append] at hpush
    · have hseq : p.seqnum = n := (h.seqnum_eq (List.mem_of_find?_eq_some hf) hu).trans hp
      have hdrain : drain { s with
          privInit := s.privInit.eraseP (fun p => p.origin = n)
          privTx := s.privTx ++ [{ p with urb := some r }]
          queued := s.queued ++ [.done n] } = s.drain.pushFirst n := by
        simp [drain, Drain.pushFirst, hseq]
      rw [hdrain]
      refine (h.queued_perm.append_right _).trans ?_
      have hpush := (Drain.perm_items_pushFirst n s.drain).symm.map itemReply
      rwa [List.map_append] at hpush

/-- The transmit thread sends the answers queued. -/
theorem Answered.stubTxStep (h : s.Answered) {sendOk : Bool}
    (hst : s.stubTxStep sendOk = some t) : t.Answered := by
  have hledger := ledger_stubTxStep hst
  refine ⟨hledger ▸ h.sound, ?_⟩
  have hqueued : t.queued = s.queued := congrArg Ledger.replies hledger
  have hitems : t.drain.items.Perm s.drain.items := by
    rcases drain_stubTxStep hst with hd | hd | hd
    · rw [hd]
    · rw [hd]
      exact Drain.perm_items_advance _
    · rw [hd]
      exact List.Perm.refl _
  rw [hqueued]
  exact h.queued_perm.trans (hitems.map itemReply).symm

/-- At the head of its loop the sending thread holds nothing. -/
lemma drain_setTx (h : s.tx = .top) {pc : TxPc ρ σ} (hpc : pc = .submit ∨ pc = .stopped none) :
    drain { s with tx := pc } = s.drain := by
  rcases hpc with rfl | rfl <;> simp [drain, h, TxPc.turn, TxPc.hand]

/-- The transmit thread turns to its queues or stops. -/
theorem Answered.setTx (h : s.Answered) (htx : s.tx = .top) {pc : TxPc ρ σ}
    (hpc : pc = .submit ∨ pc = .stopped none) : Answered { s with tx := pc } := by
  refine ⟨h.sound, ?_⟩
  rw [drain_setTx htx hpc]
  exact h.queued_perm

/-! ## In order -/

/-- The replies queued and the replies taken for sending are in order. -/
structure InOrder (s : Session ρ σ) : Prop where
  ledger_ordered : s.ledger.Ordered
  drain_ordered : s.drain.Ordered (fun n u => (u.seqnum, n) ∈ s.unlinks)

/-- A new session has sent nothing. -/
lemma inOrder_empty : InOrder ({} : Session ρ σ) :=
  ⟨Ledger.ordered_empty, Drain.ordered_empty⟩

/-- A new submit keeps the order. -/
theorem InOrder.stubPrivAlloc (ho : s.InOrder) {n : Seqnum} (hn : n ∉ s.ledger.numbers) :
    (s.stubPrivAlloc n).InOrder := by
  refine ⟨?_, ho.drain_ordered⟩
  rw [ledger_stubPrivAlloc]
  exact ho.ledger_ordered.accept hn

/-- CMD_UNLINK `u` for a request `n` received earlier.  If `n` waits on `privTx`, the sending
thread must not be at `unlinkTx`. -/
theorem InOrder.stubRecvCmdUnlink (ho : s.InOrder) (h : s.Answered) (zero : σ) {u n : Seqnum}
    (hu : u ∉ s.ledger.numbers) (hn : n ∈ s.submits)
    (hrace : s.tx.turn = .second → ∀ p ∈ s.privTx, p.seqnum ≠ n) :
    (s.stubRecvCmdUnlink zero u n).InOrder := by
  have hfresh := Ledger.not_mem_cancels_of_not_mem_numbers hu
  -- nothing queued so far answers the new unlink
  have hcongr : s.drain.Ordered (fun m b => (b.seqnum, m) ∈ s.unlinks ++ [(u, n)]) := by
    refine ho.drain_ordered.congr ?_
    intro m b hb hmem
    rcases List.mem_append.mp hmem with hmem | hmem
    · exact hmem
    · have hbu : b.seqnum = u ∧ m = n := by simpa using hmem
      exact absurd (hbu.1 ▸ h.item_known hb) hfresh
  refine ⟨?_, ?_⟩
  · rw [ledger_stubRecvCmdUnlink]
    exact ho.ledger_ordered.cancel h.sound hu hn
  · unfold Session.stubRecvCmdUnlink
    split
    · exact hcongr
    · refine hcongr.pushSecond ?_
      intro hturn m hm hmem
      obtain ⟨p, hp, rfl⟩ := List.mem_map.mp hm
      rcases List.mem_append.mp hmem with hmem | hmem
      · exact hfresh (List.mem_map.mpr ⟨_, hmem, rfl⟩)
      · have hpn : p.seqnum = n := by simpa using hmem
        exact hrace hturn p hp hpn

/-- A completion keeps the order. -/
theorem InOrder.stubComplete (ho : s.InOrder) (h : s.Answered) {n : Seqnum} {r : ρ} {st : σ}
    (hst : s.stubComplete n r st = some t) : t.InOrder := by
  refine ⟨?_, ?_⟩
  · rw [ledger_stubComplete hst]
    exact ho.ledger_ordered.finish h.sound n
  · obtain ⟨p, hf, hp, ⟨hu, rfl⟩ | ⟨hu, rfl⟩⟩ := stubComplete_cases hst
    · have hmem := List.mem_of_find?_eq_some hf
      have hentry : p.entry ∈ s.ledger.pending := List.mem_map_of_mem hmem
      refine ho.drain_ordered.pushSecond ?_
      -- the unlink named this very request, which is pending and so has no RET_SUBMIT
      intro _ m hm hunlink
      have hnamed : (p.seqnum, p.origin) ∈ s.unlinks := h.sound.pending_caught _ hentry hu
      obtain rfl : m = p.origin :=
        Ledger.target_unique h.sound.numbers_nodup hunlink hnamed
      have hitem : .inl p.origin ∈ s.drain.items := by
        simp [Drain.items, show p.origin ∈ s.drain.first from hm]
      exact h.sound.done_not_mem hentry (h.mem_queued hitem)
    · have hmem := List.mem_of_find?_eq_some hf
      have hentry : p.entry ∈ s.ledger.pending := List.mem_map_of_mem hmem
      have hseq : p.seqnum = n := (h.seqnum_eq hmem hu).trans hp
      have hpush : (s.drain.pushFirst n).Ordered (fun m b => (b.seqnum, m) ∈ s.unlinks) := by
        refine ho.drain_ordered.pushFirst ?_
        -- an unlink of this request that was answered would have marked the entry
        intro b hb hunlink
        have hitem : .inr b ∈ s.drain.items := by
          rcases hb with hb | hb <;> simp [Drain.items, hb]
        have hcaught := ho.ledger_ordered.settled b.seqnum n b.caught hunlink
          (h.mem_queued hitem) p.entry hentry hp
        exact absurd hcaught (by simp [StubPriv.entry, hu])
      simpa [drain, Drain.pushFirst, hseq] using hpush

/-- The transmit thread keeps the order. -/
theorem InOrder.stubTxStep (ho : s.InOrder) {sendOk : Bool}
    (hst : s.stubTxStep sendOk = some t) : t.InOrder := by
  have hledger := ledger_stubTxStep hst
  have hunlinks : t.unlinks = s.unlinks := congrArg Ledger.cancels hledger
  refine ⟨hledger ▸ ho.ledger_ordered, ?_⟩
  rw [hunlinks]
  rcases drain_stubTxStep hst with hd | hd | hd
  · rw [hd]
    exact ho.drain_ordered
  · rw [hd]
    exact ho.drain_ordered.advance
  · rw [hd]
    exact ho.drain_ordered.stop

/-- The transmit thread turns to its queues or stops. -/
theorem InOrder.setTx (ho : s.InOrder) (htx : s.tx = .top) {pc : TxPc ρ σ}
    (hpc : pc = .submit ∨ pc = .stopped none) : InOrder { s with tx := pc } := by
  refine ⟨ho.ledger_ordered, ?_⟩
  rw [drain_setTx htx hpc]
  exact ho.drain_ordered

/-- No RET_SUBMIT is on the wire behind a RET_UNLINK for an unlink that names it. -/
def RepliesInOrder (s : Session ρ σ) : Prop :=
  ∀ pre n urb post b, s.wire = pre ++ .submit n urb :: post → .unlink b ∈ pre →
    (b.seqnum, n) ∉ s.unlinks

/-- The order of the items taken for sending is the order on the wire. -/
theorem InOrder.repliesInOrder (ho : s.InOrder) : s.RepliesInOrder := by
  intro pre n urb post b hwire hb hunlink
  have hsent : s.drain.sent = pre.map Ret.item ++ .inl n :: (post.map Ret.item ++ s.tx.hand) := by
    simp [drain, hwire, Ret.item]
  exact ho.drain_ordered.not_after hsent hunlink (List.mem_map_of_mem hb)

end Usbip.Stub.Session
