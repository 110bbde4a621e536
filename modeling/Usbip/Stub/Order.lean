import Usbip.Stub.Steps

/-!
# The order of the kernel stub's replies

The comment in `stub_tx_loop` explains why `stub_send_ret_submit` comes before
`stub_send_ret_unlink`: a completion that is earlier than the receipt of CMD_UNLINK has its
RET_SUBMIT sent before the RET_UNLINK.  That is so unless the CMD_UNLINK is received after
`stub_send_ret_submit` has found `priv_tx` empty and before `stub_send_ret_unlink` has found
`unlink_tx` empty, and the completion has fallen into the same window
(`ret_unlink_overtakes_ret_submit`).  In every run without such a receipt the order holds
(`ret_submit_precedes_ret_unlink`).
-/

namespace Usbip.Stub

open Usbip.Core Usbip.Common

variable {s t : State} {a : Action}

/-- The sending thread has found `priv_tx` empty and has not yet found `unlink_tx` empty. -/
def State.atUnlinkTx (s : State) : Prop :=
  s.lists.tx.turn = .second

/-- No CMD_UNLINK is received while its target has completed and waits on `priv_tx` and the
sending thread is at `unlink_tx`. -/
def NoLateUnlink (s : State) : Action → Prop
  | .rxCmdUnlink _ n => s.atUnlinkTx → ∀ p ∈ s.lists.privTx, p.seqnum ≠ n
  | _ => True

instance (s : State) (a : Action) : Decidable (NoLateUnlink s a) :=
  match a with
  | .rxCmdUnlink _ n => inferInstanceAs
      (Decidable (s.lists.tx.turn = .second → ∀ p ∈ s.lists.privTx, p.seqnum ≠ n))
  | .rxCmdSubmit _ | .eventAdd | .rxTop | .rxFail | .rxSubmitUrb | .rxSubmitFail _
  | .complete _ _ | .txTop | .tx _ | .ehShutdown | .ehClose | .ehPop | .ehFree
  | .ehFreeUnlinks => isTrue trivial

/-- While the socket is open the lists are accounted for and in order. -/
structure OrderInv (s : State) : Prop where
  quiet : Quiet s
  answered : s.tcpSocket = true → s.lists.Answered
  inOrder : s.tcpSocket = true → s.lists.InOrder
  replies : s.lists.RepliesInOrder

/-- Nothing is under way at the start. -/
lemma orderInv_start : OrderInv {} := by
  refine ⟨quiet_start, fun _ => Session.answered_empty, fun _ => Session.inOrder_empty, ?_⟩
  intro pre n urb post b hwire
  simp at hwire

/-- While the socket is open every step keeps the replies in order. -/
lemma inOrder_of_step (hi : OrderInv s) (hd : DistinctSeqnums s a) (hn : NamesSubmit s a)
    (hl : NoLateUnlink s a) (hs : s.tcpSocket = true) (hst : step s a = some t) :
    t.lists.InOrder := by
  have h := hi.answered hs
  have ho := hi.inOrder hs
  have hclosed : ∀ {e}, s.eh = e → e.closed = true → False := fun he hc => by
    simp [hi.quiet.closed_of_eh (he ▸ hc)] at hs
  generalize t.lists = lists, step_effect hst = heff
  cases heff with
  | keep a => exact ho
  | alloc hrx => exact ho.stubPrivAlloc hd
  | unlink hrx => exact ho.stubRecvCmdUnlink h 0 hd hn hl
  | complete _ hc => exact ho.stubComplete h hc
  | txTop htx hpc => exact ho.setTx htx hpc
  | tx htx => exact ho.stubTxStep htx
  | pop he => exact (hclosed he rfl).elim
  | free he => exact (hclosed he rfl).elim
  | freeUnlinks he => exact (hclosed he rfl).elim

/-- Every step keeps the order, until the socket is closed. -/
theorem OrderInv.step (hi : OrderInv s) (hd : DistinctSeqnums s a) (hn : NamesSubmit s a)
    (hl : NoLateUnlink s a) (hst : Stub.step s a = some t) : OrderInv t := by
  have hinOrder : t.tcpSocket = true → t.lists.InOrder := fun ht =>
    inOrder_of_step hi hd hn hl (tcpSocket_of_step hst ht) hst
  refine ⟨hi.quiet.step hst, ?_, hinOrder, ?_⟩
  · intro ht
    have hs := tcpSocket_of_step hst ht
    have h := hi.answered hs
    exact answered_of_step hi.quiet h hd (hn.namesNoUnlink h) hs hst
  · cases ht : t.tcpSocket with
    | true => exact (hinOrder ht).repliesInOrder
    | false =>
        obtain ⟨hwire, hunlinks, -⟩ := wire_of_closed hi.quiet hst ht
        unfold Session.RepliesInOrder
        rw [hwire, hunlinks]
        exact hi.replies

/-- In every run in which seqnums are distinct, each CMD_UNLINK comes after the CMD_SUBMIT it
names, and none comes too late, the RET_SUBMITs precede the RET_UNLINKs that go with them. -/
theorem ret_submit_precedes_ret_unlink
    (h : machine.Reach (fun s a => DistinctSeqnums s a ∧ NamesSubmit s a ∧ NoLateUnlink s a) t) :
    t.lists.RepliesInOrder := by
  refine (h.invariant (I := OrderInv) ?_ ?_).replies
  · rintro s rfl
    exact orderInv_start
  · rintro s a t hi ⟨hd, hn, hl⟩ hst
    exact hi.step hd hn hl hst

/-- Request 1 completes before CMD_UNLINK 2 for it is received, and both replies are sent. -/
def orderedRun : List Action :=
  [.rxTop, .rxCmdSubmit 1, .rxSubmitUrb, .rxTop, .complete 1 ⟨0, 0, []⟩, .rxCmdUnlink 2 1,
   .txTop, .tx true, .tx true, .tx true, .tx true, .tx true, .tx true]

/-- A submit completed and then unlinked, with both its replies sent. -/
theorem ret_submit_precedes_ret_unlink_orderedRun :
    ∃ t, machine.Reach (fun s a => DistinctSeqnums s a ∧ NamesSubmit s a ∧ NoLateUnlink s a) t ∧
      t.lists.wire = [.submit 1 (some ⟨0, 0, []⟩), .unlink ⟨2, 0, none⟩] ∧
      t.lists.RepliesInOrder := by
  have hrun : ∃ t, machine.Reach
      (fun s a => DistinctSeqnums s a ∧ NamesSubmit s a ∧ NoLateUnlink s a) t ∧
      t.lists.wire = [.submit 1 (some ⟨0, 0, []⟩), .unlink ⟨2, 0, none⟩] := by
    apply Machine.Reach.of_perform orderedRun (s := {}) rfl
    exact ⟨_, rfl, by decide⟩
  obtain ⟨t, ht, hwire⟩ := hrun
  exact ⟨t, ht, hwire, ret_submit_precedes_ret_unlink ht⟩

/-- A run in which request 1 completes, and CMD_UNLINK 2 for it is received, while the sending
thread is between its two drains. -/
def overtakingRun : List Action :=
  [.rxTop, .rxCmdSubmit 1, .rxSubmitUrb, .rxTop,
   .txTop, .tx true,                                -- priv_tx is empty
   .complete 1 ⟨0, 0, []⟩, .rxCmdUnlink 2 1,
   .tx true, .tx true, .tx true, .tx true, .tx true, -- RET_UNLINK 2
   .txTop, .tx true, .tx true]                      -- RET_SUBMIT 1

/-- The RET_UNLINK of such an unlink is on the wire before the RET_SUBMIT. -/
theorem ret_unlink_overtakes_ret_submit :
    ∃ t, machine.Reach (fun s a => DistinctSeqnums s a ∧ NamesSubmit s a) t ∧
      ¬ t.lists.RepliesInOrder := by
  apply Machine.Reach.of_perform overtakingRun (s := {}) rfl
  refine ⟨_, rfl, ?_⟩
  intro h
  refine h [.unlink ⟨2, 0, none⟩] 1 (some ⟨0, 0, []⟩) [] ⟨2, 0, none⟩ rfl ?_ ?_
  · decide
  · decide

end Usbip.Stub
