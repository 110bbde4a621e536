import Usbip.LibusbStub.Machine

/-!
# The order of the libusb stub's replies

In the libusb stub nothing is put on `priv_tx` between the two drains, because completions run in
the poll that comes before both (`TxQuiet`).  A CMD_UNLINK received while the sending thread is
at `unlink_tx` therefore never has its target on `priv_tx`, and the order of the replies, which
the kernel stub keeps only without late unlinks, holds in every run
(`libusb_ret_submit_first`).
-/

namespace Usbip.LibusbStub

open Usbip.Core Usbip.Common Usbip.Stub

variable {s t : State} {a : Action}

/-- What a client does: no seqnum is used twice on a connection, and a CMD_UNLINK names a
CMD_SUBMIT received before it. -/
def WellNumbered (s : State) : Action → Prop
  | .rxCmdSubmit n => n ∉ s.seqnums
  | .rxCmdUnlink u n => u ∉ s.seqnums ∧ n ∈ s.lists.submits
  | _ => True

instance (s : State) (a : Action) : Decidable (WellNumbered s a) :=
  match a with
  | .rxCmdSubmit n => inferInstanceAs (Decidable (n ∉ s.seqnums))
  | .rxCmdUnlink u n => inferInstanceAs (Decidable (u ∉ s.seqnums ∧ n ∈ s.lists.submits))
  | .eventAdd | .ehShutdown | .rxTop | .rxFail | .rxSubmitTransfer | .rxSubmitFail _
  | .complete _ _ | .txTop | .tx _ => isTrue trivial

/-- While the sending thread is at `unlink_tx`, `priv_tx` is empty. -/
def TxQuiet (s : State) : Prop :=
  s.lists.tx.turn = .second → s.lists.privTx = []

/-- A step of the sending thread leaves `priv_tx` only when it has found it empty. -/
lemma txQuiet_stubTxStep {lists : Session Transfer TransferStatus} {sendOk : Bool}
    (hq : TxQuiet s) (h : s.lists.stubTxStep sendOk = some lists) :
    lists.tx.turn = .second → lists.privTx = [] := by
  intro hturn
  unfold Session.stubTxStep at h
  cases htx : s.lists.tx with
  | top | stopped => simp [htx] at h
  | submit =>
      rw [htx, Option.some.injEq] at h
      unfold Session.dequeueFromPrivTx at h
      split at h <;> subst h
      · cases hturn
      · assumption
  | sendSubmit p =>
      rw [htx] at h
      cases sendOk <;> obtain rfl := Option.some.inj h <;> cases hturn
  | freeSubmit =>
      rw [htx] at h
      obtain rfl := Option.some.inj h
      exact hq (by rw [htx]; rfl)
  | unlink =>
      have hnil := hq (by rw [htx]; rfl)
      rw [htx, Option.some.injEq] at h
      unfold Session.dequeueFromUnlinkTx at h
      split at h <;> subst h <;> exact hnil
  | sendUnlink u =>
      have hnil := hq (by rw [htx]; rfl)
      rw [htx] at h
      cases sendOk <;> obtain rfl := Option.some.inj h <;> exact hnil
  | freeUnlink =>
      rw [htx] at h
      obtain rfl := Option.some.inj h
      cases hturn

/-- The lists are accounted for and in order, and no completion falls between the drains. -/
structure OrderInv (s : State) : Prop where
  answered : s.lists.Answered
  inOrder : s.lists.InOrder
  quiet : TxQuiet s

/-- Nothing is under way at the start. -/
lemma orderInv_start : OrderInv {} :=
  ⟨Session.answered_empty, Session.inOrder_empty, fun h => (by cases h)⟩

/-- Every step of the stub keeps the order. -/
theorem OrderInv.step (hi : OrderInv s) (hok : WellNumbered s a)
    (hst : LibusbStub.step s a = some t) : OrderInv t := by
  obtain ⟨h, ho, hq⟩ := hi
  cases moves_of_step hst with
  | eventAdd | ehShutdown | rxTop | rxFail | rxSubmitTransfer | rxSubmitFail | ignored =>
      exact ⟨h, ho, hq⟩
  | @rxCmdUnlink u n _ =>
      obtain ⟨hu, hn⟩ := hok
      have hnot : n ∉ s.lists.unlinks.map Prod.fst := fun hmem =>
        (List.nodup_append.mp h.sound.numbers_nodup).2.2 n hn n hmem rfl
      refine ⟨h.stubRecvCmdUnlink .completed hu hnot,
        ho.stubRecvCmdUnlink h .completed hu hn ?_, ?_⟩
      · intro hturn p hp
        rw [hq hturn] at hp
        cases hp
      · show TxQuiet { s with lists := s.lists.stubRecvCmdUnlink .completed u n, rx := .top }
        unfold TxQuiet Session.stubRecvCmdUnlink
        split <;> exact hq
  | rxCmdSubmit => exact ⟨h.stubPrivAlloc hok, ho.stubPrivAlloc hok, hq⟩
  | complete htx _ hl =>
      refine ⟨h.stubComplete hl, ho.stubComplete h hl, ?_⟩
      -- the sending thread is in its poll
      intro hturn
      obtain ⟨p, -, -, ⟨-, rfl⟩ | ⟨-, rfl⟩⟩ := Session.stubComplete_cases hl
      · simp [Session.stubEnqueueRetUnlink, htx, TxPc.turn] at hturn
      · simp [htx, TxPc.turn] at hturn
  | txTop htx =>
      cases s.shouldStop || s.event with
      | true =>
          exact ⟨h.setTx htx (Or.inr rfl), ho.setTx htx (Or.inr rfl), fun hturn => (by cases hturn)⟩
      | false =>
          exact ⟨h.setTx htx (Or.inl rfl), ho.setTx htx (Or.inl rfl), fun hturn => (by cases hturn)⟩
  | tx hl => exact ⟨h.stubTxStep hl, ho.stubTxStep hl, txQuiet_stubTxStep hq hl⟩

/-- In every run of the libusb stub the RET_SUBMITs precede the RET_UNLINKs that go with them. -/
theorem libusb_ret_submit_first (h : machine.Reach WellNumbered t) : t.lists.RepliesInOrder := by
  refine (h.invariant (I := OrderInv) ?_ ?_).inOrder.repliesInOrder
  · rintro s rfl
    exact orderInv_start
  · intro s a t hi hok hst
    exact hi.step hok hst

/-- Request 1 completes in the poll; CMD_UNLINK 2 for it is received while the sending thread is
between the drains. -/
def orderedRun : List Action :=
  [.rxTop, .rxCmdSubmit 1, .rxSubmitTransfer, .rxTop, .complete 1 ⟨.completed, 0, []⟩,
   .txTop, .tx true, .tx true, .tx true, .rxCmdUnlink 2 1, .tx true, .tx true, .tx true]

/-- A submit completed and then unlinked, with both its replies sent. -/
theorem libusb_ret_submit_first_orderedRun :
    ∃ t, machine.Reach WellNumbered t ∧
      t.lists.wire = [.submit 1 (some ⟨.completed, 0, []⟩), .unlink ⟨2, .completed, none⟩] ∧
      t.lists.RepliesInOrder := by
  have hrun : ∃ t, machine.Reach WellNumbered t ∧
      t.lists.wire = [.submit 1 (some ⟨.completed, 0, []⟩), .unlink ⟨2, .completed, none⟩] := by
    apply Machine.Reach.of_perform orderedRun (s := {}) rfl
    exact ⟨_, rfl, by decide⟩
  obtain ⟨t, ht, hwire⟩ := hrun
  exact ⟨t, ht, hwire, libusb_ret_submit_first ht⟩

end Usbip.LibusbStub
