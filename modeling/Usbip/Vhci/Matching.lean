import Usbip.Vhci.Custody

/-!
# The requests that replies are matched with

The number of a request is an `int` when it is taken from `vhci->seqnum`, an `unsigned long` in its
entry, and a big-endian word on the wire; it comes back as a `__u32`, which is compared with the
`unsigned long`.  `reply_matches` says for which entries the comparison finds the request that the
reply answers: from 2^31 on the sign extension is in the way.
-/

namespace Usbip.Vhci

open Usbip.Core Usbip.Common

variable {s t : State} {c : BitVec 32}

/-! ## The comparison -/

/-- A word that was sign-extended is found again by comparing it zero-extended, unless it is
negative. -/
lemma signExtend_eq_setWidth_iff (w : BitVec 32) :
    w.signExtend 64 = w.setWidth 64 ↔ w.toNat < 2 ^ 31 := by
  constructor
  · intro h
    by_contra hneg
    have hmsb : w.msb = true := by
      rw [BitVec.msb_eq_decide]
      exact decide_eq_true (by omega)
    have hbit : (w.signExtend 64).getLsbD 63 = (w.setWidth 64).getLsbD 63 := by rw [h]
    rw [BitVec.getLsbD_signExtend, BitVec.getLsbD_setWidth] at hbit
    simp [hmsb] at hbit
  · intro h
    apply BitVec.signExtend_eq_setWidth_of_msb_false
    rw [BitVec.msb_eq_decide]
    exact decide_eq_false (by omega)

/-- Looking up the word that was sent for `x` in a list of entries. -/
lemma find?_sent_eq_some_iff {α : Type*} {f : α → BitVec 64} {l : List α} {x : α}
    (hx : ∃ w : BitVec 32, f x = w.signExtend 64) :
    l.find? (fun y => f y = ((f x).setWidth 32).setWidth 64) = some x ↔
      ((f x).setWidth 32).toNat < 2 ^ 31 ∧ FirstWith f x l := by
  obtain ⟨w, hw⟩ := hx
  rw [find?_eq_some_iff_firstWith, hw, setWidth_signExtend, signExtend_eq_setWidth_iff]

/-- The numbers are distinct in every state reached. -/
lemma numbered_of_reachable (h : (machine c).Reachable s) : Numbered c s := by
  refine h.invariant (I := Numbered c) ?_ fun s a t hn _ hst => hn.step (numbering_of_step hst)
  rintro s rfl
  exact numbered_start c

/-- A record's number is the sign extension of that on the wire. -/
lemma Numbered.privRx_signExtend (h : Numbered c s) {p : VhciPriv} (hp : p ∈ s.privRx) :
    ∃ w : BitVec 32, p.seqnum = w.signExtend 64 := by
  have hmem : (p.ticket, p.seqnum) ∈ s.numbers := by
    unfold State.numbers State.privs
    apply List.mem_append_left
    exact List.mem_map.mpr ⟨p, List.mem_append_right _ hp, rfl⟩
  exact ⟨_, (h.taken _ hmem).2⟩

/-- An unlink's number is the sign extension of that on the wire. -/
lemma Numbered.unlinkRx_signExtend (h : Numbered c s) {e : VhciUnlink} (he : e ∈ s.unlinkRx) :
    ∃ w : BitVec 32, e.seqnum = w.signExtend 64 := by
  have hmem : (e.ticket, e.seqnum) ∈ s.numbers := by
    unfold State.numbers State.unlinks
    apply List.mem_append_right
    exact List.mem_map.mpr ⟨e, List.mem_append_right _ he, rfl⟩
  exact ⟨_, (h.taken _ hmem).2⟩

/-! ## Replies -/

/-- Let a reply bring back, in the byte order of the wire, the number that was sent for an entry of
`priv_rx` or `unlink_rx`.  It is matched with this entry if and only if the number is below 2^31
and no entry in front has the same. -/
theorem reply_matches (h : (machine c).Reachable s) :
    (∀ p ∈ s.privRx, ∀ (e : Endian) (devid : BitVec 32) (urb : Urb) (reply : Header),
      reply.base.seqnum = (correctEndianSend e (setupCmdSubmitPdu p devid urb)).base.seqnum →
      ((pickupUrbAndFreePriv (correctEndianRecv e reply).base.seqnum s).map Prod.fst = some p ↔
        (p.seqnum.setWidth 32).toNat < 2 ^ 31 ∧ FirstWith VhciPriv.seqnum p s.privRx)) ∧
    (∀ x ∈ s.unlinkRx, ∀ (e : Endian) (devid : BitVec 32) (reply : Header),
      reply.base.seqnum = (correctEndianSend e (cmdUnlinkPdu x devid).header).base.seqnum →
      ((dequeuePendingUnlink (correctEndianRecv e reply).base.seqnum s).map Prod.fst = some x ↔
        (x.seqnum.setWidth 32).toNat < 2 ^ 31 ∧ FirstWith VhciUnlink.seqnum x s.unlinkRx)) := by
  have hn := numbered_of_reachable h
  constructor
  · intro p hp e devid urb reply hreply
    have hseq : (correctEndianRecv e reply).base.seqnum = p.seqnum.setWidth 32 := by
      simp [correctEndianRecv, correctEndianBasic, hreply, correctEndianSend, setupCmdSubmitPdu]
    rw [hseq, ← find?_sent_eq_some_iff (hn.privRx_signExtend hp), pickupUrbAndFreePriv,
      Option.map_map]
    exact iff_of_eq (congrArg (· = some p) Option.map_id')
  · intro x hx e devid reply hreply
    have hseq : (correctEndianRecv e reply).base.seqnum = x.seqnum.setWidth 32 := by
      simp [correctEndianRecv, correctEndianBasic, hreply, correctEndianSend, cmdUnlinkPdu]
    rw [hseq, ← find?_sent_eq_some_iff (hn.unlinkRx_signExtend hx), dequeuePendingUnlink,
      Option.map_map]
    exact iff_of_eq (congrArg (· = some x) Option.map_id')

/-- While the counter has not gone round, no entry in front has the same number. -/
theorem firstWith_of_recent (h : (machine c).Reachable s) (hrecent : Recent s) :
    (∀ p ∈ s.privRx, FirstWith VhciPriv.seqnum p s.privRx) ∧
      ∀ x ∈ s.unlinkRx, FirstWith VhciUnlink.seqnum x s.unlinkRx := by
  have hnodup := (numbered_of_reachable h).seqnums_nodup hrecent
  simp only [State.numbers, State.privs, State.unlinks, List.map_append, List.map_map,
    List.nodup_append] at hnodup
  obtain ⟨⟨-, hprivs, -⟩, ⟨-, hunlinks, -⟩, -⟩ := hnodup
  exact ⟨fun p hp => firstWith_of_nodup_map hp hprivs,
    fun x hx => firstWith_of_nodup_map hx hunlinks⟩

/-- URB 0 is sent. -/
def submitRun : List Action :=
  [.attach 1, .enqueue 0 getDescriptorUrb 0, .txUrb true, .txTop, .tx true, .tx true]

/-- URB 0 is sent, then dequeued, and its unlink is sent. -/
def sentRun : List Action :=
  submitRun ++ [.tx true, .dequeue 0, .dequeueFinish true 0, .tx true, .tx true]

/-- A submit and its unlink, each found by its number. -/
theorem reply_matches_sentRun :
    ∃ s, (machine 0).Reachable s ∧
      (pickupUrbAndFreePriv 1 s).map Prod.fst = some ⟨0, 1, 0⟩ ∧
      (dequeuePendingUnlink 2 s).map Prod.fst = some ⟨1, 2, 1⟩ := by
  have hrun : ∃ s, (machine 0).Reachable s ∧
      (s.privRx = [⟨0, 1, 0⟩] ∧ s.unlinkRx = [⟨1, 2, 1⟩]) := by
    apply Machine.Reach.of_perform sentRun (s := { seqnum := 0 }) rfl
    exact ⟨_, rfl, by decide⟩
  obtain ⟨s, hs, hpriv, hunlink⟩ := hrun
  obtain ⟨hsubmits, hunlinks⟩ := reply_matches hs
  refine ⟨s, hs, ?_, ?_⟩
  · apply (hsubmits ⟨0, 1, 0⟩ (by simp [hpriv]) .little 1 getDescriptorUrb
      { base := { seqnum := 0x01000000 } } (by decide)).mpr
    exact ⟨by decide, [], [], hpriv, fun _ h => (by cases h)⟩
  · apply (hunlinks ⟨1, 2, 1⟩ (by simp [hunlink]) .little 1
      { base := { seqnum := 0x02000000 } } (by decide)).mpr
    exact ⟨by decide, [], [], hunlink, fun _ h => (by cases h)⟩

/-- Other ports may take any number of numbers first. -/
lemma reachable_counter (n : Nat) :
    (machine 0).Reachable { seqnum := BitVec.ofNat 32 n, issued := n } := by
  induction n with
  | zero => exact .start rfl
  | succ n ih =>
      apply ih.next (a := .otherSeqnum) trivial
      simp [machine, step, State.incSeqnum, BitVec.ofNat_add]

/-- The request after number 2^31 - 1: a RET_SUBMIT that brings back its number is not matched. -/
theorem reply_not_matched :
    ∃ s, (machine 0).Reachable s ∧ ∃ p ∈ s.privRx, ∃ urb,
      s.wire.getLast? = some (cmdSubmitPdu p s.devid urb) ∧
      ∀ (e : Endian) (reply : Header),
        reply.base.seqnum = (correctEndianSend e (setupCmdSubmitPdu p s.devid urb)).base.seqnum →
        pickupUrbAndFreePriv (correctEndianRecv e reply).base.seqnum s = none := by
  have hrun : ∃ s, (machine 0).Run (fun _ _ => True)
      { seqnum := BitVec.ofNat 32 (2 ^ 31 - 1), issued := 2 ^ 31 - 1 } s ∧
      (s.privRx = [⟨2 ^ 31 - 1, 0xffffffff80000000, 0⟩] ∧
        s.wire = [cmdSubmitPdu ⟨2 ^ 31 - 1, 0xffffffff80000000, 0⟩ s.devid getDescriptorUrb]) :=
    ⟨_, Machine.run_of_perform submitRun rfl, by decide⟩
  obtain ⟨s, hrun, hpriv, hwire⟩ := hrun
  refine ⟨s, (reachable_counter _).run hrun, _, by rw [hpriv]; exact List.mem_singleton_self _,
    getDescriptorUrb, by rw [hwire]; rfl, fun e reply hreply => ?_⟩
  have hseq : (correctEndianRecv e reply).base.seqnum = 0x80000000 := by
    simp [correctEndianRecv, correctEndianBasic, hreply, correctEndianSend, setupCmdSubmitPdu]
  rw [hseq, pickupUrbAndFreePriv, hpriv]
  rfl

end Usbip.Vhci
