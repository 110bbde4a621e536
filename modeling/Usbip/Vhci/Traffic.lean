import Usbip.Vhci.Cleanup
import Usbip.Vhci.Order

/-!
# The requests of a connection

What a server may rely on that is told the requests in the order in which they are sent: no number
is used twice, and no two CMD_UNLINKs name the same request (`Distinct`).  The second holds because
`usb_hcd_check_unlink_urb` lets a URB be dequeued once: when an unlink names the number of an entry
on the lists, the URB of that entry is marked (`Tracked.marked`).
-/

namespace Usbip.Vhci

open Usbip.Core Usbip.Common

variable {s t : State} {a : Action} {c : BitVec 32}

/-! ## Numbers and targets -/

/-- The number of a request. -/
def requestNumber : Seqnum ⊕ Seqnum × Seqnum → Seqnum
  | .inl n => n
  | .inr (u, _) => u

/-- The number that a CMD_UNLINK names. -/
def requestTarget : Seqnum ⊕ Seqnum × Seqnum → Option Seqnum
  | .inl _ => none
  | .inr (_, n) => some n

/-- The `k`-th number, as it is sent. -/
def wireSeqnumOf (c : BitVec 32) (k : Nat) : Seqnum := c + BitVec.ofNat 32 (k + 1)

/-- The number on the wire is the record's, cut to 32 bits. -/
lemma wireSeqnum_seqnumOf (c : BitVec 32) (k : Nat) :
    (seqnumOf c k).setWidth 32 = wireSeqnumOf c k :=
  setWidth_signExtend _

/-- Numbers less than a round apart differ on the wire. -/
lemma wireSeqnumOf_injective {k l : Nat} (hkl : k < l + 2 ^ 32) (hlk : l < k + 2 ^ 32)
    (h : wireSeqnumOf c k = wireSeqnumOf c l) : k = l :=
  seqnumOf_injective hkl hlk (congrArg (BitVec.signExtend 64) h)

/-- Of `issued` numbers taken, each is that of one request at most and is named by one request at
most. -/
structure Distinct (c : BitVec 32) (issued : Nat) (requests : List (Seqnum ⊕ Seqnum × Seqnum)) :
    Prop where
  numbers : (requests.map requestNumber).Nodup
  numbers_taken : ∀ x ∈ requests, ∃ k < issued, requestNumber x = wireSeqnumOf c k
  targets : (requests.filterMap requestTarget).Nodup
  targets_taken : ∀ n ∈ requests.filterMap requestTarget, ∃ k < issued, n = wireSeqnumOf c k

variable {issued issued' : Nat} {requests requests' : List (Seqnum ⊕ Seqnum × Seqnum)}

/-- Fewer requests stay distinct. -/
lemma Distinct.of_subperm (h : Distinct c issued requests) (hsub : requests'.Subperm requests)
    (hissued : issued ≤ issued') : Distinct c issued' requests' := by
  have htargets : (requests'.filterMap requestTarget).Subperm
      (requests.filterMap requestTarget) := by
    obtain ⟨m, hm, hsub⟩ := hsub
    exact ⟨_, hm.filterMap _, hsub.filterMap _⟩
  refine ⟨nodup_of_subperm (subperm_map hsub _) h.numbers, fun x hx => ?_,
    nodup_of_subperm htargets h.targets, fun n hn => ?_⟩
  · obtain ⟨k, hk, hx⟩ := h.numbers_taken x (hsub.subset hx)
    exact ⟨k, by omega, hx⟩
  · obtain ⟨k, hk, hn⟩ := h.targets_taken n (htargets.subset hn)
    exact ⟨k, by omega, hn⟩

/-- The next number has not been used and not been named. -/
lemma Distinct.not_mem (h : Distinct c issued requests) (hlt : issued < 2 ^ 32) :
    wireSeqnumOf c issued ∉ requests.map requestNumber ∧
      wireSeqnumOf c issued ∉ requests.filterMap requestTarget := by
  constructor
  · intro hmem
    obtain ⟨x, hx, hxn⟩ := List.mem_map.mp hmem
    obtain ⟨k, hk, hxk⟩ := h.numbers_taken x hx
    have := wireSeqnumOf_injective (by omega) (by omega) (hxk.symm.trans hxn)
    omega
  · intro hmem
    obtain ⟨k, hk, hn⟩ := h.targets_taken _ hmem
    have := wireSeqnumOf_injective (by omega) (by omega) hn
    omega

/-- A request with the next number that names nothing, or what no request has named. -/
lemma Distinct.push (h : Distinct c issued requests) (hlt : issued < 2 ^ 32)
    {x : Seqnum ⊕ Seqnum × Seqnum} (hx : requestNumber x = wireSeqnumOf c issued)
    (htarget : ∀ n ∈ requestTarget x, n ∉ requests.filterMap requestTarget ∧
      ∃ k < issued, n = wireSeqnumOf c k)
    (hperm : requests'.Perm (requests ++ [x])) : Distinct c (issued + 1) requests' := by
  suffices hsnoc : Distinct c (issued + 1) (requests ++ [x]) from
    hsnoc.of_subperm hperm.subperm (Nat.le_refl _)
  have hold := h.of_subperm (List.Subperm.refl _) (Nat.le_succ issued)
  have hnew := (h.not_mem hlt).1
  refine ⟨?_, fun y hy => ?_, ?_, fun n hn => ?_⟩
  · rw [List.map_append, List.map_singleton, List.nodup_append]
    refine ⟨h.numbers, List.nodup_singleton _, ?_⟩
    rintro m hm _ hn rfl
    rw [List.mem_singleton.mp hn, hx] at hm
    exact hnew hm
  · rcases List.mem_append.mp hy with hy | hy
    · exact hold.numbers_taken y hy
    · rw [List.mem_singleton.mp hy]
      exact ⟨issued, Nat.lt_succ_self _, hx⟩
  · rw [List.filterMap_append]
    cases hxt : requestTarget x with
    | none => simpa [hxt] using h.targets
    | some n =>
        have hnot := (htarget n hxt).1
        rw [List.filterMap_cons_some hxt, List.filterMap_nil, List.nodup_append]
        refine ⟨h.targets, List.nodup_singleton _, ?_⟩
        rintro m hm _ hn rfl
        exact hnot (List.mem_singleton.mp hn ▸ hm)
  · rw [List.filterMap_append, List.mem_append] at hn
    rcases hn with hn | hn
    · exact hold.targets_taken n hn
    · obtain ⟨y, hy, hyn⟩ := List.mem_filterMap.mp hn
      rw [List.mem_singleton.mp hy] at hyn
      obtain ⟨k, hk, hn⟩ := (htarget n hyn).2
      exact ⟨k, Nat.lt_succ_of_lt hk, hn⟩

/-! ## The requests of a port -/

/-- The numbers that the CMD_UNLINKs of a port name. -/
def State.targets (s : State) : List Seqnum := s.drain.items.filterMap requestTarget

/-- A URB that `vhci_urb_dequeue` has marked, and is done with. -/
def Refused (s : State) (u : UrbId) : Prop := s.unlinked u = true ∧ ∀ p, s.lock ≠ .dequeue u p

/-- The requests of a port are distinct, a URB whose number was named is not dequeued again, and
what waits for a RET_UNLINK has been sent or is being sent. -/
structure Tracked (c : BitVec 32) (s : State) : Prop where
  distinct : Distinct c s.issued s.drain.items
  marked : Marked s
  named : ∀ p ∈ s.privs, p.wireSeqnum ∈ s.targets → Refused s p.urb
  unlinkRx : ∀ e ∈ s.unlinkRx, .inr e.wireSeqnums ∈ s.drain.sent

/-- Nothing has been requested at the start. -/
lemma tracked_start (c : BitVec 32) : Tracked c { seqnum := c } := by
  refine ⟨⟨List.nodup_nil, ?_, List.nodup_nil, ?_⟩, marked_start c, ?_, ?_⟩
  · exact fun _ h => (by cases h)
  · exact fun _ h => (by cases h)
  · exact fun _ h => (by cases h)
  · exact fun _ h => (by cases h)

/-- A step that queues no request. -/
lemma Tracked.congr (h : Tracked c s) (hmarked : Marked t)
    (hitems : t.drain.items.Subperm s.drain.items) (hissued : s.issued ≤ t.issued)
    (hsent : ∀ x ∈ s.drain.sent, x ∈ t.drain.sent)
    (hprivs : ∀ p ∈ t.privs, p ∈ s.privs)
    (hunlinkRx : ∀ e ∈ t.unlinkRx, e ∈ s.unlinkRx ∨ .inr e.wireSeqnums ∈ t.drain.sent)
    (hrefused : ∀ p ∈ t.privs, Refused s p.urb → Refused t p.urb) : Tracked c t := by
  refine ⟨h.distinct.of_subperm hitems hissued, hmarked, fun p hp hn => ?_, fun e he => ?_⟩
  · obtain ⟨x, hx, hxn⟩ := List.mem_filterMap.mp hn
    have hn : p.wireSeqnum ∈ s.targets := List.mem_filterMap.mpr ⟨x, hitems.subset hx, hxn⟩
    exact hrefused p hp (h.named p (hprivs p hp) hn)
  · rcases hunlinkRx e he with he | he
    · exact hsent _ (h.unlinkRx e he)
    · exact he

/-- A step that leaves the queues and what was sent alone. -/
lemma Tracked.same (h : Tracked c s) (hmarked : Marked t) (hdrain : t.drain = s.drain)
    (hissued : s.issued ≤ t.issued) (hprivs : ∀ p ∈ t.privs, p ∈ s.privs)
    (hunlinkRx : ∀ e ∈ t.unlinkRx, e ∈ s.unlinkRx)
    (hrefused : ∀ p ∈ t.privs, Refused s p.urb → Refused t p.urb) : Tracked c t :=
  h.congr hmarked (hdrain ▸ List.Subperm.refl _) hissued (fun _ hx => hdrain ▸ hx) hprivs
    (fun e he => Or.inl (hunlinkRx e he)) hrefused

/-- The entry of a number, as long as the numbers have not gone round. -/
lemma Numbered.eq_of_wireSeqnum (h : Numbered c s) (hissued : s.issued ≤ 2 ^ 32) {p q : VhciPriv}
    (hp : p ∈ s.privs) (hq : q ∈ s.privs) (hpq : p.wireSeqnum = q.wireSeqnum) : p = q := by
  have hseq : ∀ p ∈ s.privs, p.seqnum = p.wireSeqnum.signExtend 64 := by
    intro p hp
    have hmem : (p.ticket, p.seqnum) ∈ s.numbers :=
      List.mem_append_left _ (List.mem_map.mpr ⟨p, hp, rfl⟩)
    have htaken : p.seqnum = seqnumOf c p.ticket := (h.taken _ hmem).2
    rw [VhciPriv.wireSeqnum, htaken, wireSeqnum_seqnumOf]
    rfl
  refine eq_of_nodup_map (h.privs_seqnum_nodup hissued) hp hq ?_
  rw [hseq p hp, hseq q hq, hpq]

/-- The number of an entry is one that was taken. -/
lemma Numbered.wireSeqnum_taken (h : Numbered c s) {p : VhciPriv} (hp : p ∈ s.privs) :
    ∃ k < s.issued, p.wireSeqnum = wireSeqnumOf c k := by
  have hmem : (p.ticket, p.seqnum) ∈ s.numbers :=
    List.mem_append_left _ (List.mem_map.mpr ⟨p, hp, rfl⟩)
  obtain ⟨hlt, hseq⟩ := h.taken _ hmem
  refine ⟨p.ticket, hlt, ?_⟩
  rw [← wireSeqnum_seqnumOf]
  exact congrArg (BitVec.setWidth 32) hseq

/-- The next number on the wire. -/
lemma wireSeqnum_next (h : Numbered c s) :
    s.nextSeqnum.setWidth 32 = wireSeqnumOf c s.issued := by
  unfold State.nextSeqnum wireSeqnumOf
  rw [setWidth_signExtend, h.seqnum, BitVec.add_assoc, BitVec.ofNat_add]
  rfl

/-- A new URB is tracked. -/
lemma Tracked.enqueue {u : UrbId} {urb : Urb} (h : Tracked c s) (ho : Owned s) (hmarked : Marked t)
    (hu : ¬ Custody.Held s.log u) (henq : Enqueued u urb s t) : Tracked c t := by
  have hne : ∀ p ∈ s.privs, p.urb ≠ u := by
    rintro p hp rfl
    refine hu (ho.sound.held_iff.mpr ?_)
    unfold State.places
    simp only [List.mem_append]
    exact Or.inl (List.mem_map_of_mem hp)
  cases henq with
  | refused hr =>
      refine h.same hmarked rfl (Nat.le_refl _) (fun _ hp => hp) (fun _ he => he)
        fun p hp hrefused => ⟨?_, hrefused.2⟩
      obtain ⟨rfl, -⟩ | ⟨rfl, -⟩ := hr
      · exact hrefused.1
      · exact (Function.update_of_ne (hne p hp) ..).trans hrefused.1
  | locally =>
      refine h.same hmarked rfl (Nat.le_refl _) (fun _ hp => hp) (fun _ he => he)
        fun p hp hrefused => ⟨?_, hrefused.2⟩
      exact (Function.update_of_ne (hne p hp) ..).trans hrefused.1
  | sent =>
      refine h.same hmarked rfl (Nat.le_refl _) (fun _ hp => hp) (fun _ he => he)
        fun p hp hrefused => ⟨?_, fun _ hl => (by cases hl)⟩
      exact (Function.update_of_ne (hne p hp) ..).trans hrefused.1

/-- A new submit is tracked. -/
lemma Tracked.txUrb {u : UrbId} {allocOk : Bool} (h : Tracked c s) (hn : Numbered c s)
    (hlt : s.issued < 2 ^ 32) : Tracked c { vhciTxUrb u allocOk s with lock := .free } := by
  have hmarked : ∀ t : State, t.unlinked = s.unlinked → t.dequeued = s.dequeued → t.lock = .free →
      Marked t := by
    intro t hunl hdeq hl
    refine h.marked.congr hunl hdeq fun v p hv => ?_
    rw [hl] at hv
    cases hv
  unfold vhciTxUrb
  split
  · exact h.same (hmarked _ rfl rfl rfl) rfl (Nat.le_refl _) (fun _ hp => hp) (fun _ he => he)
      fun _ _ hr => ⟨hr.1, fun _ hl => (by cases hl)⟩
  · split
    · exact h.same (hmarked _ rfl rfl rfl) rfl (Nat.le_refl _) (fun _ hp => hp) (fun _ he => he)
        fun _ _ hr => ⟨hr.1, fun _ hl => (by cases hl)⟩
    · have hpush := Drain.perm_items_pushFirst (wireSeqnumOf c s.issued) s.drain
      have hdrain : s.drain.pushFirst (wireSeqnumOf c s.issued) = State.drain { s.incSeqnum with
          hcpriv := Function.update s.hcpriv u (some ⟨s.issued, s.nextSeqnum, u⟩)
          privTx := s.privTx ++ [⟨s.issued, s.nextSeqnum, u⟩], lock := .free } := by
        simp [State.drain, Drain.pushFirst, State.incSeqnum, VhciPriv.wireSeqnum,
          wireSeqnum_next hn]
      rw [hdrain] at hpush
      have htargets : ∀ n, n ∈ State.targets { s.incSeqnum with
          hcpriv := Function.update s.hcpriv u (some ⟨s.issued, s.nextSeqnum, u⟩)
          privTx := s.privTx ++ [⟨s.issued, s.nextSeqnum, u⟩], lock := .free } → n ∈ s.targets := by
        intro n hn
        have hn := (hpush.filterMap requestTarget).subset hn
        rw [List.filterMap_append] at hn
        rcases List.mem_append.mp hn with hn | hn
        · exact hn
        · exact absurd hn List.not_mem_nil
      refine ⟨h.distinct.push hlt rfl (by simp [requestTarget]) hpush,
        hmarked _ rfl rfl rfl, ?_, h.unlinkRx⟩
      intro p hp hnamed
      have hnamed := htargets _ hnamed
      refine ⟨?_, fun _ hl => (by cases hl)⟩
      have hp : p ∈ s.privs ∨ p = ⟨s.issued, s.nextSeqnum, u⟩ := by
        simp only [State.privs, State.incSeqnum, List.append_assoc, List.mem_append,
          List.mem_singleton] at hp ⊢
        grind
      rcases hp with hp | rfl
      · exact (h.named p hp hnamed).1
      · -- nothing has named the new number
        have hfresh := (h.distinct.not_mem hlt).2
        rw [← wireSeqnum_next hn] at hfresh
        exact absurd hnamed hfresh

/-- A new unlink is tracked. -/
lemma Tracked.dequeueFinish {u : UrbId} {p : VhciPriv} {allocOk : Bool} {stale : BitVec 64}
    (h : Tracked c s) (ho : Owned s) (hn : Numbered c s) (hlt : s.issued < 2 ^ 32)
    (hl : s.lock = .dequeue u p) (hp : s.hcpriv u = some p) :
    Tracked c { vhciUrbDequeueFinish u p allocOk stale s with lock := .free } := by
  have hunlinked := h.marked.dequeuing u p hl
  have heffect : Effect s (.dequeueFinish allocOk stale)
      { vhciUrbDequeueFinish u p allocOk stale s with lock := .free } := .dequeueFinish hl
  have hmarked := h.marked.step heffect
  obtain ⟨hmem, hurb⟩ := (ho.linked.ptr_iff u p).mp hp
  unfold vhciUrbDequeueFinish at hmarked ⊢
  by_cases hs : s.tcpSocket = false
  · rw [if_pos hs] at hmarked ⊢
    refine h.congr hmarked ?_ (Nat.le_refl _) (fun _ hx => hx) (fun q hq => ?_)
      (fun _ he => Or.inl he) fun _ _ hr => ⟨hr.1, fun _ hl => (by cases hl)⟩
    · have hsub : ((s.privTx.erase p).map VhciPriv.wireSeqnum).Subperm
          (s.privTx.map VhciPriv.wireSeqnum) := (List.erase_sublist.map _).subperm
      exact (List.Subperm.refl _).append ((subperm_map hsub _).append (List.Subperm.refl _))
    · exact (List.erase_sublist.append List.erase_sublist).subset hq
  rw [if_neg hs] at hmarked ⊢
  by_cases halloc : ¬ allocOk = true
  · rw [if_pos halloc] at hmarked ⊢
    exact h.same hmarked rfl (Nat.le_refl _) (fun _ hq => hq) (fun _ he => he)
      fun _ _ hr => ⟨hr.1, fun _ hl => (by cases hl)⟩
  rw [if_neg halloc] at hmarked ⊢
  set t : State := { s.incSeqnum with
    unlinkTx := s.unlinkTx ++ [⟨s.issued, s.nextSeqnum, if s.hcpriv u = some p then p.seqnum else stale⟩]
    dequeued := Function.update s.dequeued u true, lock := .free } with ht
  have hpush := Drain.perm_items_pushSecond (wireSeqnumOf c s.issued, p.wireSeqnum) s.drain
  have hdrain : s.drain.pushSecond (wireSeqnumOf c s.issued, p.wireSeqnum) = t.drain := by
    simp [ht, State.drain, Drain.pushSecond, State.incSeqnum, VhciUnlink.wireSeqnums,
      VhciPriv.wireSeqnum, wireSeqnum_next hn, hp]
  rw [hdrain] at hpush
  -- the URB is being dequeued, so no unlink has named its entry
  have hnot : p.wireSeqnum ∉ s.targets := fun hnamed =>
    (h.named p hmem hnamed).2 p (by rw [hurb, hl])
  have htargets : ∀ n ∈ t.targets, n ∈ s.targets ∨ n = p.wireSeqnum := by
    intro n hn
    have hn := (hpush.filterMap requestTarget).subset hn
    rw [List.filterMap_append] at hn
    rcases List.mem_append.mp hn with hn | hn
    · exact Or.inl hn
    · exact Or.inr (List.mem_singleton.mp hn)
  refine ⟨h.distinct.push hlt rfl ?_ hpush, hmarked, fun q hq hnamed => ?_, h.unlinkRx⟩
  · rintro n ⟨⟩
    exact ⟨hnot, hn.wireSeqnum_taken hmem⟩
  · refine ⟨?_, fun _ hl => (by cases hl)⟩
    rcases htargets _ hnamed with hnamed | hqp
    · exact (h.named q hq hnamed).1
    · obtain rfl := hn.eq_of_wireSeqnum (by omega) hq hmem hqp
      exact hurb ▸ hunlinked

/-- The requests of the one connection of a run, under the conditions of `InSequence`. -/
theorem Tracked.step (h : Tracked c s) (ho : OrderInv c s) (hlt : s.issued < 2 ^ 32)
    (hseq : InSequence s a) (hattach : ∀ devid, a ≠ .attach devid)
    (hst : Vhci.step s a = some t) : Tracked c t := by
  have he := step_effect ho.inv.control hst
  have hmarked := h.marked.step he
  cases ha : a.isSender with
  | true =>
      cases a with
      | eventAdd | otherSeqnum | enqueue | txUrb | dequeue | dequeueFinish | rxTop | rxPdu | rxFail
      | rxPayload | rxUnlink | rxGiveback | ehShutdown | ehClose | ehCleanup | ehCleanupNext
      | ehCleanupGiveback | ehCleanupRelock | ehReset | ehUnusable | ehFinish => cases ha
      | attach devid => exact absurd rfl (hattach devid)
      | txTop =>
          simp only [Vhci.step] at hst
          split at hst <;> cases hst
          rename_i htx
          exact h.same hmarked (drain_txTop htx) (Nat.le_refl _) (fun _ hp => hp) (fun _ he => he)
            fun _ _ hr => hr
      | tx sendOk =>
          obtain rfl : sendOk = true := hseq
          have hs : s.tcpSocket = true := by
            by_contra hs
            have hstopped := (ho.inv.control.stopped (by simpa using hs)).2
            simp [Vhci.step, txStep, hstopped] at hst
          have hsends := (ho.sending hs).sends ho.inv.owned hst
          obtain ⟨ht, hprivs, -⟩ := txStep_frame hst
          refine h.congr hmarked ?_ ?_ (fun _ hx => hsends.mem_sent hx)
            (fun _ hp => hprivs.subset hp) hsends.unlinkRx fun p _ hr => ?_
          · rcases hsends.drain with hdrain | hdrain
            · rw [hdrain]
            · rw [hdrain]
              exact (Drain.perm_items_advance _).subperm
          · have hissued : t.issued = s.issued := by rw [ht]
            exact Nat.le_of_eq hissued.symm
          · rw [ht]
            exact hr
  | false =>
      obtain ⟨htx, hwire⟩ := tx_wire_of_step hst ha
      have hsame : t.privTx = s.privTx → t.unlinkTx = s.unlinkTx → s.issued ≤ t.issued →
          (∀ p ∈ t.privRx, p ∈ s.privRx) → (∀ e ∈ t.unlinkRx, e ∈ s.unlinkRx) →
          t.unlinked = s.unlinked → t.lock = s.lock → Tracked c t := by
        intro hprivTx hunlinkTx hissued hprivRx hunlinkRx hunl hl
        refine h.same hmarked (State.drain_congr hprivTx hunlinkTx htx hwire) hissued
          (fun p hp => ?_) hunlinkRx fun p _ hr => ?_
        · rcases List.mem_append.mp hp with hp | hp
          · exact List.mem_append_left _ (hprivTx ▸ hp)
          · exact List.mem_append_right _ (hprivRx p hp)
        · unfold Refused
          rw [hunl, hl]
          exact hr
      have hpicked : ∀ {n : BitVec 32} {p : VhciPriv} {s' : State},
          pickupUrbAndFreePriv n s = some (p, s') → ∀ q ∈ s'.privRx, q ∈ s.privRx := by
        intro n p s' hp q hq
        obtain ⟨hfind, rfl⟩ := pickup_eq_some hp
        exact (mem_iff_of_find? hfind).mpr (Or.inr hq)
      cases he with
      | frame hf =>
          exact hsame hf.privTx hf.unlinkTx (hf.issued ▸ Nat.le_refl _) (fun _ hp => hf.privRx ▸ hp)
            (fun _ he => hf.unlinkRx ▸ he) hf.unlinked hf.lock
      | otherSeqnum =>
          exact hsame rfl rfl (Nat.le_succ _) (fun _ hp => hp) (fun _ he => he) rfl rfl
      | rxGiveback | cleanupGiveback =>
          exact hsame rfl rfl (Nat.le_refl _) (fun _ hp => hp) (fun _ he => he) rfl rfl
      | enqueue _ hu henq => exact h.enqueue ho.inv.owned hmarked hu henq
      | txUrb => exact h.txUrb ho.inv.numbered hlt
      | @dequeue u p hl hp hu =>
          refine h.same hmarked rfl (Nat.le_refl _) (fun _ hq => hq) (fun _ he => he)
            fun q hq hr => ?_
          have hne : q.urb ≠ u := fun hqu => by simp [← hqu, hr.1] at hu
          refine ⟨(Function.update_of_ne hne ..).trans hr.1, ?_⟩
          rintro r ⟨⟩
          exact hne rfl
      | @dequeueFinish u p _ _ hl =>
          have hmem : (u, p) ∈ s.lock.dequeuing := by
            rw [hl]
            exact List.mem_singleton_self _
          exact h.dequeueFinish ho.inv.owned ho.inv.numbered hlt hl (hseq _ hmem)
      | tx => cases ha
      | retSubmit _ hp | rxUnlink _ hp =>
          have hprivRx := hpicked hp
          obtain ⟨-, rfl⟩ := pickup_eq_some hp
          exact hsame rfl rfl (Nat.le_refl _) hprivRx (fun _ he => he) rfl rfl
      | retUnlink _ hd =>
          obtain ⟨-, rfl⟩ := dequeuePendingUnlink_eq_some hd
          exact hsame rfl rfl (Nat.le_refl _) (fun _ hp => hp)
            (fun _ he => List.eraseP_sublist.subset he) rfl rfl
      | rxPayload hrx =>
          obtain ⟨urb, event, hr | hr⟩ := recvPayload_cases _ _ _ s
          all_goals
            rw [hr] at hsame ⊢
            exact hsame rfl rfl (Nat.le_refl _) (fun _ hp => hp) (fun _ he => he) rfl rfl
      | cleanup =>
          refine h.congr hmarked ?_ (Nat.le_refl _) (fun _ hx => hx) (fun _ hp => hp)
            (fun _ he => Or.inl he) fun _ _ hr => hr
          exact (List.Subperm.refl _).append
            ((List.Subperm.refl _).append (List.nil_sublist _).subperm)
      | cleanupSkip _ hrest =>
          exact hsame rfl rfl (Nat.le_refl _) (fun _ hp => hp)
            (fun _ he => hrest ▸ List.mem_cons_of_mem _ he) rfl rfl
      | cleanupPickup _ hrest hp =>
          have hprivRx := hpicked hp
          obtain ⟨-, rfl⟩ := pickup_eq_some hp
          exact hsame rfl rfl (Nat.le_refl _) hprivRx
            (fun _ he => hrest ▸ List.mem_cons_of_mem _ he) rfl rfl

/-! ## What a peer can tell from the numbers -/

/-- A number stands for one request. -/
lemma Tracked.eq_of_number (h : Tracked c s) {x y : Seqnum ⊕ Seqnum × Seqnum}
    (hx : x ∈ s.drain.items) (hy : y ∈ s.drain.items)
    (hxy : requestNumber x = requestNumber y) : x = y :=
  eq_of_nodup_map h.distinct.numbers hx hy hxy

/-- What is on the wire was an item of the queues. -/
lemma mem_items_of_wire {x : Seqnum ⊕ Seqnum × Seqnum} (hx : x ∈ s.wire.map Pdu.request) :
    x ∈ s.drain.items :=
  List.mem_append_left _ (List.mem_append_left _ hx)

/-- What was written has another number than what is about to be written. -/
lemma Tracked.sending_fresh (h : Tracked c s) {p : VhciPriv} (hp : p ∈ s.tx.sending)
    {x : Seqnum ⊕ Seqnum × Seqnum} (hx : x ∈ s.wire.map Pdu.request) :
    requestNumber x ≠ p.wireSeqnum := by
  have hhand : .inl p.wireSeqnum ∈ s.tx.hand := by
    cases htx : s.tx with
    | sendSubmit q =>
        rw [htx, TxPc.sending, List.mem_singleton] at hp
        rw [hp]
        exact List.mem_singleton_self _
    | top | submit | unlink | sendUnlink | stopped =>
        rw [htx] at hp
        cases hp
  have hnodup := h.distinct.numbers
  simp only [Drain.items, State.drain, List.map_append, List.nodup_append, List.append_assoc] at hnodup
  intro hxp
  refine hnodup.2.2 _ (List.mem_map_of_mem hx) p.wireSeqnum ?_ hxp
  exact List.mem_append_left _ (List.mem_map.mpr ⟨_, hhand, rfl⟩)

/-- An entry that waits to be sent has another number than what was written. -/
lemma Tracked.privTx_fresh (h : Tracked c s) {p : VhciPriv} (hp : p ∈ s.privTx)
    {x : Seqnum ⊕ Seqnum × Seqnum} (hx : x ∈ s.wire.map Pdu.request) :
    requestNumber x ≠ p.wireSeqnum := by
  have hnodup := h.distinct.numbers
  rw [Drain.items, List.map_append, List.nodup_append] at hnodup
  intro hxp
  refine hnodup.2.2 _ (List.mem_map_of_mem (List.mem_append_left _ hx)) p.wireSeqnum ?_ hxp
  rw [List.map_append]
  refine List.mem_append_left _ (List.mem_map.mpr ⟨.inl p.wireSeqnum, ?_, rfl⟩)
  exact List.mem_map_of_mem (List.mem_map_of_mem hp)

/-- The wire only grows. -/
lemma wire_of_step (hattach : ∀ devid, a ≠ .attach devid) (hst : step s a = some t) :
    ∃ more, t.wire = s.wire ++ more := by
  cases ha : a.isSender with
  | false => exact ⟨[], by rw [(tx_wire_of_step hst ha).2, List.append_nil]⟩
  | true =>
      cases a with
      | eventAdd | otherSeqnum | enqueue | txUrb | dequeue | dequeueFinish | rxTop | rxPdu | rxFail
      | rxPayload | rxUnlink | rxGiveback | ehShutdown | ehClose | ehCleanup | ehCleanupNext
      | ehCleanupGiveback | ehCleanupRelock | ehReset | ehUnusable | ehFinish => cases ha
      | attach devid => exact absurd rfl (hattach devid)
      | txTop =>
          simp only [step] at hst
          split at hst <;> cases hst
          exact ⟨[], (List.append_nil _).symm⟩
      | tx sendOk =>
          have hst : txStep sendOk s = some t := hst
          unfold txStep at hst
          split at hst
          · cases hst
          · cases hst
          · split at hst <;> cases hst <;> exact ⟨[], (List.append_nil _).symm⟩
          · split at hst
            · cases hst
              exact ⟨[], (List.append_nil _).symm⟩
            · split at hst <;> cases hst
              · exact ⟨_, rfl⟩
              · exact ⟨[], (List.append_nil _).symm⟩
          · split at hst <;> cases hst <;> exact ⟨[], (List.append_nil _).symm⟩
          · split at hst <;> cases hst
            · exact ⟨_, rfl⟩
            · exact ⟨[], (List.append_nil _).symm⟩

/-- The number of an entry that is picked up. -/
lemma wireSeqnum_of_pickup {n : Seqnum} {p : VhciPriv} {s' : State}
    (hp : pickupUrbAndFreePriv n s = some (p, s')) :
    p ∈ s.privRx ∧ p.seqnum = n.setWidth 64 ∧ p.wireSeqnum = n := by
  obtain ⟨hfind, -⟩ := pickup_eq_some hp
  have hseq : p.seqnum = n.setWidth 64 := of_decide_eq_true (List.find?_some hfind :)
  refine ⟨List.mem_of_find?_eq_some hfind, hseq, ?_⟩
  rw [VhciPriv.wireSeqnum, hseq]
  simp

/-- When the header of a RET_SUBMIT was read, no entry has its number any more. -/
lemma Tracked.gone_of_retSubmit (h : Tracked c s) (hn : Numbered c s) (hissued : s.issued ≤ 2 ^ 32)
    {pdu : Header} (hcommand : pdu.base.command = retSubmit)
    (hsent : .inl pdu.base.seqnum ∈ s.wire.map Pdu.request)
    (hst : Vhci.step s (.rxPdu pdu) = some t) :
    ∀ p ∈ t.privs, p.seqnum ≠ pdu.base.seqnum.setWidth 64 := by
  simp only [Vhci.step] at hst
  split at hst <;> cases hst
  unfold vhciRxPdu vhciRecvRetSubmit
  rw [if_pos hcommand]
  split
  · rename_i hnone
    intro p hp hseq
    rcases List.mem_append.mp hp with hp | hp
    · refine h.privTx_fresh hp hsent ?_
      rw [VhciPriv.wireSeqnum, hseq]
      simp [requestNumber]
    · have hfind := Option.map_eq_none_iff.mp hnone
      exact (List.find?_eq_none.mp hfind p hp) (decide_eq_true hseq)
  · rename_i q s' hq
    obtain ⟨-, hseq, -⟩ := wireSeqnum_of_pickup hq
    have hnodup := ((perm_privs_of_pickup hq).map VhciPriv.seqnum).nodup_iff.mp
      (hn.privs_seqnum_nodup hissued)
    rw [List.map_cons, List.nodup_cons, hseq] at hnodup
    exact fun p hp hpn => hnodup.1 (List.mem_map.mpr ⟨p, hp, hpn⟩)

/-- An unlink whose reply is being received was found when its header arrived. -/
lemma unlinking_of_effect (he : Effect s a t) {e : VhciUnlink} {status : BitVec 32}
    (hrx : t.rx = .unlink e status) : s.rx = .unlink e status ∨
      ∃ pdu s', a = .rxPdu pdu ∧ pdu.base.command = retUnlink ∧ pdu.u.w₀ = status ∧
        dequeuePendingUnlink pdu.base.seqnum s = some (e, s') := by
  cases he with
  | frame hf =>
      obtain hsame | ⟨-, hidle⟩ := hf.rx
      · exact Or.inl (hsame ▸ hrx)
      · simp [hrx, RxPc.idle] at hidle
  | otherSeqnum | dequeue | cleanup | cleanupSkip | cleanupGiveback => exact Or.inl hrx
  | enqueue _ _ henq => cases henq <;> exact Or.inl hrx
  | txUrb =>
      unfold vhciTxUrb at hrx
      split at hrx
      · exact Or.inl hrx
      · split at hrx <;> exact Or.inl hrx
  | dequeueFinish =>
      unfold vhciUrbDequeueFinish at hrx
      split at hrx
      · exact Or.inl hrx
      · split at hrx <;> exact Or.inl hrx
  | tx hst =>
      rw [(txStep_frame hst).1] at hrx
      exact Or.inl hrx
  | retUnlink _ hd hcommand =>
      obtain ⟨rfl, rfl⟩ := RxPc.unlink.inj hrx
      exact Or.inr ⟨_, _, rfl, hcommand, rfl, hd⟩
  | retSubmit | rxUnlink | rxGiveback => cases hrx
  | rxPayload =>
      obtain ⟨urb, event, hr | hr⟩ := recvPayload_cases _ _ _ s
      all_goals
        rw [hr] at hrx
        cases hrx
  | cleanupPickup _ _ hp =>
      obtain ⟨-, rfl⟩ := pickup_eq_some hp
      exact Or.inl hrx

end Usbip.Vhci
