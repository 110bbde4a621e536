import Usbip.Vhci.Steps

/-!
# The numbers of the requests

Every request of a port, CMD_SUBMIT or CMD_UNLINK, takes the next value of the counter
`vhci->seqnum`.  `Numbered` says that the entries on the four lists carry the values they took,
and `seqnumOf_injective` that these differ until the counter has gone all the way round.
-/

namespace Usbip.Vhci

open Usbip.Core Usbip.Common

variable {s t : State} {a : Action} {c : BitVec 32}

/-- The `unsigned long` that the request with ticket `k` is numbered with. -/
def seqnumOf (c : BitVec 32) (k : Nat) : BitVec 64 :=
  (c + BitVec.ofNat 32 (k + 1)).signExtend 64

/-- Truncating a sign extension gives the number back. -/
lemma setWidth_signExtend (x : BitVec 32) : (x.signExtend 64).setWidth 32 = x := by
  apply BitVec.eq_of_getLsbD_eq
  intro i hi
  rw [BitVec.getLsbD_setWidth, BitVec.getLsbD_signExtend]
  simp [hi, show i < 64 by omega]

/-- Within one round of the counter the numbers differ. -/
theorem seqnumOf_injective {k l : Nat} (hkl : k < l + 2 ^ 32) (hlk : l < k + 2 ^ 32)
    (h : seqnumOf c k = seqnumOf c l) : k = l := by
  have hwidth : c + BitVec.ofNat 32 (k + 1) = c + BitVec.ofNat 32 (l + 1) := by
    rw [← setWidth_signExtend (c + BitVec.ofNat 32 (k + 1)), ← setWidth_signExtend
      (c + BitVec.ofNat 32 (l + 1))]
    exact congrArg _ h
  have hnat := congrArg BitVec.toNat ((BitVec.add_right_inj c).mp hwidth)
  simp only [BitVec.toNat_ofNat] at hnat
  omega

/-- The tickets and the numbers of the entries on the lists. -/
def State.numbers (s : State) : List (Nat × BitVec 64) :=
  s.privs.map (fun p => (p.ticket, p.seqnum)) ++ s.unlinks.map (fun e => (e.ticket, e.seqnum))

/-- The entries on the lists have distinct tickets, and the numbers that go with these. -/
structure Numbered (c : BitVec 32) (s : State) : Prop where
  seqnum : s.seqnum = c + BitVec.ofNat 32 s.issued
  nodup : (s.numbers.map Prod.fst).Nodup
  taken : ∀ x ∈ s.numbers, x.1 < s.issued ∧ x.2 = seqnumOf c x.1

/-- No number has been issued at the start. -/
lemma numbered_start (c : BitVec 32) : Numbered c { seqnum := c } :=
  ⟨by simp, List.nodup_nil, fun _ h => (by cases h)⟩

/-- A step takes entries off the lists, or takes the next number and may put an entry with it on
a list. -/
def Numbering (s t : State) : Prop :=
  t.seqnum = s.seqnum ∧ t.issued = s.issued ∧ t.numbers.Subperm s.numbers ∨
    t.seqnum = s.seqnum + 1 ∧ t.issued = s.issued + 1 ∧
      t.numbers.Subperm ((s.issued, s.nextSeqnum) :: s.numbers)

/-- Fewer records and unlinks have fewer numbers. -/
lemma numbers_subperm (hprivs : t.privs.Subperm s.privs)
    (hunlinks : t.unlinks.Subperm s.unlinks) : t.numbers.Subperm s.numbers :=
  (subperm_map hprivs _).append (subperm_map hunlinks _)

/-- Picking a record up takes its number away. -/
lemma Numbering.of_pickup {n : BitVec 32} {p : VhciPriv} {s' : State}
    (hp : pickupUrbAndFreePriv n s = some (p, s')) (hseqnum : t.seqnum = s.seqnum)
    (hissued : t.issued = s.issued) (hprivs : t.privs = s'.privs)
    (hunlinks : t.unlinks.Subperm s.unlinks) : Numbering s t := by
  refine Or.inl ⟨hseqnum, hissued, numbers_subperm ?_ hunlinks⟩
  rw [hprivs]
  exact List.Subperm.cons_self.trans (perm_privs_of_pickup hp).symm.subperm

/-- A step that leaves the lists alone. -/
lemma Numbering.same (hseqnum : t.seqnum = s.seqnum) (hissued : t.issued = s.issued)
    (hnumbers : t.numbers = s.numbers) : Numbering s t :=
  Or.inl ⟨hseqnum, hissued, hnumbers ▸ List.Subperm.refl _⟩

/-- What a step does to the numbers. -/
lemma numbering_of_effect (he : Effect s a t) : Numbering s t := by
  cases he with
  | frame hf =>
      apply Numbering.same hf.seqnum hf.issued
      unfold State.numbers State.privs State.unlinks
      rw [hf.privTx, hf.privRx, hf.unlinkTx, hf.unlinkRx]
  | otherSeqnum => exact Or.inr ⟨rfl, rfl, List.Subperm.cons_self⟩
  | enqueue _ _ h => cases h <;> exact .same rfl rfl rfl
  | txUrb =>
      unfold vhciTxUrb
      split
      · exact .same rfl rfl rfl
      · split
        · exact .same rfl rfl rfl
        · refine Or.inr ⟨rfl, rfl, ?_⟩
          simp only [State.numbers, State.privs, State.unlinks, State.incSeqnum, List.append_assoc,
            List.map_append, List.map_cons, List.singleton_append]
          exact List.perm_middle.subperm
  | dequeue => exact .same rfl rfl rfl
  | dequeueFinish =>
      unfold vhciUrbDequeueFinish
      split
      · refine Or.inl ⟨rfl, rfl, numbers_subperm ?_ (List.Subperm.refl _)⟩
        exact (List.erase_sublist.append List.erase_sublist).subperm
      · split
        · exact .same rfl rfl rfl
        · refine Or.inr ⟨rfl, rfl, ?_⟩
          simp only [State.numbers, State.privs, State.unlinks, State.incSeqnum, List.append_assoc,
            List.map_append, List.map_cons, List.singleton_append]
          rw [← List.append_assoc, ← List.append_assoc, ← List.append_assoc, ← List.append_assoc]
          exact List.perm_middle.subperm
  | tx h =>
      obtain ⟨ht, hprivs, hunlinks⟩ := txStep_frame h
      refine Or.inl ⟨?_, ?_, numbers_subperm hprivs.subperm hunlinks.subperm⟩ <;> rw [ht]
  | retSubmit _ hp =>
      obtain ⟨-, rfl⟩ := pickup_eq_some hp
      exact .of_pickup hp rfl rfl rfl (List.Subperm.refl _)
  | retUnlink _ he =>
      obtain ⟨-, rfl⟩ := dequeuePendingUnlink_eq_some he
      refine Or.inl ⟨rfl, rfl, numbers_subperm (List.Subperm.refl _) ?_⟩
      exact (List.eraseP_sublist.append_left _).subperm
  | rxPayload hrx =>
      obtain ⟨urb, event, h | h⟩ := recvPayload_cases _ _ _ s
      all_goals
        rw [h]
        exact .same rfl rfl rfl
  | rxUnlink _ hp =>
      obtain ⟨-, rfl⟩ := pickup_eq_some hp
      exact .of_pickup hp rfl rfl rfl (List.Subperm.refl _)
  | rxGiveback => exact .same rfl rfl rfl
  | cleanup =>
      refine Or.inl ⟨rfl, rfl, numbers_subperm (List.Subperm.refl _) ?_⟩
      exact (List.sublist_append_right _ _).subperm
  | cleanupSkip _ hrest =>
      refine Or.inl ⟨rfl, rfl, numbers_subperm (List.Subperm.refl _) ?_⟩
      unfold State.unlinks
      rw [hrest]
      exact ((List.sublist_cons_self _ _).append_left _).subperm
  | cleanupPickup _ hrest hp =>
      obtain ⟨-, rfl⟩ := pickup_eq_some hp
      refine .of_pickup hp rfl rfl rfl ?_
      unfold State.unlinks
      rw [hrest]
      exact ((List.sublist_cons_self _ _).append_left _).subperm
  | cleanupGiveback => exact .same rfl rfl rfl

/-- The numbers do not depend on how the threads are stopped. -/
lemma numbering_of_step (hst : step s a = some t) : Numbering s t := by
  by_cases ha : ∃ devid, a = .attach devid
  · obtain ⟨devid, rfl⟩ := ha
    simp only [step] at hst
    split at hst <;> cases hst
    exact .same rfl rfl rfl
  · exact numbering_of_effect (step_effect_of_idle (fun devid h => absurd ⟨devid, h⟩ ha) hst)

/-- Every step keeps the numbers distinct. -/
theorem Numbered.step (h : Numbered c s) (hn : Numbering s t) : Numbered c t := by
  rcases hn with ⟨hseq, hiss, hsub⟩ | ⟨hseq, hiss, hsub⟩
  · refine ⟨by rw [hseq, hiss, h.seqnum], nodup_of_subperm (subperm_map hsub _) h.nodup, fun x hx => ?_⟩
    rw [hiss]
    exact h.taken x (hsub.subset hx)
  · have hnext : s.nextSeqnum = seqnumOf c s.issued := by
      unfold State.nextSeqnum seqnumOf
      rw [h.seqnum, BitVec.add_assoc, BitVec.ofNat_add]
      rfl
    refine ⟨?_, ?_, fun x hx => ?_⟩
    · rw [hseq, hiss, h.seqnum, BitVec.add_assoc, BitVec.ofNat_add]
      rfl
    · refine nodup_of_subperm (subperm_map hsub _) ?_
      rw [List.map_cons, List.nodup_cons]
      refine ⟨fun hmem => ?_, h.nodup⟩
      obtain ⟨x, hx, hfst⟩ := List.mem_map.mp hmem
      have := (h.taken x hx).1
      omega
    · rw [hiss]
      rcases List.mem_cons.mp (hsub.subset hx) with rfl | hx
      · exact ⟨Nat.lt_succ_self _, hnext⟩
      · obtain ⟨hlt, heq⟩ := h.taken x hx
        exact ⟨Nat.lt_succ_of_lt hlt, heq⟩

/-- The counter has not gone all the way round since the entries on the lists took their numbers. -/
def Recent (s : State) : Prop := ∀ x ∈ s.numbers, s.issued ≤ x.1 + 2 ^ 32

/-- Recent numbers do not repeat. -/
theorem Numbered.seqnums_nodup (h : Numbered c s) (hrecent : Recent s) :
    (s.numbers.map Prod.snd).Nodup := by
  have hmap : s.numbers.map Prod.snd = (s.numbers.map Prod.fst).map (seqnumOf c) := by
    rw [List.map_map]
    exact List.map_congr_left fun x hx => (h.taken x hx).2
  rw [hmap]
  apply h.nodup.map_on
  intro k hk l hl hkl
  obtain ⟨x, hx, rfl⟩ := List.mem_map.mp hk
  obtain ⟨y, hy, rfl⟩ := List.mem_map.mp hl
  have hxlt := (h.taken x hx).1
  have hylt := (h.taken y hy).1
  have hxrecent := hrecent x hx
  have hyrecent := hrecent y hy
  exact seqnumOf_injective (by omega) (by omega) hkl

/-- The records have distinct numbers before the counter comes round. -/
theorem Numbered.privs_seqnum_nodup (h : Numbered c s) (hissued : s.issued ≤ 2 ^ 32) :
    (s.privs.map VhciPriv.seqnum).Nodup := by
  have hnodup := h.seqnums_nodup fun x _ => Nat.le_add_left_of_le hissued
  rw [State.numbers, List.map_append, List.map_map] at hnodup
  exact (List.nodup_append.mp hnodup).1

end Usbip.Vhci
