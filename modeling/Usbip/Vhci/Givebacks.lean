import Usbip.Vhci.Order

/-!
# The status of a URB that is given back

A URB on the lists has the status -EINPROGRESS with which it was accepted.  So it is given back
with status 0 only where that status is written: in `vhci_urb_enqueue`, which completes a
SET_ADDRESS itself, from a RET_SUBMIT, and from a RET_UNLINK.  `Honest` leaves open what a
RET_SUBMIT makes of a URB, and excludes the last: it is the invariant of a port whose peer sends no
RET_UNLINK with status 0 for a URB that is pending.
-/

namespace Usbip.Vhci

open Usbip.Core Usbip.Common

variable {s t : State} {a : Action} {c : BitVec 32} {header full : VhciPriv → Urb → Prop}

/-- Status 0 comes from `vhci_urb_enqueue`, or from a RET_SUBMIT that has left the URB as `full`
says. -/
def Fine (full : VhciPriv → Urb → Prop) (u : UrbId) (g : Giveback) : Prop :=
  g.urb.status = 0 → g.via = .enqueue ∨ ∃ p, g.via = .retSubmit p ∧ p.urb = u ∧ full p g.urb

/-- A giveback with an error needs no data. -/
lemma Fine.of_status {u : UrbId} {g : Giveback} (h : g.urb.status ≠ 0) : Fine full u g :=
  fun hzero => absurd hzero h

/-- The URBs of a port and the URBs given back; `header` is what holds of a URB after the header of
its RET_SUBMIT was unpacked. -/
structure Honest (header full : VhciPriv → Urb → Prop) (s : State) : Prop where
  listed : ∀ p ∈ s.privs, (s.urb p.urb).status = -EINPROGRESS
  enqueuing : ∀ u, s.lock = .enqueue u → (s.urb u).status = -EINPROGRESS
  payload : ∀ p, s.rx = .payload p → header p (s.urb p.urb)
  giving : ∀ u via, s.rx = .giveback u via → Fine full u ⟨via, s.urb u⟩
  cleaning : ∀ u, s.eh = .giveback u → Fine full u ⟨.cleanup, s.urb u⟩
  log : ∀ u g, .returned u g ∈ s.log → Fine full u g

/-- Nothing has been given back at the start. -/
lemma honest_start (c : BitVec 32) : Honest header full { seqnum := c } :=
  ⟨fun _ h => (by cases h), fun _ h => (by cases h), fun _ h => (by cases h),
    fun _ _ h => (by cases h), fun _ h => (by cases h), fun _ _ h => (by cases h)⟩

/-- What was given back honestly stays so. -/
lemma Honest.mono {header' full' : VhciPriv → Urb → Prop} (h : Honest header full s)
    (hheader : ∀ p urb, s.rx = .payload p → header p urb → header' p urb)
    (hfull : ∀ p urb, full p urb → full' p urb) : Honest header' full' s := by
  have hfine : ∀ u g, Fine full u g → Fine full' u g := by
    intro u g hg hzero
    obtain hvia | ⟨p, hvia, hu, hp⟩ := hg hzero
    · exact Or.inl hvia
    · exact Or.inr ⟨p, hvia, hu, hfull p _ hp⟩
  exact ⟨h.listed, h.enqueuing, fun p hp => hheader p _ hp (h.payload p hp),
    fun u via hrx => hfine u _ (h.giving u via hrx), fun u he => hfine u _ (h.cleaning u he),
    fun u g hg => hfine u g (h.log u g hg)⟩

/-- A step that writes to no URB. -/
lemma Honest.congr (h : Honest header full s) (hurb : t.urb = s.urb)
    (hprivs : ∀ p ∈ t.privs, p ∈ s.privs)
    (hlock : ∀ u, t.lock = .enqueue u → s.lock = .enqueue u)
    (hpayload : ∀ p, t.rx = .payload p → s.rx = .payload p)
    (hgiving : ∀ u via, t.rx = .giveback u via → s.rx = .giveback u via)
    (hcleaning : ∀ u, t.eh = .giveback u → s.eh = .giveback u)
    (hlog : ∀ u g, .returned u g ∈ t.log → .returned u g ∈ s.log ∨ Fine full u g) :
    Honest header full t := by
  refine ⟨fun p hp => ?_, fun u hl => ?_, fun p hp => ?_, fun u via hrx => ?_, fun u he => ?_,
    fun u g hg => (hlog u g hg).elim (h.log u g) id⟩ <;> rw [hurb]
  · exact h.listed p (hprivs p hp)
  · exact h.enqueuing u (hlock u hl)
  · exact h.payload p (hpayload p hp)
  · exact h.giving u via (hgiving u via hrx)
  · exact h.cleaning u (hcleaning u he)

/-- A step that writes to the URB `w`: what it does with `w` is to be shown. -/
lemma Honest.write {w : UrbId} {urb : Urb} (h : Honest header full s)
    (hurb : t.urb = Function.update s.urb w urb)
    (hprivs : ∀ p ∈ t.privs, p ∈ s.privs ∧ p.urb ≠ w)
    (hlock : ∀ u, t.lock = .enqueue u →
      s.lock = .enqueue u ∧ u ≠ w ∨ u = w ∧ urb.status = -EINPROGRESS)
    (hpayload : ∀ p, t.rx = .payload p → s.rx = .payload p ∧ p.urb ≠ w ∨ p.urb = w ∧ header p urb)
    (hgiving : ∀ u via, t.rx = .giveback u via →
      s.rx = .giveback u via ∧ u ≠ w ∨ u = w ∧ Fine full w ⟨via, urb⟩)
    (hcleaning : ∀ u, t.eh = .giveback u →
      s.eh = .giveback u ∧ u ≠ w ∨ u = w ∧ Fine full w ⟨.cleanup, urb⟩)
    (hlog : ∀ u g, .returned u g ∈ t.log → .returned u g ∈ s.log ∨ Fine full u g) :
    Honest header full t := by
  have hself : t.urb w = urb := by
    rw [hurb]
    exact Function.update_self ..
  have hother : ∀ v, v ≠ w → t.urb v = s.urb v := by
    intro v hv
    rw [hurb]
    exact Function.update_of_ne hv ..
  refine ⟨fun p hp => ?_, fun u hl => ?_, fun p hp => ?_, fun u via hrx => ?_, fun u he => ?_,
    fun u g hg => (hlog u g hg).elim (h.log u g) id⟩
  · obtain ⟨hp, hne⟩ := hprivs p hp
    rw [hother _ hne]
    exact h.listed p hp
  · obtain ⟨hl, hne⟩ | ⟨rfl, hst⟩ := hlock u hl
    · rw [hother _ hne]
      exact h.enqueuing u hl
    · rw [hself]
      exact hst
  · obtain ⟨hp, hne⟩ | ⟨hpw, hp⟩ := hpayload p hp
    · rw [hother _ hne]
      exact h.payload p hp
    · rw [hpw, hself]
      exact hp
  · obtain ⟨hrx, hne⟩ | ⟨rfl, hfine⟩ := hgiving u via hrx
    · rw [hother _ hne]
      exact h.giving u via hrx
    · rw [hself]
      exact hfine
  · obtain ⟨he, hne⟩ | ⟨rfl, hfine⟩ := hcleaning u he
    · rw [hother _ hne]
      exact h.cleaning u he
    · rw [hself]
      exact hfine

/-! ## The places are apart -/

/-- The URB that the receive thread holds is nowhere else. -/
lemma Owned.apart_rx {u : UrbId} (h : Owned s) (hu : u ∈ s.rx.held) :
    (∀ p ∈ s.privs, p.urb ≠ u) ∧ s.lock ≠ .enqueue u ∧ s.eh ≠ .giveback u := by
  have hnodup := h.sound.nodup
  simp only [State.places, List.nodup_append, List.mem_append, List.mem_map] at hnodup
  refine ⟨?_, ?_, ?_⟩
  · rintro p hp rfl
    exact hnodup.2.2 p.urb ⟨p, hp, rfl⟩ p.urb (Or.inr (Or.inl hu)) rfl
  · intro hl
    have hmem : u ∈ s.lock.held := by
      rw [hl]
      exact List.mem_singleton_self u
    exact hnodup.2.1.2.2 u hmem u (Or.inl hu) rfl
  · intro he
    have hmem : u ∈ s.eh.held := by
      rw [he]
      exact List.mem_singleton_self u
    exact hnodup.2.1.2.1.2.2 u hu u (Or.inl hmem) rfl

/-- The URB that the cleanup holds is nowhere else. -/
lemma Owned.apart_eh {u : UrbId} (h : Owned s) (hu : u ∈ s.eh.held) :
    (∀ p ∈ s.privs, p.urb ≠ u) ∧ s.lock ≠ .enqueue u ∧ u ∉ s.rx.held := by
  have hnodup := h.sound.nodup
  simp only [State.places, List.nodup_append, List.mem_append, List.mem_map] at hnodup
  refine ⟨?_, ?_, fun hrx => hnodup.2.1.2.1.2.2 u hrx u (Or.inl hu) rfl⟩
  · rintro p hp rfl
    exact hnodup.2.2 p.urb ⟨p, hp, rfl⟩ p.urb (Or.inr (Or.inr (Or.inl hu))) rfl
  · intro hl
    have hmem : u ∈ s.lock.held := by
      rw [hl]
      exact List.mem_singleton_self u
    exact hnodup.2.1.2.2 u hmem u (Or.inr (Or.inl hu)) rfl

/-! ## The steps -/

/-- A new URB has not been given back. -/
lemma Honest.enqueue {u : UrbId} {urb : Urb} (h : Honest header full s) (ho : Owned s)
    (hu : ¬ Custody.Held s.log u) (henq : Enqueued u urb s t) : Honest header full t := by
  have hplaces : u ∉ s.places := fun hmem => hu (ho.sound.held_iff.mpr hmem)
  simp only [State.places, List.mem_append, List.mem_map, not_or, not_exists, not_and] at hplaces
  obtain ⟨hprivs, hlock, hrx, heh, -⟩ := hplaces
  have hpayload : ∀ p, s.rx = .payload p → p.urb ≠ u := by
    rintro p hp rfl
    rw [hp] at hrx
    exact hrx (List.mem_singleton_self _)
  have hgiving : ∀ v via, s.rx = .giveback v via → v ≠ u := by
    rintro v via hv rfl
    rw [hv] at hrx
    exact hrx (List.mem_singleton_self _)
  have hcleaning : ∀ v, s.eh = .giveback v → v ≠ u := by
    rintro v hv rfl
    rw [hv] at heh
    exact heh (List.mem_singleton_self _)
  have hlocked : ∀ v, s.lock = .enqueue v → v ≠ u := by
    rintro v hv rfl
    rw [hv] at hlock
    exact hlock (List.mem_singleton_self _)
  cases henq with
  | refused =>
      exact h.write rfl (fun p hp => ⟨hp, hprivs p hp⟩) (fun v hv => Or.inl ⟨hv, hlocked v hv⟩)
        (fun p hp => Or.inl ⟨hp, hpayload p hp⟩) (fun v via hv => Or.inl ⟨hv, hgiving v via hv⟩)
        (fun v hv => Or.inl ⟨hv, hcleaning v hv⟩) fun _ _ hg => Or.inl hg
  | locally =>
      refine h.write rfl (fun p hp => ⟨hp, hprivs p hp⟩) (fun v hv => Or.inl ⟨hv, hlocked v hv⟩)
        (fun p hp => Or.inl ⟨hp, hpayload p hp⟩) (fun v via hv => Or.inl ⟨hv, hgiving v via hv⟩)
        (fun v hv => Or.inl ⟨hv, hcleaning v hv⟩) fun v g hg => ?_
      simp only [List.mem_append, List.mem_singleton, Event.returned.injEq, reduceCtorEq,
        or_false] at hg
      obtain hg | ⟨-, rfl⟩ := hg
      · exact Or.inl hg
      · exact Or.inr fun _ => Or.inl rfl
  | sent _ hurb =>
      refine h.write rfl (fun p hp => ⟨hp, hprivs p hp⟩) ?_
        (fun p hp => Or.inl ⟨hp, hpayload p hp⟩) (fun v via hv => Or.inl ⟨hv, hgiving v via hv⟩)
        (fun v hv => Or.inl ⟨hv, hcleaning v hv⟩) fun v g hg => ?_
      · rintro v ⟨⟩
        exact Or.inr ⟨rfl, hurb⟩
      · simp only [List.mem_append, List.mem_singleton, reduceCtorEq, or_false] at hg
        exact Or.inl hg

/-- `vhci_tx_urb` gives a URB back with an error at most. -/
lemma Honest.txUrb {u : UrbId} {allocOk : Bool} (h : Honest header full s)
    (hl : s.lock = .enqueue u) :
    Honest header full { vhciTxUrb u allocOk s with lock := .free } := by
  have hfree : ∀ v, Lock.free ≠ .enqueue v := fun _ hv => (by cases hv)
  unfold vhciTxUrb
  split
  · exact h.congr rfl (fun _ hp => hp) (fun v hv => absurd hv (hfree v)) (fun _ hp => hp)
      (fun _ _ hv => hv) (fun _ hv => hv) fun _ _ hg => Or.inl hg
  · split
    · exact h.congr rfl (fun _ hp => hp) (fun v hv => absurd hv (hfree v)) (fun _ hp => hp)
        (fun _ _ hv => hv) (fun _ hv => hv) fun _ _ hg => Or.inl hg
    · refine ⟨fun p hp => ?_, fun v hv => absurd hv (hfree v), h.payload, h.giving, h.cleaning,
        h.log⟩
      have hp : p ∈ s.privs ∨ p = ⟨s.issued, s.nextSeqnum, u⟩ := by
        simp only [State.privs, State.incSeqnum, List.mem_append, List.mem_singleton] at hp ⊢
        grind
      rcases hp with hp | rfl
      · exact h.listed p hp
      · exact h.enqueuing u hl

/-- `vhci_urb_dequeue` gives a URB back with its error. -/
lemma Honest.dequeueFinish {u : UrbId} {p : VhciPriv} {allocOk : Bool} {stale : BitVec 64}
    (h : Honest header full s) (ho : Owned s) (hp : s.hcpriv u = some p) :
    Honest header full { vhciUrbDequeueFinish u p allocOk stale s with lock := .free } := by
  have hfree : ∀ v, Lock.free ≠ .enqueue v := fun _ hv => (by cases hv)
  unfold vhciUrbDequeueFinish
  split
  · refine h.congr rfl ?_ (fun v hv => absurd hv (hfree v)) (fun _ hp => hp)
      (fun _ _ hv => hv) (fun _ hv => hv) fun v g hg => ?_
    · exact fun q hq => (List.erase_sublist.append List.erase_sublist).subset hq
    · rcases List.mem_append.mp hg with hg | hg
      · exact Or.inl hg
      · obtain ⟨rfl, rfl⟩ : v = u ∧ g = ⟨.dequeue, s.urb u⟩ := by simpa using hg
        obtain ⟨hmem, hurb⟩ := (ho.linked.ptr_iff v p).mp hp
        refine Or.inr (Fine.of_status ?_)
        have hstatus : (s.urb v).status = -EINPROGRESS := hurb ▸ h.listed p hmem
        show (s.urb v).status ≠ 0
        rw [hstatus]
        decide
  · split
    · exact h.congr rfl (fun _ hp => hp) (fun v hv => absurd hv (hfree v)) (fun _ hp => hp)
        (fun _ _ hv => hv) (fun _ hv => hv) fun _ _ hg => Or.inl hg
    · exact h.congr rfl (fun _ hp => hp) (fun v hv => absurd hv (hfree v)) (fun _ hp => hp)
        (fun _ _ hv => hv) (fun _ hv => hv) fun _ _ hg => Or.inl hg

/-- A payload that is accepted was received into the buffer, then its descriptors, then the packets
were moved to their places. -/
lemma recvPayload_accepted {p : VhciPriv} {allocOk : Bool} {io : List Recvmsg}
    (h : (recvPayload p allocOk io s).rx = .giveback p.urb (.retSubmit p)) :
    0 ≤ (usbipRecvXbuff .vhci io (s.urb p.urb)).ret ∧
      ∃ iso, (recvPayload p allocOk io s).urb p.urb = usbipPadIso
        { (usbipRecvXbuff .vhci io (s.urb p.urb)).urb with isoFrameDesc := iso } := by
  unfold recvPayload at h ⊢
  dsimp only [State.writeUrb] at h ⊢
  split at h
  · cases h
  · rename_i hxbuff
    rw [if_neg hxbuff]
    split at h
    · cases h
    · rename_i hiso
      rw [if_neg hiso]
      obtain ⟨iso, hurb⟩ := usbipRecvIso_urb allocOk
        (usbipRecvXbuff .vhci io (s.urb p.urb)).io (usbipRecvXbuff .vhci io (s.urb p.urb)).urb
      refine ⟨Int.not_lt.mp hxbuff, iso, ?_⟩
      rw [← hurb]
      exact Function.update_self ..

/-- What the replies of the peer make of the URBs: the header of a RET_SUBMIT leaves its URB as
`header` says and the payload leaves it as `full` says, and no RET_UNLINK with status 0 finds its
target pending. -/
structure RepliesFine (header full : VhciPriv → Urb → Prop) (s : State) (a : Action) : Prop where
  retSubmit : ∀ pdu p s', a = .rxPdu pdu → pdu.base.command = retSubmit →
    pickupUrbAndFreePriv pdu.base.seqnum s = some (p, s') →
    header p (unpackRetSubmit pdu.u (s.urb p.urb))
  payload : ∀ allocOk io p, a = .rxPayload allocOk io → s.rx = .payload p →
    header p (s.urb p.urb) → (recvPayload p allocOk io s).rx = .giveback p.urb (.retSubmit p) →
    full p ((recvPayload p allocOk io s).urb p.urb)
  retUnlink : ∀ e status p s', a = .rxUnlink → s.rx = .unlink e status →
    pickupUrbAndFreePriv (e.unlinkSeqnum.setWidth 32) s = some (p, s') → status ≠ 0

/-- The URB of an entry that is picked up is in no other place. -/
lemma Owned.apart_pickup {n : BitVec 32} {p : VhciPriv} {s' : State} (h : Owned s)
    (hp : pickupUrbAndFreePriv n s = some (p, s')) :
    (∀ q ∈ s'.privs, q ∈ s.privs ∧ q.urb ≠ p.urb) ∧ s.lock ≠ .enqueue p.urb ∧
      p.urb ∉ s.rx.held ∧ p.urb ∉ s.eh.held := by
  have hperm := perm_privs_of_pickup hp
  have hmem : p ∈ s.privs := hperm.symm.subset List.mem_cons_self
  refine ⟨fun q hq => ⟨hperm.symm.subset (List.mem_cons_of_mem p hq), ?_⟩, fun hl => ?_,
    fun hrx => (h.apart_rx hrx).1 p hmem rfl, fun heh => (h.apart_eh heh).1 p hmem rfl⟩
  · have hnodup := (hperm.map VhciPriv.urb).nodup_iff.mp h.linked.nodup
    rw [List.map_cons, List.nodup_cons] at hnodup
    exact fun hqp => hnodup.1 (hqp ▸ List.mem_map_of_mem hq)
  · have hnodup := h.sound.nodup
    rw [State.places, List.nodup_append] at hnodup
    have hheld : p.urb ∈ s.lock.held := by
      rw [hl]
      exact List.mem_singleton_self _
    exact hnodup.2.2 p.urb (List.mem_map_of_mem hmem) p.urb (List.mem_append_left _ hheld) rfl

/-- The receiving thread picks up an entry, and writes to its URB. -/
lemma Honest.pickup {n : BitVec 32} {p : VhciPriv} {s' : State} {urb : Urb} {pc : RxPc}
    (h : Honest header full s) (ho : Owned s) (hp : pickupUrbAndFreePriv n s = some (p, s'))
    (hpayload : ∀ q, pc = .payload q → q = p ∧ header p urb)
    (hgiving : ∀ u via, pc = .giveback u via → u = p.urb ∧ Fine full p.urb ⟨via, urb⟩) :
    Honest header full { s'.writeUrb p.urb urb with rx := pc } := by
  obtain ⟨hprivs, hlock, -, heh⟩ := ho.apart_pickup hp
  obtain ⟨-, rfl⟩ := pickup_eq_some hp
  refine h.write rfl hprivs (fun u hl => Or.inl ⟨hl, fun hu => hlock (hu ▸ hl)⟩) ?_ ?_
    (fun u he => Or.inl ⟨he, fun hu => heh ?_⟩) fun _ _ hg => Or.inl hg
  · intro q hq
    obtain ⟨rfl, hheader⟩ := hpayload q hq
    exact Or.inr ⟨rfl, hheader⟩
  · intro u via hu
    obtain ⟨rfl, hfine⟩ := hgiving u via hu
    exact Or.inr ⟨rfl, hfine⟩
  · have he : s.eh = .giveback u := he
    rw [he, ← hu]
    exact List.mem_singleton_self u

/-- A payload fills the URB that its reply names. -/
lemma Honest.rxPayload {p : VhciPriv} {allocOk : Bool} {io : List Recvmsg}
    (h : Honest header full s) (ho : Owned s) (hrx : s.rx = .payload p)
    (hfull : (recvPayload p allocOk io s).rx = .giveback p.urb (.retSubmit p) →
      full p ((recvPayload p allocOk io s).urb p.urb)) :
    Honest header full (recvPayload p allocOk io s) := by
  obtain ⟨hprivs, hlock, heh⟩ := ho.apart_rx (u := p.urb) (by
    rw [hrx]
    exact List.mem_singleton_self _)
  have hprivs : ∀ q ∈ s.privs, q ∈ s.privs ∧ q.urb ≠ p.urb := fun q hq => ⟨hq, hprivs q hq⟩
  have hlock : ∀ u, s.lock = .enqueue u → s.lock = .enqueue u ∧ u ≠ p.urb := fun u hl =>
    ⟨hl, fun hu => hlock (hu ▸ hl)⟩
  have heh : ∀ u, s.eh = .giveback u → s.eh = .giveback u ∧ u ≠ p.urb := fun u he =>
    ⟨he, fun hu => heh (hu ▸ he)⟩
  obtain ⟨urb, event, hr | hr⟩ := recvPayload_cases p allocOk io s
  · rw [hr] at hfull ⊢
    refine h.write rfl hprivs (fun u hl => Or.inl (hlock u hl)) (fun q hq => (by cases hq)) ?_
      (fun u he => Or.inl (heh u he)) fun _ _ hg => Or.inl hg
    rintro u via ⟨⟩
    refine Or.inr ⟨rfl, fun _ => Or.inr ⟨p, rfl, rfl, ?_⟩⟩
    have hfull := hfull rfl
    simp only [Function.update_self] at hfull
    exact hfull
  · rw [hr]
    exact h.write rfl hprivs (fun u hl => Or.inl (hlock u hl)) (fun q hq => (by cases hq))
      (fun u via hu => (by cases hu)) (fun u he => Or.inl (heh u he)) fun _ _ hg => Or.inl hg

/-- Every step keeps the givebacks honest. -/
theorem Honest.step (h : Honest header full s) (hi : Inv c s) (hseq : InSequence s a)
    (hfine : RepliesFine header full s a) (hst : Vhci.step s a = some t) : Honest header full t := by
  have ho := hi.owned
  have hsame : t.urb = s.urb → (∀ p ∈ t.privs, p ∈ s.privs) → t.lock = s.lock → t.rx = s.rx →
      t.eh = s.eh → t.log = s.log → Honest header full t := by
    intro hurb hprivs hlock hrx heh hlog
    exact h.congr hurb hprivs (fun _ hl => hlock ▸ hl) (fun _ hp => hrx ▸ hp)
      (fun _ _ hu => hrx ▸ hu) (fun _ he => heh ▸ he) fun _ _ hg => Or.inl (hlog ▸ hg)
  cases step_effect hi.control hst with
  | frame hf =>
      refine h.congr hf.urb (fun p hp => ?_) (fun _ hl => hf.lock ▸ hl) (fun p hp => ?_)
        (fun u via hu => ?_) (fun u he => ?_) fun _ _ hg => Or.inl (hf.log ▸ hg)
      · rw [State.privs, hf.privTx, hf.privRx] at hp
        exact hp
      · obtain hrx | ⟨-, hrx⟩ := hf.rx
        · exact hrx ▸ hp
        · simp [hp, RxPc.idle] at hrx
      · obtain hrx | ⟨-, hrx⟩ := hf.rx
        · exact hrx ▸ hu
        · simp [hu, RxPc.idle] at hrx
      · obtain heh | ⟨-, heh⟩ := hf.eh
        · exact heh ▸ he
        · simp [he, EhPc.held] at heh
  | otherSeqnum => exact hsame rfl (fun _ hp => hp) rfl rfl rfl rfl
  | enqueue _ hu henq => exact h.enqueue ho hu henq
  | txUrb hl => exact h.txUrb hl
  | dequeue hl =>
      refine h.congr rfl (fun _ hp => hp) (fun _ hv => (by cases hv)) (fun _ hp => hp)
        (fun _ _ hv => hv) (fun _ hv => hv) fun _ _ hg => Or.inl hg
  | @dequeueFinish u p _ _ hl =>
      refine h.dequeueFinish ho (hseq (u, p) ?_)
      rw [hl]
      exact List.mem_singleton_self _
  | tx hst =>
      obtain ⟨ht, hprivs, -⟩ := txStep_frame hst
      rw [ht] at hsame hprivs ⊢
      exact hsame rfl (fun _ hp => hprivs.subset hp) rfl rfl rfl rfl
  | retSubmit hrx hp hcommand =>
      refine h.pickup ho hp ?_ fun _ _ hu => (by cases hu)
      rintro q ⟨⟩
      have hurb := hfine.retSubmit _ _ _ rfl hcommand hp
      obtain ⟨-, rfl⟩ := pickup_eq_some hp
      exact ⟨rfl, hurb⟩
  | retUnlink hrx he =>
      obtain ⟨-, rfl⟩ := dequeuePendingUnlink_eq_some he
      exact h.congr rfl (fun _ hp => hp) (fun _ hv => hv) (fun _ hp => (by cases hp))
        (fun _ _ hv => (by cases hv)) (fun _ hv => hv) fun _ _ hg => Or.inl hg
  | rxPayload hrx => exact h.rxPayload ho hrx (hfine.payload _ _ _ rfl hrx (h.payload _ hrx))
  | rxUnlink hrx hp =>
      refine h.pickup ho hp (fun _ hq => (by cases hq)) ?_
      rintro u via ⟨⟩
      exact ⟨rfl, .of_status (hfine.retUnlink _ _ _ _ rfl hrx hp)⟩
  | @rxGiveback u via hrx hl =>
      refine h.congr rfl (fun _ hp => hp) (fun _ hv => hv) (fun _ hp => (by cases hp))
        (fun _ _ hv => (by cases hv)) (fun _ hv => hv) fun v g hg => ?_
      rcases List.mem_append.mp hg with hg | hg
      · exact Or.inl hg
      · obtain ⟨rfl, rfl⟩ : v = u ∧ g = ⟨via, s.urb u⟩ := by simpa using hg
        exact Or.inr (h.giving v via hrx)
  | cleanup he =>
      exact h.congr rfl (fun _ hp => hp) (fun _ hv => hv) (fun _ hp => hp)
        (fun _ _ hv => hv) (fun _ hv => (by cases hv)) fun _ _ hg => Or.inl hg
  | cleanupSkip => exact hsame rfl (fun _ hp => hp) rfl rfl rfl rfl
  | cleanupPickup he _ hp =>
      obtain ⟨hprivs, hlock, hrx, -⟩ := ho.apart_pickup hp
      obtain ⟨-, rfl⟩ := pickup_eq_some hp
      refine h.write rfl hprivs (fun u hl => Or.inl ⟨hl, fun hu => hlock (hu ▸ hl)⟩)
        (fun q hq => Or.inl ⟨hq, fun hu => hrx ?_⟩) (fun u via hv => Or.inl ⟨hv, fun hu => hrx ?_⟩)
        ?_ fun _ _ hg => Or.inl hg
      · have hq : s.rx = .payload q := hq
        rw [hq, ← hu]
        exact List.mem_singleton_self _
      · have hv : s.rx = .giveback u via := hv
        rw [hv, ← hu]
        exact List.mem_singleton_self _
      · have hnodev : (-ENODEV : BitVec 32) ≠ 0 := by decide
        rintro u ⟨⟩
        exact Or.inr ⟨rfl, .of_status hnodev⟩
  | @cleanupGiveback u he =>
      refine h.congr rfl (fun _ hp => hp) (fun _ hv => hv) (fun _ hp => hp)
        (fun _ _ hv => hv) (fun _ hv => (by cases hv)) fun v g hg => ?_
      rcases List.mem_append.mp hg with hg | hg
      · exact Or.inl hg
      · obtain ⟨rfl, rfl⟩ : v = u ∧ g = ⟨.cleanup, s.urb u⟩ := by simpa using hg
        exact Or.inr (h.cleaning v he)

end Usbip.Vhci
