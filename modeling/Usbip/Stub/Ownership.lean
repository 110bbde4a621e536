import Usbip.Stub.Steps

/-!
# One `stub_priv` and one reply for each request

`struct stub_device` documents that a `stub_priv` is always linked to one of `priv_init`,
`priv_tx` and `priv_free`.  Here that is `Owned`: the entries on the three lists, the one that
`stub_device_cleanup_urbs` has popped, and the entries freed are a permutation of the requests
received.  With the accounting of the replies (`Session.Answered`) it gives the result of the
module, `requests_accounted`: over any interleaving, shutdown included, every request has one
entry until that is freed once, and while the socket is open one reply or none yet.

The result needs that a CMD_UNLINK does not name the seqnum of another CMD_UNLINK.  A
`stub_priv` that is being unlinked goes under the seqnum of the unlink, so such a CMD_UNLINK
takes it over from the first one, which is then never answered (`unlink_of_unlink_is_lost`).
-/

namespace Usbip.Stub

open Usbip.Core Usbip.Common

namespace Session

variable {ρ σ : Type} {s t : Session ρ σ}

/-! ## Entries are moved, never copied or dropped -/

/-- The entries on the three lists, and those freed. -/
def owned (s : Session ρ σ) : List Seqnum :=
  (s.privInit ++ s.privTx ++ s.privFree).map StubPriv.origin ++ s.freed

/-- A number is owned as often as it is in the lists and among the freed. -/
lemma count_owned (s : Session ρ σ) (n : Seqnum) :
    s.owned.count n = (s.privInit.map StubPriv.origin).count n +
      (s.privTx.map StubPriv.origin).count n + (s.privFree.map StubPriv.origin).count n +
      s.freed.count n := by
  simp only [owned, List.map_append, List.count_append]

/-- A new record is owned. -/
lemma owned_stubPrivAlloc (n : Seqnum) : (s.stubPrivAlloc n).owned.Perm (s.owned ++ [n]) := by
  refine List.perm_iff_count.mpr fun m => ?_
  rw [List.count_append, count_owned, count_owned]
  simp only [stubPrivAlloc, List.map_append, List.map_cons, List.map_nil, List.count_append]
  omega

/-- Marking an entry leaves its identity. -/
lemma map_origin_updateFirst {q : StubPriv ρ → Bool} {u : Seqnum} {l l' : List (StubPriv ρ)}
    (h : updateFirst q (StubPriv.unlink u) l = some l') :
    l'.map StubPriv.origin = l.map StubPriv.origin := by
  obtain ⟨l₁, p, l₂, rfl, -, -, rfl⟩ := updateFirst_eq_some h
  simp [StubPriv.unlink]

/-- An unlink changes no record's origin. -/
lemma map_origin_stubRecvCmdUnlink (zero : σ) (u n : Seqnum) :
    (s.stubRecvCmdUnlink zero u n).privInit.map StubPriv.origin
      = s.privInit.map StubPriv.origin := by
  unfold stubRecvCmdUnlink
  split
  · rename_i hup
    exact map_origin_updateFirst hup
  · rfl

/-- An unlink changes nothing that is owned. -/
lemma owned_stubRecvCmdUnlink (zero : σ) (u n : Seqnum) :
    (s.stubRecvCmdUnlink zero u n).owned = s.owned := by
  unfold owned
  simp only [List.map_append, map_origin_stubRecvCmdUnlink]
  unfold stubRecvCmdUnlink stubEnqueueRetUnlink
  split <;> rfl

/-- A completion moves its record. -/
lemma owned_stubComplete {n : Seqnum} {r : ρ} {st : σ} (h : s.stubComplete n r st = some t) :
    t.owned.Perm s.owned := by
  obtain ⟨p, hf, hp, hcase⟩ := stubComplete_cases h
  refine List.perm_iff_count.mpr fun m => ?_
  have hinit := ((perm_cons_eraseP_of_find? hf).map StubPriv.origin).count_eq m
  rw [List.map_cons, hp, List.count_cons] at hinit
  rw [count_owned, count_owned, hinit]
  rcases hcase with ⟨-, rfl⟩ | ⟨-, rfl⟩
  · simp only [stubEnqueueRetUnlink, List.count_append, List.count_singleton]
    omega
  · simp only [List.map_append, List.map_cons, List.map_nil, hp, List.count_append,
      List.count_singleton]
    omega

/-- Dequeuing moves the record to those to be freed. -/
lemma owned_dequeueFromPrivTx : s.dequeueFromPrivTx.owned.Perm s.owned := by
  unfold dequeueFromPrivTx
  split
  · rename_i p rest hl
    refine List.perm_iff_count.mpr fun m => ?_
    rw [count_owned, count_owned]
    simp only [hl, List.map_append, List.map_cons, List.map_nil, List.count_append,
      List.count_cons, List.count_nil]
    omega
  · exact List.Perm.refl _

/-- Dequeuing an unlink changes nothing that is owned. -/
lemma owned_dequeueFromUnlinkTx : s.dequeueFromUnlinkTx.owned = s.owned := by
  unfold dequeueFromUnlinkTx
  split <;> rfl

/-- The transmit thread loses no record. -/
lemma owned_stubTxStep {sendOk : Bool} (h : s.stubTxStep sendOk = some t) :
    t.owned.Perm s.owned := by
  unfold stubTxStep at h
  cases htx : s.tx with
  | top | stopped => simp [htx] at h
  | submit =>
      rw [htx] at h
      obtain rfl := Option.some.inj h
      exact owned_dequeueFromPrivTx
  | unlink =>
      rw [htx] at h
      obtain rfl := Option.some.inj h
      rw [owned_dequeueFromUnlinkTx]
  | sendSubmit p | sendUnlink u =>
      rw [htx] at h
      cases sendOk <;> obtain rfl := Option.some.inj h <;> exact List.Perm.refl _
  | freeSubmit =>
      rw [htx] at h
      obtain rfl := Option.some.inj h
      refine List.perm_iff_count.mpr fun m => ?_
      rw [count_owned, count_owned]
      simp only [List.map_nil, List.count_nil, List.count_append]
      omega
  | freeUnlink =>
      rw [htx] at h
      obtain rfl := Option.some.inj h
      exact List.Perm.refl _

end Session

/-! ## Counting replies -/

/-- The seqnum of a RET_SUBMIT. -/
def Ret.submitted {ρ σ : Type} : Ret ρ σ → Option Seqnum
  | .submit n _ => some n
  | .unlink _ => none

def Ret.unlinked {ρ σ : Type} : Ret ρ σ → Option (StubUnlink σ)
  | .submit _ _ => none
  | .unlink u => some u

/-- The seqnum of the RET_SUBMIT being sent. -/
def TxPc.sendingSubmit {ρ σ : Type} : TxPc ρ σ → List Seqnum
  | .sendSubmit p => [p.seqnum]
  | _ => []

/-- The RET_UNLINK being sent. -/
def TxPc.sendingUnlink {ρ σ : Type} : TxPc ρ σ → List (StubUnlink σ)
  | .sendUnlink u => [u]
  | _ => []

namespace Session

variable {ρ σ : Type} {s t : Session ρ σ}

/-- The RET_SUBMITs sent. -/
def retSubmits (s : Session ρ σ) : List Seqnum :=
  s.wire.filterMap Ret.submitted

/-- The RET_UNLINKs sent, being sent or queued. -/
def retUnlinks (s : Session ρ σ) : List (StubUnlink σ) :=
  s.wire.filterMap Ret.unlinked ++ s.tx.sendingUnlink ++ s.unlinkTx

/-- How often request `n` is on `priv_init`, on `priv_tx` or being sent. -/
def unanswered (n : Seqnum) (s : Session ρ σ) : Nat :=
  (s.privInit.map StubPriv.origin).count n + (s.privTx.map StubPriv.seqnum).count n +
    s.tx.sendingSubmit.count n

/-- How often request `n` has been answered: by a RET_SUBMIT of its own, or by the RET_UNLINK of
the unlink that caught it. -/
def answered (n : Seqnum) (s : Session ρ σ) : Nat :=
  s.retSubmits.count n + s.retUnlinks.countP (fun u => u.caught = some n)

/-- How often unlink `u` is under way or answered: as the seqnum of a marked entry, or in a
RET_UNLINK. -/
def settled (u : Seqnum) (s : Session ρ σ) : Nat :=
  s.privInit.countP (fun p => p.unlinking && p.seqnum = u) +
    s.retUnlinks.countP (fun r => r.seqnum = u)

/-- The replies counted by their kind. -/
lemma countP_map_item (q : Seqnum ⊕ StubUnlink σ → Bool) (wire : List (Ret ρ σ)) :
    (wire.map Ret.item).countP q = (wire.filterMap Ret.submitted).countP (fun n => q (.inl n)) +
      (wire.filterMap Ret.unlinked).countP (fun u => q (.inr u)) := by
  induction wire with
  | nil => rfl
  | cons r wire ih =>
      cases r with
      | submit n urb =>
          simp only [List.map_cons, List.filterMap_cons, Ret.item, Ret.submitted, Ret.unlinked,
            List.countP_cons, ih]
          omega
      | unlink u =>
          simp only [List.map_cons, List.filterMap_cons, Ret.item, Ret.submitted, Ret.unlinked,
            List.countP_cons, ih]
          omega

/-- As long as no reply was lost, what was queued is waiting, being sent or sent. -/
lemma countP_items (hlost : ∀ r, s.tx ≠ .stopped (some r)) (q : Seqnum ⊕ StubUnlink σ → Bool) :
    s.drain.items.countP q =
      s.retSubmits.countP (fun n => q (.inl n)) +
      s.tx.sendingSubmit.countP (fun n => q (.inl n)) +
      (s.privTx.map StubPriv.seqnum).countP (fun n => q (.inl n)) +
      s.retUnlinks.countP (fun u => q (.inr u)) := by
  have hhand : s.tx.hand.countP q = s.tx.sendingSubmit.countP (fun n => q (.inl n)) +
      s.tx.sendingUnlink.countP (fun u => q (.inr u)) := by
    cases htx : s.tx with
    | stopped lost =>
        cases lost with
        | none => rfl
        | some r => exact absurd htx (hlost r)
    | _ => simp [TxPc.hand, TxPc.sendingSubmit, TxPc.sendingUnlink]
  have hfirst : ((s.privTx.map StubPriv.seqnum).map Sum.inl).countP q
      = (s.privTx.map StubPriv.seqnum).countP (fun n => q (.inl n)) :=
    List.countP_map
  have hsecond : (s.unlinkTx.map Sum.inr).countP q = s.unlinkTx.countP (fun u => q (.inr u)) :=
    List.countP_map
  simp only [Drain.items, drain, retSubmits, retUnlinks, List.countP_append, countP_map_item,
    hhand, hfirst, hsecond]
  omega

/-- Every submit is under way or answered once, unless its reply was lost. -/
theorem Answered.request (h : s.Answered) (hlost : ∀ r, s.tx ≠ .stopped (some r)) {n : Seqnum}
    (hn : n ∈ s.submits) : s.unanswered n + s.answered n = 1 := by
  have hone := h.sound.one_answer n hn
  have hpend : s.ledger.pending.countP (fun e => e.req = n)
      = (s.privInit.map StubPriv.origin).count n := by
    simp only [ledger, List.count, List.countP_map, Function.comp_def, StubPriv.entry,
      beq_eq_decide]
    rfl
  have hrep : s.ledger.replies.countP (Reply.answers n)
      = s.retSubmits.count n + s.tx.sendingSubmit.count n +
        (s.privTx.map StubPriv.seqnum).count n +
        s.retUnlinks.countP (fun u => u.caught = some n) := by
    show s.queued.countP _ = _
    rw [h.queued_perm.countP_eq, List.countP_map, countP_items hlost]
    have hu : ∀ u : StubUnlink σ,
        (Reply.answers n ∘ itemReply) (.inr u) = decide (u.caught = some n) := by
      intro u
      cases hc : u.caught <;> simp [itemReply, Reply.answers, hc]
    have hn : ∀ m : Seqnum,
        (Reply.answers n ∘ itemReply) (.inl m : Seqnum ⊕ StubUnlink σ) = (m == n) := by
      intro m
      simp [itemReply, Reply.answers, beq_eq_decide]
    simp only [hu, hn, List.count]
  unfold unanswered answered
  omega

/-- Every unlink is settled once, unless its reply was lost. -/
theorem Answered.unlink (h : s.Answered) (hlost : ∀ r, s.tx ≠ .stopped (some r))
    {c : Seqnum × Seqnum} (hc : c ∈ s.unlinks) : s.settled c.1 = 1 := by
  have hone := h.sound.one_settle c hc
  have hpend : s.ledger.pending.countP (Entry.caughtBy c.1)
      = s.privInit.countP (fun p => p.unlinking && p.seqnum = c.1) := by
    simp only [ledger, List.countP_map, Function.comp_def, StubPriv.entry, Entry.caughtBy]
    rfl
  have hrep : s.ledger.replies.countP (Reply.settles c.1)
      = s.retUnlinks.countP (fun r => r.seqnum = c.1) := by
    show s.queued.countP _ = _
    rw [h.queued_perm.countP_eq, List.countP_map, countP_items hlost]
    simp [Function.comp_def, itemReply, Reply.settles]
  unfold settled
  omega

/-- A RET_UNLINK under way is an item of the drain. -/
lemma mem_items_of_mem_retUnlinks {u : StubUnlink σ} (hu : u ∈ s.retUnlinks) :
    .inr u ∈ s.drain.items := by
  simp only [retUnlinks, List.mem_append, List.mem_filterMap] at hu
  simp only [Drain.items, drain, List.mem_append, List.mem_map]
  rcases hu with (⟨r, hr, hru⟩ | hu) | hu
  · cases r with
    | submit n urb => cases hru
    | unlink v =>
        obtain rfl := Option.some.inj hru
        exact Or.inl (Or.inl ⟨_, hr, rfl⟩)
  · cases htx : s.tx <;> simp [htx, TxPc.sendingUnlink] at hu
    subst hu
    simp [TxPc.hand]
  · exact Or.inr (Or.inr ⟨u, hu, rfl⟩)

/-- A RET_UNLINK that caught a request is for an unlink that names it. -/
theorem Answered.caught_named (h : s.Answered) {u : StubUnlink σ} (hu : u ∈ s.retUnlinks)
    {n : Seqnum} (hn : u.caught = some n) : (u.seqnum, n) ∈ s.unlinks := by
  have hitem := mem_items_of_mem_retUnlinks hu
  obtain ⟨t, ht, hm⟩ := h.sound.cancelled_known u.seqnum u.caught (h.mem_queued hitem)
  rw [(hm n hn).1]
  exact ht

end Session

/-! ## The machine -/

variable {s t : State} {a : Action}

/-- The entry that `stub_device_cleanup_urbs` has popped and not yet freed. -/
def EhPc.held : EhPc → List Seqnum
  | .kill p => [p.origin]
  | _ => []

/-- The lists are empty. -/
structure Session.Empty {ρ σ : Type} (s : Session ρ σ) : Prop where
  privInit : s.privInit = []
  privTx : s.privTx = []
  privFree : s.privFree = []
  unlinkTx : s.unlinkTx = []
  unlinkFree : s.unlinkFree = []

/-- Popping a record takes it from those owned. -/
lemma stubPrivPop_some {lists lists' : Session UrbResult (BitVec 32)} {p : StubPriv UrbResult}
    (h : stubPrivPop lists = some (p, lists')) :
    lists.owned.Perm (lists'.owned ++ [p.origin]) := by
  refine List.perm_iff_count.mpr fun n => ?_
  rw [List.count_append, Session.count_owned, Session.count_owned, List.count_singleton]
  unfold stubPrivPop at h
  split at h <;> cases h <;> rename_i hl
  · simp only [hl, List.map_cons, List.count_cons]
    omega
  · simp only [hl, List.map_cons, List.count_cons]
    omega
  · simp only [hl, List.map_cons, List.count_cons]
    omega

/-- Nothing is popped when the lists are empty. -/
lemma stubPrivPop_none {lists : Session UrbResult (BitVec 32)} (h : stubPrivPop lists = none) :
    lists.privInit = [] ∧ lists.privTx = [] ∧ lists.privFree = [] := by
  unfold stubPrivPop at h
  split at h
  · cases h
  · cases h
  · cases h
  · rename_i hinit htx hfree
    exact ⟨hinit, htx, hfree⟩

/-- The entries of the requests received: linked, popped or freed. -/
def State.entries (s : State) : List Seqnum :=
  s.lists.owned ++ s.eh.held

/-- A completion leaves the submits that were read. -/
lemma submits_stubComplete {lists lists' : Session UrbResult (BitVec 32)} {n : Seqnum}
    {r : UrbResult} {st : BitVec 32} (h : lists.stubComplete n r st = some lists') :
    lists'.submits = lists.submits :=
  congrArg Ledger.reqs (Session.ledger_stubComplete h) |>.trans (by
    unfold Ledger.finish
    split <;> rfl)

/-- A step loses no entry, and adds one only for a CMD_SUBMIT received. -/
lemma entries_of_step (hst : step s a = some t) :
    ∃ new, t.entries.Perm (s.entries ++ new) ∧ t.lists.submits = s.lists.submits ++ new := by
  have hsame : t.eh.held = s.eh.held → t.lists.owned.Perm s.lists.owned →
      t.lists.submits = s.lists.submits → ∃ new, t.entries.Perm (s.entries ++ new) ∧
        t.lists.submits = s.lists.submits ++ new := by
    intro hheld howned hsub
    refine ⟨[], ?_, by simpa using hsub⟩
    rw [List.append_nil, State.entries, hheld]
    exact howned.append_right _
  cases moves_of_step hst with
  | eventAdd | rxTop | rxFail | rxSubmitUrb | rxSubmitFail | ignored | txTop =>
      exact hsame rfl (List.Perm.refl _) rfl
  | @rxCmdSubmit n _ =>
      refine ⟨[n], ?_, rfl⟩
      refine ((Session.owned_stubPrivAlloc n).append_right _).trans ?_
      simp only [State.entries, List.append_assoc]
      exact List.Perm.append_left _ List.perm_append_comm
  | @rxCmdUnlink u n _ =>
      refine hsame rfl ?_ ?_
      · rw [Session.owned_stubRecvCmdUnlink]
      · exact congrArg Ledger.reqs (Session.ledger_stubRecvCmdUnlink 0 u n) |>.trans (by
          unfold Ledger.cancel
          split <;> rfl)
  | complete _ _ hl => exact hsame rfl (Session.owned_stubComplete hl) (submits_stubComplete hl)
  | tx hl =>
      exact hsame rfl (Session.owned_stubTxStep hl)
        (congrArg Ledger.reqs (Session.ledger_stubTxStep hl))
  | ehShutdown he | ehClose he | ehPopped he | ehFreeUnlinks he =>
      exact hsame (by rw [he]; rfl) (List.Perm.refl _) rfl
  | ehPop he hp =>
      refine ⟨[], ?_, ?_⟩
      · have hperm := (stubPrivPop_some hp).symm
        simpa [State.entries, he, EhPc.held] using hperm
      · unfold stubPrivPop at hp
        split at hp <;> cases hp <;> simp
  | ehFree he =>
      refine ⟨[], ?_, by simp⟩
      simp [State.entries, he, EhPc.held, Session.owned]

/-- The seqnums stay distinct. -/
lemma seqnums_of_step (hnodup : s.seqnums.Nodup) (hd : DistinctSeqnums s a)
    (hst : step s a = some t) : t.seqnums.Nodup := by
  have hsame : t.lists.ledger.reqs = s.lists.ledger.reqs →
      t.lists.ledger.cancels = s.lists.ledger.cancels → t.seqnums.Nodup := by
    intro hreqs hcancels
    show (t.lists.ledger.reqs ++ t.lists.ledger.cancels.map Prod.fst).Nodup
    rw [hreqs, hcancels]
    exact hnodup
  generalize hlists : t.lists = lists at hsame
  have heff := step_effect hst
  rw [hlists] at heff
  have hseq : t.seqnums = lists.ledger.numbers := by rw [← hlists]; rfl
  cases heff with
  | keep a => exact hsame rfl rfl
  | alloc hrx =>
      rw [hseq, Session.ledger_stubPrivAlloc]
      exact (Ledger.perm_numbers_accept _ _).nodup_iff.mpr (List.nodup_cons.mpr ⟨hd, hnodup⟩)
  | unlink hrx =>
      rw [hseq, Session.ledger_stubRecvCmdUnlink]
      exact (Ledger.perm_numbers_cancel _ _ _).nodup_iff.mpr (List.nodup_cons.mpr ⟨hd, hnodup⟩)
  | complete _ hl =>
      have hled := Session.ledger_stubComplete hl
      unfold Ledger.finish at hled
      split at hled <;> exact hsame (by rw [hled]) (by rw [hled])
  | txTop htx hpc => exact hsame rfl rfl
  | tx hl =>
      have hled := Session.ledger_stubTxStep hl
      exact hsame (by rw [hled]) (by rw [hled])
  | pop he hp =>
      unfold stubPrivPop at hp
      split at hp <;> cases hp <;> exact hsame rfl rfl
  | free he => exact hsame rfl rfl
  | freeUnlinks he => exact hsame rfl rfl

/-- The thread does not stop on a message it could send. -/
lemma Session.tx_stubTxStep {ρ σ : Type} {s t : Session ρ σ} (h : s.stubTxStep true = some t)
    (r : Ret ρ σ) : t.tx ≠ .stopped (some r) := by
  intro hr
  unfold stubTxStep dequeueFromPrivTx dequeueFromUnlinkTx at h
  cases htx : s.tx with
  | top | stopped => simp [htx] at h
  | submit | unlink =>
      rw [htx, Option.some.injEq] at h
      split at h <;> subst h <;> cases hr
  | sendSubmit | sendUnlink | freeSubmit | freeUnlink =>
      rw [htx] at h
      obtain rfl := Option.some.inj h
      cases hr

/-- No reply was lost because it could not be sent. -/
lemma no_loss_of_step (hloss : ∀ r, s.lists.tx ≠ .stopped (some r)) (hok : a ≠ .tx false)
    (hst : step s a = some t) : ∀ r, t.lists.tx ≠ .stopped (some r) := by
  generalize t.lists = lists, step_effect hst = heff
  cases heff with
  | keep a => exact hloss
  | alloc hrx => exact hloss
  | unlink hrx =>
      unfold Session.stubRecvCmdUnlink
      split <;> exact hloss
  | complete _ hl =>
      obtain ⟨p, -, -, ⟨-, rfl⟩ | ⟨-, rfl⟩⟩ := Session.stubComplete_cases hl <;> exact hloss
  | txTop htx hpc =>
      rintro r rfl
      simp at hpc
  | @tx sendOk lists hl =>
      cases sendOk with
      | false => exact absurd rfl hok
      | true => exact Session.tx_stubTxStep hl
  | pop he hp =>
      unfold stubPrivPop at hp
      split at hp <;> cases hp <;> exact hloss
  | free he => exact hloss
  | freeUnlinks he => exact hloss

/-- What holds of the lists at every moment of a connection. -/
structure OwnInv (s : State) : Prop where
  quiet : Quiet s
  answered : s.tcpSocket = true → s.lists.Answered
  seqnums_nodup : s.seqnums.Nodup
  entries : s.entries.Perm s.lists.submits
  no_loss : ∀ r, s.lists.tx ≠ .stopped (some r)
  cleaned : s.eh = .freeUnlinks → s.lists.privInit = [] ∧ s.lists.privTx = [] ∧ s.lists.privFree = []
  empty : s.eh = .done → s.lists.Empty

/-- Nothing is owned at the start. -/
lemma ownInv_start : OwnInv {} :=
  ⟨quiet_start, fun _ => Session.answered_empty, List.nodup_nil, List.Perm.refl _,
    fun _ h => (by cases h), fun h => (by cases h), fun h => (by cases h)⟩

/-- A step of the event handler. -/
def Action.ofEh : Action → Bool
  | .ehShutdown | .ehClose | .ehPop | .ehFree | .ehFreeUnlinks => true
  | _ => false

/-- Once the socket is closed only the event handler touches the lists. -/
lemma lists_of_closed (hq : Quiet s) (ha : a.ofEh = false) (hst : step s a = some t) :
    t.eh = s.eh ∧ (s.tcpSocket = false → t.lists = s.lists) := by
  constructor
  · cases moves_of_step hst with
    | ehShutdown | ehClose | ehPop | ehPopped | ehFree | ehFreeUnlinks => cases ha
    | _ => rfl
  · intro hs
    obtain ⟨lost, hlost⟩ := hq.tx_stopped hs
    generalize t.lists = lists, step_effect hst = heff
    cases heff with
    | keep a => rfl
    | alloc hrx | unlink hrx => cases (hq.open_of_rx hrx (by simp)).symm.trans hs
    | complete hs' hl => simp [hs'] at hs
    | txTop htx => simp [hlost] at htx
    | tx hl => simp [Session.stubTxStep, hlost] at hl
    | pop | free | freeUnlinks => cases ha

/-- The shutdown leaves `stub_device_cleanup_urbs` when the lists of entries are empty, and ends
when all five are. -/
lemma cleaned_of_step (hi : OwnInv s) (hst : step s a = some t) :
    (t.eh = .freeUnlinks →
      t.lists.privInit = [] ∧ t.lists.privTx = [] ∧ t.lists.privFree = []) ∧
    (t.eh = .done → t.lists.Empty) := by
  by_cases ha : a.ofEh = false
  · obtain ⟨heh, hlists⟩ := lists_of_closed hi.quiet ha hst
    rw [heh]
    refine ⟨fun he => ?_, fun he => ?_⟩
    · rw [hlists (hi.quiet.closed_of_eh (by rw [he]; rfl))]
      exact hi.cleaned he
    · rw [hlists (hi.quiet.closed_of_eh (by rw [he]; rfl))]
      exact hi.empty he
  · cases moves_of_step hst with
    | ehShutdown | ehClose | ehPop | ehFree =>
        exact ⟨fun he => (by cases he), fun he => (by cases he)⟩
    | ehPopped _ hp => exact ⟨fun _ => stubPrivPop_none hp, fun he => (by cases he)⟩
    | ehFreeUnlinks he =>
        obtain ⟨hinit, htx, hfree⟩ := hi.cleaned he
        exact ⟨fun he' => (by cases he'), fun _ => ⟨hinit, htx, hfree, rfl, rfl⟩⟩
    | _ => exact absurd rfl ha

/-- Every step keeps the ownership, when no send fails. -/
theorem OwnInv.step (hi : OwnInv s) (hd : DistinctSeqnums s a) (hn : NamesNoUnlink s a)
    (hok : a ≠ .tx false) (hst : Stub.step s a = some t) : OwnInv t := by
  obtain ⟨hclean, hempty⟩ := cleaned_of_step hi hst
  refine ⟨hi.quiet.step hst, ?_, seqnums_of_step hi.seqnums_nodup hd hst, ?_,
    no_loss_of_step hi.no_loss hok hst, hclean, hempty⟩
  · intro ht
    have hs := tcpSocket_of_step hst ht
    exact answered_of_step hi.quiet (hi.answered hs) hd hn hs hst
  · obtain ⟨new, hperm, hsub⟩ := entries_of_step hst
    rw [hsub]
    exact hperm.trans (hi.entries.append_right new)

/-! ## Entries whose URB is in flight -/

/-- What is assumed of the surroundings: every message can be sent, `stub_recv_cmd_submit` leaves
a URB unsubmitted only with an event (the one exit without one is a failed allocation), and a URB
completes with -ENOENT only in `usb_kill_urb`. -/
def Succeeds (s : State) : Action → Prop
  | .tx sendOk => sendOk = true
  | .rxSubmitFail addsEvent => addsEvent = true
  | .complete n r => r.status = -ENOENT → s.eh.held = [n]
  | _ => True

instance (s : State) (a : Action) : Decidable (Succeeds s a) :=
  match a with
  | .tx sendOk => inferInstanceAs (Decidable (sendOk = true))
  | .rxSubmitFail addsEvent => inferInstanceAs (Decidable (addsEvent = true))
  | .complete n r => inferInstanceAs (Decidable (r.status = -ENOENT → s.eh.held = [n]))
  | .rxCmdSubmit _ | .rxCmdUnlink _ _ | .eventAdd | .rxTop | .rxFail | .rxSubmitUrb | .txTop
  | .ehShutdown | .ehClose | .ehPop | .ehFree | .ehFreeUnlinks => isTrue trivial

/-- The requests on `priv_init`. -/
def State.pending (s : State) : List Seqnum :=
  s.lists.privInit.map StubPriv.origin

/-- While the socket is open, the entries on `priv_init` are those whose URB is in flight, apart
from one that the receiving thread is about to submit or has failed to submit. -/
structure Flying (s : State) : Prop where
  nodup : s.inFlight.Nodup
  known : ∀ n ∈ s.inFlight, n ∈ s.lists.submits
  flying : ∀ n ∈ s.inFlight, n ∈ s.pending
  submitting : ∀ n, s.rx = .submit n → n ∈ s.pending ∧ n ∉ s.inFlight
  at_pdu : s.rx = .pdu → ∀ n ∈ s.pending, n ∈ s.inFlight
  at_top : s.rx = .top → s.event = false → ∀ n ∈ s.pending, n ∈ s.inFlight
  at_submit : ∀ n, s.rx = .submit n → ∀ m ∈ s.pending, m = n ∨ m ∈ s.inFlight
  marked : ∀ p ∈ s.lists.privInit, p.unlinking = true → p.origin ∈ s.inFlight

/-- No URB is in flight at the start. -/
lemma flying_start : Flying {} := by
  constructor <;> simp [State.pending]

/-- Only the lists, the receive thread and the event matter. -/
lemma Flying.congr (hf : Flying s) (hinit : t.lists.privInit = s.lists.privInit)
    (hsub : t.lists.submits = s.lists.submits) (hfl : t.inFlight = s.inFlight)
    (hrx : t.rx = s.rx) (hev : t.event = false → s.event = false) : Flying t := by
  have hpend : t.pending = s.pending := congrArg (List.map StubPriv.origin) hinit
  constructor
  · rw [hfl]
    exact hf.nodup
  · rw [hfl, hsub]
    exact hf.known
  · rw [hfl, hpend]
    exact hf.flying
  · rw [hrx, hfl, hpend]
    exact hf.submitting
  · rw [hrx, hfl, hpend]
    exact hf.at_pdu
  · rw [hrx, hfl, hpend]
    exact fun htop he => hf.at_top htop (hev he)
  · rw [hrx, hfl, hpend]
    exact hf.at_submit
  · rw [hfl, hinit]
    exact hf.marked

/-- An unlink changes no URB in flight. -/
lemma Flying.rxCmdUnlink (hf : Flying s) (hrx : s.rx = .pdu) (u n : Seqnum) :
    Flying { s with lists := s.lists.stubRecvCmdUnlink 0 u n, rx := .top } := by
  have hpend : State.pending { s with lists := s.lists.stubRecvCmdUnlink 0 u n, rx := .top }
      = s.pending := Session.map_origin_stubRecvCmdUnlink 0 u n
  have hsub : (s.lists.stubRecvCmdUnlink 0 u n).submits = s.lists.submits := by
    unfold Session.stubRecvCmdUnlink
    split <;> rfl
  constructor
  · exact hf.nodup
  · rw [hsub]
    exact hf.known
  · rw [hpend]
    exact hf.flying
  · exact fun m hm => (by cases hm)
  · exact fun hm => (by cases hm)
  · rw [hpend]
    exact fun _ _ => hf.at_pdu hrx
  · exact fun m hm => (by cases hm)
  · intro p hp _
    have hmem : p.origin ∈ s.pending := hpend ▸ List.mem_map_of_mem hp
    exact hf.at_pdu hrx _ hmem

/-- A new record waits for its `usb_submit_urb`. -/
lemma Flying.rxCmdSubmit (hf : Flying s) (hrx : s.rx = .pdu) {n : Seqnum}
    (hn : n ∉ s.lists.submits) :
    Flying { s with lists := s.lists.stubPrivAlloc n, rx := .submit n } := by
  have hpend : State.pending { s with lists := s.lists.stubPrivAlloc n, rx := .submit n }
      = s.pending ++ [n] := by
    simp [State.pending, Session.stubPrivAlloc]
  constructor
  · exact hf.nodup
  · exact fun m hm => List.mem_append_left _ (hf.known m hm)
  · rw [hpend]
    exact fun m hm => List.mem_append_left _ (hf.flying m hm)
  · rintro m ⟨⟩
    rw [hpend]
    exact ⟨by simp, fun hm => hn (hf.known n hm)⟩
  · exact fun hm => (by cases hm)
  · exact fun hm => (by cases hm)
  · rintro m ⟨⟩ k hk
    rw [hpend, List.mem_append, List.mem_singleton] at hk
    rcases hk with hk | hk
    · exact Or.inr (hf.at_pdu hrx k hk)
    · exact Or.inl hk
  · intro p hp hm
    rcases List.mem_append.mp hp with hp | hp
    · exact hf.marked p hp hm
    · rw [List.mem_singleton.mp hp] at hm
      cases hm

/-- The record's URB is in flight. -/
lemma Flying.rxSubmitUrb (hf : Flying s) {n : Seqnum} (hrx : s.rx = .submit n)
    (hn : n ∈ s.lists.submits) :
    Flying { s with inFlight := s.inFlight ++ [n], rx := .top } := by
  obtain ⟨hpend, hnot⟩ := hf.submitting n hrx
  constructor
  · rw [List.nodup_append]
    refine ⟨hf.nodup, List.nodup_singleton n, ?_⟩
    rintro a ha b hb rfl
    exact hnot (List.mem_singleton.mp hb ▸ ha)
  · intro m hm
    rcases List.mem_append.mp hm with hm | hm
    · exact hf.known m hm
    · exact List.mem_singleton.mp hm ▸ hn
  · intro m hm
    rcases List.mem_append.mp hm with hm | hm
    · exact hf.flying m hm
    · exact List.mem_singleton.mp hm ▸ hpend
  · exact fun m hm => (by cases hm)
  · exact fun hm => (by cases hm)
  · intro _ _ m hm
    rcases hf.at_submit n hrx m hm with rfl | hm
    · simp
    · exact List.mem_append_left _ hm
  · exact fun m hm => (by cases hm)
  · exact fun p hp hm => List.mem_append_left _ (hf.marked p hp hm)

/-- The URB of entry `n` completes, and the entry leaves `priv_init`. -/
lemma Flying.complete (hf : Flying s) (hnodup : s.pending.Nodup) {n : Seqnum} {r : UrbResult}
    {lists : Session UrbResult (BitVec 32)} (hn : n ∈ s.inFlight)
    (h : s.lists.stubComplete n r r.status = some lists) :
    Flying { s with inFlight := s.inFlight.erase n, lists } := by
  have hsub := submits_stubComplete h
  obtain ⟨p, hfind, hp, hcase⟩ := Session.stubComplete_cases h
  have hinit : lists.privInit = s.lists.privInit.eraseP (fun p => p.origin = n) := by
    rcases hcase with ⟨-, rfl⟩ | ⟨-, rfl⟩ <;> rfl
  have hperm : s.pending.Perm
      (n :: State.pending { s with inFlight := s.inFlight.erase n, lists }) := by
    have hmap := (perm_cons_eraseP_of_find? hfind).map StubPriv.origin
    rw [List.map_cons, hp] at hmap
    show s.pending.Perm (n :: lists.privInit.map StubPriv.origin)
    rw [hinit]
    exact hmap
  have hcons := List.nodup_cons.mp (hperm.nodup_iff.mp hnodup)
  have hne : ∀ m ∈ State.pending { s with inFlight := s.inFlight.erase n, lists },
      m ∈ s.pending ∧ m ≠ n := fun m hm =>
    ⟨hperm.mem_iff.mpr (List.mem_cons_of_mem n hm), fun hmn => hcons.1 (hmn ▸ hm)⟩
  have herase : ∀ {m}, m ≠ n → m ∈ s.inFlight → m ∈ s.inFlight.erase n :=
    fun hmn hm => (List.mem_erase_of_ne hmn).mpr hm
  constructor
  · exact hf.nodup.erase n
  · intro m hm
    rw [hsub]
    exact hf.known m (List.mem_of_mem_erase hm)
  · intro m hm
    have hm' := (hf.nodup.mem_erase_iff).mp hm
    exact (List.mem_cons.mp (hperm.mem_iff.mp (hf.flying m hm'.2))).resolve_left hm'.1
  · intro m hm
    obtain ⟨hpend, hnot⟩ := hf.submitting m hm
    refine ⟨?_, fun he => hnot (List.mem_of_mem_erase he)⟩
    exact (List.mem_cons.mp (hperm.mem_iff.mp hpend)).resolve_left fun hmn => hnot (hmn ▸ hn)
  · exact fun hrx m hm => herase (hne m hm).2 (hf.at_pdu hrx m (hne m hm).1)
  · exact fun hrx he m hm => herase (hne m hm).2 (hf.at_top hrx he m (hne m hm).1)
  · intro k hk m hm
    rcases hf.at_submit k hk m (hne m hm).1 with hmk | hm'
    · exact Or.inl hmk
    · exact Or.inr (herase (hne m hm).2 hm')
  · intro q hq hmark
    have hq' : q.origin ∈ State.pending { s with inFlight := s.inFlight.erase n, lists } :=
      List.mem_map_of_mem hq
    have hqs : q ∈ s.lists.privInit := List.mem_of_mem_eraseP (hinit ▸ hq)
    exact herase (hne _ hq').2 (hf.marked q hqs hmark)

/-- Preserved as long as the socket is open. -/
theorem Flying.step (hf : Flying s) (hi : OwnInv s) (hs : s.tcpSocket = true)
    (ht : t.tcpSocket = true) (hd : DistinctSeqnums s a) (hok : Succeeds s a)
    (hst : Stub.step s a = some t) : Flying t := by
  have hsubmits : s.lists.submits.Nodup := (List.nodup_append.mp hi.seqnums_nodup).1
  have hentries : s.entries.Nodup := hi.entries.nodup_iff.mpr hsubmits
  have hpending : List.Sublist s.pending s.entries := by
    simp only [State.entries, Session.owned, List.map_append, List.append_assoc]
    exact List.sublist_append_left _ _
  have hclosed : ∀ {e}, s.eh = e → e.closed = true → False := fun he hc => by
    simp [hi.quiet.closed_of_eh (he ▸ hc)] at hs
  cases moves_of_step hst with
  | eventAdd => exact hf.congr rfl rfl rfl rfl (fun he => (by cases he))
  | rxTop hrx =>
      cases he : s.event with
      | true =>
          exact ⟨hf.nodup, hf.known, hf.flying, fun m hm => by simp at hm, by simp,
            by simp, fun m hm => by simp at hm, hf.marked⟩
      | false =>
          exact ⟨hf.nodup, hf.known, hf.flying, fun m hm => by simp at hm,
            fun _ => hf.at_top hrx he, by simp, fun m hm => by simp at hm, hf.marked⟩
  | rxFail =>
      exact ⟨hf.nodup, hf.known, hf.flying, fun m hm => (by cases hm), fun hm => (by cases hm),
        fun _ he => (by cases he), fun m hm => (by cases hm), hf.marked⟩
  | @rxCmdUnlink u n hrx => exact hf.rxCmdUnlink hrx u n
  | rxCmdSubmit hrx => exact hf.rxCmdSubmit hrx fun hn => hd (List.mem_append_left _ hn)
  | @rxSubmitUrb n hrx =>
      exact hf.rxSubmitUrb hrx
        (hi.entries.mem_iff.mp (hpending.subset (hf.submitting n hrx).1))
  | @rxSubmitFail _ addsEvent _ =>
      have hok : addsEvent = true := hok
      exact ⟨hf.nodup, hf.known, hf.flying, fun m hm => (by cases hm), fun hm => (by cases hm),
        fun _ he => by simp [hok] at he, fun m hm => (by cases hm), hf.marked⟩
  | @ignored n _ _ hcase =>
      obtain hr | hs' := hcase
      · -- only `usb_kill_urb` completes a URB so, and the socket is closed by then
        have hheld : s.eh.held = [n] := hok hr
        cases he : s.eh with
        | kill p => exact (hclosed he rfl).elim
        | _ => simp [he, EhPc.held] at hheld
      · simp [hs] at hs'
  | complete hn _ hl => exact hf.complete (hentries.sublist hpending) hn hl
  | txTop => exact hf.congr rfl rfl rfl rfl id
  | @tx _ lists hl =>
      have hinit : lists.privInit = s.lists.privInit := by
        unfold Session.stubTxStep Session.dequeueFromPrivTx Session.dequeueFromUnlinkTx at hl
        split at hl <;> (try split at hl) <;> cases hl <;> rfl
      refine hf.congr hinit (congrArg Ledger.reqs (Session.ledger_stubTxStep hl)) rfl rfl ?_
      intro he
      exact (Bool.or_eq_false_iff.mp he).1
  | ehShutdown => exact hf.congr rfl rfl rfl rfl id
  | ehClose => cases ht
  | ehPop he | ehPopped he | ehFree he | ehFreeUnlinks he => exact (hclosed he rfl).elim

/-! ## Every request and every unlink is accounted for -/

/-- On how many of the three lists, counted with repetitions, the `stub_priv` of request `n` is. -/
def Session.linked {ρ σ : Type} (n : Seqnum) (s : Session ρ σ) : Nat :=
  (s.privInit.map StubPriv.origin).count n + (s.privTx.map StubPriv.origin).count n +
    (s.privFree.map StubPriv.origin).count n

/-- `OwnInv`, and `Flying` while the socket is open, hold in every state reached. -/
theorem ownInv_of_reach
    (h : machine.Reach (fun s a => DistinctSeqnums s a ∧ NamesNoUnlink s a ∧ Succeeds s a) t) :
    OwnInv t ∧ (t.tcpSocket = true → Flying t) := by
  refine h.invariant (I := fun t => OwnInv t ∧ (t.tcpSocket = true → Flying t)) ?_ ?_
  · rintro s rfl
    exact ⟨ownInv_start, fun _ => flying_start⟩
  · rintro s a t ⟨hi, hf⟩ ⟨hd, hn, hok⟩ hst
    have hsend : a ≠ .tx false := by
      rintro rfl
      cases hok
    refine ⟨hi.step hd hn hsend hst, fun ht => ?_⟩
    have hs := tcpSocket_of_step hst ht
    exact (hf hs).step hi hs ht hd hok hst

/-- Over any interleaving of receipts, completions, sending and the shutdown: each request has one
`stub_priv`, which is on one of the three lists, or has been popped by `stub_device_cleanup_urbs`,
or has been freed, once; while the socket is open each request is unanswered or answered once, and
each unlink has one marked entry whose URB is in flight or one RET_UNLINK; and the shutdown leaves
the lists empty. -/
theorem requests_accounted
    (h : machine.Reach (fun s a => DistinctSeqnums s a ∧ NamesNoUnlink s a ∧ Succeeds s a) t) :
    (∀ n ∈ t.lists.submits, t.lists.linked n + t.eh.held.count n + t.lists.freed.count n = 1) ∧
    (t.tcpSocket = true →
      (∀ n ∈ t.lists.submits, t.lists.unanswered n + t.lists.answered n = 1) ∧
      (∀ c ∈ t.lists.unlinks, t.lists.settled c.1 = 1) ∧
      (∀ u ∈ t.lists.retUnlinks, ∀ n, u.caught = some n → (u.seqnum, n) ∈ t.lists.unlinks) ∧
      (∀ p ∈ t.lists.privInit, p.unlinking = true → p.origin ∈ t.inFlight)) ∧
    (t.eh = .done → t.lists.Empty) := by
  obtain ⟨hi, hf⟩ := ownInv_of_reach h
  refine ⟨?_, ?_, hi.empty⟩
  · intro n hn
    have hsubmits : t.lists.submits.Nodup := (List.nodup_append.mp hi.seqnums_nodup).1
    have hcount := hi.entries.count_eq n
    rw [State.entries, List.count_append, Session.count_owned,
      List.count_eq_one_of_mem hsubmits hn] at hcount
    unfold Session.linked
    omega
  · intro hs
    have hanswered := hi.answered hs
    exact ⟨fun n hn => hanswered.request hi.no_loss hn,
      fun c hc => hanswered.unlink hi.no_loss hc,
      fun u hu n hn => hanswered.caught_named hu hn, (hf hs).marked⟩

/-- Request 1 is caught by CMD_UNLINK 2, request 3 is answered, and the connection is shut down
after request 4 was submitted. -/
def shutdownRun : List Action :=
  [.rxTop, .rxCmdSubmit 1, .rxSubmitUrb, .rxTop, .rxCmdUnlink 2 1, .complete 1 ⟨-ECONNRESET, 0, []⟩,
   .rxTop, .rxCmdSubmit 3, .rxSubmitUrb, .complete 3 ⟨0, 0, []⟩, .rxTop, .rxCmdSubmit 4,
   .rxSubmitUrb, .txTop, .tx true, .tx true, .tx true, .tx true, .tx true, .tx true, .tx true,
   .tx true, .eventAdd, .rxTop, .txTop, .ehShutdown, .ehClose, .ehPop, .complete 4 ⟨-ENOENT, 0, []⟩,
   .ehFree, .ehPop, .ehFreeUnlinks]

/-- A session with three requests, shut down before their replies. -/
theorem requests_accounted_shutdownRun :
    ∃ t, machine.Reach (fun s a => DistinctSeqnums s a ∧ NamesNoUnlink s a ∧ Succeeds s a) t ∧
      t.eh = .done ∧ t.lists.freed = [1, 3, 4] ∧ t.lists.Empty := by
  have hrun : ∃ t, machine.Reach
      (fun s a => DistinctSeqnums s a ∧ NamesNoUnlink s a ∧ Succeeds s a) t ∧
      t.eh = .done ∧ t.lists.freed = [1, 3, 4] := by
    apply Machine.Reach.of_perform shutdownRun (s := {}) rfl
    exact ⟨_, rfl, by decide⟩
  obtain ⟨t, ht, hdone, hfreed⟩ := hrun
  exact ⟨t, ht, hdone, hfreed, (requests_accounted ht).2.2 hdone⟩

/-- CMD_UNLINK 2 catches request 1, and CMD_UNLINK 3 names 2. -/
def unlinkOfUnlinkRun : List Action :=
  [.rxTop, .rxCmdSubmit 1, .rxSubmitUrb, .rxTop, .rxCmdUnlink 2 1, .rxTop, .rxCmdUnlink 3 2,
   .complete 1 ⟨-ECONNRESET, 0, []⟩]

/-- A connection is shut down with request 1 in flight, up to the pop in
`stub_device_cleanup_urbs`. -/
def poppedRun : List Action :=
  [.rxTop, .rxCmdSubmit 1, .rxSubmitUrb, .eventAdd, .rxTop, .txTop, .ehShutdown, .ehClose, .ehPop]

/-- An unlink whose entry another unlink takes over has neither a marked entry nor a RET_UNLINK;
and a popped entry is on no list while `usb_kill_urb` waits, although it is not yet freed. -/
theorem unlink_of_unlink_is_lost :
    (∃ t, machine.Reach (fun s a => DistinctSeqnums s a ∧ Succeeds s a) t ∧
      t.tcpSocket = true ∧ (2, 1) ∈ t.lists.unlinks ∧ t.lists.settled 2 = 0) ∧
    (∃ t, machine.Reach (fun s a => DistinctSeqnums s a ∧ Succeeds s a) t ∧
      1 ∈ t.lists.submits ∧ t.lists.linked 1 = 0 ∧ t.lists.freed.count 1 = 0) := by
  constructor
  · apply Machine.Reach.of_perform unlinkOfUnlinkRun (s := {}) rfl
    exact ⟨_, rfl, by decide⟩
  · apply Machine.Reach.of_perform poppedRun (s := {}) rfl
    exact ⟨_, rfl, by decide⟩

end Usbip.Stub
