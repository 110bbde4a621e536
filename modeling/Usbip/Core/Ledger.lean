import Usbip.Core.Lists
import Usbip.Core.Log

/-!
# The request ledger

What a server with cancellable requests owes its client, independently of the lists and threads
it uses.  A request is pending until it is answered; a cancel that finds its target pending takes
the request over, and the answer then names the cancel; a cancel that does not find it is
answered at once.

* `Ledger.Sound`: every request has exactly one pending entry or exactly one answer, and every
  cancel has exactly one entry it took over or exactly one answer.
* `Ledger.Ordered`: the answer to a request is never issued after the answer to a cancel that
  named it.

Both are preserved by the three operations (`accept`, `cancel`, `finish`) as long as numbers are
not reused and a cancel does not name another cancel.
-/

namespace Usbip.Core

variable {ι : Type*} [DecidableEq ι]

/-- A request that has not been answered. -/
structure Entry (ι : Type*) where
  /-- The number the request arrived with. -/
  req : ι
  /-- The number it is looked up under and will be answered with. -/
  key : ι
  /-- Whether a cancel has taken it over. -/
  caught : Bool
  deriving DecidableEq

/-- An answer. -/
inductive Reply (ι : Type*)
  /-- The answer to request `n`. -/
  | done (n : ι)
  /-- The answer to cancel `u`, together with the request it took over, if any. -/
  | cancelled (u : ι) (caught : Option ι)
  deriving DecidableEq

namespace Reply

/-- The reply is the one request `n` gets. -/
def answers (n : ι) : Reply ι → Bool
  | done m => m = n
  | cancelled _ (some m) => m = n
  | cancelled _ none => false

/-- The reply is the one cancel `u` gets. -/
def settles (u : ι) : Reply ι → Bool
  | done _ => false
  | cancelled v _ => v = u

end Reply

/-- The answer an entry gets when it finishes. -/
def Entry.reply (e : Entry ι) : Reply ι :=
  if e.caught then .cancelled e.key (some e.req) else .done e.req

/-- The entry has been taken over by cancel `u`. -/
def Entry.caughtBy (u : ι) (e : Entry ι) : Bool :=
  e.caught && e.key = u

/-- Cancel `u` takes over an entry. -/
def Entry.catch (u : ι) (e : Entry ι) : Entry ι :=
  { e with key := u, caught := true }

/-- Requests and cancels received so far, requests pending, and answers issued, in order. -/
structure Ledger (ι : Type*) where
  pending : List (Entry ι) := []
  replies : List (Reply ι) := []
  /-- Requests accepted. -/
  reqs : List ι := []
  /-- Cancels received, with the number each one names. -/
  cancels : List (ι × ι) := []

namespace Ledger

/-- A request arrives. -/
def accept (n : ι) (L : Ledger ι) : Ledger ι :=
  { L with pending := L.pending ++ [⟨n, n, false⟩], reqs := L.reqs ++ [n] }

/-- Cancel `u` arrives and names `t`: it takes over the first entry under that number, or is
answered at once. -/
def cancel (u t : ι) (L : Ledger ι) : Ledger ι :=
  match updateFirst (fun e => e.key = t) (Entry.catch u) L.pending with
  | some p => { L with pending := p, cancels := L.cancels ++ [(u, t)] }
  | none =>
      { L with replies := L.replies ++ [.cancelled u none], cancels := L.cancels ++ [(u, t)] }

/-- The pending entry of request `n` is answered and removed. -/
def finish (n : ι) (L : Ledger ι) : Ledger ι :=
  match L.pending.find? (fun e => e.req = n) with
  | some e =>
      { L with
        pending := L.pending.eraseP (fun e => e.req = n)
        replies := L.replies ++ [e.reply] }
  | none => L

/-- Every number received, of requests and of cancels. -/
def numbers (L : Ledger ι) : List ι :=
  L.reqs ++ L.cancels.map Prod.fst

/-! ## Exactly one answer -/

/-- Every request and every cancel is accounted for exactly once. -/
structure Sound (L : Ledger ι) : Prop where
  numbers_nodup : L.numbers.Nodup
  pending_req : ∀ e ∈ L.pending, e.req ∈ L.reqs
  pending_key : ∀ e ∈ L.pending, e.caught = false → e.key = e.req
  pending_caught : ∀ e ∈ L.pending, e.caught = true → (e.key, e.req) ∈ L.cancels
  done_known : ∀ n, Reply.done n ∈ L.replies → n ∈ L.reqs
  cancelled_known : ∀ u c, Reply.cancelled u c ∈ L.replies → ∃ t, (u, t) ∈ L.cancels ∧
    ∀ m, c = some m → m = t ∧ m ∈ L.reqs
  one_answer : ∀ n ∈ L.reqs,
    L.pending.countP (fun e => e.req = n) + L.replies.countP (Reply.answers n) = 1
  one_settle : ∀ c ∈ L.cancels,
    L.pending.countP (Entry.caughtBy c.1) + L.replies.countP (Reply.settles c.1) = 1

/-- Nothing was requested and nothing is pending. -/
lemma sound_empty : Sound ({} : Ledger ι) := by
  constructor <;> simp [numbers]

variable {L : Ledger ι}

/-- A number that was not requested is not pending. -/
lemma Sound.pending_countP_req_eq_zero (h : L.Sound) {n : ι} (hn : n ∉ L.reqs) :
    L.pending.countP (fun e => e.req = n) = 0 := by
  rw [List.countP_eq_zero]
  intro e he hreq
  exact hn (by simpa [← of_decide_eq_true hreq] using h.pending_req e he)

/-- A number that was not requested is not answered. -/
lemma Sound.replies_countP_answers_eq_zero (h : L.Sound) {n : ι} (hn : n ∉ L.reqs) :
    L.replies.countP (Reply.answers n) = 0 := by
  rw [List.countP_eq_zero]
  intro r hr hans
  cases r with
  | done m =>
      have hm : m = n := by simpa [Reply.answers] using hans
      exact hn (hm ▸ h.done_known m hr)
  | cancelled u c =>
      cases c with
      | none => simp [Reply.answers] at hans
      | some m =>
          have hm : m = n := by simpa [Reply.answers] using hans
          obtain ⟨t, -, ht⟩ := h.cancelled_known u _ hr
          exact hn (hm ▸ (ht m rfl).2)

/-- A cancel that was not received has caught nothing. -/
lemma Sound.pending_countP_caughtBy_eq_zero (h : L.Sound) {u : ι}
    (hu : u ∉ L.cancels.map Prod.fst) : L.pending.countP (Entry.caughtBy u) = 0 := by
  rw [List.countP_eq_zero]
  intro e he hc
  simp only [Entry.caughtBy, Bool.and_eq_true, decide_eq_true_eq] at hc
  exact hu (List.mem_map.mpr ⟨_, h.pending_caught e he hc.1, hc.2⟩)

/-- A cancel that was not received is not settled. -/
lemma Sound.replies_countP_settles_eq_zero (h : L.Sound) {u : ι}
    (hu : u ∉ L.cancels.map Prod.fst) : L.replies.countP (Reply.settles u) = 0 := by
  rw [List.countP_eq_zero]
  intro r hr hset
  cases r with
  | done m => simp [Reply.settles] at hset
  | cancelled v c =>
      have hv : v = u := by simpa [Reply.settles] using hset
      obtain ⟨t, ht, -⟩ := h.cancelled_known v c hr
      exact hu (List.mem_map.mpr ⟨_, ht, hv⟩)

omit [DecidableEq ι] in
/-- A number that is new is not that of a request. -/
lemma not_mem_reqs_of_not_mem_numbers {n : ι} (hn : n ∉ L.numbers) : n ∉ L.reqs :=
  fun h => hn (List.mem_append_left _ h)

omit [DecidableEq ι] in
/-- A number that is new is not that of a cancel. -/
lemma not_mem_cancels_of_not_mem_numbers {n : ι} (hn : n ∉ L.numbers) :
    n ∉ L.cancels.map Prod.fst :=
  fun h => hn (List.mem_append_right _ h)

omit [DecidableEq ι] in
/-- A request takes a number. -/
lemma perm_numbers_accept (n : ι) (L : Ledger ι) : (L.accept n).numbers.Perm (n :: L.numbers) := by
  simp only [Ledger.accept, numbers, List.append_assoc, List.singleton_append]
  exact List.perm_middle

/-- Accepting a request under a new number. -/
theorem Sound.accept (h : L.Sound) {n : ι} (hn : n ∉ L.numbers) : (L.accept n).Sound := by
  have hreq := not_mem_reqs_of_not_mem_numbers hn
  have hcan := not_mem_cancels_of_not_mem_numbers hn
  constructor
  case numbers_nodup =>
    exact (perm_numbers_accept n L).nodup_iff.mpr (List.nodup_cons.mpr ⟨hn, h.numbers_nodup⟩)
  case pending_req =>
    intro e he
    simp only [Ledger.accept, List.mem_append, List.mem_singleton] at he ⊢
    rcases he with he | rfl
    · exact Or.inl (h.pending_req e he)
    · exact Or.inr rfl
  case pending_key =>
    intro e he hc
    simp only [Ledger.accept, List.mem_append, List.mem_singleton] at he
    rcases he with he | rfl
    · exact h.pending_key e he hc
    · rfl
  case pending_caught =>
    intro e he hc
    simp only [Ledger.accept, List.mem_append, List.mem_singleton] at he
    rcases he with he | rfl
    · exact h.pending_caught e he hc
    · cases hc
  case done_known =>
    intro m hm
    exact List.mem_append_left _ (h.done_known m hm)
  case cancelled_known =>
    intro u c hc
    obtain ⟨t, ht, hm⟩ := h.cancelled_known u c hc
    exact ⟨t, ht, fun m hcm => ⟨(hm m hcm).1, List.mem_append_left _ (hm m hcm).2⟩⟩
  case one_answer =>
    intro m hm
    simp only [Ledger.accept, List.mem_append, List.mem_singleton] at hm
    simp only [Ledger.accept, List.countP_append, List.countP_cons, List.countP_nil,
      decide_eq_true_eq]
    by_cases hmn : n = m
    · subst hmn
      have h₁ := h.pending_countP_req_eq_zero hreq
      have h₂ := h.replies_countP_answers_eq_zero hreq
      simp [h₁, h₂]
    · have hm' : m ∈ L.reqs := hm.resolve_right (Ne.symm hmn)
      simpa [hmn] using h.one_answer m hm'
  case one_settle =>
    intro c hc
    have hold := h.one_settle c hc
    simpa [Ledger.accept, Entry.caughtBy] using hold

/-- A cancel takes a number. -/
lemma perm_numbers_cancel (u t : ι) (L : Ledger ι) :
    (L.cancel u t).numbers.Perm (u :: L.numbers) := by
  unfold Ledger.cancel
  have hperm : (L.reqs ++ (L.cancels ++ [(u, t)]).map Prod.fst).Perm (u :: L.numbers) := by
    simp only [numbers, List.map_append, List.map_cons, List.map_nil, ← List.append_assoc]
    exact List.perm_append_singleton _ _
  split <;> exact hperm

/-- A cancel under a new number that does not name another cancel. -/
theorem Sound.cancel (h : L.Sound) {u t : ι} (hu : u ∉ L.numbers)
    (ht : t ∉ L.cancels.map Prod.fst) : (L.cancel u t).Sound := by
  have hreq := not_mem_reqs_of_not_mem_numbers hu
  have hcan := not_mem_cancels_of_not_mem_numbers hu
  have hnodup : (L.cancel u t).numbers.Nodup :=
    (perm_numbers_cancel u t L).nodup_iff.mpr (List.nodup_cons.mpr ⟨hu, h.numbers_nodup⟩)
  have hne : ∀ c ∈ L.cancels, c.1 ≠ u := fun c hc hcu =>
    hcan (List.mem_map.mpr ⟨c, hc, hcu⟩)
  cases hup : updateFirst (fun e => e.key = t) (Entry.catch u) L.pending with
  | none =>
      have hL : L.cancel u t = { L with
          replies := L.replies ++ [.cancelled u none], cancels := L.cancels ++ [(u, t)] } := by
        simp only [Ledger.cancel, hup]
      rw [hL] at hnodup ⊢
      refine ⟨hnodup, h.pending_req, h.pending_key, ?_, ?_, ?_, ?_, ?_⟩
      · exact fun e he hc => List.mem_append_left _ (h.pending_caught e he hc)
      · intro n hn
        exact h.done_known n (by simpa using hn)
      · intro v c hc
        simp only [List.mem_append, List.mem_singleton, Reply.cancelled.injEq] at hc
        rcases hc with hc | ⟨rfl, rfl⟩
        · obtain ⟨s, hs, hm⟩ := h.cancelled_known v c hc
          exact ⟨s, List.mem_append_left _ hs, hm⟩
        · exact ⟨t, by simp, by simp⟩
      · intro n hn
        simpa [Reply.answers] using h.one_answer n hn
      · intro c hc
        simp only [List.mem_append, List.mem_singleton] at hc
        rcases hc with hc | rfl
        · simpa [Reply.settles, Ne.symm (hne c hc)] using h.one_settle c hc
        · have h₁ := h.pending_countP_caughtBy_eq_zero hcan
          have h₂ := h.replies_countP_settles_eq_zero hcan
          simp [h₁, h₂, Reply.settles]
  | some p =>
      have hL : L.cancel u t = { L with pending := p, cancels := L.cancels ++ [(u, t)] } := by
        simp only [Ledger.cancel, hup]
      obtain ⟨l₁, e, l₂, hpend, hkey, -, hp⟩ := updateFirst_eq_some hup
      have hkey : e.key = t := of_decide_eq_true hkey
      have he : e ∈ L.pending := by simp [hpend]
      -- the entry is free: had a cancel caught it, its key would be the number of that cancel
      have hfree : e.caught = false := by
        by_contra hc
        exact ht (List.mem_map.mpr
          ⟨_, h.pending_caught e he (by simpa using hc), hkey⟩)
      have hreqt : e.req = t := (h.pending_key e he hfree).symm.trans hkey
      have hmem : ∀ x, x ∈ p ↔ x ∈ l₁ ∨ x = e.catch u ∨ x ∈ l₂ := by simp [hp]
      have hold : ∀ x, x ∈ l₁ ∨ x ∈ l₂ → x ∈ L.pending := by
        rintro x (hx | hx) <;> simp [hpend, hx]
      have hcases : ∀ x ∈ p, x = e.catch u ∨ x ∈ L.pending := by
        intro x hx
        rcases (hmem x).mp hx with hx | hx | hx
        · exact Or.inr (hold x (Or.inl hx))
        · exact Or.inl hx
        · exact Or.inr (hold x (Or.inr hx))
      rw [hL] at hnodup ⊢
      refine ⟨hnodup, ?_, ?_, ?_, h.done_known, ?_, ?_, ?_⟩
      · intro x hx
        rcases hcases x hx with rfl | hx
        · exact h.pending_req e he
        · exact h.pending_req x hx
      · intro x hx hc
        rcases hcases x hx with rfl | hx
        · cases hc
        · exact h.pending_key x hx hc
      · intro x hx hc
        rcases hcases x hx with rfl | hx
        · simp [Entry.catch, hreqt]
        · exact List.mem_append_left _ (h.pending_caught x hx hc)
      · intro v c hc
        obtain ⟨s, hs, hm⟩ := h.cancelled_known v c hc
        exact ⟨s, List.mem_append_left _ hs, hm⟩
      · intro n hn
        have hold := h.one_answer n hn
        simpa [hp, hpend, Entry.catch, List.countP_cons] using hold
      · intro c hc
        simp only [List.mem_append, List.mem_singleton] at hc
        rcases hc with hc | rfl
        · have hold := h.one_settle c hc
          simpa [hp, hpend, Entry.caughtBy, Entry.catch, hfree, Ne.symm (hne c hc)] using hold
        · have h₁ := h.pending_countP_caughtBy_eq_zero hcan
          have h₂ := h.replies_countP_settles_eq_zero hcan
          simp only [hpend, List.countP_append, List.countP_cons, Nat.add_eq_zero_iff] at h₁
          simp [hp, h₁.1, h₁.2.1, h₂, Entry.caughtBy, Entry.catch]

/-- Answering a pending entry. -/
theorem Sound.finish (h : L.Sound) (n : ι) : (L.finish n).Sound := by
  cases hf : L.pending.find? (fun e => e.req = n) with
  | none => simpa [Ledger.finish, hf] using h
  | some e =>
      have hL : L.finish n = { L with
          pending := L.pending.eraseP (fun e => e.req = n)
          replies := L.replies ++ [e.reply] } := by
        simp only [Ledger.finish, hf]
      have he : e ∈ L.pending := List.mem_of_find?_eq_some hf
      have hsub : ∀ x ∈ L.pending.eraseP (fun e => e.req = n), x ∈ L.pending :=
        fun x hx => (mem_iff_of_find? hf).mpr (Or.inr hx)
      rw [hL]
      refine ⟨h.numbers_nodup, fun x hx => h.pending_req x (hsub x hx),
        fun x hx => h.pending_key x (hsub x hx), fun x hx => h.pending_caught x (hsub x hx),
        ?_, ?_, ?_, ?_⟩
      · intro m hm
        simp only [List.mem_append, List.mem_singleton] at hm
        rcases hm with hm | hm
        · exact h.done_known m hm
        · cases hc : e.caught
          · have : m = e.req := by simpa [Entry.reply, hc] using hm
            exact this ▸ h.pending_req e he
          · simp [Entry.reply, hc] at hm
      · intro v c hvc
        simp only [List.mem_append, List.mem_singleton] at hvc
        rcases hvc with hvc | hvc
        · exact h.cancelled_known v c hvc
        · cases hc : e.caught
          · simp [Entry.reply, hc] at hvc
          · have hvc : v = e.key ∧ c = some e.req := by simpa [Entry.reply, hc] using hvc
            refine ⟨e.req, hvc.1 ▸ h.pending_caught e he hc, ?_⟩
            intro m hm
            have : e.req = m := by simpa [hvc.2] using hm
            exact ⟨this.symm, this ▸ h.pending_req e he⟩
      · intro m hm
        have hold := h.one_answer m hm
        rw [countP_of_find? hf] at hold
        have hans : Reply.answers m e.reply = decide (e.req = m) := by
          cases hc : e.caught <;> simp [Entry.reply, hc, Reply.answers]
        simp only [List.countP_append, List.countP_singleton, hans]
        omega
      · intro c hc
        have hold := h.one_settle c hc
        rw [countP_of_find? hf] at hold
        have hset : Reply.settles c.1 e.reply = Entry.caughtBy c.1 e := by
          cases hcc : e.caught <;> simp [Entry.reply, hcc, Reply.settles, Entry.caughtBy]
        simp only [List.countP_append, List.countP_singleton, hset]
        omega

/-- A pending request has not been answered. -/
lemma Sound.done_not_mem (h : L.Sound) {e : Entry ι} (he : e ∈ L.pending) :
    Reply.done e.req ∉ L.replies := by
  intro hdone
  have hpend : 0 < L.pending.countP (fun x => x.req = e.req) :=
    List.countP_pos_iff.mpr ⟨e, he, by simp⟩
  have hrep : 0 < L.replies.countP (Reply.answers e.req) :=
    List.countP_pos_iff.mpr ⟨_, hdone, by simp [Reply.answers]⟩
  have hone := h.one_answer e.req (h.pending_req e he)
  omega

/-! ## The order of the answers -/

/-- No cancel names a request before it has arrived, and the answer to a request comes before
the answers to the cancels that named it. -/
structure Ordered (L : Ledger ι) : Prop where
  named : ∀ c ∈ L.cancels, c.2 ∈ L.reqs
  order : Justified (fun pre r => ∀ n, r = Reply.done n → ∀ u, (u, n) ∈ L.cancels →
    ∀ c, Reply.cancelled u c ∉ pre) L.replies
  settled : ∀ u n c, (u, n) ∈ L.cancels → Reply.cancelled u c ∈ L.replies →
    ∀ e ∈ L.pending, e.req = n → e.caught = true

omit [DecidableEq ι] in
/-- Nothing is out of order at the start. -/
lemma ordered_empty : Ordered ({} : Ledger ι) := by
  refine ⟨by simp, justified_nil _, by simp⟩

omit [DecidableEq ι] in
/-- A cancel number stands for one target. -/
lemma target_unique (hnodup : L.numbers.Nodup) {u t t' : ι} (ht : (u, t) ∈ L.cancels)
    (ht' : (u, t') ∈ L.cancels) : t = t' := by
  have hc : (L.cancels.map Prod.fst).Nodup := (List.nodup_append.mp hnodup).2.1
  exact congrArg Prod.snd (eq_of_nodup_map hc ht ht' rfl)

omit [DecidableEq ι] in
/-- A new request keeps the order. -/
theorem Ordered.accept (ho : L.Ordered) {n : ι} (hn : n ∉ L.numbers) :
    (L.accept n).Ordered := by
  have hreq := not_mem_reqs_of_not_mem_numbers hn
  refine ⟨fun c hc => List.mem_append_left _ (ho.named c hc), ho.order, ?_⟩
  intro u m c hm hc e he hem
  simp only [Ledger.accept, List.mem_append, List.mem_singleton] at he
  rcases he with he | rfl
  · exact ho.settled u m c hm hc e he hem
  · exact absurd (ho.named _ hm) (by simpa [← hem] using hreq)

/-- A new cancel keeps the order. -/
theorem Ordered.cancel (ho : L.Ordered) (h : L.Sound) {u t : ι} (hu : u ∉ L.numbers)
    (ht : t ∈ L.reqs) : (L.cancel u t).Ordered := by
  have hcan := not_mem_cancels_of_not_mem_numbers hu
  have hnew : ∀ c, Reply.cancelled u c ∉ L.replies := fun c hc => by
    obtain ⟨s, hs, -⟩ := h.cancelled_known u c hc
    exact hcan (List.mem_map.mpr ⟨_, hs, rfl⟩)
  -- the cancel is new, so it weakens no obligation of the answers issued so far
  have horder : Justified (fun pre r => ∀ n, r = Reply.done n → ∀ v,
      (v, n) ∈ L.cancels ++ [(u, t)] → ∀ c, Reply.cancelled v c ∉ pre) L.replies := by
    refine ho.order.imp ?_
    rintro pre r ⟨post, hpost⟩ hJ n hr v hv c hc
    rcases List.mem_append.mp hv with hv | hv
    · exact hJ n hr v hv c hc
    · obtain ⟨rfl, -⟩ : v = u ∧ n = t := by simpa using hv
      exact hnew c (hpost ▸ List.mem_append_left _ hc)
  have hnamed : ∀ c ∈ L.cancels ++ [(u, t)], c.2 ∈ L.reqs := by
    intro c hc
    rcases List.mem_append.mp hc with hc | hc
    · exact ho.named c hc
    · obtain rfl : c = (u, t) := by simpa using hc
      exact ht
  cases hup : updateFirst (fun e => e.key = t) (Entry.catch u) L.pending with
  | none =>
      have hL : L.cancel u t = { L with
          replies := L.replies ++ [.cancelled u none], cancels := L.cancels ++ [(u, t)] } := by
        simp only [Ledger.cancel, hup]
      rw [hL]
      refine ⟨hnamed, justified_snoc.mpr ⟨horder, fun n hr => by cases hr⟩, ?_⟩
      intro v m c hv hc e he hem
      by_contra hfree
      have hfree : e.caught = false := by simpa using hfree
      simp only [List.mem_append, List.mem_singleton, Reply.cancelled.injEq, Prod.mk.injEq]
        at hv hc
      rcases hc with hc | ⟨rfl, -⟩
      · rcases hv with hv | ⟨rfl, -⟩
        · simp [ho.settled v m c hv hc e he hem] at hfree
        · exact hnew c hc
      · rcases hv with hv | ⟨-, rfl⟩
        · exact hcan (List.mem_map.mpr ⟨_, hv, rfl⟩)
        · have hkey := updateFirst_eq_none_iff.mp hup e he
          rw [h.pending_key e he hfree, hem] at hkey
          simp at hkey
  | some p =>
      have hL : L.cancel u t = { L with pending := p, cancels := L.cancels ++ [(u, t)] } := by
        simp only [Ledger.cancel, hup]
      obtain ⟨l₁, e, l₂, hpend, -, -, hp⟩ := updateFirst_eq_some hup
      rw [hL]
      refine ⟨hnamed, horder, ?_⟩
      intro v m c hv hc x hx hxm
      simp only [List.mem_append, List.mem_singleton, Prod.mk.injEq] at hv
      rcases hv with hv | ⟨rfl, -⟩
      · simp only [hp, List.mem_append, List.mem_cons] at hx
        rcases hx with hx | rfl | hx
        · exact ho.settled v m c hv hc x (by simp [hpend, hx]) hxm
        · rfl
        · exact ho.settled v m c hv hc x (by simp [hpend, hx]) hxm
      · exact absurd hc (hnew c)

/-- The request an entry stands for has no other entry. -/
lemma Sound.not_mem_eraseP (h : L.Sound) {n : ι} {e : Entry ι}
    (hf : L.pending.find? (fun e => e.req = n) = some e) :
    ∀ x ∈ L.pending.eraseP (fun e => e.req = n), x.req ≠ n := by
  have hen : e.req = n := by simpa using List.find?_some hf
  have hone := h.one_answer n (hen ▸ h.pending_req e (List.mem_of_find?_eq_some hf))
  rw [countP_of_find? hf, if_pos (by simpa using hen)] at hone
  have hzero : (L.pending.eraseP (fun e => e.req = n)).countP (fun e => e.req = n) = 0 := by
    omega
  intro x hx hxn
  exact List.countP_eq_zero.mp hzero x hx (by simpa using hxn)

/-- A completion keeps the order. -/
theorem Ordered.finish (ho : L.Ordered) (h : L.Sound) (n : ι) : (L.finish n).Ordered := by
  cases hf : L.pending.find? (fun e => e.req = n) with
  | none => simpa [Ledger.finish, hf] using ho
  | some e =>
      have hL : L.finish n = { L with
          pending := L.pending.eraseP (fun e => e.req = n)
          replies := L.replies ++ [e.reply] } := by
        simp only [Ledger.finish, hf]
      have hen : e.req = n := by simpa using List.find?_some hf
      have he : e ∈ L.pending := List.mem_of_find?_eq_some hf
      rw [hL]
      refine ⟨ho.named, justified_snoc.mpr ⟨ho.order, ?_⟩, ?_⟩
      · intro m hm u hu c hc
        cases hcc : e.caught
        · have : e.req = m := by simpa [Entry.reply, hcc] using hm
          simp [ho.settled u m c hu hc e he this] at hcc
        · simp [Entry.reply, hcc] at hm
      · intro u m c hu hc x hx hxm
        have hx' : x ∈ L.pending := (mem_iff_of_find? hf).mpr (Or.inr hx)
        simp only [List.mem_append, List.mem_singleton] at hc
        rcases hc with hc | hc
        · exact ho.settled u m c hu hc x hx' hxm
        · cases hcc : e.caught
          · simp [Entry.reply, hcc] at hc
          · have huk : u = e.key := by
              have : u = e.key ∧ c = some e.req := by simpa [Entry.reply, hcc] using hc
              exact this.1
            have hme : e.req = m := target_unique h.numbers_nodup
              (h.pending_caught e he hcc) (huk ▸ hu)
            exact absurd (hxm.trans (hme.symm.trans hen)) (h.not_mem_eraseP hf x hx)

/-- A cancel that finds nothing to take over, and whose target no other cancel named, comes
after the answer to its target. -/
lemma Sound.done_mem_of_cancel_none (h : L.Sound) {t : ι} (ht : t ∈ L.reqs)
    (hnamed : t ∉ L.cancels.map Prod.snd) (hnone : ∀ e ∈ L.pending, e.key ≠ t) :
    Reply.done t ∈ L.replies := by
  have hzero : L.pending.countP (fun e => e.req = t) = 0 := by
    rw [List.countP_eq_zero]
    intro e he het
    have het : e.req = t := by simpa using het
    cases hc : e.caught
    · exact hnone e he ((h.pending_key e he hc).trans het)
    · exact hnamed (List.mem_map.mpr ⟨_, h.pending_caught e he hc, het⟩)
  have hpos : 0 < L.replies.countP (Reply.answers t) := by
    have := h.one_answer t ht
    omega
  obtain ⟨r, hr, hans⟩ := List.countP_pos_iff.mp hpos
  match r, hans with
  | .done m, hans =>
      have : m = t := by simpa [Reply.answers] using hans
      exact this ▸ hr
  | .cancelled u (some m), hans =>
      have hmt : m = t := by simpa [Reply.answers] using hans
      obtain ⟨s, hs, hm⟩ := h.cancelled_known u _ hr
      exact absurd (List.mem_map.mpr ⟨_, hs, ((hm m rfl).1.symm.trans hmt)⟩) hnamed

end Ledger

end Usbip.Core
