import Usbip.Vudc.FlowSteps

/-!
# The order of the replies of an endpoint

`v_timer` scans one queue for all endpoints, again from its head after each URB that ends.  Within
a scan it works on an endpoint once: the first of its URBs is worked on, or skipped because the
bandwidth is used up, and then so are the others.  `Scan` says this of the URBs in front of the one
`v_timer` has come to, and with it that the one it works on is the first of its endpoint.

The RET_SUBMITs of an endpoint are therefore in the order of the CMD_SUBMITs
(`submits_in_order`), unless the endpoint stops being a bulk endpoint while `v_timer` waits for a
callback, after its first URB was skipped: the second one then is not (`second_urb_first`).
-/

namespace Usbip.Vudc.Flow

open Usbip.Core Usbip.Common

/-! ## What an iteration does -/

section Visit

variable {running : Bool} {total ret : Int} {w : Progress} {ep : Nat → Vep} {p : Urbp}

/-- An iteration that does not skip the `urbp` works on its endpoint for the first time in this
scan, and bandwidth is left for it. -/
structure Worked (total : Int) (ep ep' : Nat → Vep) (i : Nat) : Prop where
  bandwidth : ¬ (total ≤ 0 ∧ (ep i).type = .bulk)
  unseen : (ep i).alreadySeen = false
  seen : (ep' i).alreadySeen = true
  type : (ep' i).type = (ep i).type
  other : ∀ j, j ≠ i → ep' j = ep j

/-- A visit leaves the URB's endpoint. -/
lemma visitUrbp_ep : (Device.visitUrbp running total ret w ep p).2.1.ep = p.ep := by
  unfold Device.visitUrbp
  split
  · rfl
  split
  · rfl
  split
  · rfl
  · rename_i i hep
    dsimp only
    generalize hq : (if i = 0 ∧ p.new = true then _ else p : Urbp) = q
    have hqep : q.ep = p.ep := by
      rw [← hq]
      split <;> rfl
    generalize (if i = 0 ∧ p.new = true then _ else _ : Vep) = e
    split
    · rfl
    split
    · rfl
    split
    · exact hqep
    split
    · split
      · exact hqep
      split <;> exact hqep
    · split <;> exact hqep

/-- Where an iteration leads, and what it says about the endpoint. -/
lemma visitUrbp_cases :
    (p.unlinked ≠ 0 ∧ (Device.visitUrbp running total ret w ep p).2.2 = .returnUrb ∧
        (Device.visitUrbp running total ret w ep p).1 = ep) ∨
    (p.unlinked = 0 ∧ running = false ∧
        (Device.visitUrbp running total ret w ep p).2.2 = .skip ∧
        (Device.visitUrbp running total ret w ep p).1 = ep) ∨
    (p.unlinked = 0 ∧ running = true ∧ p.ep = none ∧
        (Device.visitUrbp running total ret w ep p).2.2 = .returnUrb ∧
        (Device.visitUrbp running total ret w ep p).1 = ep) ∨
    ∃ i, p.unlinked = 0 ∧ running = true ∧ p.ep = some i ∧
      ((((ep i).alreadySeen = true ∨ total ≤ 0 ∧ (ep i).type = .bulk) ∧
          (Device.visitUrbp running total ret w ep p).2.2 = .skip ∧
          (Device.visitUrbp running total ret w ep p).1 = ep) ∨
        ((Device.visitUrbp running total ret w ep p).2.2 ≠ .skip ∧
          Worked total ep (Device.visitUrbp running total ret w ep p).1 i)) := by
  unfold Device.visitUrbp
  by_cases hunlinked : p.unlinked = 0
  swap
  · rw [if_pos hunlinked]
    exact Or.inl ⟨hunlinked, rfl, rfl⟩
  rw [if_neg (not_not.mpr hunlinked)]
  right
  cases hrun : running
  · exact Or.inl ⟨hunlinked, rfl, rfl, rfl⟩
  right
  rw [if_neg (by decide)]
  cases hep : p.ep with
  | none => exact Or.inl ⟨hunlinked, rfl, rfl, rfl, rfl⟩
  | some i =>
      refine Or.inr ⟨i, hunlinked, rfl, rfl, ?_⟩
      dsimp only
      by_cases hbulk : total ≤ 0 ∧ (ep i).type = .bulk
      · rw [if_pos hbulk]
        exact Or.inl ⟨Or.inr hbulk, rfl, rfl⟩
      rw [if_neg hbulk]
      cases hseen : (ep i).alreadySeen
      swap
      · exact Or.inl ⟨Or.inl rfl, rfl, rfl⟩
      right
      rw [if_neg (by decide)]
      have hworked : ∀ e : Vep, e.alreadySeen = true → e.type = (ep i).type →
          Worked total ep (Function.update ep i e) i := by
        intro e hs ht
        refine ⟨hbulk, hseen, ?_, ?_, fun j hj => Function.update_of_ne hj _ _⟩
        · rw [Function.update_self]
          exact hs
        · rw [Function.update_self]
          exact ht
      generalize he : (if i = 0 ∧ p.new = true then
        ({ { ep i with alreadySeen := true } with setupStage := true } : Vep)
        else { ep i with alreadySeen := true }) = e
      have heSeen : e.alreadySeen = true := by
        rw [← he]
        split <;> rfl
      have heType : e.type = (ep i).type := by
        rw [← he]
        split <;> rfl
      have hreturn : Device.Next.returnUrb ≠ .skip := by decide
      have hsetup : Device.Next.setup ≠ .skip := by decide
      have htransfer : Device.Next.transfer ≠ .skip := by decide
      split
      · exact ⟨hreturn, hworked e heSeen heType⟩
      split
      · split
        · exact ⟨hsetup, hworked _ heSeen heType⟩
        split
        · exact ⟨htransfer, hworked _ heSeen heType⟩
        · exact ⟨hreturn, hworked _ heSeen heType⟩
      · split
        · exact ⟨hreturn, hworked e heSeen heType⟩
        all_goals exact ⟨htransfer, hworked e heSeen heType⟩

end Visit

/-! ## The queue and the position in it -/

/-- The saved next `urbp`, while `v_timer` works on one. -/
def nextOf : Device.TimerPc → Option Nat
  | .setup _ next _ | .transfer _ next _ | .giveback _ next _ => next
  | .idle | .visit _ _ => none

/-- The variable `total`. -/
def totalOf : Device.TimerPc → Int
  | .idle => 0
  | .visit _ total | .setup _ _ total | .transfer _ _ total | .giveback _ _ total => total

/-- `v_timer` works on a URB. -/
def working : Device.TimerPc → Bool
  | .setup _ _ _ | .transfer _ _ _ | .giveback _ _ _ => true
  | .idle | .visit _ _ => false

variable {i : Nat} {d d' t : Device.State}

/-- The line has the URBs of the queue. -/
lemma map_fst_line (d : Device.State) : (line d).map Prod.fst = d.tickets := by
  rw [line, List.map_map]
  rfl

/-- Where a `urbp` stands. -/
lemma line_of_find? {n : Nat} {p : Device.Allocated}
    (h : d.urbQueue.find? (fun p => p.ticket = n) = some p) :
    ∃ l₁ l₂, line d = l₁ ++ (n, p.ep) :: l₂ ∧
      (d.urbQueue.eraseP (fun p => p.ticket = n)).map (fun p => (p.ticket, p.ep)) = l₁ ++ l₂ := by
  obtain ⟨hp, q₁, q₂, hq, hq₁⟩ := List.find?_eq_some_iff_append.mp h
  have hticket : p.ticket = n := by simpa using hp
  refine ⟨q₁.map fun p => (p.ticket, p.ep), q₂.map fun p => (p.ticket, p.ep), ?_, ?_⟩
  · rw [line, hq, List.map_append, List.map_cons, hticket]
  · have herase : (p :: q₂).eraseP (fun p => p.ticket = n) = q₂ := List.eraseP_cons_of_pos hp
    rw [hq, List.eraseP_append_right _ (by simpa using hq₁), herase, List.map_append]

/-- Writing a URB leaves the line, if it leaves the endpoint. -/
lemma line_writeUrbp {n : Nat} {f : Urbp → Urbp}
    (h : ∀ p ∈ d.urbQueue, p.ticket = n → (f p.toUrbp).ep = p.ep) :
    line (Device.writeUrbp n f d) = line d := by
  show (d.urbQueue.map _).map _ = _
  rw [List.map_map]
  refine List.map_congr_left fun p hp => ?_
  simp only [Function.comp_apply]
  split
  · rename_i hn
    simp only [h p hp hn]
  · rfl

/-- The element after `n` stands right behind it. -/
lemma nextUrbp_split {n m : Nat} {l : List Device.Allocated} (h : Device.nextUrbp n l = some m) :
    ∃ l₁ p q l₂, l = l₁ ++ p :: q :: l₂ ∧ p.ticket = n ∧ q.ticket = m := by
  induction l with
  | nil => cases h
  | cons p rest ih =>
      unfold Device.nextUrbp at h
      split at h
      · rename_i hp
        rw [Option.map_eq_some_iff] at h
        obtain ⟨q, hq, rfl⟩ := h
        obtain ⟨l₂, rfl⟩ := List.head?_eq_some_iff.mp hq
        exact ⟨[], p, q, l₂, rfl, hp, rfl⟩
      · obtain ⟨l₁, p', q, l₂, rfl, hp', hq⟩ := ih h
        exact ⟨p :: l₁, p', q, l₂, rfl, hp', hq⟩

/-- A `urbp` stands in one place. -/
lemma split_unique {l₁ l₂ k₁ k₂ : List (Nat × Option Nat)} {n : Nat} {e e' : Option Nat}
    (hnodup : ((l₁ ++ (n, e) :: l₂).map Prod.fst).Nodup)
    (h : l₁ ++ (n, e) :: l₂ = k₁ ++ (n, e') :: k₂) : l₁ = k₁ ∧ e = e' ∧ l₂ = k₂ := by
  induction l₁ generalizing k₁ with
  | nil =>
      cases k₁ with
      | nil =>
          obtain ⟨he, rfl⟩ := List.cons_eq_cons.mp h
          exact ⟨rfl, (Prod.mk.inj he).2, rfl⟩
      | cons y k₁ =>
          obtain ⟨rfl, rfl⟩ := List.cons_eq_cons.mp h
          simp at hnodup
  | cons x l₁ ih =>
      cases k₁ with
      | nil =>
          obtain ⟨rfl, rfl⟩ := List.cons_eq_cons.mp h
          simp at hnodup
      | cons y k₁ =>
          obtain ⟨rfl, h'⟩ := List.cons_eq_cons.mp h
          obtain ⟨hk, he, hl⟩ := ih (List.nodup_cons.mp hnodup).2 h'
          exact ⟨congrArg _ hk, he, hl⟩

/-- What stands in front of `n`. -/
lemma takeWhile_line {l l₁ l₂ : List (Nat × Option Nat)} {n : Nat} {e : Option Nat}
    (hnodup : (l.map Prod.fst).Nodup) (h : l = l₁ ++ (n, e) :: l₂) :
    l.takeWhile (fun x => x.1 ≠ n) = l₁ := by
  rw [h] at hnodup ⊢
  have hne : ∀ x ∈ l₁, decide (x.1 ≠ n) = true := by
    intro x hx
    rw [List.map_append, List.nodup_append] at hnodup
    simpa using hnodup.2.2 x.1 (List.mem_map_of_mem hx) n (by simp)
  rw [List.takeWhile_append_of_pos hne, List.takeWhile_cons_of_neg (by simp), List.append_nil]

/-! ## The invariant -/

/-- An endpoint whose first URB in this scan was worked on or skipped: the others will be skipped. -/
def Passed (i : Nat) (d : Device.State) : Prop :=
  (d.ep i).alreadySeen = true ∨ totalOf d.timer ≤ 0 ∧ (d.ep i).type = .bulk

/-- What holds of endpoint `i` during a scan. -/
structure Scan (i : Nat) (d : Device.State) : Prop where
  sorted : (d.tickets ++ d.rx.held).Pairwise (· < ·)
  below : ∀ n ∈ d.tickets ++ d.rx.held ++ d.timer.urbps, n < d.allocs
  hand : ∀ n ∈ d.timer.urbps, ∀ k ∈ d.rx.held, n < k
  running : working d.timer = true → d.trState = .running
  /-- In front of the URB that `v_timer` has come to. -/
  passed : d.trState = .running → ∀ n l₁ e l₂, d.timer.cur = some n →
    line d = l₁ ++ (n, e) :: l₂ → ∀ x ∈ l₁, x.2 = some i → Passed i d
  /-- The URB that `v_timer` works on is the first of its endpoint. -/
  first : working d.timer = true → ∀ n l₁ l₂, d.timer.cur = some n →
    line d = l₁ ++ (n, some i) :: l₂ →
      (d.ep i).alreadySeen = true ∧ ∀ x ∈ l₁, x.2 ≠ some i
  /-- The saved next one stands right behind it. -/
  follows : ∀ n m l₁ e l₂, d.timer.cur = some n → nextOf d.timer = some m →
    line d = l₁ ++ (m, e) :: l₂ → ∃ l₀ e₀, l₁ = l₀ ++ [(n, e₀)]

namespace Scan

/-- No URB is queued twice. -/
lemma tickets_nodup (hi : Scan i d) : d.tickets.Nodup :=
  ((List.pairwise_append.mp hi.sorted).1).imp Nat.ne_of_lt

/-- No URB is in the line twice. -/
lemma line_nodup (hi : Scan i d) : ((line d).map Prod.fst).Nodup := by
  rw [map_fst_line]
  exact hi.tickets_nodup

end Scan

/-- A URB other than the last stands before it. -/
lemma split_concat {l l₁ l₂ : List (Nat × Option Nat)} {n k : Nat} {e e' : Option Nat}
    (hne : n ≠ k) (h : l ++ [(k, e')] = l₁ ++ (n, e) :: l₂) : ∃ l₃, l = l₁ ++ (n, e) :: l₃ := by
  rcases List.eq_nil_or_concat l₂ with rfl | ⟨l₃, x, rfl⟩
  · obtain ⟨-, hx⟩ := List.append_inj' h rfl
    exact absurd (Prod.mk.inj (List.cons_eq_cons.mp hx).1).1.symm hne
  · rw [List.concat_eq_append, ← List.cons_append, ← List.append_assoc] at h
    exact ⟨l₃, (List.append_inj' h rfl).1⟩

/-- The timer holds the URB it works on. -/
lemma mem_urbps_of_cur {pc : Device.TimerPc} {n : Nat} (h : pc.cur = some n) : n ∈ pc.urbps := by
  cases pc with
  | idle => cases h
  | visit cur _ =>
      obtain rfl : cur = some n := h
      exact List.mem_singleton_self n
  | setup cur _ _ | transfer cur _ _ | giveback cur _ _ =>
      cases h
      exact List.mem_cons_self

/-- The timer holds the URB it goes on to. -/
lemma mem_urbps_of_next {pc : Device.TimerPc} {n : Nat} (h : nextOf pc = some n) : n ∈ pc.urbps := by
  cases pc with
  | idle | visit => cases h
  | setup _ nx _ | transfer _ nx _ | giveback _ nx _ =>
      obtain rfl : nx = some n := h
      exact List.mem_cons_of_mem _ (List.mem_singleton_self n)

/-- With the lock dropped the timer works on its URB. -/
lemma working_of_unlocked {pc : Device.TimerPc} {n : Nat} (h : pc.unlocked = true)
    (hcur : pc.cur = some n) : working pc = true := by
  cases pc with
  | idle => cases hcur
  | visit | transfer => cases h
  | setup | giveback => rfl

namespace Scan

/-- The steps outside `v_timer` keep the invariant: they queue at the end, or empty the queue. -/
lemma other (hi : Scan i d) (h : Other d t) : Scan i t := by
  have hurbps : t.timer.urbps = d.timer.urbps := by rw [h.timer]
  have hpassed : Passed i d → Passed i t := by
    unfold Passed
    rw [h.timer, h.ep]
    exact id
  -- a place in the new queue of a `urbp` in hand is one in the old queue
  have hplace : ∀ {n l₁ e l₂}, n ∈ d.timer.urbps → line t = l₁ ++ (n, e) :: l₂ →
      ∃ l₃, line d = l₁ ++ (n, e) :: l₃ := by
    intro n l₁ e l₂ hn hline
    rcases h.moves with ⟨hl, -, -⟩ | ⟨hl, -, -⟩ | ⟨k, e', hl, -, hheld, -, -⟩ | ⟨hl, -, -⟩
    · exact ⟨l₂, hl ▸ hline⟩
    · exact ⟨l₂, hl ▸ hline⟩
    · rw [hl] at hline
      refine split_concat ?_ hline
      have hlt := hi.hand n hn k (by rw [hheld]; exact List.mem_singleton_self k)
      omega
    · rw [hl] at hline
      exact absurd hline.symm (List.append_ne_nil_of_right_ne_nil _ (List.cons_ne_nil _ _))
  refine ⟨?_, ?_, ?_, ?_, ?_, ?_, ?_⟩
  · rw [← map_fst_line]
    have hsorted := hi.sorted
    rw [← map_fst_line] at hsorted
    rcases h.moves with ⟨hl, -, hheld | hheld, -⟩ | ⟨hl, -, hheld, -⟩ |
      ⟨k, e, hl, -, hheld, hheld', -⟩ | ⟨hl, -, hheld, -⟩
    · rwa [hl, hheld]
    · rw [hl, hheld, List.append_nil]
      exact (List.pairwise_append.mp hsorted).1
    · rw [hl, hheld]
      refine List.pairwise_append.mpr ⟨(List.pairwise_append.mp hsorted).1,
        List.pairwise_singleton _ _, ?_⟩
      intro n hn k hk
      obtain rfl := List.mem_singleton.mp hk
      refine hi.below n ?_
      rw [← map_fst_line]
      exact List.mem_append_left _ (List.mem_append_left _ hn)
    · rw [hl, hheld', List.append_nil, List.map_append]
      rwa [hheld] at hsorted
    · rw [hl, hheld]
      exact (List.pairwise_append.mp hsorted).2.1
  · intro n hn
    rw [hurbps, List.append_assoc, List.mem_append, List.mem_append, ← map_fst_line] at hn
    have hbelow : ∀ n, n ∈ (line d).map Prod.fst ∨ n ∈ d.rx.held ∨ n ∈ d.timer.urbps →
        n < d.allocs := by
      intro n hn
      refine hi.below n ?_
      rwa [List.append_assoc, List.mem_append, List.mem_append, ← map_fst_line]
    rcases h.moves with ⟨hl, -, hheld | hheld, ha⟩ | ⟨hl, -, hheld, ha⟩ |
      ⟨k, e, hl, -, hheld, hheld', ha, -⟩ | ⟨hl, -, hheld, ha, -⟩
    · exact Nat.lt_of_lt_of_le (hbelow n (by rwa [hl, hheld] at hn)) ha
    · rw [hl, hheld] at hn
      exact Nat.lt_of_lt_of_le
        (hbelow n (hn.imp id fun hn => Or.inr (hn.resolve_left List.not_mem_nil))) ha
    · rw [ha]
      rw [hl, hheld] at hn
      rcases hn with hn | hn | hn
      · exact Nat.lt_succ_of_lt (hbelow n (Or.inl hn))
      · obtain rfl := List.mem_singleton.mp hn
        exact Nat.lt_succ_self _
      · exact Nat.lt_succ_of_lt (hbelow n (Or.inr (Or.inr hn)))
    · rw [ha]
      rw [hl, hheld', List.map_append, List.mem_append] at hn
      rcases hn with (hn | hn) | hn | hn
      · exact hbelow n (Or.inl hn)
      · exact hbelow n (Or.inr (Or.inl (hheld ▸ hn)))
      · exact absurd hn List.not_mem_nil
      · exact hbelow n (Or.inr (Or.inr hn))
    · rw [ha]
      rw [hl, hheld] at hn
      exact hbelow n (hn.imp (fun hn => absurd hn List.not_mem_nil) id)
  · intro n hn k hk
    rw [hurbps] at hn
    rcases h.moves with ⟨-, -, hheld | hheld, -⟩ | ⟨-, -, hheld, -⟩ |
      ⟨_, _, -, -, -, hheld, -⟩ | ⟨-, -, hheld, -⟩
    · exact hi.hand n hn k (hheld ▸ hk)
    · rw [hheld] at hk
      exact absurd hk List.not_mem_nil
    · rw [hheld] at hk
      obtain rfl := List.mem_singleton.mp hk
      exact hi.below n (List.mem_append_right _ hn)
    · rw [hheld] at hk
      exact absurd hk List.not_mem_nil
    · exact hi.hand n hn k (hheld ▸ hk)
  · intro hw
    exact h.running (hi.running (h.timer ▸ hw))
  · intro hrun n l₁ e l₂ hc hline x hx hxi
    rw [h.timer] at hc
    obtain ⟨l₃, hline'⟩ := hplace (mem_urbps_of_cur hc) hline
    have hrun' : d.trState = .running := by
      rcases h.state with hstate | hfree
      · exact hstate ▸ hrun
      · exact hi.running (working_of_unlocked hfree hc)
    exact hpassed (hi.passed hrun' n l₁ e l₃ hc hline' x hx hxi)
  · intro hw n l₁ l₂ hc hline
    rw [h.timer] at hw hc
    obtain ⟨l₃, hline'⟩ := hplace (mem_urbps_of_cur hc) hline
    rw [h.ep]
    exact hi.first hw n l₁ l₃ hc hline'
  · intro n m l₁ e l₂ hc hm hline
    rw [h.timer] at hc hm
    obtain ⟨l₃, hline'⟩ := hplace (mem_urbps_of_next hm) hline
    exact hi.follows n m l₁ e l₃ hc hm hline'

end Scan

/-! ## Changing an endpoint -/

/-- The first URB of endpoint `i` in this scan was skipped, because there is no bandwidth left for
a bulk endpoint, and `v_timer` has come to a later URB. -/
def Skipped (i : Nat) (d : Device.State) : Bool :=
  working d.timer && decide (totalOf d.timer ≤ 0) && decide ((d.ep i).type = .bulk) &&
    !(d.ep i).alreadySeen &&
    d.timer.cur.any fun n => ((line d).takeWhile fun x => x.1 ≠ n).any fun x => x.2 = some i

/-- Changing an endpoint keeps the invariant, unless a skipped one stops being bulk. -/
lemma Scan.setEp (hi : Scan i d) {j : Nat} {f : Vep → Vep} (hfree : d.timer.unlocked = true)
    (hseen : (f (d.ep j)).alreadySeen = (d.ep j).alreadySeen)
    (htype : j = i → (f (d.ep j)).type = .bulk ∨ (f (d.ep j)).type = (d.ep j).type ∨
      Skipped i d = false) : Scan i (setEp j f d) := by
  have hseen' : ((Flow.setEp j f d).ep i).alreadySeen = (d.ep i).alreadySeen := by
    show (Function.update d.ep j (f (d.ep j)) i).alreadySeen = _
    by_cases hij : i = j
    · subst hij
      rw [Function.update_self, hseen]
    · rw [Function.update_of_ne hij]
  refine ⟨hi.sorted, hi.below, hi.hand, hi.running, ?_, ?_, hi.follows⟩
  · intro hrun n l₁ e l₂ (hc : d.timer.cur = some n) hline x hx hxi
    rcases hi.passed hrun n l₁ e l₂ hc hline x hx hxi with h | ⟨htotal, hbulk⟩
    · exact Or.inl (hseen'.trans h)
    · by_cases hij : i = j
      swap
      · refine Or.inr ⟨htotal, ?_⟩
        show (Function.update d.ep j (f (d.ep j)) i).type = _
        rwa [Function.update_of_ne hij]
      subst hij
      have htype' : (Flow.setEp i f d).ep i = f (d.ep i) := Function.update_self _ _ _
      rcases htype rfl with hb | hsame | hskip
      · exact Or.inr ⟨htotal, htype' ▸ hb⟩
      · exact Or.inr ⟨htotal, htype' ▸ hsame.trans hbulk⟩
      · left
        rw [hseen']
        by_contra hunseen
        have htake : (line d).takeWhile (fun x => x.1 ≠ n) = l₁ := takeWhile_line hi.line_nodup hline
        have hskipped : Skipped i d = true := by
          simp only [Skipped, Bool.and_eq_true, decide_eq_true_eq, Bool.not_eq_true', hc,
            Option.any_some, htake, List.any_eq_true]
          exact ⟨⟨⟨⟨working_of_unlocked hfree hc, htotal⟩, hbulk⟩, Bool.eq_false_of_not_eq_true hunseen⟩,
            x, hx, hxi⟩
        rw [hskip] at hskipped
        cases hskipped
  · intro hw n l₁ l₂ hc hline
    rw [hseen']
    exact hi.first hw n l₁ l₂ hc hline

/-- Halting an endpoint keeps the scan. -/
lemma Scan.setHalted (hi : Scan i d) (c : Control) : Scan i (c.setHalted d) := by
  obtain ⟨ep, hep, hsame⟩ := c.setHalted_eq d
  obtain ⟨hseen, htype⟩ := hsame i
  rw [hep]
  refine ⟨hi.sorted, hi.below, hi.hand, hi.running, ?_, ?_, hi.follows⟩
  · intro hrun n l₁ e l₂ hc hline x hx hxi
    have hpassed := hi.passed hrun n l₁ e l₂ hc hline x hx hxi
    unfold Passed at hpassed ⊢
    show (ep i).alreadySeen = true ∨ totalOf d.timer ≤ 0 ∧ (ep i).type = .bulk
    rwa [hseen, htype]
  · intro hw n l₁ l₂ hc hline
    show (ep i).alreadySeen = true ∧ _
    rw [hseen]
    exact hi.first hw n l₁ l₂ hc hline

/-! ## The steps of `v_timer` -/

/-- What a step of `v_timer` does to the queue, to `tx_queue` and to what it has in hand. -/
structure Step (i : Nat) (allocOk : Bool) (d t : Device.State) : Prop where
  rx : t.rx = d.rx
  allocs : t.allocs = d.allocs
  accepted : t.accepted = d.accepted
  urbps : ∀ n ∈ t.timer.urbps, n ∈ d.timer.urbps ∨ n ∈ d.tickets
  queue : (line t = line d ∧ t.txQueue = d.txQueue ∧ t.taken = d.taken) ∨
    ∃ p l₁ l₂, line d = l₁ ++ (p.ticket, p.ep) :: l₂ ∧ line t = l₁ ++ l₂ ∧
      t.taken = d.taken ++ [p.ticket] ∧
      t.txQueue = d.txQueue ++ (if allocOk then [Device.replyItem p] else []) ∧
      p.key ∈ d.urbQueue.map Device.Allocated.key ∧
      (p.unlinked = 0 → p.ep = some i → ∀ x ∈ l₁, x.2 ≠ some i)

variable {allocOk : Bool}

/-- A step of the timer only takes URBs off the line. -/
lemma Step.sublist (hs : Step i allocOk d t) : (line t).Sublist (line d) := by
  rcases hs.queue with ⟨hl, -, -⟩ | ⟨p, l₁, l₂, hl, hl', -⟩
  · rw [hl]
  · rw [hl, hl']
    exact (List.sublist_cons_self _ l₂).append_left l₁

namespace Scan

/-- What is left of the invariant to be proved for a step. -/
lemma ofStep (hi : Scan i d) (hs : Step i allocOk d t)
    (running : working t.timer = true → t.trState = .running)
    (passed : t.trState = .running → ∀ n l₁ e l₂, t.timer.cur = some n →
      line t = l₁ ++ (n, e) :: l₂ → ∀ x ∈ l₁, x.2 = some i → Passed i t)
    (first : working t.timer = true → ∀ n l₁ l₂, t.timer.cur = some n →
      line t = l₁ ++ (n, some i) :: l₂ →
        (t.ep i).alreadySeen = true ∧ ∀ x ∈ l₁, x.2 ≠ some i)
    (follows : ∀ n m l₁ e l₂, t.timer.cur = some n → nextOf t.timer = some m →
      line t = l₁ ++ (m, e) :: l₂ → ∃ l₀ e₀, l₁ = l₀ ++ [(n, e₀)]) : Scan i t := by
  have hsub : t.tickets.Sublist d.tickets := by
    rw [← map_fst_line, ← map_fst_line]
    exact hs.sublist.map _
  refine ⟨?_, ?_, ?_, running, passed, first, follows⟩
  · rw [hs.rx]
    exact hi.sorted.sublist (hsub.append_right _)
  · intro n hn
    rw [hs.allocs]
    rw [List.mem_append, List.mem_append, hs.rx] at hn
    rcases hn with (hn | hn) | hn
    · exact hi.below n (List.mem_append_left _ (List.mem_append_left _ (hsub.subset hn)))
    · exact hi.below n (List.mem_append_left _ (List.mem_append_right _ hn))
    · rcases hs.urbps n hn with hn | hn
      · exact hi.below n (List.mem_append_right _ hn)
      · exact hi.below n (List.mem_append_left _ (List.mem_append_left _ hn))
  · intro n hn k hk
    rw [hs.rx] at hk
    rcases hs.urbps n hn with hn | hn
    · exact hi.hand n hn k hk
    · exact (List.pairwise_append.mp hi.sorted).2.2 n hn k hk

/-- The loop starts at the head of the queue: nothing stands in front of it. -/
lemma restart (hi : Scan i d) {total : Int} (hs : Step i allocOk d t)
    (hpc : t.timer = .visit (t.urbQueue.head?.map Device.Allocated.ticket) total) : Scan i t := by
  refine hi.ofStep hs ?_ ?_ ?_ ?_
  · rw [hpc]
    exact fun h => (by cases h)
  · intro _ m k₁ e k₂ hc hk x hx
    rw [hpc] at hc
    obtain ⟨q, hq, rfl⟩ := Option.map_eq_some_iff.mp hc
    obtain ⟨rest, hrest⟩ := List.head?_eq_some_iff.mp hq
    have hhead : line t = [] ++ (q.ticket, q.ep) :: rest.map fun p => (p.ticket, p.ep) := by
      rw [line, hrest]
      rfl
    have hnodup : ((line t).map Prod.fst).Nodup := hi.line_nodup.sublist (hs.sublist.map _)
    rw [hhead] at hnodup hk
    obtain ⟨rfl, -⟩ := split_unique hnodup hk
    exact absurd hx List.not_mem_nil
  · rw [hpc]
    exact fun h => (by cases h)
  · intro m m' k₁ e k₂ _ hnext
    rw [hpc] at hnext
    cases hnext

/-- A URB ends, and the loop starts over. -/
lemma returnUrb (hi : Scan i d) {n : Nat} {total : Int} (hframe : Device.Frame d d')
    (hline : line d' = line d)
    (hfirst : ∀ p l₁ l₂, d'.urbQueue.find? (fun p => p.ticket = n) = some p →
      p.unlinked = 0 → p.ep = some i → line d = l₁ ++ (n, some i) :: l₂ → ∀ x ∈ l₁, x.2 ≠ some i)
    (h : Device.returnUrb allocOk n total d' = some t) : Step i allocOk d t ∧ Scan i t := by
  obtain ⟨p, hf, hp, hqueue, htxq, htaken, -, -, htx, hrx, -, -, -, -, hallocs, hacc, -, hpc⟩ :=
    Device.returnUrb_cases h
  obtain ⟨l₁, l₂, hl, hl'⟩ := line_of_find? hf
  have hstep : Step i allocOk d t := by
    refine ⟨hrx.trans hframe.rx, hallocs.trans hframe.allocs, hacc.trans hframe.accepted, ?_,
      Or.inr ⟨p, l₁, l₂, ?_, ?_, ?_, ?_, ?_, ?_⟩⟩
    · intro m hm
      rw [hpc] at hm
      simp only [Device.TimerPc.urbps, Option.mem_toList, Option.map_eq_some_iff] at hm
      obtain ⟨q, hq, rfl⟩ := hm
      right
      rw [← hframe.tickets]
      refine List.map_subset _ ?_ (List.mem_map_of_mem (List.mem_of_mem_head? hq))
      rw [hqueue]
      exact List.eraseP_subset
    · rw [← hline, hl, hp]
    · rw [line, hqueue, hl']
    · rw [htaken, hframe.taken, hp]
    · rw [htxq, hframe.txQueue]
    · rw [← hframe.queue]
      exact List.mem_map_of_mem (List.mem_of_find?_eq_some hf)
    · intro hu hep
      exact hfirst p l₁ l₂ hf hu hep (by rw [← hline, hl, hep])
  exact ⟨hstep, hi.restart hstep hpc⟩

/-- A step that leaves the queue alone and `v_timer` at the same URB. -/
lemma keep (hi : Scan i d) (hframe : Device.Frame d t) (hline : line t = line d)
    (hep : t.ep = d.ep) (hstate : t.trState = d.trState) (hcur : t.timer.cur = d.timer.cur)
    (hnext : nextOf t.timer = nextOf d.timer) (htotal : totalOf t.timer = totalOf d.timer)
    (hworking : working t.timer = working d.timer) (hurbps : t.timer.urbps = d.timer.urbps) :
    Step i allocOk d t ∧ Scan i t := by
  have hstep : Step i allocOk d t := ⟨hframe.rx, hframe.allocs, hframe.accepted,
    fun n hn => Or.inl (hurbps ▸ hn), Or.inl ⟨hline, hframe.txQueue, hframe.taken⟩⟩
  refine ⟨hstep, hi.ofStep hstep ?_ ?_ ?_ ?_⟩
  · rw [hworking, hstate]
    exact hi.running
  · unfold Passed
    rw [hstate, hcur, hline, hep, htotal]
    exact hi.passed
  · rw [hworking, hcur, hline, hep]
    exact hi.first
  · rw [hcur, hnext, hline]
    exact hi.follows

/-- `v_timer` is not running. -/
lemma atRest (hi : Scan i d) (hs : Step i allocOk d t) (hpc : t.timer = .idle) : Scan i t := by
  refine hi.ofStep hs ?_ ?_ ?_ ?_
  · rw [hpc]
    exact fun h => (by cases h)
  · intro _ n _ _ _ hc
    rw [hpc] at hc
    cases hc
  · rw [hpc]
    exact fun h => (by cases h)
  · intro n _ _ _ _ hc
    rw [hpc] at hc
    cases hc

/-- The loop goes on to the next URB. -/
lemma advance (hi : Scan i d) {n : Nat} {nx : Option Nat} {total : Int}
    (hframe : Device.Frame d t) (hline : line t = line d) (hep : t.ep = d.ep)
    (hstate : t.trState = d.trState) (hcur : d.timer.cur = some n)
    (hpc : t.timer = .visit nx total) (htotal : total ≤ totalOf d.timer)
    (hmem : ∀ m, nx = some m → m ∈ d.timer.urbps ∨ m ∈ d.tickets)
    (hfollows : ∀ m l₁ e l₂, nx = some m → line d = l₁ ++ (m, e) :: l₂ →
      ∃ l₀ e₀, l₁ = l₀ ++ [(n, e₀)])
    (hn : d.trState = .running → ∀ l₁ l₂, line d = l₁ ++ (n, some i) :: l₂ → Passed i d) :
    Step i allocOk d t ∧ Scan i t := by
  have hstep : Step i allocOk d t := by
    refine ⟨hframe.rx, hframe.allocs, hframe.accepted, ?_, Or.inl ⟨hline, hframe.txQueue, hframe.taken⟩⟩
    intro m hm
    rw [hpc] at hm
    exact hmem m (Option.mem_toList.mp hm)
  have hpassed : Passed i d → Passed i t := by
    unfold Passed
    rw [hep, hpc]
    exact Or.imp id fun h => ⟨Int.le_trans htotal h.1, h.2⟩
  refine ⟨hstep, hi.ofStep hstep ?_ ?_ ?_ ?_⟩
  · rw [hpc]
    exact fun h => (by cases h)
  · intro hrun m l₁ e l₂ hc hl x hx hxi
    rw [hpc] at hc
    rw [hline] at hl
    rw [hstate] at hrun
    obtain ⟨l₀, e₀, rfl⟩ := hfollows m l₁ e l₂ hc hl
    have hl' : line d = l₀ ++ (n, e₀) :: (m, e) :: l₂ := by rw [hl, List.append_assoc]; rfl
    apply hpassed
    rcases List.mem_append.mp hx with hx | hx
    · exact hi.passed hrun n l₀ e₀ _ hcur hl' x hx hxi
    · obtain rfl := List.mem_singleton.mp hx
      obtain rfl : e₀ = some i := hxi
      exact hn hrun l₀ _ hl'
  · rw [hpc]
    exact fun h => (by cases h)
  · intro m m' _ _ _ _ hnext
    rw [hpc] at hnext
    cases hnext

/-- `v_timer` begins to work on a URB. -/
lemma work (hi : Scan i d) {n j : Nat} {nx : Option Nat} {total : Int} {e : Option Nat}
    (hframe : Device.Frame d t) (hline : line t = line d) (hrun : d.trState = .running)
    (hpc : d.timer = .visit (some n) total) (hstate : t.trState = d.trState)
    (hpj : e = some j) (hworked : Worked total d.ep t.ep j)
    (hcur : t.timer.cur = some n) (hnext : nextOf t.timer = nx) (htotal : totalOf t.timer = total)
    (hplace : ∀ {l₁ e' l₂}, line d = l₁ ++ (n, e') :: l₂ → e = e')
    (hfollows : ∀ m l₁ e l₂, nx = some m → line d = l₁ ++ (m, e) :: l₂ →
      ∃ l₀ e₀, l₁ = l₀ ++ [(n, e₀)])
    (hunpassed : j = i → ∀ l₁ e l₂, line d = l₁ ++ (n, e) :: l₂ → ∀ x ∈ l₁, x.2 ≠ some i)
    (hmem : ∀ m ∈ t.timer.urbps, m ∈ d.tickets) : Step i allocOk d t ∧ Scan i t := by
  have hstep : Step i allocOk d t := ⟨hframe.rx, hframe.allocs, hframe.accepted,
    fun m hm => Or.inr (hmem m hm), Or.inl ⟨hline, hframe.txQueue, hframe.taken⟩⟩
  have hcur' : d.timer.cur = some n := by rw [hpc]; rfl
  refine ⟨hstep, hi.ofStep hstep ?_ ?_ ?_ ?_⟩
  · intro _
    rw [hstate, hrun]
  · intro _ m l₁ e' l₂ hm hl x hx hxi
    obtain rfl : n = m := Option.some.inj (hcur.symm.trans hm)
    rw [hline] at hl
    have hji : i ≠ j := fun h => hunpassed h.symm l₁ e' l₂ hl x hx hxi
    have hpassed := hi.passed hrun n l₁ e' l₂ hcur' hl x hx hxi
    unfold Passed at hpassed ⊢
    rw [hworked.other i hji, htotal]
    rwa [hpc] at hpassed
  · intro _ m l₁ l₂ hm hl
    obtain rfl : n = m := Option.some.inj (hcur.symm.trans hm)
    rw [hline] at hl
    obtain rfl : j = i := Option.some.inj (hpj.symm.trans (hplace hl))
    exact ⟨hworked.seen, hunpassed rfl l₁ _ l₂ hl⟩
  · intro m m' l₁ e' l₂ hm hm' hl
    obtain rfl : n = m := Option.some.inj (hcur.symm.trans hm)
    rw [hline] at hl
    exact hfollows m' l₁ e' l₂ (hnext.symm.trans hm') hl

/-- A new run of the timer. -/
lemma start (hi : Scan i d) {now : Int} (h : Device.stepTimer d (.start now) = some t) :
    Step i allocOk d t ∧ Scan i t := by
  simp only [Device.stepTimer] at h
  split at h
  · rename_i hidle
    split at h <;> cases h
    unfold Device.vTimerStart
    dsimp only
    split
    · have hstep : Step i allocOk d { d with armed := false, trState := .idle } :=
        ⟨rfl, rfl, rfl, fun n hn => Or.inl hn, Or.inl ⟨rfl, rfl, rfl⟩⟩
      exact ⟨hstep, hi.atRest hstep hidle⟩
    · have hstep : ∀ (limit frameStart : Int) (ep : Nat → Vep), Step i allocOk d { d with
          armed := false, frameLimit := limit, frameStart, ep,
          timer := .visit (d.urbQueue.head?.map Device.Allocated.ticket) limit } := by
        intro limit frameStart ep
        refine ⟨rfl, rfl, rfl, fun n hn => Or.inr ?_, Or.inl ⟨rfl, rfl, rfl⟩⟩
        simp only [Device.TimerPc.urbps, Option.mem_toList, Option.map_eq_some_iff] at hn
        obtain ⟨q, hq, rfl⟩ := hn
        exact List.mem_map_of_mem (List.mem_of_mem_head? hq)
      exact ⟨hstep _ _ _, hi.restart (hstep _ _ _) rfl⟩
  · cases h

/-- One iteration of the loop. -/
lemma visit (hi : Scan i d) {ret : Int} {w : Progress}
    (h : Device.stepTimer d (.visit allocOk ret w) = some t) :
    Step i allocOk d t ∧ Scan i t := by
  simp only [Device.stepTimer] at h
  split at h
  · cases h
    have hstep : Step i allocOk d (Device.vTimerEnd d) := by
      unfold Device.vTimerEnd
      split <;> exact ⟨rfl, rfl, rfl, fun n hn => absurd hn List.not_mem_nil, Or.inl ⟨rfl, rfl, rfl⟩⟩
    refine ⟨hstep, hi.atRest hstep ?_⟩
    unfold Device.vTimerEnd
    split <;> rfl
  · rename_i n total hpc
    unfold Device.vTimerVisit at h
    cases hf : d.urbQueue.find? (fun p => p.ticket = n) with
    | none => simp [hf] at h
    | some p =>
        rw [hf] at h
        dsimp only at h
        have hcases := @visitUrbp_cases (decide (d.trState = .running)) total ret w d.ep p.toUrbp
        have hep := @visitUrbp_ep (decide (d.trState = .running)) total ret w d.ep p.toUrbp
        have hunl := Device.visitUrbp_unlinked (decide (d.trState = .running)) total ret w d.ep
          p.toUrbp
        generalize Device.visitUrbp _ total ret w d.ep p.toUrbp = v at h hcases hep hunl
        obtain ⟨ep, q, goto⟩ := v
        dsimp only at h hcases hep hunl
        have hp : p.ticket = n := by simpa using List.find?_some hf
        have hsame : ∀ p' ∈ d.urbQueue, p'.ticket = n → p' = p := fun p' hp' hticket =>
          eq_of_nodup_map hi.tickets_nodup hp' (List.mem_of_find?_eq_some hf)
            (hticket.trans hp.symm)
        have hframe : Device.Frame d (Device.writeUrbp n (fun _ => q) { d with ep }) := by
          refine Device.Frame.trans (t := { d with ep }) (by constructor <;> rfl)
            (.writeUrbp n _ ?_)
          intro p' hp' hticket
          rw [hunl, hsame p' hp' hticket]
        have hline : line (Device.writeUrbp n (fun _ => q) { d with ep }) = line d := by
          refine (line_writeUrbp (d := { d with ep }) ?_).trans rfl
          intro p' hp' hticket
          rw [hep, hsame p' hp' hticket]
        have hfollows : ∀ m l₁ e l₂, Device.nextUrbp n d.urbQueue = some m →
            line d = l₁ ++ (m, e) :: l₂ → ∃ l₀ e₀, l₁ = l₀ ++ [(n, e₀)] := by
          intro m l₁ e l₂ hm hl
          obtain ⟨q₁, p₁, p₂, q₂, hq, rfl, rfl⟩ := nextUrbp_split hm
          have hl' : line d = (q₁.map fun p => (p.ticket, p.ep)) ++ [(p₁.ticket, p₁.ep)] ++
              (p₂.ticket, p₂.ep) :: q₂.map fun p => (p.ticket, p.ep) := by
            rw [line, hq, List.map_append, List.append_assoc]
            rfl
          have hnodup := hi.line_nodup
          rw [hl] at hnodup hl'
          exact ⟨_, _, (split_unique hnodup hl').1⟩
        have hplace : ∀ {l₁ e l₂}, line d = l₁ ++ (n, e) :: l₂ → p.ep = e := by
          intro l₁ e l₂ hl
          obtain ⟨k₁, k₂, hk, -⟩ := line_of_find? hf
          have hnodup := hi.line_nodup
          rw [hk] at hnodup hl
          exact (split_unique hnodup hl).2.1
        have hcur : d.timer.cur = some n := by rw [hpc]; rfl
        -- nothing of an endpoint that is worked on stands in front of the URB
        have hunpassed : ∀ j, Worked total d.ep ep j → d.trState = .running → j = i →
            ∀ l₁ e l₂, line d = l₁ ++ (n, e) :: l₂ → ∀ x ∈ l₁, x.2 ≠ some i := by
          rintro j hworked hrun rfl l₁ e l₂ hl x hx hxi
          rcases hi.passed hrun n l₁ e l₂ hcur hl x hx hxi with hseen | hbulk
          · rw [hworked.unseen] at hseen
            cases hseen
          · rw [hpc] at hbulk
            exact hworked.bandwidth hbulk
        cases goto with
        | skip =>
            cases h
            have hskip : ep = d.ep ∧ (d.trState = .running → ∃ j, p.ep = some j ∧
                ((d.ep j).alreadySeen = true ∨ total ≤ 0 ∧ (d.ep j).type = .bulk)) := by
              rcases hcases with ⟨-, hgoto, -⟩ | ⟨-, hrun, -, hep'⟩ | ⟨-, -, -, hgoto, -⟩ |
                ⟨j, -, -, hpj, ⟨hseen, -, hep'⟩ | ⟨hgoto, -⟩⟩
              · cases hgoto
              · exact ⟨hep', fun hrun' => absurd hrun' (of_decide_eq_false hrun)⟩
              · cases hgoto
              · exact ⟨hep', fun _ => ⟨j, hpj, hseen⟩⟩
              · exact absurd rfl hgoto
            refine hi.advance (n := n) (hframe.trans (.timer _ _)) hline hskip.1 rfl hcur rfl
              (by rw [hpc]; exact Int.le_refl total) ?_ hfollows ?_
            · exact fun m hm => Or.inr (Device.mem_of_nextUrbp hm)
            · intro hrun l₁ l₂ hl
              obtain ⟨j, hpj, hseen⟩ := hskip.2 hrun
              obtain rfl : j = i := Option.some.inj (hpj.symm.trans (hplace hl))
              unfold Passed
              rwa [hpc]
        | setup | transfer =>
            cases h
            obtain ⟨j, hrun, hpj, hworked⟩ : ∃ j, d.trState = .running ∧ p.ep = some j ∧
                Worked total d.ep ep j := by
              rcases hcases with ⟨-, hgoto, -⟩ | ⟨-, -, hgoto, -⟩ | ⟨-, -, -, hgoto, -⟩ |
                ⟨j, -, hrun, hpj, ⟨-, hgoto, -⟩ | ⟨-, hworked⟩⟩
              · cases hgoto
              · cases hgoto
              · cases hgoto
              · cases hgoto
              · exact ⟨j, of_decide_eq_true hrun, hpj, hworked⟩
            refine hi.work (hframe.trans (.timer _ _)) hline hrun hpc rfl hpj hworked rfl rfl rfl hplace
              hfollows (hunpassed j hworked hrun) ?_
            intro m hm
            rcases List.mem_cons.mp hm with rfl | hm
            · exact Device.mem_tickets_of_find? hf
            · exact Device.mem_of_nextUrbp (Option.mem_toList.mp hm)
        | returnUrb =>
            refine hi.returnUrb hframe hline ?_ h
            intro p' l₁ l₂ hf' hu _ hl
            have hu' : p.unlinked = 0 := by
              have hkey := hframe.find?_key n
              rw [hf, hf'] at hkey
              have hunlinked : p'.unlinked = p.unlinked :=
                congrArg (fun k => k.2.2) (Option.some.inj hkey)
              exact hunlinked.symm.trans hu
            rcases hcases with ⟨hne, -⟩ | ⟨-, -, hgoto, -⟩ | ⟨-, -, hnone, -⟩ |
              ⟨j, -, hrun, hpj, ⟨-, hgoto, -⟩ | ⟨-, hworked⟩⟩
            · exact absurd hu' hne
            · cases hgoto
            · cases hnone.symm.trans (hplace hl)
            · cases hgoto
            · exact hunpassed j hworked (of_decide_eq_true hrun)
                (Option.some.inj (hpj.symm.trans (hplace hl))) l₁ _ l₂ hl
  · cases h

/-- The setup stage keeps the scan. -/
lemma setup (hi : Scan i d) {ret : Int} (h : Device.stepTimer d (.setup allocOk ret) = some t) :
    Step i allocOk d t ∧ Scan i t := by
  simp only [Device.stepTimer] at h
  split at h
  · rename_i n next total hpc
    split at h
    · cases h
    split at h
    · cases h
      exact hi.keep (.timer d _) rfl rfl rfl (by rw [hpc]; rfl) (by rw [hpc]; rfl)
        (by rw [hpc]; rfl) (by rw [hpc]; rfl) (by rw [hpc]; rfl)
    · refine hi.returnUrb (.writeUrbp n d fun p _ _ => rfl) (line_writeUrbp fun p _ _ => rfl) ?_ h
      intro p l₁ l₂ _ _ _ hline
      exact (hi.first (by rw [hpc]; rfl) n l₁ l₂ (by rw [hpc]; rfl) hline).2
  · cases h

/-- A giveback of the gadget keeps the scan. -/
lemma giveback (hi : Scan i d) {w : Progress}
    (h : Device.stepTimer d (.giveback w) = some t) : Step i allocOk d t ∧ Scan i t := by
  simp only [Device.stepTimer] at h
  split at h
  · rename_i n next total hpc
    cases h
    exact hi.keep ((Device.Frame.writeUrbp n d fun p _ _ => rfl).trans (.timer _ _))
      (line_writeUrbp fun p _ _ => rfl) rfl rfl (by rw [hpc]; rfl) (by rw [hpc]; rfl)
      (by rw [hpc]; rfl) (by rw [hpc]; rfl) (by rw [hpc]; rfl)
  · cases h

/-- Going on keeps the scan. -/
lemma resume (hi : Scan i d) (h : Device.stepTimer d .resume = some t) :
    Step i allocOk d t ∧ Scan i t := by
  simp only [Device.stepTimer] at h
  split at h
  · rename_i n next total hpc
    split at h <;> cases h
    exact hi.keep (.timer d _) rfl rfl rfl (by rw [hpc]; rfl) (by rw [hpc]; rfl)
      (by rw [hpc]; rfl) (by rw [hpc]; rfl) (by rw [hpc]; rfl)
  · cases h

/-- The end of a transfer keeps the scan. -/
lemma transferred (hi : Scan i d) {sent : Nat} {w : Progress}
    (h : Device.stepTimer d (.transferred allocOk sent w) = some t) :
    Step i allocOk d t ∧ Scan i t := by
  simp only [Device.stepTimer] at h
  split at h
  · rename_i n next total hpc
    have hfirst : ∀ l₁ l₂, line d = l₁ ++ (n, some i) :: l₂ →
        (d.ep i).alreadySeen = true ∧ ∀ x ∈ l₁, x.2 ≠ some i := fun l₁ l₂ hline =>
      hi.first (by rw [hpc]; rfl) n l₁ l₂ (by rw [hpc]; rfl) hline
    split at h
    · cases h
      refine hi.advance (n := n) ((Device.Frame.writeUrbp n d fun p _ _ => rfl).trans (.timer _ _))
        (line_writeUrbp fun p _ _ => rfl) rfl rfl (by rw [hpc]; rfl) rfl ?_ ?_ ?_ ?_
      · rw [hpc]
        exact Int.sub_le_self _ (Int.natCast_nonneg sent)
      · intro m hm
        rw [hpc]
        exact Or.inl (mem_urbps_of_next hm)
      · intro m l₁ e l₂ hm
        exact hi.follows n m l₁ e l₂ (by rw [hpc]; rfl) (by rw [hpc]; exact hm)
      · exact fun _ l₁ l₂ hline => Or.inl (hfirst l₁ l₂ hline).1
    · refine hi.returnUrb (.writeUrbp n d fun p _ _ => rfl) (line_writeUrbp fun p _ _ => rfl) ?_ h
      intro p l₁ l₂ _ _ _ hline
      exact (hfirst l₁ l₂ hline).2
  · cases h

end Scan

/-! ## The replies -/

/-- The RET_SUBMITs of endpoint `i` are in order, and those of the URBs that are queued will come
after them. -/
structure Replied (i : Nat) (s : State) : Prop where
  ordered : ((s.replies.filter fun p => p.ep = some i).map fun p => p.ticket).Pairwise (· < ·)
  ahead : ∀ p ∈ s.replies, p.ep = some i →
    (∀ x ∈ line s.dev, x.2 = some i → p.ticket < x.1) ∧
      (∀ k ∈ s.dev.rx.held, p.ticket < k) ∧ p.ticket < s.dev.allocs

variable {s s' : State}

namespace Replied

/-- Only the line, the held URB and the replies matter. -/
lemma congr (hr : Replied i s) (hline : line s'.dev = line s.dev)
    (hheld : s'.dev.rx = s.dev.rx) (hallocs : s'.dev.allocs = s.dev.allocs)
    (hreplies : s'.replies = s.replies) : Replied i s' := by
  refine ⟨hreplies ▸ hr.ordered, ?_⟩
  rw [hline, hheld, hallocs, hreplies]
  exact hr.ahead

/-- A step besides the timer's keeps the replies in order. -/
lemma other (hr : Replied i s) (h : Other s.dev s'.dev) (hreplies : s'.replies = s.replies) :
    Replied i s' := by
  refine ⟨hreplies ▸ hr.ordered, ?_⟩
  intro p hp hpi
  rw [hreplies] at hp
  obtain ⟨hahead, hheldAhead, hbelow⟩ := hr.ahead p hp hpi
  rcases h.moves with ⟨hl, -, hheld | hheld, ha⟩ | ⟨hl, -, hheld, ha⟩ |
    ⟨k, e, hl, -, hheld, hheld', ha, -⟩ | ⟨hl, -, hheld, ha, -⟩
  · rw [hl, hheld]
    exact ⟨hahead, hheldAhead, Nat.lt_of_lt_of_le hbelow ha⟩
  · rw [hl, hheld]
    exact ⟨hahead, fun k hk => absurd hk List.not_mem_nil, Nat.lt_of_lt_of_le hbelow ha⟩
  · rw [hl, hheld, ha]
    refine ⟨hahead, fun k hk => ?_, Nat.lt_succ_of_lt hbelow⟩
    obtain rfl := List.mem_singleton.mp hk
    exact hbelow
  · rw [hl, hheld', ha]
    refine ⟨fun x hx hxi => ?_, fun k hk => absurd hk List.not_mem_nil, hbelow⟩
    rcases List.mem_append.mp hx with hx | hx
    · exact hahead x hx hxi
    · obtain rfl := List.mem_singleton.mp hx
      exact hheldAhead k (by rw [hheld]; exact List.mem_singleton_self k)
  · rw [hl, hheld, ha]
    exact ⟨fun x hx => absurd hx List.not_mem_nil, hheldAhead, hbelow⟩

/-- A step of `v_timer` puts at most one RET_SUBMIT on `tx_queue`, that of a URB which is the first
of its endpoint. -/
lemma record (hi : Scan i s.dev) (hr : Replied i s) {allocOk : Bool}
    (hs : Step i allocOk s.dev d) : Replied i (record d s) := by
  have hreplies : (Flow.record d s).replies =
      s.replies ++ (d.txQueue.drop s.dev.txQueue.length).filterMap submitted := rfl
  rcases hs.queue with ⟨hl, htx, -⟩ | ⟨p, l₁, l₂, hl, hl', -, htx, -, hfirst⟩
  · have hnone : (Flow.record d s).replies = s.replies := by
      rw [hreplies, htx, List.drop_length, List.filterMap_nil, List.append_nil]
    exact hr.congr hl hs.rx hs.allocs hnone
  · rw [htx, List.drop_left] at hreplies
    have hsub : ∀ x ∈ line d, x ∈ line s.dev := fun x hx => hs.sublist.subset hx
    have hold : ∀ q ∈ s.replies, q.ep = some i →
        (∀ x ∈ line d, x.2 = some i → q.ticket < x.1) ∧ (∀ k ∈ d.rx.held, q.ticket < k) ∧
          q.ticket < d.allocs := by
      intro q hq hqi
      rw [hs.rx, hs.allocs]
      obtain ⟨hahead, hheld, hbelow⟩ := hr.ahead q hq hqi
      exact ⟨fun x hx => hahead x (hsub x hx), hheld, hbelow⟩
    by_cases hreply : allocOk = true ∧ p.unlinked = 0
    swap
    · have hnone : (Flow.record d s).replies = s.replies := by
        rw [hreplies]
        unfold Device.replyItem
        by_cases ha : allocOk = true
        · have hu : ¬ p.unlinked = 0 := fun hu => hreply ⟨ha, hu⟩
          rw [if_pos ha, if_neg hu]
          exact List.append_nil _
        · rw [if_neg ha]
          exact List.append_nil _
      exact ⟨hnone ▸ hr.ordered, hnone ▸ hold⟩
    · obtain ⟨ha, hu⟩ := hreply
      have hone : (Flow.record d s).replies = s.replies ++ [p] := by
        rw [hreplies]
        unfold Device.replyItem
        rw [if_pos ha, if_pos hu]
        rfl
      refine ⟨?_, ?_⟩
      · rw [hone, List.filter_append, List.map_append]
        refine List.pairwise_append.mpr ⟨hr.ordered, ?_, ?_⟩
        · by_cases hpi : p.ep = some i
          · simp [hpi]
          · simp [hpi]
        · intro m hm n hn
          obtain ⟨q, hq, rfl⟩ := List.mem_map.mp hm
          obtain ⟨p', hp', rfl⟩ := List.mem_map.mp hn
          obtain ⟨hq, hqi⟩ := List.mem_filter.mp hq
          obtain ⟨hp', hpi⟩ := List.mem_filter.mp hp'
          obtain rfl := List.mem_singleton.mp hp'
          refine (hr.ahead q hq (of_decide_eq_true hqi)).1 (p'.ticket, p'.ep) ?_
            (of_decide_eq_true hpi)
          rw [hl]
          exact List.mem_append_right _ List.mem_cons_self
      · intro q hq hqi
        rw [hone] at hq
        rcases List.mem_append.mp hq with hq | hq
        · exact hold q hq hqi
        · obtain rfl := List.mem_singleton.mp hq
          have hsorted := hi.sorted
          rw [← map_fst_line, hl] at hsorted
          obtain ⟨hpair, -, hheld⟩ := List.pairwise_append.mp hsorted
          rw [List.map_append, List.map_cons] at hpair hheld
          refine ⟨?_, ?_, ?_⟩
          · intro x hx hxi
            rw [show line (Flow.record d s).dev = l₁ ++ l₂ from hl'] at hx
            rcases List.mem_append.mp hx with hx | hx
            · exact absurd hxi (hfirst hu hqi x hx)
            · exact (List.pairwise_cons.mp (List.pairwise_append.mp hpair).2.1).1 x.1
                (List.mem_map_of_mem hx)
          · intro k hk
            rw [show (Flow.record d s).dev.rx = s.dev.rx from hs.rx] at hk
            exact hheld q.ticket (List.mem_append_right _ List.mem_cons_self) k hk
          · rw [show (Flow.record d s).dev.allocs = s.dev.allocs from hs.allocs]
            refine hi.below q.ticket ?_
            rw [← map_fst_line, hl]
            simp

/-- A step that puts nothing on `tx_queue`. -/
lemma quiet (hi : Scan i s.dev) (hr : Replied i s) (hs : Step i false s.dev s'.dev)
    (hreplies : s'.replies = s.replies) : Replied i s' := by
  refine (hr.record hi hs).congr rfl rfl rfl ?_
  have htx : s'.dev.txQueue = s.dev.txQueue := by
    rcases hs.queue with ⟨-, htx, -⟩ | ⟨_, _, _, -, -, -, htx, -⟩
    · exact htx
    · rw [htx]
      exact List.append_nil _
  show s'.replies = s.replies ++ (s'.dev.txQueue.drop _).filterMap submitted
  rw [hreplies, htx, List.drop_length, List.filterMap_nil, List.append_nil]

end Replied

/-! ## The runs -/

/-- The endpoint stays bulk while its first URB of the scan is skipped for want of bandwidth. -/
def SteadyType (i : Nat) (s : State) : Action → Prop
  | .enable j type _ _ => enables j s = true → j = i → type ≠ .bulk → Skipped i s.dev = false
  | _ => True

instance (i : Nat) (s : State) (a : Action) : Decidable (SteadyType i s a) :=
  match a with
  | .enable j type _ _ => inferInstanceAs (Decidable
      (enables j s = true → j = i → type ≠ .bulk → Skipped i s.dev = false))
  | .eventAdd | .connect _ | .bind _ | .pullup _ | .disable _ | .disableNuke _ | .setHalt _ _
  | .allocRequest | .queue _ _ _ _ | .dequeue _ _ | .start _ | .visit _ _ _ | .setup _ _ | .pass
  | .resume | .transferred _ | .cmdSubmit _ _ _ _ _ | .rx _ | .tx _ | .nuke _ | .eh _ =>
      isTrue trivial

/-- The steps outside `v_timer` keep the two invariants. -/
lemma ordered_quiet (hi : Scan i s.dev) (hr : Replied i s) {a : Action} (hok : SteadyType i s a)
    (h : Quiet a s s') : Scan i s'.dev ∧ Replied i s' := by
  cases h with
  | device d moved frameSpeed maxpacket driver hother => exact ⟨hi.other hother, hr.other hother rfl⟩
  | submit d n j toHost data zeroPacket _ hd =>
      exact ⟨hi.other (other_stepRx hd), hr.other (other_stepRx hd) rfl⟩
  | endpoint j f maxpacket desc hfree hseen _ htype =>
      refine ⟨hi.setEp hfree hseen fun hji => ?_, hr.congr rfl rfl rfl rfl⟩
      rcases htype with ⟨hsame, -⟩ | ⟨maxp, toHost, rfl, henables, -⟩
      · exact Or.inr (Or.inl hsame)
      · by_cases hbulk : (f (s.dev.ep j)).type = .bulk
        · exact Or.inl hbulk
        · exact Or.inr (Or.inr (hok henables hji hbulk))
  | requests d => exact ⟨hi.other (by assumption), hr.other (by assumption) rfl⟩

/-- A step of `v_timer` is one of its device, after which `handle_control_request` may have changed
a halt. -/
structure Timed (i : Nat) (s s' : State) (allocOk : Bool) (d : Device.State) : Prop where
  step : Step i allocOk s.dev d
  scan : Scan i d
  dev : s'.dev = d ∨ ∃ c : Control, s'.dev = c.setHalted d
  replies : s'.replies = (record d s).replies ∨ allocOk = false ∧ s'.replies = s.replies

/-- A step of the timer, in the device. -/
lemma timer_step (hi : Scan i s.dev) {a : Action} (ha : a.timer = true)
    (h : step s a = some s') : ∃ allocOk d, Timed i s s' allocOk d := by
  cases a with
  | start now =>
      obtain ⟨d, hd, rfl⟩ := Option.map_eq_some_iff.mp h
      obtain ⟨hs, hi'⟩ : Step i false s.dev d ∧ Scan i d := hi.start hd
      exact ⟨_, d, hs, hi', Or.inl rfl, Or.inr ⟨rfl, rfl⟩⟩
  | visit allocOk ret c =>
      obtain ⟨w, d, hd, hcases⟩ := visit_cases h
      obtain ⟨hs, hi'⟩ := hi.visit hd
      rcases hcases with ⟨rfl, -⟩ | ⟨_, _, _, -, -, ⟨-, rfl⟩ | ⟨-, -, rfl⟩⟩
      · exact ⟨_, d, hs, hi', Or.inl rfl, Or.inl rfl⟩
      · exact ⟨_, d, hs, hi', Or.inl rfl, Or.inl rfl⟩
      · exact ⟨_, d, hs, hi', Or.inr ⟨c, rfl⟩, Or.inl rfl⟩
  | setup allocOk ret =>
      obtain ⟨d, hd, rfl⟩ := Option.map_eq_some_iff.mp h
      obtain ⟨hs, hi'⟩ := hi.setup hd
      exact ⟨_, d, hs, hi', Or.inl rfl, Or.inl rfl⟩
  | pass =>
      obtain ⟨_, _, _, _, _, -, -, -, _, -, d, _, _, rfl, hdev⟩ := pass_cases h
      rcases hdev with ⟨-, rfl, -⟩ | ⟨-, hd, -⟩
      · exact ⟨_, s.dev, ⟨rfl, rfl, rfl, fun n hn => Or.inl hn, Or.inl ⟨rfl, rfl, rfl⟩⟩, hi,
          Or.inl rfl, Or.inr ⟨rfl, rfl⟩⟩
      · obtain ⟨hs, hi'⟩ : Step i false s.dev d ∧ Scan i d := hi.giveback hd
        exact ⟨_, d, hs, hi', Or.inl rfl, Or.inr ⟨rfl, rfl⟩⟩
  | resume =>
      obtain ⟨d, hd, rfl⟩ := Option.map_eq_some_iff.mp h
      obtain ⟨hs, hi'⟩ : Step i false s.dev d ∧ Scan i d := hi.resume hd
      exact ⟨_, d, hs, hi', Or.inl rfl, Or.inr ⟨rfl, rfl⟩⟩
  | transferred allocOk =>
      obtain ⟨_, _, _, d, -, -, hd, rfl⟩ := transferred_cases h
      obtain ⟨hs, hi'⟩ := hi.transferred hd
      exact ⟨_, d, hs, hi', Or.inl rfl, Or.inl rfl⟩
  | _ => cases ha

/-- The timer accepts no URB. -/
lemma Timed.accepted {allocOk : Bool} (h : Timed i s s' allocOk d) :
    s'.dev.accepted = s.dev.accepted := by
  rcases h.dev with hdev | ⟨c, hdev⟩
  · rw [hdev, h.step.accepted]
  · obtain ⟨_, hep, -⟩ := c.setHalted_eq d
    rw [hdev, hep]
    exact h.step.accepted

/-- Every step keeps the two invariants. -/
theorem ordered_step (hi : Scan i s.dev) (hr : Replied i s) {a : Action} (hok : SteadyType i s a)
    (h : step s a = some s') : Scan i s'.dev ∧ Replied i s' := by
  cases htimer : a.timer
  · exact ordered_quiet hi hr hok (quiet_step htimer h)
  obtain ⟨allocOk, d, hs, hi', hdev, hreplies⟩ := timer_step hi htimer h
  have hr' : Replied i { s' with dev := d } := by
    rcases hreplies with hreplies | ⟨rfl, hreplies⟩
    · exact (hr.record hi hs).congr rfl rfl rfl hreplies
    · exact hr.quiet hi hs hreplies
  rcases hdev with hdev | ⟨c, hdev⟩
  · exact ⟨hdev ▸ hi', hr'.congr (by rw [hdev]) (by rw [hdev]) (by rw [hdev]) rfl⟩
  · obtain ⟨_, hep, -⟩ := c.setHalted_eq d
    exact ⟨hdev ▸ hi'.setHalted c, hr'.congr (by rw [hdev, hep]; rfl) (by rw [hdev, hep])
      (by rw [hdev, hep]) rfl⟩

/-- Nothing is queued at the start. -/
lemma ordered_start (h : machine.init s) : Scan i s.dev ∧ Replied i s := by
  obtain ⟨maxpacket, rfl⟩ := h
  refine ⟨⟨List.Pairwise.nil, fun n hn => absurd hn List.not_mem_nil,
    fun n hn => absurd hn List.not_mem_nil, ?_, ?_, ?_, ?_⟩, List.Pairwise.nil,
    fun p hp => absurd hp List.not_mem_nil⟩
  · exact fun h => (by cases h)
  · exact fun h => (by cases h)
  · exact fun h => (by cases h)
  · exact fun _ _ _ _ _ h => (by cases h)

/-- The RET_SUBMITs of an endpoint are put on `tx_queue` in the order in which their CMD_SUBMITs
were received, as long as the endpoint stays bulk while its first URB of the scan is skipped. -/
theorem submits_in_order (h : machine.Reach (SteadyType i) s) :
    ((s.replies.filter fun p => p.ep = some i).map fun p => p.ticket).Pairwise (· < ·) := by
  have hinv : Scan i s.dev ∧ Replied i s := by
    refine h.invariant (I := fun s => Scan i s.dev ∧ Replied i s) ?_ ?_
    · exact fun s hs => ordered_start hs
    · intro s a t hI hok hstep
      exact ordered_step hI.1 hI.2 hok hstep
  exact hinv.2.ordered

/-- A URB and a request on endpoint 2 use up the bandwidth of the frame.  Then `v_timer` skips the
first URB of endpoint 1 and calls `setup` for a control URB.  Two requests are queued. -/
def skippedRun : List Action :=
  connectedRun ++ received 1 2 128 ++ received 2 1 1 ++ received 3 0 0 ++ received 4 1 1 ++
    [.queue 2 0 (List.replicate 128 0) false, .start 0] ++ served ++ [visited 0, visited 1]

/-- The scan goes on to its end, and the URBs of endpoint 1 are served in the next frame. -/
def nextFrameRun : List Action :=
  [.queue 1 1 [0] false, .queue 1 2 [0] false, .setup true 0, .transferred true, visited 0,
    visited 0, .start 2] ++ served ++ [visited 0, .transferred true] ++ served

/-- The requests are queued after endpoint 1 has become an interrupt endpoint. -/
def retypedRun : List Action :=
  [.disable 1, .enable 1 .int ⟨64, maxpacket_pos⟩ true, .queue 1 1 [0] false, .queue 1 2 [0] false,
    .setup true 0, .transferred true] ++ served ++ served

/-- Two URBs of an endpoint, replied to in order over two frames. -/
theorem submits_in_order_nextFrameRun :
    ∃ s : State, machine.Reach (SteadyType 1) s ∧
      (s.replies.filter fun p => p.ep = some 1).map (fun p => p.ticket) = [1, 3] ∧
        ((s.replies.filter fun p => p.ep = some 1).map fun p => p.ticket).Pairwise (· < ·) := by
  have hrun : ∃ s : State, machine.Reach (SteadyType 1) s ∧
      (s.replies.filter fun p => p.ep = some 1).map (fun p => p.ticket) = [1, 3] :=
    Machine.Reach.of_perform (skippedRun ++ nextFrameRun) init_new (by decide +kernel)
  obtain ⟨s, hs, hreplies⟩ := hrun
  exact ⟨s, hs, hreplies, submits_in_order hs⟩

/-- `v_timer`, which has skipped the first URB of the endpoint, serves the second one. -/
theorem second_urb_first : ¬ ∀ (i : Nat) (s : State), machine.Reachable s →
    ((s.replies.filter fun p => p.ep = some i).map fun p => p.ticket).Pairwise (· < ·) := by
  intro hall
  have hrun : ∃ s : State, machine.Reachable s ∧
      (s.replies.filter fun p => p.ep = some 1).map (fun p => p.ticket) = [3, 1] :=
    Machine.Reach.of_perform (skippedRun ++ retypedRun) init_new (by decide +kernel)
  obtain ⟨s, hs, hreplies⟩ := hrun
  have hordered := hall 1 s hs
  rw [hreplies] at hordered
  exact absurd hordered (by decide)

end Usbip.Vudc.Flow
