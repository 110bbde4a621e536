import Usbip.Vudc.FlowSteps

/-!
# The requests of the gadget driver

`transfer`, `nuke` and `vep_dequeue` take requests off the queues of the endpoints and give them
back; between them the lock is dropped.  `Accounted` says that each request queued on an endpoint
is on its queue until it is given back, and that `transfer` and `nuke` give requests back in the
order in which they were queued.

`vep_dequeue` finds the device in the request, where `vep_alloc_request` has left NULL and nothing
else writes: it reads through a NULL pointer whenever it is called (`requests_complete_once`,
`dequeue_reads_null`).
-/

namespace Usbip.Vudc.Flow

open Usbip.Core Usbip.Common

/-! ## The requests of an endpoint -/

def ids (q : List VRequest) : List Nat := q.map fun r => r.id

/-- The requests queued on endpoint `i`, in order. -/
def queuedOn (i : Nat) (s : State) : List Nat :=
  (s.queued.filter fun x => x.1 = i).map fun x => x.2.id

/-- The requests of endpoint `i` that were given back, in order. -/
def givenOn (i : Nat) (s : State) : List Nat :=
  (s.given.filter fun x => x.1 = i).map fun x => x.2.1.id

/-- Of these, the ones that were given back from the head of the queue, by `transfer` or `nuke`. -/
def givenInOrder (i : Nat) (s : State) : List Nat :=
  (s.given.filter fun x => x.1 = i ∧ x.2.2 ≠ -ECONNRESET).map fun x => x.2.1.id

/-- On each endpoint the request was given back as often as it was queued. -/
def Completed (id : Nat) (s : State) : Prop :=
  ∀ x ∈ s.queued, (queuedOn x.1 s).count id = (givenOn x.1 s).count id

/-- The gadget driver uses requests that it has allocated, and queues none that has not completed. -/
def Careful (s : State) : Action → Prop
  | .queue _ id _ _ => id < s.requests ∧ Completed id s
  | .dequeue _ id => id < s.requests
  | _ => True

instance (id : Nat) (s : State) : Decidable (Completed id s) :=
  inferInstanceAs (Decidable (∀ x ∈ s.queued, _))

instance (s : State) (a : Action) : Decidable (Careful s a) :=
  match a with
  | .queue _ id _ _ => inferInstanceAs (Decidable (id < s.requests ∧ Completed id s))
  | .dequeue _ id => inferInstanceAs (Decidable (id < s.requests))
  | .eventAdd | .connect _ | .bind _ | .pullup _ | .enable _ _ _ _ | .disable _ | .disableNuke _
  | .setHalt _ _ | .allocRequest | .start _ | .visit _ _ _ | .setup _ _ | .pass | .resume
  | .transferred _ | .cmdSubmit _ _ _ _ _ | .rx _ | .tx _ | .nuke _ | .eh _ => isTrue trivial

/-- Each request queued on an endpoint is on its queue, and on no other, until it is given back. -/
structure Accounted (s : State) : Prop where
  once : ∀ i, (queuedOn i s).Perm (givenOn i s ++ ids (s.queue i))
  nodup : ∀ i, (ids (s.queue i)).Nodup
  alone : ∀ i j id, id ∈ ids (s.queue i) → id ∈ ids (s.queue j) → i = j
  inOrder : ∀ i, (givenInOrder i s ++ ids (s.queue i)).Sublist (queuedOn i s)

/-- What `vep_dequeue` is to do while a driver is bound. -/
inductive Dequeues (i id : Nat) (s : State) : State → Prop
  | queued {q₁ q₂ : List VRequest} {r : VRequest} : s.queue i = q₁ ++ r :: q₂ → r.id = id →
      Dequeues i id s { s with
        queue := Function.update s.queue i (q₁ ++ q₂)
        given := s.given ++ [(i, r, -ECONNRESET)]
        dequeued := s.dequeued ++ [(i, id, 0)] }
  | notQueued : id ∉ ids (s.queue i) →
      Dequeues i id s { s with dequeued := s.dequeued ++ [(i, id, -EINVAL.toInt)] }

variable {s t : State} {a : Action}

/-! ## The invariant -/

/-- A request that is completed is in no queue. -/
lemma not_mem_queue_of_completed (ha : Accounted s) {id : Nat} (h : Completed id s) (i : Nat) :
    id ∉ ids (s.queue i) := by
  have hcount := (ha.once i).count_eq id
  rw [List.count_append] at hcount
  by_cases hi : ∃ x ∈ s.queued, x.1 = i
  · obtain ⟨x, hx, rfl⟩ := hi
    have hsame := h x hx
    exact List.count_eq_zero.mp (by omega)
  · have hnone : queuedOn i s = [] := by
      rw [queuedOn, List.map_eq_nil_iff, List.filter_eq_nil_iff]
      intro x hx
      simpa using fun hxi => hi ⟨x, hx, hxi⟩
    rw [hnone, List.count_nil] at hcount
    exact List.count_eq_zero.mp (by omega)

/-- A step that leaves the queues keeps the account. -/
lemma Accounted.keeps (ha : Accounted s) (hqueue : ∀ i, ids (t.queue i) = ids (s.queue i))
    (hqueued : t.queued = s.queued) (hgiven : t.given = s.given) : Accounted t := by
  have hq : ∀ i, queuedOn i t = queuedOn i s := fun i => by rw [queuedOn, hqueued, queuedOn]
  have hg : ∀ i, givenOn i t = givenOn i s := fun i => by rw [givenOn, hgiven, givenOn]
  have ho : ∀ i, givenInOrder i t = givenInOrder i s := fun i => by
    rw [givenInOrder, hgiven, givenInOrder]
  refine ⟨fun i => ?_, fun i => ?_, fun i j => ?_, fun i => ?_⟩
  · rw [hq, hg, hqueue]
    exact ha.once i
  · rw [hqueue]
    exact ha.nodup i
  · rw [hqueue, hqueue]
    exact ha.alone i j
  · rw [hq, ho, hqueue]
    exact ha.inOrder i

/-- A new request is queued once. -/
lemma Accounted.queues (ha : Accounted s) {i : Nat} {r : VRequest}
    (hfresh : ∀ j, r.id ∉ ids (s.queue j))
    (hqueue : t.queue = Function.update s.queue i (s.queue i ++ [r]))
    (hqueued : t.queued = s.queued ++ [(i, r)]) (hgiven : t.given = s.given) : Accounted t := by
  have hg : ∀ j, givenOn j t = givenOn j s := fun j => by rw [givenOn, hgiven, givenOn]
  have ho : ∀ j, givenInOrder j t = givenInOrder j s := fun j => by
    rw [givenInOrder, hgiven, givenInOrder]
  have hq : queuedOn i t = queuedOn i s ++ [r.id] := by
    simp [queuedOn, hqueued]
  have hq' : ∀ j, j ≠ i → queuedOn j t = queuedOn j s := by
    intro j hj
    simp [queuedOn, hqueued, hj.symm]
  have hids : ids (t.queue i) = ids (s.queue i) ++ [r.id] := by
    rw [hqueue, Function.update_self, ids, List.map_append]
    rfl
  have hids' : ∀ j, j ≠ i → ids (t.queue j) = ids (s.queue j) := by
    intro j hj
    rw [hqueue, Function.update_of_ne hj]
  have hmem : ∀ j id, id ∈ ids (t.queue j) → id ∈ ids (s.queue j) ∨ j = i ∧ id = r.id := by
    intro j id hid
    by_cases hj : j = i
    · subst hj
      rw [hids, List.mem_append, List.mem_singleton] at hid
      exact hid.imp_right fun h => ⟨rfl, h⟩
    · rw [hids' j hj] at hid
      exact Or.inl hid
  refine ⟨fun j => ?_, fun j => ?_, fun j k id hj hk => ?_, fun j => ?_⟩
  · rw [hg]
    by_cases hj : j = i
    · subst hj
      rw [hq, hids, ← List.append_assoc]
      exact (ha.once j).append_right _
    · rw [hq' j hj, hids' j hj]
      exact ha.once j
  · by_cases hj : j = i
    · subst hj
      rw [hids]
      exact (ha.nodup j).append (List.nodup_singleton _)
        (List.disjoint_singleton.mpr (hfresh j))
    · rw [hids' j hj]
      exact ha.nodup j
  · rcases hmem j id hj with hj | ⟨rfl, rfl⟩
    · rcases hmem k id hk with hk | ⟨rfl, rfl⟩
      · exact ha.alone j k id hj hk
      · exact absurd hj (hfresh j)
    · rcases hmem k r.id hk with hk | ⟨rfl, -⟩
      · exact absurd hk (hfresh k)
      · rfl
  · rw [ho]
    by_cases hj : j = i
    · subst hj
      rw [hq, hids, ← List.append_assoc]
      exact (ha.inOrder j).append_right _
    · rw [hq' j hj, hids' j hj]
      exact ha.inOrder j

/-- A request that is given back leaves its queue. -/
lemma Accounted.gives (ha : Accounted s) {i : Nat} {q₁ q₂ : List VRequest} {r r' : VRequest}
    {status : BitVec 32} (hsplit : s.queue i = q₁ ++ r :: q₂) (hid : r'.id = r.id)
    (hfirst : status ≠ -ECONNRESET → q₁ = [])
    (hqueue : t.queue = Function.update s.queue i (q₁ ++ q₂)) (hqueued : t.queued = s.queued)
    (hgiven : t.given = s.given ++ [(i, r', status)]) : Accounted t := by
  have hq : ∀ j, queuedOn j t = queuedOn j s := fun j => by rw [queuedOn, hqueued, queuedOn]
  have hg : givenOn i t = givenOn i s ++ [r.id] := by
    simp [givenOn, hgiven, hid]
  have hg' : ∀ j, j ≠ i → givenOn j t = givenOn j s := by
    intro j hj
    simp [givenOn, hgiven, hj.symm]
  have ho' : ∀ j, j ≠ i → givenInOrder j t = givenInOrder j s := by
    intro j hj
    simp [givenInOrder, hgiven, hj.symm]
  have hids : ids (s.queue i) = ids q₁ ++ r.id :: ids q₂ := by
    rw [hsplit, ids, List.map_append]
    rfl
  have hids₁ : ids (t.queue i) = ids q₁ ++ ids q₂ := by
    rw [hqueue, Function.update_self, ids, List.map_append]
    rfl
  have hids' : ∀ j, j ≠ i → ids (t.queue j) = ids (s.queue j) := by
    intro j hj
    rw [hqueue, Function.update_of_ne hj]
  have hsub : ∀ j, (ids (t.queue j)).Sublist (ids (s.queue j)) := by
    intro j
    by_cases hj : j = i
    · subst hj
      rw [hids, hids₁]
      exact (List.sublist_cons_self _ _).append_left _
    · rw [hids' j hj]
  refine ⟨fun j => ?_, fun j => (ha.nodup j).sublist (hsub j), fun j k id hj hk => ?_, fun j => ?_⟩
  · rw [hq]
    by_cases hj : j = i
    · subst hj
      refine (ha.once j).trans ?_
      rw [hg, hids, hids₁, List.append_assoc, List.singleton_append]
      exact List.perm_middle.append_left _
    · rw [hg' j hj, hids' j hj]
      exact ha.once j
  · exact ha.alone j k id ((hsub j).subset hj) ((hsub k).subset hk)
  · rw [hq]
    by_cases hj : j = i
    · subst hj
      by_cases hstatus : status = -ECONNRESET
      · have ho : givenInOrder j t = givenInOrder j s := by
          simp [givenInOrder, hgiven, hstatus]
        rw [ho]
        exact ((hsub j).append_left _).trans (ha.inOrder j)
      · have ho : givenInOrder j t = givenInOrder j s ++ [r.id] := by
          simp [givenInOrder, hgiven, hstatus, hid]
        have horder := ha.inOrder j
        rw [hids, hfirst hstatus] at horder
        rw [ho, hids₁, hfirst hstatus, List.append_assoc]
        exact horder
    · rw [ho' j hj, hids' j hj]
      exact ha.inOrder j

/-- A batch leaves the request's identity. -/
lemma batch_id (maxpacket : Nat) (u : HostUrb) (r : VRequest) :
    (batch maxpacket u r).1.req.id = r.id := by
  unfold batch
  dsimp only
  split_ifs <;> rfl

/-- A pass keeps the account. -/
lemma Accounted.pass (ha : Accounted s) (h : pass s = some t) : Accounted t := by
  obtain ⟨n, _, _, r, rest, -, -, hqueue, e, he, _, _, _, rfl, hreq⟩ := pass_cases h
  have hid : e.req.id = r.id := by
    rw [he]
    exact batch_id _ _ _
  rcases hreq with ⟨-, -, rfl, rfl⟩ | ⟨-, -, rfl, rfl⟩
  · refine ha.keeps (fun i => ?_) rfl rfl
    show ids (Function.update s.queue (s.epOf n) (e.req :: rest) i) = _
    by_cases hi : i = s.epOf n
    · subst hi
      rw [Function.update_self, hqueue]
      simp only [ids, List.map_cons, hid]
    · rw [Function.update_of_ne hi]
  · exact ha.gives hqueue hid (fun _ => rfl) rfl rfl rfl

/-- What a step does for the gadget keeps the account. -/
lemma Accounted.served (ha : Accounted s) (hok : Careful s a) (h : Served a s t) :
    Accounted t := by
  cases h with
  | keeps hqueue hqueued hgiven => exact ha.keeps (fun i => by rw [hqueue]) hqueued hgiven
  | queues i r hcall _ hqueue hqueued hgiven =>
      subst hcall
      exact ha.queues (not_mem_queue_of_completed ha hok.2) hqueue hqueued hgiven
  | gives i q₁ q₂ r status _ hsplit hstatus hqueue hqueued hgiven =>
      refine ha.gives hsplit rfl (fun hne => ?_) hqueue hqueued hgiven
      exact (hstatus.resolve_left hne).2

/-- A step of `v_timer` other than a pass of `transfer` leaves the requests alone. -/
lemma accounted_timer (ha : Accounted s) (htimer : a.timer = true) (h : step s a = some t) :
    Accounted t ∧ t.udc = s.udc := by
  cases a with
  | start | setup | resume =>
      obtain ⟨d, -, rfl⟩ := Option.map_eq_some_iff.mp h
      exact ⟨ha.keeps (fun _ => rfl) rfl rfl, rfl⟩
  | visit allocOk ret c =>
      obtain ⟨_, d, -, ⟨rfl, -⟩ | ⟨_, _, _, -, -, ⟨-, rfl⟩ | ⟨-, -, rfl⟩⟩⟩ := visit_cases h
      all_goals exact ⟨ha.keeps (fun _ => rfl) rfl rfl, rfl⟩
  | pass =>
      refine ⟨ha.pass h, ?_⟩
      obtain ⟨_, _, _, _, _, -, -, -, _, -, _, _, _, rfl, -⟩ := pass_cases h
      rfl
  | transferred allocOk =>
      obtain ⟨_, _, _, d, -, -, -, rfl⟩ := transferred_cases h
      exact ⟨ha.keeps (fun _ => rfl) rfl rfl, rfl⟩
  | _ => cases htimer

/-- Every step keeps the requests accounted for, and none stores the device in a request. -/
lemma accounted_step (ha : Accounted s) (hudc : ∀ id, s.udc id = false) (hok : Careful s a)
    (h : step s a = some t) : Accounted t ∧ ∀ id, t.udc id = false := by
  cases htimer : a.timer
  swap
  · obtain ⟨ha', hsame⟩ := accounted_timer ha htimer h
    exact ⟨ha', hsame ▸ hudc⟩
  cases quiet_step htimer h with
  | device | submit | endpoint => exact ⟨ha.keeps (fun _ => rfl) rfl rfl, hudc⟩
  | requests _ _ _ _ udc _ _ _ _ _ _ _ _ hcall hserved =>
      refine ⟨ha.served hok hserved, fun id => ?_⟩
      rcases hcall with rfl | rfl
      · exact hudc id
      · show Function.update s.udc s.requests false id = false
        by_cases hid : id = s.requests
        · subst hid
          exact Function.update_self _ _ _
        · rw [Function.update_of_ne hid]
          exact hudc id

/-! ## `vep_dequeue` -/

/-- With the device in the request `vep_dequeue` does what it is to do. -/
lemma vepDequeue_of_udc {i id : Nat} (hudc : s.udc id = true) (hdriver : s.driver = true) :
    Dequeues i id s (vepDequeue i id s) := by
  unfold vepDequeue
  rw [if_neg (by rw [hudc]; decide), if_neg (not_not.mpr hdriver)]
  split
  · rename_i r hfind
    obtain ⟨hr, q₁, q₂, hq, hq₁⟩ := List.find?_eq_some_iff_append.mp hfind
    have herase : (s.queue i).eraseP (fun r => r.id = id) = q₁ ++ q₂ := by
      have hhead : (r :: q₂).eraseP (fun r => r.id = id) = q₂ := List.eraseP_cons_of_pos hr
      rw [hq, List.eraseP_append_right _ (by simpa using hq₁), hhead]
    rw [herase]
    exact .queued hq (of_decide_eq_true hr)
  · rename_i hfind
    refine .notQueued ?_
    simpa [ids] using hfind

/-- A dequeue is recorded. -/
lemma Dequeues.dequeued {i id : Nat} (h : Dequeues i id s t) :
    t.dequeued.length = s.dequeued.length + 1 := by
  cases h
  · exact List.length_append
  · exact List.length_append

/-- With the driver's pointer NULL nothing is dequeued. -/
lemma not_dequeues_of_null {i id : Nat} (hudc : s.udc id = false) :
    ¬ Dequeues i id s (vepDequeue i id s) := by
  intro h
  have hlen := h.dequeued
  unfold vepDequeue at hlen
  rw [if_pos hudc] at hlen
  exact Nat.succ_ne_self _ hlen.symm

/-- The device in the request is all that `vep_dequeue` needs. -/
lemma dequeues_iff {i id : Nat} (hdriver : s.driver = true) :
    Dequeues i id s (vepDequeue i id s) ↔ s.udc id = true := by
  refine ⟨fun h => ?_, fun hudc => vepDequeue_of_udc hudc hdriver⟩
  by_contra hnull
  exact not_dequeues_of_null (Bool.eq_false_of_not_eq_true hnull) h

/-! ## The runs -/

/-- Requests complete exactly once in every run; and of all steps it is `vep_dequeue`, whenever it
is called while a driver is bound, that does not do what it is to do. -/
theorem requests_complete_once (h : machine.Reach Careful s) :
    Accounted s ∧ ∀ a t, Careful s a → machine.step s a = some t →
      ((∀ i id, a = .dequeue i id → s.driver = true → Dequeues i id s t) ↔
        ∀ i id, a = .dequeue i id → s.driver = false) := by
  obtain ⟨ha, hudc⟩ : Accounted s ∧ ∀ id, s.udc id = false := by
    refine h.invariant (I := fun s => Accounted s ∧ ∀ id, s.udc id = false) ?_ ?_
    · rintro _ ⟨maxpacket, rfl⟩
      refine ⟨⟨fun _ => .nil, fun _ => .nil, fun _ _ _ hmem => absurd hmem List.not_mem_nil,
        fun _ => .slnil⟩, fun _ => rfl⟩
    · intro s a t hI hok hstep
      exact accounted_step hI.1 hI.2 hok hstep
  refine ⟨ha, fun a t _ hstep => ⟨fun hdequeues i id hcall => ?_, fun hnone i id hcall hdriver => ?_⟩⟩
  · subst hcall
    by_contra hdriver
    have hbound := Bool.eq_true_of_not_eq_false hdriver
    have hd := hdequeues i id rfl hbound
    simp only [machine, step] at hstep
    split at hstep <;> cases hstep
    exact Bool.false_ne_true ((hudc id).symm.trans ((dequeues_iff hbound).mp hd))
  · rw [hnone i id hcall] at hdriver
    cases hdriver

/-- Two requests are queued, and a URB takes the data of the first. -/
def queuedRun : List Action :=
  connectedRun ++ [.allocRequest, .allocRequest, .queue 1 0 [0] false, .queue 1 1 [0] false] ++
    received 1 1 1 ++ [.start 0] ++ served ++ [visited 0]

/-- The first request has been given back; the second is on the queue, and cannot be taken off. -/
theorem requests_complete_once_queuedRun :
    ∃ s : State, machine.Reach Careful s ∧ (queuedOn 1 s = [0, 1] ∧ givenOn 1 s = [0]) ∧
      Accounted s ∧ ∃ t, machine.step s (.dequeue 1 1) = some t ∧ ¬ Dequeues 1 1 s t := by
  have hrun : ∃ s : State, machine.Reach Careful s ∧
      ((queuedOn 1 s = [0, 1] ∧ givenOn 1 s = [0]) ∧ s.driver = true ∧ s.requests = 2 ∧
        s.dev.lockFree = true) :=
    Machine.Reach.of_perform queuedRun init_new (by decide +kernel)
  obtain ⟨s, hs, hgiven, hdriver, hrequests, hfree⟩ := hrun
  obtain ⟨haccounted, hdequeue⟩ := requests_complete_once hs
  have hstep : machine.step s (.dequeue 1 1) = some (vepDequeue 1 1 s) := if_pos hfree
  have hok : Careful s (.dequeue 1 1) := by
    rw [Careful, hrequests]
    decide
  refine ⟨s, hs, hgiven, haccounted, _, hstep, fun hd => ?_⟩
  have hunbound := (hdequeue _ _ hok hstep).mp (fun i id hcall _ => by cases hcall; exact hd) 1 1 rfl
  exact Bool.false_ne_true (hunbound.symm.trans hdriver)

/-- `vep_dequeue` of a request on the queue reads through NULL. -/
theorem dequeue_reads_null : ¬ ∀ (s : State) (i id : Nat) (t : State), machine.Reach Careful s →
    s.driver = true → id < s.requests → machine.step s (.dequeue i id) = some t →
      Dequeues i id s t := by
  intro hall
  have hrun : ∃ s : State, machine.Reach Careful s ∧ s.driver = true ∧ 1 < s.requests ∧
      s.dev.lockFree = true ∧ s.udc 1 = false :=
    Machine.Reach.of_perform queuedRun init_new (by decide +kernel)
  obtain ⟨s, hs, hdriver, hid, hfree, hudc⟩ := hrun
  exact not_dequeues_of_null hudc (hall s 1 1 _ hs hdriver hid (if_pos hfree))

end Usbip.Vudc.Flow
