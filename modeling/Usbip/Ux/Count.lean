import Usbip.Common.Basic
import Usbip.Core.Machine

/-!
# The use count of a usbip_ux

Every operation on a `usbip_ux` takes the count in `usbip_ux_get`, under `ux->lock` and only while
the `usbip_ux` is linked, and drops it in `usbip_ux_put`; `usbip_ux_unlink` holds `ux->lock` and
waits until the count is not positive.

`usbip_ux_ioctl` does not look at the result of `usbip_ux_get` and drops the count in any case.  So
the count is the number of the operations in progress less the ioctls that have not got it
(`Exact`), which is what it should be as long as there are none of these (`count_exact_iff`).  The
ioctl that sets the socket is one: it has to come before `usbip_ux_link`, which looks for the socket
(`Prepared`).
-/

namespace Usbip.Ux

open Usbip.Core

/-- What the ioctl of a `usbip_ux` is called with.
Source: `usbip_ux.h`, `USBIP_UX_IOCSETSOCKFD` and the others. -/
inductive IoctlNr
  | setSockfd
  | intr
  | intrPgrp
  | getKaddr
  /-- Any other. -/
  | other
  deriving DecidableEq

/-- The operations on a `usbip_ux`. -/
inductive Operation
  | read
  | write
  | ioctl (nr : IoctlNr)
  | sendmsg
  | recvmsg
  deriving DecidableEq

/-- The position of an operation. -/
inductive CallPc
  | idle
  /-- Past a successful `usbip_ux_get`. -/
  | inProgress (o : Operation)
  /-- Past a failed `usbip_ux_get`, with `usbip_ux_put` to come. -/
  | ungotten (o : Operation)
  | returned
  deriving DecidableEq

/-- The semaphore `ux->lock`, which between two steps is held by `usbip_ux_unlink` only. -/
inductive Lock
  | free
  /-- In `usbip_ux_wait_unused`. -/
  | waiting
  /-- Past it. -/
  | unused
  deriving DecidableEq

structure State (ι : Type*) where
  /-- `ux->tcp_socket` is set. -/
  socket : Bool := false
  /-- `ux->ud` is not NULL. -/
  linked : Bool := false
  count : Int := 0
  lock : Lock := .free
  calls : ι → CallPc := fun _ => .idle
  /-- How often `usbip_ux_put` has been called after a failed `usbip_ux_get`. -/
  unmatched : Nat := 0

inductive Action (ι : Type*)
  /-- `usbip_ux_get` of an operation; `signal` tells whether a signal interrupts it. -/
  | get (t : ι) (o : Operation) (signal : Bool)
  /-- `usbip_ux_set_sockfd` of an ioctl; `ok` tells whether the descriptor is that of a socket. -/
  | setSockfd (t : ι) (ok : Bool)
  /-- `usbip_ux_put` of an operation. -/
  | put (t : ι)
  /-- `usbip_ux_link` finds the `usbip_ux`, by its socket. -/
  | link
  /-- `usbip_ux_unlink` takes `ux->lock`. -/
  | unlink
  /-- Its wait ends. -/
  | unlinkWait (signal : Bool)
  /-- It unlinks the `usbip_ux` and returns. -/
  | unlinkFinish
  deriving DecidableEq

variable {ι : Type*} [DecidableEq ι]

/-- Whether `usbip_ux_get` returns, and with what: it waits for `ux->lock` unless a signal comes.
Source: `usbip_ux.c`, `usbip_ux_get`. -/
def usbipUxGet (signal : Bool) (s : State ι) : Option Bool :=
  if signal then some false
  else if s.lock ≠ .free then none
  else some s.linked

/-- Where an operation goes after `usbip_ux_get`: all but the ioctl return when it fails.
Source: `usbip_ux.c`, `usbip_ux_read`, `usbip_ux_write`, `usbip_ux_sendmsg`, `usbip_ux_recvmsg`,
`usbip_ux_ioctl`. -/
def Operation.afterGet (o : Operation) : Bool → CallPc
  | true => .inProgress o
  | false =>
      match o with
      | .ioctl nr => .ungotten (.ioctl nr)
      | _ => .returned

/-- Only the first socket is kept.
Source: `usbip_ux.c`, `usbip_ux_set_sockfd`. -/
def usbipUxSetSockfd (ok : Bool) (s : State ι) : State ι := { s with socket := s.socket || ok }

/-- The state an action leads to. -/
def step (s : State ι) : Action ι → Option (State ι)
  | .get t o signal =>
      if s.calls t = .idle then
        (usbipUxGet signal s).map fun ok =>
          { s with
            count := if ok then s.count + 1 else s.count
            calls := Function.update s.calls t (o.afterGet ok) }
      else none
  | .setSockfd t ok =>
      match s.calls t with
      | .inProgress (.ioctl .setSockfd) | .ungotten (.ioctl .setSockfd) =>
          some (usbipUxSetSockfd ok s)
      | _ => none
  | .put t =>
      let s' := { s with
        count := s.count - 1
        calls := Function.update s.calls t .returned }
      match s.calls t with
      | .inProgress _ => some s'
      | .ungotten _ => some { s' with unmatched := s.unmatched + 1 }
      | .idle | .returned => none
  | .link => if s.socket then some { s with linked := true } else none
  | .unlink => if s.lock = .free then some { s with lock := .waiting } else none
  | .unlinkWait signal =>
      match s.lock with
      | .waiting =>
          if signal then some { s with lock := .free }
          else if s.count ≤ 0 then some { s with lock := .unused }
          else none
      | _ => none
  | .unlinkFinish =>
      match s.lock with
      | .unused => some { s with linked := false, lock := .free }
      | _ => none

/-- A `usbip_ux` as `usbip_ux_new` leaves it. -/
def machine : Machine (State ι) (Action ι) where
  init s := s = {}
  step := step

/-- The operations between a successful `usbip_ux_get` and their `usbip_ux_put`. -/
def State.inProgress (s : State ι) : Set ι := {t | ∃ o, s.calls t = .inProgress o}

/-- The count is the number of the operations in progress, no `usbip_ux_put` has come without a
`usbip_ux_get`, and an unlink that unlinks the `usbip_ux` does so when no operation is in
progress. -/
structure State.Correct (s : State ι) : Prop where
  finite : s.inProgress.Finite
  count : s.count = s.inProgress.ncard
  nonneg : 0 ≤ s.count
  matched : s.unmatched = 0
  unlinks : ∀ s', step s .unlinkFinish = some s' → s'.inProgress = ∅

/-- The count is short by one for each `usbip_ux_put` without a `usbip_ux_get`. -/
structure Exact (s : State ι) : Prop where
  finite : s.inProgress.Finite
  count : s.count + s.unmatched = s.inProgress.ncard
  unused : s.lock = .unused → s.unmatched = 0 → s.inProgress = ∅

/-- The socket has been set by an ioctl that came before the `usbip_ux` was linked, and which has
not got the count. -/
structure Prepared (s : State ι) : Prop where
  linked : s.linked = true → s.socket = true
  calls : ∀ t o, s.calls t = .inProgress o → s.socket = true
  socket : s.socket = true → s.unmatched = 0 →
    ∃ t, s.calls t = .ungotten (.ioctl .setSockfd)

variable {s s' : State ι} {a : Action ι}

/-- An operation that takes the count. -/
lemma inProgress_insert {t : ι} {o : Operation}
    (h : s'.calls = Function.update s.calls t (.inProgress o)) :
    s'.inProgress = insert t s.inProgress := by
  ext t'
  by_cases ht : t' = t
  · subst ht
    simp [State.inProgress, h]
  · simp [State.inProgress, h, ht]

/-- An operation that is not, or no longer, in progress. -/
lemma inProgress_erase {t : ι} {pc : CallPc} (hpc : ∀ o, pc ≠ .inProgress o)
    (h : s'.calls = Function.update s.calls t pc) : s'.inProgress = s.inProgress \ {t} := by
  ext t'
  by_cases ht : t' = t
  · subst ht
    simp [State.inProgress, h, hpc]
  · simp [State.inProgress, h, ht]

/-- An operation that is in progress was so before the update. -/
lemma inProgress_of_update {calls : ι → CallPc} {t t' : ι} {o : Operation} {pc : CallPc}
    (hpc : ∀ o, pc ≠ .inProgress o) (h : Function.update calls t pc t' = .inProgress o) :
    calls t' = .inProgress o := by
  by_cases ht : t' = t
  · subst ht
    rw [Function.update_self] at h
    exact absurd h (hpc o)
  · rwa [Function.update_of_ne ht] at h

/-- After a failed `usbip_ux_get` an operation is not in progress. -/
lemma afterGet_false_ne (o o' : Operation) : o.afterGet false ≠ .inProgress o' := by
  cases o <;> simp [Operation.afterGet]

omit [DecidableEq ι] in
/-- A successful `usbip_ux_get` has held the lock of a linked `usbip_ux`. -/
lemma usbipUxGet_eq_true {signal : Bool} (h : usbipUxGet signal s = some true) :
    s.lock = .free ∧ s.linked = true := by
  simp only [usbipUxGet] at h
  split at h
  · cases h
  split at h
  · cases h
  · next hfree => exact ⟨not_not.mp hfree, Option.some.inj h⟩

/-- What a step does. -/
inductive Effect (s : State ι) : State ι → Prop
  | got {t : ι} {o : Operation} (hidle : s.calls t = .idle) (hfree : s.lock = .free)
      (hlinked : s.linked = true) :
      Effect s { s with
        count := s.count + 1, calls := Function.update s.calls t (.inProgress o) }
  | failed {t : ι} {o : Operation} (hidle : s.calls t = .idle) :
      Effect s { s with calls := Function.update s.calls t (o.afterGet false) }
  | setSockfd {t : ι} {ok : Bool} (hcall : s.calls t = .inProgress (.ioctl .setSockfd) ∨
      s.calls t = .ungotten (.ioctl .setSockfd)) : Effect s (usbipUxSetSockfd ok s)
  | put {t : ι} {o : Operation} (hcall : s.calls t = .inProgress o) :
      Effect s { s with count := s.count - 1, calls := Function.update s.calls t .returned }
  | putUngotten {t : ι} {o : Operation} (hcall : s.calls t = .ungotten o) :
      Effect s { s with
        count := s.count - 1
        calls := Function.update s.calls t .returned
        unmatched := s.unmatched + 1 }
  | link (hsocket : s.socket = true) : Effect s { s with linked := true }
  | unlink : Effect s { s with lock := .waiting }
  | interrupted : Effect s { s with lock := .free }
  | unused (hcount : s.count ≤ 0) : Effect s { s with lock := .unused }
  | unlinked : Effect s { s with linked := false, lock := .free }

/-- Every step has one of the effects. -/
lemma step_effect (h : step s a = some s') : Effect s s' := by
  cases a with
  | get t o signal =>
      simp only [step, Option.ite_none_right_eq_some] at h
      obtain ⟨hidle, h⟩ := h
      obtain ⟨ok, hget, rfl⟩ := Option.map_eq_some_iff.mp h
      cases ok with
      | true =>
          obtain ⟨hfree, hlinked⟩ := usbipUxGet_eq_true hget
          exact .got hidle hfree hlinked
      | false => exact .failed hidle
  | setSockfd t ok =>
      simp only [step] at h
      split at h
      · next hcall => exact Option.some.inj h ▸ .setSockfd (.inl hcall)
      · next hcall => exact Option.some.inj h ▸ .setSockfd (.inr hcall)
      · cases h
  | put t =>
      simp only [step] at h
      split at h
      · next hcall => exact Option.some.inj h ▸ .put hcall
      · next hcall => exact Option.some.inj h ▸ .putUngotten hcall
      · cases h
      · cases h
  | link =>
      simp only [step, Option.ite_none_right_eq_some] at h
      exact Option.some.inj h.2 ▸ .link h.1
  | unlink =>
      simp only [step, Option.ite_none_right_eq_some] at h
      exact Option.some.inj h.2 ▸ .unlink
  | unlinkWait signal =>
      simp only [step] at h
      split at h
      · split at h
        · exact Option.some.inj h ▸ .interrupted
        · obtain ⟨hcount, h⟩ := Option.ite_none_right_eq_some.mp h
          exact Option.some.inj h ▸ .unused hcount
      · cases h
  | unlinkFinish =>
      simp only [step] at h
      split at h
      · exact Option.some.inj h ▸ .unlinked
      · cases h

/-! ## What the count is -/

namespace Exact

omit [DecidableEq ι] in
/-- No thread is in a call at the start. -/
lemma start : Exact ({} : State ι) := by
  have hempty : ({} : State ι).inProgress = ∅ := by simp [State.inProgress]
  exact ⟨hempty ▸ Set.finite_empty, by simp [hempty], by simp⟩

omit [DecidableEq ι] in
/-- When the count is not positive and not short, no operation is in progress. -/
lemma empty_of_count (hi : Exact s) (h : s.count ≤ 0) (hmatched : s.unmatched = 0) :
    s.inProgress = ∅ := by
  have hcard : s.inProgress.ncard = 0 := by
    have hcount := hi.count
    omega
  exact (Set.ncard_eq_zero hi.finite).mp hcard

/-- Every statement keeps the count exact. -/
theorem step (hi : Exact s) (h : step s a = some s') : Exact s' := by
  cases step_effect h with
  | @got t o hidle hfree =>
      have hnot : t ∉ s.inProgress := by
        rintro ⟨o', hpc⟩
        rw [hidle] at hpc
        cases hpc
      refine ⟨?_, ?_, fun hlock => ?_⟩
      · rw [inProgress_insert (s := s) rfl]
        exact hi.finite.insert t
      · rw [inProgress_insert (s := s) rfl, Set.ncard_insert_of_notMem hnot hi.finite]
        have hcount := hi.count
        dsimp only
        push_cast
        omega
      · -- the lock is free, so no unlink is past its wait
        exact absurd (hfree.symm.trans hlock) (by simp)
  | @failed t o hidle =>
      have hsame : ({ s with calls := Function.update s.calls t (o.afterGet false) } :
          State ι).inProgress = s.inProgress := by
        rw [inProgress_erase (s := s) (afterGet_false_ne o) rfl]
        refine Set.sdiff_singleton_eq_self ?_
        rintro ⟨o', hpc⟩
        rw [hidle] at hpc
        cases hpc
      exact ⟨hsame ▸ hi.finite, hsame ▸ hi.count, hsame ▸ hi.unused⟩
  | setSockfd => exact ⟨hi.finite, hi.count, hi.unused⟩
  | @put t o hcall =>
      have hmem : t ∈ s.inProgress := ⟨o, hcall⟩
      have herase : ({ s with
          count := s.count - 1, calls := Function.update s.calls t .returned } :
          State ι).inProgress = s.inProgress \ {t} := inProgress_erase (by simp) rfl
      refine ⟨?_, ?_, fun hlock hmatched => ?_⟩
      · rw [herase]
        exact hi.finite.subset Set.sdiff_subset
      · have hcard := Set.ncard_sdiff_singleton_add_one hmem hi.finite
        have hcount := hi.count
        rw [herase]
        dsimp only
        omega
      · -- past the wait of an unlink nobody is in progress
        have hempty : s.inProgress = ∅ := hi.unused hlock hmatched
        rw [hempty] at hmem
        exact hmem.elim
  | @putUngotten t o hcall =>
      have hsame : ({ s with calls := Function.update s.calls t .returned } :
          State ι).inProgress = s.inProgress := by
        rw [@inProgress_erase _ _ s _ t .returned (by simp) rfl]
        refine Set.sdiff_singleton_eq_self ?_
        rintro ⟨o', hpc⟩
        rw [hcall] at hpc
        cases hpc
      refine ⟨hsame ▸ hi.finite, ?_, fun _ hmatched => absurd hmatched (Nat.succ_ne_zero _)⟩
      have hcount := hi.count
      change s.count - 1 + ((s.unmatched + 1 : Nat) : Int) =
        (({ s with calls := Function.update s.calls t .returned } : State ι).inProgress.ncard : Int)
      rw [hsame]
      push_cast
      omega
  | unused hcount => exact ⟨hi.finite, hi.count, fun _ => hi.empty_of_count hcount⟩
  | link => exact ⟨hi.finite, hi.count, hi.unused⟩
  | unlink | interrupted | unlinked => exact ⟨hi.finite, hi.count, by simp⟩

/-- The count is exact in every state reached. -/
theorem reach (h : machine.Reachable s) : Exact s := by
  refine h.invariant (I := Exact) ?_ fun s a s' hi _ hstep => hi.step hstep
  rintro s rfl
  exact .start

end Exact

/-! ## The ioctl that sets the socket -/

namespace Prepared

omit [DecidableEq ι] in
/-- Nothing is linked at the start. -/
lemma start : Prepared ({} : State ι) where
  linked h := by cases h
  calls _ _ h := by cases h
  socket h := by cases h

/-- An ioctl that is past a failed `usbip_ux_get` stays there until its `usbip_ux_put`. -/
lemma ungotten_of_update {t t' : ι} {o : Operation} {pc : CallPc}
    (hcall : s.calls t' = .ungotten o) (hne : s.calls t ≠ .ungotten o) :
    Function.update s.calls t pc t' = .ungotten o := by
  rw [Function.update_of_ne, hcall]
  rintro rfl
  exact hne hcall

/-- Every statement keeps the link prepared. -/
theorem step (hi : Prepared s) (h : step s a = some s') : Prepared s' := by
  cases step_effect h with
  | @got t o hidle _ hlinked =>
      refine ⟨hi.linked, fun _ _ _ => hi.linked hlinked, fun hsocket hmatched => ?_⟩
      obtain ⟨t', ht'⟩ := hi.socket hsocket hmatched
      exact ⟨t', ungotten_of_update ht' (by simp [hidle])⟩
  | @failed t o hidle =>
      refine ⟨hi.linked, fun t' o' hcall => ?_, fun hsocket hmatched => ?_⟩
      · exact hi.calls t' o' (inProgress_of_update (afterGet_false_ne o) hcall)
      · obtain ⟨t', ht'⟩ := hi.socket hsocket hmatched
        exact ⟨t', ungotten_of_update ht' (by simp [hidle])⟩
  | @setSockfd t ok hcall =>
      have hor : s.socket = true → (usbipUxSetSockfd ok s).socket = true := by
        intro hsocket
        simp [usbipUxSetSockfd, hsocket]
      refine ⟨fun hlinked => hor (hi.linked hlinked), fun t' o' h => hor (hi.calls t' o' h),
        fun _ hmatched => ?_⟩
      rcases hcall with hcall | hcall
      · exact hi.socket (hi.calls t _ hcall) hmatched
      · exact ⟨t, hcall⟩
  | @put t o hcall =>
      refine ⟨hi.linked, fun t' o' hcall' => ?_, fun hsocket hmatched => ?_⟩
      · exact hi.calls t' o' (inProgress_of_update (by simp) hcall')
      · obtain ⟨t', ht'⟩ := hi.socket hsocket hmatched
        exact ⟨t', ungotten_of_update ht' (by simp [hcall])⟩
  | @putUngotten t o hcall =>
      refine ⟨hi.linked, fun t' o' hcall' => ?_, fun _ hmatched => absurd hmatched (Nat.succ_ne_zero _)⟩
      exact hi.calls t' o' (inProgress_of_update (by simp) hcall')
  | link hsocket => exact ⟨fun _ => hsocket, hi.calls, hi.socket⟩
  | unlinked => exact ⟨fun h => (by cases h), hi.calls, hi.socket⟩
  | unlink | interrupted | unused => exact ⟨hi.linked, hi.calls, hi.socket⟩

/-- The link is prepared in every state reached. -/
theorem reach (h : machine.Reachable s) : Prepared s := by
  refine h.invariant (I := Prepared) ?_ fun s a s' hi _ hstep => hi.step hstep
  rintro s rfl
  exact .start

end Prepared

/-! ## The count -/

/-- In every state that the operations, `usbip_ux_link` and `usbip_ux_unlink` lead to, the count and
what depends on it are as they should be exactly when no operation has come to its `usbip_ux_put`
from a failed `usbip_ux_get`.  When the socket of the `usbip_ux` is set, so that it can be linked,
and the ioctl that has set it has returned, there has been one. -/
theorem count_exact_iff (h : machine.Reachable s) :
    (s.Correct ↔ s.unmatched = 0) ∧
      (s.socket = true → (∀ t, s.calls t ≠ .ungotten (.ioctl .setSockfd)) → ¬ s.Correct) := by
  have hi := Exact.reach h
  have hiff : s.Correct ↔ s.unmatched = 0 := by
    refine ⟨fun hc => hc.matched, fun hmatched => ?_⟩
    have hcount := hi.count
    refine ⟨hi.finite, by omega, by omega, hmatched, fun s' hstep => ?_⟩
    simp only [step] at hstep
    split at hstep
    · next hlock =>
      cases hstep
      exact hi.unused hlock hmatched
    · cases hstep
  refine ⟨hiff, fun hsocket hcalls hc => ?_⟩
  obtain ⟨t, ht⟩ := (Prepared.reach h).socket hsocket (hiff.mp hc)
  exact hcalls t ht

/-- The ioctl that sets the socket comes before the `usbip_ux` is linked; later a read begins. -/
def setSockfdRun : List (Action (Fin 2)) :=
  [.get 0 (.ioctl .setSockfd) false, .setSockfd 0 true, .put 0, .link, .get 1 .read false]

/-- A link behind its ioctl, whose own call is counted out and not in. -/
theorem count_exact_iff_setSockfdRun :
    ∃ s : State (Fin 2), machine.Reachable s ∧ s.linked = true ∧ s.unmatched = 1 ∧
      (s.Correct ↔ s.unmatched = 0) ∧
      (s.socket = true → (∀ t, s.calls t ≠ .ungotten (.ioctl .setSockfd)) → ¬ s.Correct) := by
  have hrun : ∃ s : State (Fin 2), machine.Reachable s ∧ s.linked = true ∧ s.unmatched = 1 :=
    Machine.Reach.of_perform (M := machine) setSockfdRun (s := {}) rfl ⟨_, rfl, rfl, rfl⟩
  obtain ⟨s, h, hlinked, hunmatched⟩ := hrun
  exact ⟨s, h, hlinked, hunmatched, count_exact_iff h⟩

/-- The ioctl that sets the socket cannot take the count, and drops it nevertheless.  The count is
then negative, and an unlink returns while a read is in progress. -/
theorem count_negative :
    (∃ s ∈ machine.perform (fun _ _ => True) {} (setSockfdRun.take 3),
      s.count = -1 ∧ s.unmatched = 1) ∧
    ∃ s ∈ machine.perform (fun _ _ => True) {}
        (setSockfdRun ++ [.unlink, .unlinkWait false, .unlinkFinish]),
      s.linked = false ∧ s.lock = .free ∧ (1 : Fin 2) ∈ s.inProgress :=
  ⟨⟨_, rfl, rfl, rfl⟩, _, rfl, rfl, rfl, _, rfl⟩

end Usbip.Ux
