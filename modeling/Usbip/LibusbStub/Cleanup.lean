import Usbip.Core.Emptying
import Usbip.LibusbStub.Connection
import Usbip.Stub.Ownership

/-!
# How the libusb stub cleans up after a connection

When the three threads of a connection have ended, `stub_try_transfer` frees what is left on the
lists.  `stub_device_cleanup_transfers` is the kernel's loop, popping from one list after the other
until nothing is found (`kernel_cleans_up`).  But the loop in `stub_priv_pop_from_listhead` only
warns of the entries where the kernel's unlinks and returns the first: nothing is ever found, and
whatever is on the lists stays there (`cleans_up_iff`).
-/

namespace Usbip.LibusbStub

open Usbip.Core Usbip.Common Usbip.Stub

variable {ρ σ : Type}

/-! ## Transfers and unlinks -/

/-- The body of the loop warns of the entry; it neither unlinks nor returns it.
Source: libusb stub's `stub_main.c`, `stub_priv_pop_from_listhead`. -/
def stubPrivPopFromListhead (listhead : List (StubPriv ρ)) :
    Option (StubPriv ρ × List (StubPriv ρ)) :=
  listhead.foldl (fun found _ => found) none

/-- Source: libusb stub's `stub_main.c`, `stub_priv_pop`. -/
def stubPrivPop (s : Session ρ σ) : Option (StubPriv ρ × Session ρ σ) :=
  match stubPrivPopFromListhead s.privInit with
  | some (priv, rest) => some (priv, { s with privInit := rest })
  | none =>
      match stubPrivPopFromListhead s.privTx with
      | some (priv, rest) => some (priv, { s with privTx := rest })
      | none =>
          match stubPrivPopFromListhead s.privFree with
          | some (priv, rest) => some (priv, { s with privFree := rest })
          | none => none

/-- The entry is freed, with its transfer and the buffer of that. -/
def freePriv (priv : StubPriv ρ) (s : Session ρ σ) : Session ρ σ :=
  { s with freed := s.freed ++ [priv.origin] }

/-- Source: libusb stub's `stub_main.c`, `stub_device_cleanup_transfers`. -/
def stubDeviceCleanupTransfers (fuel : Nat) (s : Session ρ σ) : Option (Session ρ σ) :=
  popLoop stubPrivPop freePriv fuel s

/-- Source: libusb stub's `stub_main.c`, `stub_device_cleanup_unlinks`. -/
def stubDeviceCleanupUnlinks (s : Session ρ σ) : Session ρ σ :=
  { s with unlinkTx := [], unlinkFree := [] }

/-- What `stub_try_transfer` does with the lists after `stub_join`.
Source: libusb stub's `stub_dev.c`, `stub_try_transfer`. -/
def stubCleanup (fuel : Nat) (s : Session ρ σ) : Option (Session ρ σ) :=
  (stubDeviceCleanupTransfers fuel s).map stubDeviceCleanupUnlinks

/-! ## What a clean-up should do -/

/-- The requests whose entries are on one of the three lists. -/
def leftOver (s : Session ρ σ) : List Seqnum :=
  (s.privInit ++ s.privTx ++ s.privFree).map StubPriv.origin

/-- Every entry has been freed once, and the lists are empty. -/
structure CleanedUp (s t : Session ρ σ) : Prop where
  freed : ∃ l, t.freed = s.freed ++ l ∧ l.Perm (leftOver s)
  privInit : t.privInit = []
  privTx : t.privTx = []
  privFree : t.privFree = []

/-- Nothing is left exactly when the three lists are empty. -/
lemma leftOver_eq_nil_iff {s : Session ρ σ} :
    leftOver s = [] ↔ s.privInit = [] ∧ s.privTx = [] ∧ s.privFree = [] := by
  rw [leftOver, List.map_eq_nil_iff, List.append_eq_nil_iff, List.append_eq_nil_iff, and_assoc]

/-- Popping a record frees nothing. -/
lemma freed_stubPrivPop {s s' : Session UrbResult (BitVec 32)} {p : StubPriv UrbResult}
    (h : Stub.stubPrivPop s = some (p, s')) : s'.freed = s.freed := by
  unfold Stub.stubPrivPop at h
  split at h
  · cases h
    rfl
  · cases h
    rfl
  · cases h
    rfl
  · cases h

/-- The kernel's `stub_priv_pop` takes what it finds. -/
lemma pops_kernel :
    Pops Stub.stubPrivPop freePriv StubPriv.origin leftOver Session.freed := by
  constructor
  · intro s h
    exact leftOver_eq_nil_iff.mpr (stubPrivPop_none h)
  · intro s p s' h
    have hperm := stubPrivPop_some h
    have hswap : (s'.owned ++ [p.origin]).Perm (p.origin :: leftOver s' ++ s'.freed) :=
      List.perm_append_singleton p.origin s'.owned
    have howned := hperm.trans hswap
    rw [freed_stubPrivPop h] at howned
    exact (List.perm_append_right_iff s.freed).mp howned
  · intro s p s' h
    exact congrArg (· ++ [p.origin]) (freed_stubPrivPop h)

/-- The same loop cleans up when it pops as the kernel's stub does. -/
theorem kernel_cleans_up (s : Session UrbResult (BitVec 32)) :
    ∃ fuel t, (popLoop Stub.stubPrivPop freePriv fuel s).map stubDeviceCleanupUnlinks = some t ∧
      CleanedUp s t := by
  obtain ⟨t, ht, hkept, l, hgone, hl⟩ := pops_kernel.popLoop s
  obtain ⟨hinit, htx, hfree⟩ := leftOver_eq_nil_iff.mp hkept
  exact ⟨_, _, congrArg (Option.map _) ht, ⟨l, hgone, hl⟩, hinit, htx, hfree⟩

/-! ## What it does -/

/-- Nothing is ever found. -/
lemma stubPrivPopFromListhead_eq_none (listhead : List (StubPriv ρ)) :
    stubPrivPopFromListhead listhead = none := by
  unfold stubPrivPopFromListhead
  induction listhead with
  | nil => rfl
  | cons priv rest ih => exact ih

/-- `stub_priv_pop` finds nothing after `stub_device_cleanup_transfers` has cleared the lists. -/
lemma stubPrivPop_eq_none (s : Session ρ σ) : stubPrivPop s = none := by
  simp only [stubPrivPop, stubPrivPopFromListhead_eq_none]

/-- The loop is left at once, and only the unlinks are freed. -/
lemma stubCleanup_eq {fuel : Nat} {s t : Session ρ σ} (h : stubCleanup fuel s = some t) :
    t = stubDeviceCleanupUnlinks s := by
  obtain ⟨s', hs', rfl⟩ := Option.map_eq_some_iff.mp h
  cases fuel with
  | zero => cases hs'
  | succ fuel =>
      rw [stubDeviceCleanupTransfers, popLoop_of_none (stubPrivPop_eq_none s)] at hs'
      rw [Option.some.inj hs']

/-- The cleanup frees everything exactly when there is nothing to free. -/
lemma exists_cleanedUp_iff (s : Session ρ σ) :
    (∃ fuel t, stubCleanup fuel s = some t ∧ CleanedUp s t) ↔ leftOver s = [] := by
  constructor
  · rintro ⟨fuel, t, ht, hclean⟩
    obtain rfl := stubCleanup_eq ht
    exact leftOver_eq_nil_iff.mpr ⟨hclean.privInit, hclean.privTx, hclean.privFree⟩
  · intro hleft
    obtain ⟨hinit, htx, hfree⟩ := leftOver_eq_nil_iff.mp hleft
    refine ⟨1, stubDeviceCleanupUnlinks s, ?_, ⟨[], (List.append_nil _).symm, ?_⟩, hinit, htx,
      hfree⟩
    · rw [stubCleanup, stubDeviceCleanupTransfers, popLoop_of_none (stubPrivPop_eq_none s)]
      rfl
    · rw [hleft]

/-- The clean-up is complete just when there is nothing to clean up. -/
theorem cleans_up_iff (s : Session ρ σ) :
    (∃ fuel t, stubCleanup fuel s = some t ∧ CleanedUp s t) ↔
      s.privInit = [] ∧ s.privTx = [] ∧ s.privFree = [] :=
  (exists_cleanedUp_iff s).trans leftOver_eq_nil_iff

/-! ## What a connection leaves -/

section Runs

variable {s t : State} {a : Action}

/-- Every request received is on one of the lists or has been freed. -/
def Accounted (s : State) : Prop := s.lists.owned.Perm s.lists.submits

/-- A completion leaves the requests that were read. -/
lemma submits_stubComplete {lists lists' : Session Transfer TransferStatus} {n : Seqnum}
    {r : Transfer} (h : lists.stubComplete n r r.status = some lists') :
    lists'.submits = lists.submits := by
  obtain ⟨p, -, -, ⟨-, rfl⟩ | ⟨-, rfl⟩⟩ := Session.stubComplete_cases h
  · rfl
  · rfl

/-- An unlink leaves the submits that were read. -/
lemma submits_stubRecvCmdUnlink {lists : Session Transfer TransferStatus} (u n : Seqnum) :
    (lists.stubRecvCmdUnlink .completed u n).submits = lists.submits := by
  unfold Session.stubRecvCmdUnlink
  split
  · rfl
  · rfl

/-- Every step of the stub keeps the account. -/
lemma Accounted.step (h : Accounted s) (hst : LibusbStub.step s a = some t) : Accounted t := by
  unfold Accounted at h ⊢
  cases moves_of_step hst with
  | eventAdd | ehShutdown | rxTop | rxFail | rxSubmitTransfer | rxSubmitFail | ignored | txTop =>
      exact h
  | @rxCmdUnlink u n _ =>
      rw [Session.owned_stubRecvCmdUnlink, submits_stubRecvCmdUnlink]
      exact h
  | @rxCmdSubmit n _ => exact (Session.owned_stubPrivAlloc n).trans (h.append_right [n])
  | complete _ _ hl =>
      rw [submits_stubComplete hl]
      exact (Session.owned_stubComplete hl).trans h
  | tx hl =>
      rw [(frame_stubTxStep hl).2]
      exact (Session.owned_stubTxStep hl).trans h

/-- A connection is cleaned up just when all its requests had been freed before it ended. -/
theorem cleaned_up_iff_freed (h : machine.Reachable s) :
    (∃ fuel t, stubCleanup fuel s.lists = some t ∧ CleanedUp s.lists t) ↔
      s.lists.freed.Perm s.lists.submits := by
  have haccounted : Accounted s := by
    refine h.invariant (I := Accounted) ?_ fun s a t hs _ hst => hs.step hst
    rintro s rfl
    exact .nil
  rw [exists_cleanedUp_iff]
  have howned : s.lists.owned = leftOver s.lists ++ s.lists.freed := rfl
  constructor
  · intro hleft
    rw [Accounted, howned, hleft] at haccounted
    exact haccounted
  · intro hfreed
    have hlen := (haccounted.trans hfreed.symm).length_eq
    rw [howned, List.length_append] at hlen
    exact List.length_eq_zero_iff.mp (by omega)

end Runs

/-! ### A request that is left -/

/-- A connection ends with one request at the device. -/
def abandonedRun : List Action :=
  [.rxTop, .rxCmdSubmit 1, .rxSubmitTransfer, .eventAdd, .rxTop, .txTop, .ehShutdown]

/-- Its entry is on `priv_init` when all threads have ended, and the clean-up leaves it there. -/
theorem not_cleaned_up :
    ∃ s, machine.Reachable s ∧ s.rx = .stopped ∧ s.lists.tx = .stopped none ∧ s.shouldStop = true ∧
      leftOver s.lists = [1] ∧ stubCleanup 1 s.lists = some s.lists ∧
      ¬ ∃ fuel t, stubCleanup fuel s.lists = some t ∧ CleanedUp s.lists t := by
  have hrun : ∃ s, machine.Reachable s ∧ s.rx = .stopped ∧ s.lists.tx = .stopped none ∧
      s.shouldStop = true ∧ leftOver s.lists = [1] ∧ stubCleanup 1 s.lists = some s.lists ∧
      s.lists.freed = [] ∧ s.lists.submits = [1] := by
    apply Machine.Reach.of_perform abandonedRun (s := {}) rfl
    exact ⟨_, rfl, by decide⟩
  obtain ⟨s, hs, hrx, htx, hstop, hleft, hclean, hfreed, hsubmits⟩ := hrun
  refine ⟨s, hs, hrx, htx, hstop, hleft, hclean, fun h => ?_⟩
  have hall := (cleaned_up_iff_freed hs).mp h
  rw [hfreed, hsubmits] at hall
  exact absurd hall.length_eq (by decide)

end Usbip.LibusbStub
