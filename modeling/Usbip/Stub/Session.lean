import Usbip.Common.Basic
import Usbip.Core.Drain
import Usbip.Core.Ledger

/-!
# The stub's request lists

Both stubs, the one in the kernel and its port to libusb, keep the requests of a connection on
the same five lists under the same lock, and their receiving thread, sending thread and
completion handler do the same things to them.  What differs (which completions are ignored, when
completions run, how a connection ends) is left to the two machines built on this module.

* A `StubPriv` is linked to `privInit` until its URB completes, to `privTx` until it is picked up
  for sending, and to `privFree` until it is freed.
* A `StubUnlink` is a RET_UNLINK to be sent: on `unlinkTx`, then on `unlinkFree`.

Three history fields record what arrived (`submits`, `unlinks`), what was queued for sending
(`queued`) and what was freed (`freed`); `wire` is what has been written to the socket.  No
operation reads them.  Through them the lists are an instance of the request ledger
(`Session.ledger`), and the sending thread is an instance of the worker with two queues
(`Session.drain`).
-/

namespace Usbip.Stub

open Usbip.Core Usbip.Common

/-- Private data of a URB.  `origin` is the seqnum of the CMD_SUBMIT it was allocated for and
stands for its address; `urb` is what the device left in the URB.
Source: `stub.h`, `struct stub_priv`. -/
structure StubPriv (ρ : Type) where
  origin : Seqnum
  seqnum : Seqnum
  unlinking : Bool
  urb : Option ρ
  deriving DecidableEq

/-- A RET_UNLINK to be sent.  `caught` is the request whose URB the unlink caught in flight; the
source does not keep it.
Source: `stub.h`, `struct stub_unlink`. -/
structure StubUnlink (σ : Type) where
  seqnum : Seqnum
  status : σ
  caught : Option Seqnum
  deriving DecidableEq

/-- A reply written to the socket. -/
inductive Ret (ρ σ : Type)
  /-- RET_SUBMIT, with the contents of the URB. -/
  | submit (seqnum : Seqnum) (urb : Option ρ)
  /-- RET_UNLINK. -/
  | unlink (u : StubUnlink σ)
  deriving DecidableEq

/-- The position of the sending thread in `stub_tx_loop`. -/
inductive TxPc (ρ σ : Type)
  /-- At the head of the loop. -/
  | top
  /-- In `stub_send_ret_submit`, about to look at `priv_tx`. -/
  | submit
  /-- In `stub_send_ret_submit`, about to send the RET_SUBMIT of a dequeued entry. -/
  | sendSubmit (p : StubPriv ρ)
  /-- In `stub_send_ret_submit`, about to free `priv_free`. -/
  | freeSubmit
  /-- In `stub_send_ret_unlink`, about to look at `unlink_tx`. -/
  | unlink
  /-- In `stub_send_ret_unlink`, about to send a dequeued RET_UNLINK. -/
  | sendUnlink (u : StubUnlink σ)
  /-- In `stub_send_ret_unlink`, about to free `unlink_free`. -/
  | freeUnlink
  /-- Returned from `stub_tx_loop`, because the reply `lost` could not be sent if there is one. -/
  | stopped (lost : Option (Ret ρ σ))
  deriving DecidableEq

/-- The lists of a connection, the position of its sending thread, and the history. -/
structure Session (ρ σ : Type) where
  privInit : List (StubPriv ρ) := []
  privTx : List (StubPriv ρ) := []
  privFree : List (StubPriv ρ) := []
  unlinkTx : List (StubUnlink σ) := []
  unlinkFree : List (StubUnlink σ) := []
  tx : TxPc ρ σ := .top
  wire : List (Ret ρ σ) := []
  /-- Seqnums of the CMD_SUBMITs received. -/
  submits : List Seqnum := []
  /-- The CMD_UNLINKs received, with the seqnum each one names. -/
  unlinks : List (Seqnum × Seqnum) := []
  /-- Replies queued on `priv_tx` and `unlink_tx` so far, in order. -/
  queued : List (Reply Seqnum) := []
  /-- Entries freed so far. -/
  freed : List Seqnum := []
  deriving DecidableEq

variable {ρ σ : Type}

namespace Session

/-! ## The receiving thread -/

/-- Source: `stub_rx.c`, `stub_priv_alloc`. -/
def stubPrivAlloc (n : Seqnum) (s : Session ρ σ) : Session ρ σ :=
  { s with
    privInit := s.privInit ++ [⟨n, n, false, none⟩]
    submits := s.submits ++ [n] }

/-- Source: `stub_tx.c`, `stub_enqueue_ret_unlink`. -/
def stubEnqueueRetUnlink (seqnum : Seqnum) (status : σ) (caught : Option Seqnum)
    (s : Session ρ σ) : Session ρ σ :=
  { s with
    unlinkTx := s.unlinkTx ++ [⟨seqnum, status, caught⟩]
    queued := s.queued ++ [.cancelled seqnum caught] }

end Session

/-- The unlinking flag is set, and the seqnum becomes that of the unlink request. -/
def StubPriv.unlink (u : Seqnum) (p : StubPriv ρ) : StubPriv ρ :=
  { p with unlinking := true, seqnum := u }

namespace Session

/-- CMD_UNLINK `u` names seqnum `t`.  The first match on `priv_init` is marked (the call of
`usb_unlink_urb` that follows only makes its completion likely); without a match the unlink is
answered with status 0.
Source: `stub_rx.c`, `stub_recv_cmd_unlink`. -/
def stubRecvCmdUnlink (zero : σ) (u t : Seqnum) (s : Session ρ σ) : Session ρ σ :=
  match updateFirst (fun p => p.seqnum = t) (StubPriv.unlink u) s.privInit with
  | some l => { s with privInit := l, unlinks := s.unlinks ++ [(u, t)] }
  | none => { s.stubEnqueueRetUnlink u zero none with unlinks := s.unlinks ++ [(u, t)] }

/-! ## The completion handler -/

/-- The part of `stub_complete` under `priv_lock`, with the socket open: the URB of entry `n` has
completed and holds `r`, with status `st`.  A marked entry is answered by a RET_UNLINK and freed,
any other is queued for its RET_SUBMIT.
Source: `stub_tx.c`, `stub_complete` and `stub_free_priv_and_urb`. -/
def stubComplete (n : Seqnum) (r : ρ) (st : σ) (s : Session ρ σ) : Option (Session ρ σ) :=
  match s.privInit.find? (fun p => p.origin = n) with
  | none => none
  | some p =>
      let rest := s.privInit.eraseP (fun p => p.origin = n)
      if p.unlinking then
        some { s.stubEnqueueRetUnlink p.seqnum st (some p.origin) with
          privInit := rest
          freed := s.freed ++ [p.origin] }
      else
        some { s with
          privInit := rest
          privTx := s.privTx ++ [{ p with urb := some r }]
          queued := s.queued ++ [.done p.origin] }

/-! ## The sending thread -/

/-- Source: `stub_tx.c`, `dequeue_from_priv_tx`. -/
def dequeueFromPrivTx (s : Session ρ σ) : Session ρ σ :=
  match s.privTx with
  | p :: rest => { s with privTx := rest, privFree := s.privFree ++ [p], tx := .sendSubmit p }
  | [] => { s with tx := .freeSubmit }

/-- Source: `stub_tx.c`, `dequeue_from_unlink_tx`. -/
def dequeueFromUnlinkTx (s : Session ρ σ) : Session ρ σ :=
  match s.unlinkTx with
  | u :: rest => { s with unlinkTx := rest, unlinkFree := s.unlinkFree ++ [u], tx := .sendUnlink u }
  | [] => { s with tx := .freeUnlink }

/-- One step of the sending thread between the head of its loop and the next.  With
`sendOk = false` an allocation, a size check or the write of the message fails, and the thread
leaves its loop.
Source: `stub_tx.c`, `stub_send_ret_submit` and `stub_send_ret_unlink`. -/
def stubTxStep (sendOk : Bool) (s : Session ρ σ) : Option (Session ρ σ) :=
  match s.tx with
  | .top => none
  | .submit => some s.dequeueFromPrivTx
  | .sendSubmit p =>
      let r := .submit p.seqnum p.urb
      if sendOk then some { s with wire := s.wire ++ [r], tx := .submit }
      else some { s with tx := .stopped (some r) }
  | .freeSubmit =>
      some { s with
        privFree := []
        freed := s.freed ++ s.privFree.map StubPriv.origin
        tx := .unlink }
  | .unlink => some s.dequeueFromUnlinkTx
  | .sendUnlink u =>
      if sendOk then some { s with wire := s.wire ++ [.unlink u], tx := .unlink }
      else some { s with tx := .stopped (some (.unlink u)) }
  | .freeUnlink => some { s with unlinkFree := [], tx := .top }
  | .stopped _ => none

end Session

/-! ## The lists as a request ledger -/

/-- The ledger entry of a `stub_priv`. -/
def StubPriv.entry (p : StubPriv ρ) : Entry Seqnum :=
  ⟨p.origin, p.seqnum, p.unlinking⟩

namespace Session

variable {s t : Session ρ σ}

/-- The requests pending on `priv_init` and the replies queued. -/
def ledger (s : Session ρ σ) : Ledger Seqnum where
  pending := s.privInit.map StubPriv.entry
  replies := s.queued
  reqs := s.submits
  cancels := s.unlinks

/-- A new submit is accepted in the ledger. -/
lemma ledger_stubPrivAlloc (n : Seqnum) :
    (s.stubPrivAlloc n).ledger = s.ledger.accept n := by
  simp [stubPrivAlloc, ledger, Ledger.accept, StubPriv.entry]

/-- An unlink cancels its target in the ledger. -/
lemma ledger_stubRecvCmdUnlink (zero : σ) (u t : Seqnum) :
    (s.stubRecvCmdUnlink zero u t).ledger = s.ledger.cancel u t := by
  have hmap : updateFirst (fun e => e.key = t) (Entry.catch u) (s.privInit.map StubPriv.entry)
      = (updateFirst (fun p => p.seqnum = t) (StubPriv.unlink u) s.privInit).map
          (List.map StubPriv.entry) := by
    apply updateFirst_map
    · exact fun _ => rfl
    · exact fun _ _ => rfl
  unfold stubRecvCmdUnlink Ledger.cancel
  cases hup : updateFirst (fun p => p.seqnum = t) (StubPriv.unlink u) s.privInit with
  | none => simp [ledger, hmap, hup, stubEnqueueRetUnlink]
  | some l => simp [ledger, hmap, hup]

/-- What a completion does, by whether a CMD_UNLINK has marked the entry. -/
lemma stubComplete_cases {n : Seqnum} {r : ρ} {st : σ} (h : s.stubComplete n r st = some t) :
    ∃ p, s.privInit.find? (fun p => p.origin = n) = some p ∧ p.origin = n ∧
      ((p.unlinking = true ∧ t = { s.stubEnqueueRetUnlink p.seqnum st (some n) with
          privInit := s.privInit.eraseP (fun p => p.origin = n)
          freed := s.freed ++ [n] }) ∨
        (p.unlinking = false ∧ t = { s with
          privInit := s.privInit.eraseP (fun p => p.origin = n)
          privTx := s.privTx ++ [{ p with urb := some r }]
          queued := s.queued ++ [.done n] })) := by
  unfold stubComplete at h
  cases hf : s.privInit.find? (fun p => p.origin = n) with
  | none => simp [hf] at h
  | some p =>
      have hp : p.origin = n := by simpa using List.find?_some hf
      refine ⟨p, rfl, hp, ?_⟩
      rw [hf] at h
      cases hu : p.unlinking with
      | true => exact Or.inl ⟨rfl, by simpa [hu, hp] using h.symm⟩
      | false => exact Or.inr ⟨rfl, by simpa [hu, hp] using h.symm⟩

/-- A completion finishes its request in the ledger. -/
lemma ledger_stubComplete {n : Seqnum} {r : ρ} {st : σ} (h : s.stubComplete n r st = some t) :
    t.ledger = s.ledger.finish n := by
  obtain ⟨p, hf, hp, hcase⟩ := stubComplete_cases h
  have hfind : (s.privInit.map StubPriv.entry).find? (fun e => e.req = n) = some p.entry := by
    rw [List.find?_map]
    exact congrArg (Option.map StubPriv.entry) hf
  have herase : (s.privInit.map StubPriv.entry).eraseP (fun e => e.req = n)
      = (s.privInit.eraseP (fun p => p.origin = n)).map StubPriv.entry := by
    rw [List.eraseP_map]
    rfl
  unfold Ledger.finish
  rcases hcase with ⟨hu, rfl⟩ | ⟨hu, rfl⟩
  · simp [ledger, hfind, herase, stubEnqueueRetUnlink, Entry.reply, StubPriv.entry, hu, hp]
  · simp [ledger, hfind, herase, Entry.reply, StubPriv.entry, hu, hp]

end Session

/-! ## The sending thread as a worker with two queues -/

/-- What a reply answers: a CMD_SUBMIT or a CMD_UNLINK. -/
def Ret.item : Ret ρ σ → Seqnum ⊕ StubUnlink σ
  | .submit n _ => .inl n
  | .unlink u => .inr u

/-- The ledger's name for a queued item. -/
def itemReply : Seqnum ⊕ StubUnlink σ → Reply Seqnum
  | .inl n => .done n
  | .inr u => .cancelled u.seqnum u.caught

namespace TxPc

/-- From finding `priv_tx` empty to finding `unlink_tx` empty the thread is at `unlink_tx`. -/
def turn : TxPc ρ σ → Turn
  | top | submit | sendSubmit _ | freeUnlink | stopped _ => .first
  | freeSubmit | unlink | sendUnlink _ => .second

/-- The reply the thread has dequeued and not yet written. -/
def hand : TxPc ρ σ → List (Seqnum ⊕ StubUnlink σ)
  | sendSubmit p => [.inl p.seqnum]
  | sendUnlink u => [.inr u]
  | stopped (some r) => [r.item]
  | top | submit | freeSubmit | unlink | freeUnlink | stopped none => []

end TxPc

namespace Session

variable {s t : Session ρ σ}

/-- The two sending queues and what was taken from them. -/
def drain (s : Session ρ σ) : Drain Seqnum (StubUnlink σ) where
  first := s.privTx.map StubPriv.seqnum
  second := s.unlinkTx
  turn := s.tx.turn
  sent := s.wire.map Ret.item ++ s.tx.hand

/-- The sending thread is the worker, apart from its steps between the two and from its end. -/
lemma drain_stubTxStep {sendOk : Bool} (h : s.stubTxStep sendOk = some t) :
    t.drain = s.drain ∨ t.drain = s.drain.advance ∨ t.drain = { s.drain with turn := .first } := by
  unfold stubTxStep at h
  cases htx : s.tx with
  | top => simp [htx] at h
  | submit =>
      rw [htx, Option.some.injEq] at h
      right; left
      unfold dequeueFromPrivTx at h
      split at h <;> rename_i hl <;> subst h <;>
        simp [drain, Drain.advance, htx, hl, TxPc.turn, TxPc.hand]
  | sendSubmit p =>
      rw [htx] at h
      cases sendOk with
      | true =>
          left
          obtain rfl := Option.some.inj h
          simp [drain, htx, TxPc.turn, TxPc.hand, Ret.item]
      | false =>
          right; right
          obtain rfl := Option.some.inj h
          simp [drain, htx, TxPc.turn, TxPc.hand, Ret.item]
  | freeSubmit =>
      left
      rw [htx] at h
      obtain rfl := Option.some.inj h
      simp [drain, htx, TxPc.turn, TxPc.hand]
  | unlink =>
      rw [htx, Option.some.injEq] at h
      right; left
      unfold dequeueFromUnlinkTx at h
      split at h <;> rename_i hl <;> subst h <;>
        simp [drain, Drain.advance, htx, hl, TxPc.turn, TxPc.hand]
  | sendUnlink u =>
      rw [htx] at h
      cases sendOk with
      | true =>
          left
          obtain rfl := Option.some.inj h
          simp [drain, htx, TxPc.turn, TxPc.hand, Ret.item]
      | false =>
          right; right
          obtain rfl := Option.some.inj h
          simp [drain, htx, TxPc.turn, TxPc.hand, Ret.item]
  | freeUnlink =>
      left
      rw [htx] at h
      obtain rfl := Option.some.inj h
      simp [drain, htx, TxPc.turn, TxPc.hand]
  | stopped lost => simp [htx] at h

/-- The transmit thread leaves the ledger. -/
lemma ledger_stubTxStep {sendOk : Bool} (h : s.stubTxStep sendOk = some t) :
    t.ledger = s.ledger := by
  unfold stubTxStep at h
  unfold dequeueFromPrivTx dequeueFromUnlinkTx at h
  split at h <;> (try split at h) <;> cases h <;> rfl

end Session

end Usbip.Stub
