import Usbip.Core.Machine
import Usbip.Common.Urb

/-!
# The stream through user space

A linked `usbip_ux` carries the two directions of a connection through a process: `read` takes what
the kernel sends, `write` brings what it receives.  In each direction a kernel thread fills in a
request (`usbip_ux_sendvec`, `usbip_ux_recvvec`) and a user thread answers it (`usbip_ux_read`,
`usbip_ux_write`); the flags `USBIP_UX_REQ` and `USBIP_UX_RSP` say whose turn it is.

A step is one statement of one of the four parties, and setting or clearing a flag is two, as
`|=` and `&=` load the flags and store them.

* `Turns`: the parties never have the flags and the request at the same time, whatever the
  interleaving.
* `Requested`: what a request that is being answered looks like.
* `Served`: what has been copied is what the user's calls have returned, but for the one in
  progress.
-/

namespace Usbip.Ux

open Usbip.Core Usbip.Common

def ERESTARTSYS : BitVec 32 := 512
def EIO : BitVec 32 := 5

inductive Direction
  /-- `usbip_ux_sendmsg` and `usbip_ux_read`, on the fields `tx_…`. -/
  | tx
  /-- `usbip_ux_recvmsg` and `usbip_ux_write`, on the fields `rx_…`. -/
  | rx
  deriving DecidableEq

/-- The bits of `tx_flags` or `rx_flags`. -/
structure Flags where
  req : Bool := false
  rsp : Bool := false
  deriving DecidableEq

/-- The next statement of the kernel's thread. -/
inductive KernelPc
  | idle
  /-- The head of the loop over the buffers. -/
  | next
  | setBuf
  | setBytes
  | setCount
  | setError
  /-- `USBIP_UX_CLEAR_TX_RSP` or `USBIP_UX_CLEAR_RX_RSP`, with the flags it has loaded. -/
  | clearRsp (loaded : Option Flags)
  | setReq (loaded : Option Flags)
  | wait
  /-- `count += ux->tx_count` or `count += ux->rx_count`. -/
  | add
  deriving DecidableEq

/-- The next statement of the user's thread, with the value its call is to return. -/
inductive UserPc
  | idle
  | wait
  | bytes
  | copy (n : BitVec 32)
  | addCount (n : BitVec 32)
  /-- Is the request answered? -/
  | test (n : BitVec 32)
  | clearReq (ret : BitVec 32) (loaded : Option Flags)
  | setRsp (ret : BitVec 32) (loaded : Option Flags)
  | put (ret : BitVec 32)
  deriving DecidableEq

/-- A `usbip_ux_sendmsg` or `usbip_ux_recvmsg` that has returned. -/
structure KernelReturn where
  /-- The buffers it was called with, with their contents then. -/
  vecs : List (List Byte)
  /-- The contents, when it returned, of those it has been through. -/
  bufs : List (List Byte)
  ret : BitVec 32
  deriving DecidableEq

/-- A `usbip_ux_read` or `usbip_ux_write` that has returned. -/
structure UserReturn where
  /-- The contents of its buffer when it returned. -/
  buf : List Byte
  ret : BitVec 32
  deriving DecidableEq

/-- One direction of a `usbip_ux`, with the two threads that use it. -/
structure Half where
  flags : Flags := {}
  error : BitVec 32 := 0
  bytes : BitVec 32 := 0
  count : BitVec 32 := 0
  /-- What `tx_buf` or `rx_buf` points at. -/
  buf : List Byte := []
  kernel : KernelPc := .idle
  /-- The buffers of the kernel's call, with their contents when it began. -/
  vecs : List (List Byte) := []
  /-- Those it has not been through, the present one first. -/
  rest : List (List Byte) := []
  /-- The contents of those it has been through. -/
  done : List (List Byte) := []
  /-- Its local variable `count`. -/
  sum : BitVec 32 := 0
  user : UserPc := .idle
  /-- The buffer of the user's call. -/
  ubuf : List Byte := []
  /-- The buffers of all calls of the kernel. -/
  calls : List (List (List Byte)) := []
  returns : List KernelReturn := []
  /-- What each `copy_to_user` or `copy_from_user` has copied. -/
  copied : List (List Byte) := []
  userReturns : List UserReturn := []
  deriving DecidableEq

/-- `data` written to a buffer at an offset. -/
def overwrite (buf : List Byte) (off : Nat) (data : List Byte) : List Byte :=
  buf.take off ++ data ++ buf.drop (off + data.length)

/-! ## The kernel's thread -/

/-- `usbip_ux_sendmsg` or `usbip_ux_recvmsg` is called. -/
def Half.kernelCall (vecs : List (List Byte)) (h : Half) : Half :=
  { h with kernel := .next, vecs := vecs, rest := vecs, done := [], sum := 0
           calls := h.calls ++ [vecs] }

/-- It returns. -/
def Half.kernelReturn (ret : BitVec 32) (h : Half) : Half :=
  { h with kernel := .idle, returns := h.returns ++ [⟨h.vecs, h.done, ret⟩] }

/-- A statement of `usbip_ux_sendmsg` and `usbip_ux_sendvec`, or of `usbip_ux_recvmsg` and
`usbip_ux_recvvec`, which differ in the names of the fields.  `interrupted` tells whether a signal
or `USBIP_UX_SET_INT` ends the wait. -/
def kernelStep (interrupted : Bool) (h : Half) : Option Half :=
  match h.kernel with
  | .idle => none
  | .next =>
      match h.rest with
      | [] => some (h.kernelReturn h.sum)
      | _ :: _ => some { h with kernel := .setBuf }
  | .setBuf => some { h with buf := h.rest.headD [], kernel := .setBytes }
  | .setBytes =>
      some { h with bytes := BitVec.ofNat 32 (h.rest.headD []).length, kernel := .setCount }
  | .setCount => some { h with count := 0, kernel := .setError }
  | .setError => some { h with error := 0, kernel := .clearRsp none }
  | .clearRsp none => some { h with kernel := .clearRsp (some h.flags) }
  | .clearRsp (some flags) =>
      some { h with flags := { flags with rsp := false }, kernel := .setReq none }
  | .setReq none => some { h with kernel := .setReq (some h.flags) }
  | .setReq (some flags) => some { h with flags := { flags with req := true }, kernel := .wait }
  | .wait =>
      if interrupted then some (h.kernelReturn (-ERESTARTSYS))
      else if h.flags.rsp = false then none
      else if h.error ≠ 0 then some (h.kernelReturn h.error)
      else some { h with kernel := .add }
  | .add =>
      some { h with
        sum := h.sum + h.count
        done := h.done ++ [h.buf]
        rest := h.rest.tail
        kernel := .next }

/-- Source: `usbip_ux.c`, `usbip_ux_sendmsg`, `usbip_ux_sendvec`. -/
def usbipUxSendmsg : Bool → Half → Option Half := kernelStep

/-- Source: `usbip_ux.c`, `usbip_ux_recvmsg`, `usbip_ux_recvvec`. -/
def usbipUxRecvmsg : Bool → Half → Option Half := kernelStep

/-! ## The user's thread -/

/-- `usbip_ux_read` or `usbip_ux_write` is called, with its `tx_error = 0` or `rx_error = 0`. -/
def Half.userCall (ubuf : List Byte) (h : Half) : Half :=
  { h with error := 0, ubuf := ubuf, user := .wait }

/-- It returns. -/
def Half.userReturn (ret : BitVec 32) (h : Half) : Half :=
  { h with user := .idle, userReturns := h.userReturns ++ [⟨h.ubuf, ret⟩] }

/-- `bytes`, the local variable: the `int` that is left of the request, unless the buffer, whose
size is a `size_t`, is shorter. -/
def Half.bytesLeft (h : Half) : BitVec 32 :=
  let bytes := h.bytes - h.count
  if h.ubuf.length < (bytes.signExtend 64).toNat then BitVec.ofNat 32 h.ubuf.length else bytes

/-- What is copied: to the user's buffer from the kernel's, or the other way. -/
def Half.chunk (n : BitVec 32) (h : Half) : Direction → List Byte
  | .tx => (h.buf.drop h.count.toNat).take n.toNat
  | .rx => h.ubuf.take n.toNat

/-- `copy_to_user(buf, ux->tx_buf + ux->tx_count, bytes)` or
`copy_from_user(ux->rx_buf + ux->rx_count, buf, bytes)`. -/
def Half.copy (d : Direction) (n : BitVec 32) (h : Half) : Half :=
  let data := h.chunk n d
  let h := { h with copied := h.copied ++ [data] }
  match d with
  | .tx => { h with ubuf := overwrite h.ubuf 0 data }
  | .rx => { h with buf := overwrite h.buf h.count.toNat data }

section copy

variable (d : Direction) (n : BitVec 32) (h : Half)

/-- A copy leaves the flags. -/
@[simp] lemma copy_flags : (h.copy d n).flags = h.flags := by cases d <;> rfl

/-- A copy leaves the kernel's thread. -/
@[simp] lemma copy_kernel : (h.copy d n).kernel = h.kernel := by cases d <;> rfl

/-- A copy leaves the error. -/
@[simp] lemma copy_error : (h.copy d n).error = h.error := by cases d <;> rfl

/-- A copy leaves the length of the request. -/
@[simp] lemma copy_bytes : (h.copy d n).bytes = h.bytes := by cases d <;> rfl

/-- A copy leaves the count. -/
@[simp] lemma copy_count : (h.copy d n).count = h.count := by cases d <;> rfl

/-- A copy leaves the buffers to come. -/
@[simp] lemma copy_rest : (h.copy d n).rest = h.rest := by cases d <;> rfl

/-- A copy is recorded. -/
@[simp] lemma copy_copied : (h.copy d n).copied = h.copied ++ [h.chunk n d] := by cases d <;> rfl

/-- A copy leaves what the calls have returned. -/
@[simp] lemma copy_userReturns : (h.copy d n).userReturns = h.userReturns := by cases d <;> rfl

end copy

/-- Overwriting inside a buffer keeps its length. -/
lemma length_overwrite {buf data : List Byte} {off : Nat} (hle : off + data.length ≤ buf.length) :
    (overwrite buf off data).length = buf.length := by
  simp only [overwrite, List.length_append, List.length_take, List.length_drop]
  omega

/-- Whether a copy answers the request: a read that has come to its end, and any write. -/
def Half.answers (h : Half) : Direction → Bool
  | .tx => h.bytes.sle h.count
  | .rx => true

/-- A statement of `usbip_ux_read` or `usbip_ux_write`.  `interrupted` tells whether a signal or
`USBIP_UX_SET_INT` ends the wait, and `fault` whether the copy fails. -/
def userStep (d : Direction) (interrupted fault : Bool) (h : Half) : Option Half :=
  match h.user with
  | .idle => none
  | .wait =>
      if interrupted then
        some { h with error := -ERESTARTSYS, user := .clearReq (-ERESTARTSYS) none }
      else if h.flags.req = false then none
      else some { h with user := .bytes }
  | .bytes => some { h with user := .copy h.bytesLeft }
  | .copy n =>
      if fault then some { h with error := - EIO, user := .clearReq (- EIO) none }
      else some { h.copy d n with user := .addCount n }
  | .addCount n => some { h with count := h.count + n, user := .test n }
  | .test n => some { h with user := if h.answers d then .clearReq n none else .put n }
  | .clearReq ret none => some { h with user := .clearReq ret (some h.flags) }
  | .clearReq ret (some flags) =>
      some { h with flags := { flags with req := false }, user := .setRsp ret none }
  | .setRsp ret none => some { h with user := .setRsp ret (some h.flags) }
  | .setRsp ret (some flags) =>
      some { h with flags := { flags with rsp := true }, user := .put ret }
  | .put ret => some (h.userReturn ret)

/-- Source: `usbip_ux.c`, `usbip_ux_read`. -/
def usbipUxRead : Bool → Bool → Half → Option Half := userStep .tx

/-- Source: `usbip_ux.c`, `usbip_ux_write`. -/
def usbipUxWrite : Bool → Bool → Half → Option Half := userStep .rx

/-! ## The machine -/

inductive HalfAction
  /-- The kernel's thread calls `usbip_ux_sendmsg` or `usbip_ux_recvmsg`. -/
  | kernelCall (vecs : List (List Byte))
  | kernel (interrupted : Bool)
  /-- The user's thread calls `usbip_ux_read` or `usbip_ux_write`. -/
  | userCall (ubuf : List Byte)
  | user (interrupted fault : Bool)
  deriving DecidableEq

/-- The state an action leads to. -/
def halfStep (d : Direction) (h : Half) : HalfAction → Option Half
  | .kernelCall vecs => if h.kernel = .idle then some (h.kernelCall vecs) else none
  | .kernel interrupted =>
      match d with
      | .tx => usbipUxSendmsg interrupted h
      | .rx => usbipUxRecvmsg interrupted h
  | .userCall ubuf => if h.user = .idle then some (h.userCall ubuf) else none
  | .user interrupted fault =>
      match d with
      | .tx => usbipUxRead interrupted fault h
      | .rx => usbipUxWrite interrupted fault h

/-- Neither a signal nor an interrupt of the `usbip_ux` nor a fault comes, and an `int` holds the
length of each buffer. -/
def Undisturbed : HalfAction → Prop
  | .kernelCall vecs => ∀ vec ∈ vecs, vec.length < 2 ^ 31
  | .kernel interrupted => interrupted = false
  | .userCall _ => True
  | .user interrupted fault => interrupted = false ∧ fault = false

instance (a : HalfAction) : Decidable (Undisturbed a) := by
  unfold Undisturbed
  split <;> infer_instance

variable {h h' : Half} {d : Direction}

/-! ## What an undisturbed statement does -/

inductive KernelMove (h : Half) : Half → Prop
  | ret (hpc : h.kernel = .next) (hrest : h.rest = []) : KernelMove h (h.kernelReturn h.sum)
  | next (hpc : h.kernel = .next) (hrest : h.rest ≠ []) :
      KernelMove h { h with kernel := .setBuf }
  | setBuf (hpc : h.kernel = .setBuf) :
      KernelMove h { h with buf := h.rest.headD [], kernel := .setBytes }
  | setBytes (hpc : h.kernel = .setBytes) :
      KernelMove h { h with
        bytes := BitVec.ofNat 32 (h.rest.headD []).length, kernel := .setCount }
  | setCount (hpc : h.kernel = .setCount) :
      KernelMove h { h with count := 0, kernel := .setError }
  | setError (hpc : h.kernel = .setError) :
      KernelMove h { h with error := 0, kernel := .clearRsp none }
  | loadRsp (hpc : h.kernel = .clearRsp none) :
      KernelMove h { h with kernel := .clearRsp (some h.flags) }
  | clearRsp {f : Flags} (hpc : h.kernel = .clearRsp (some f)) :
      KernelMove h { h with flags := { f with rsp := false }, kernel := .setReq none }
  | loadReq (hpc : h.kernel = .setReq none) :
      KernelMove h { h with kernel := .setReq (some h.flags) }
  | setReq {f : Flags} (hpc : h.kernel = .setReq (some f)) :
      KernelMove h { h with flags := { f with req := true }, kernel := .wait }
  | error (hpc : h.kernel = .wait) (hrsp : h.flags.rsp = true) (herror : h.error ≠ 0) :
      KernelMove h (h.kernelReturn h.error)
  | wait (hpc : h.kernel = .wait) (hrsp : h.flags.rsp = true) (herror : h.error = 0) :
      KernelMove h { h with kernel := .add }
  | add (hpc : h.kernel = .add) :
      KernelMove h { h with
        sum := h.sum + h.count, done := h.done ++ [h.buf], rest := h.rest.tail, kernel := .next }

/-- An undisturbed statement of the kernel's thread is one of its moves. -/
lemma kernelStep_cases (hstep : kernelStep false h = some h') : KernelMove h h' := by
  unfold kernelStep at hstep
  split at hstep
  case h_2 hpc =>
      split at hstep
      · next hrest =>
        cases hstep
        exact .ret hpc hrest
      · next hrest =>
        cases hstep
        exact .next hpc (by simp [hrest])
  case h_11 hpc =>
      rw [if_neg (by simp)] at hstep
      split at hstep
      · cases hstep
      · next hrsp =>
        have hrsp : h.flags.rsp = true := Bool.eq_true_of_not_eq_false hrsp
        split at hstep
        · next herror =>
          cases hstep
          exact .error hpc hrsp herror
        · next herror =>
          cases hstep
          exact .wait hpc hrsp (not_not.mp herror)
  all_goals cases hstep
  · next hpc => exact .setBuf hpc
  · next hpc => exact .setBytes hpc
  · next hpc => exact .setCount hpc
  · next hpc => exact .setError hpc
  · next hpc => exact .loadRsp hpc
  · next hpc => exact .clearRsp hpc
  · next hpc => exact .loadReq hpc
  · next hpc => exact .setReq hpc
  · next hpc => exact .add hpc

inductive UserMove (d : Direction) (h : Half) : Half → Prop
  | wait (hpc : h.user = .wait) (hreq : h.flags.req = true) :
      UserMove d h { h with user := .bytes }
  | bytes (hpc : h.user = .bytes) : UserMove d h { h with user := .copy h.bytesLeft }
  | copy {n : BitVec 32} (hpc : h.user = .copy n) :
      UserMove d h { h.copy d n with user := .addCount n }
  | addCount {n : BitVec 32} (hpc : h.user = .addCount n) :
      UserMove d h { h with count := h.count + n, user := .test n }
  | answered {n : BitVec 32} (hpc : h.user = .test n) (hans : h.answers d = true) :
      UserMove d h { h with user := .clearReq n none }
  | notAnswered {n : BitVec 32} (hpc : h.user = .test n) (hans : h.answers d = false) :
      UserMove d h { h with user := .put n }
  | loadReq {ret : BitVec 32} (hpc : h.user = .clearReq ret none) :
      UserMove d h { h with user := .clearReq ret (some h.flags) }
  | clearReq {ret : BitVec 32} {f : Flags} (hpc : h.user = .clearReq ret (some f)) :
      UserMove d h { h with flags := { f with req := false }, user := .setRsp ret none }
  | loadRsp {ret : BitVec 32} (hpc : h.user = .setRsp ret none) :
      UserMove d h { h with user := .setRsp ret (some h.flags) }
  | setRsp {ret : BitVec 32} {f : Flags} (hpc : h.user = .setRsp ret (some f)) :
      UserMove d h { h with flags := { f with rsp := true }, user := .put ret }
  | put {ret : BitVec 32} (hpc : h.user = .put ret) : UserMove d h (h.userReturn ret)

/-- An undisturbed statement of the user's thread is one of its moves. -/
lemma userStep_cases (hstep : userStep d false false h = some h') : UserMove d h h' := by
  unfold userStep at hstep
  split at hstep
  case h_2 hpc =>
      rw [if_neg (by simp)] at hstep
      split at hstep
      · cases hstep
      · next hreq =>
        cases hstep
        exact .wait hpc (Bool.eq_true_of_not_eq_false hreq)
  case h_4 hpc =>
      rw [if_neg (by simp)] at hstep
      cases hstep
      exact .copy hpc
  case h_6 n hpc =>
      cases hstep
      cases hans : h.answers d with
      | true => exact .answered hpc hans
      | false => exact .notAnswered hpc hans
  all_goals cases hstep
  · next hpc => exact .bytes hpc
  · next hpc => exact .addCount hpc
  · next hpc => exact .loadReq hpc
  · next hpc => exact .clearReq hpc
  · next hpc => exact .loadRsp hpc
  · next hpc => exact .setRsp hpc
  · next hpc => exact .put hpc

/-! ## Whose turn it is -/

/-- The flags as the kernel's thread has left them. -/
def KernelPc.Agrees (flags : Flags) : KernelPc → Prop
  | .wait => flags.req = true → flags.rsp = false
  | .clearRsp loaded => flags.req = false ∧ ∀ f ∈ loaded, f = flags
  | .setReq loaded => flags = {} ∧ ∀ f ∈ loaded, f = flags
  | _ => flags.req = false

/-- The flags as the user's thread has left them. -/
def UserPc.Agrees (kernel : KernelPc) (flags : Flags) : UserPc → Prop
  | .idle | .wait | .put _ => kernel = .wait → flags ≠ {}
  | .bytes | .copy _ | .addCount _ | .test _ => kernel = .wait ∧ flags.req = true
  | .clearReq _ loaded => kernel = .wait ∧ flags.req = true ∧ ∀ f ∈ loaded, f = flags
  | .setRsp _ loaded => kernel = .wait ∧ flags = {} ∧ ∀ f ∈ loaded, f = flags

/-- The user's thread is not at a request. -/
def UserPc.Away (user : UserPc) : Prop :=
  user = .idle ∨ user = .wait ∨ ∃ ret, user = .put ret

/-- The user's thread is at a request only while the kernel's waits, and each stores the flags it
has loaded. -/
structure Turns (h : Half) : Prop where
  kernel : h.kernel.Agrees h.flags
  user : h.user.Agrees h.kernel h.flags

/-- A thread that is away agrees with any flags. -/
lemma UserPc.Away.agrees {user : UserPc} {kernel : KernelPc} {flags : Flags} (h : user.Away)
    (hk : kernel = .wait → flags ≠ {}) : user.Agrees kernel flags := by
  obtain rfl | rfl | ⟨ret, rfl⟩ := h
  · exact hk
  · exact hk
  · exact hk

/-- The user's thread is away unless the flags show a request, or no flag at all while the kernel's
thread waits. -/
lemma Turns.away (ht : Turns h) (hk : h.kernel = .wait → h.flags.rsp = true) : h.user.Away := by
  have hu := ht.user
  have hagrees := ht.kernel
  cases hpc : h.user with
  | idle => exact .inl rfl
  | wait => exact .inr (.inl rfl)
  | put ret => exact .inr (.inr ⟨ret, rfl⟩)
  | bytes | copy n | addCount n | test n =>
      rw [hpc] at hu
      have hrsp := hk hu.1
      rw [hu.1] at hagrees
      simp [hagrees hu.2] at hrsp
  | clearReq ret loaded =>
      rw [hpc] at hu
      have hrsp := hk hu.1
      rw [hu.1] at hagrees
      simp [hagrees hu.2.1] at hrsp
  | setRsp ret loaded =>
      rw [hpc] at hu
      have hrsp := hk hu.1
      simp [hu.2.1] at hrsp

/-- The kernel's moves keep the turns. -/
theorem Turns.kernelMove (ht : Turns h) (hmove : KernelMove h h') : Turns h' := by
  have hk := ht.kernel
  -- but in its wait the kernel's thread has the request for itself
  have haway (hpc : h.kernel ≠ .wait) : h.user.Away := ht.away fun h => absurd h hpc
  cases hmove with
  | ret hpc | next hpc | setBuf hpc | setBytes hpc | setCount hpc | add hpc =>
      rw [hpc] at hk
      exact ⟨hk, (haway (by simp [hpc])).agrees (by simp [Half.kernelReturn])⟩
  | setError hpc | loadRsp hpc =>
      rw [hpc] at hk
      exact ⟨by simp_all [KernelPc.Agrees], (haway (by simp [hpc])).agrees (by simp)⟩
  | clearRsp hpc =>
      rw [hpc] at hk
      obtain ⟨hreq, hloaded⟩ := hk
      obtain rfl := hloaded _ rfl
      exact ⟨by simp [KernelPc.Agrees, hreq], (haway (by simp [hpc])).agrees (by simp)⟩
  | loadReq hpc =>
      rw [hpc] at hk
      exact ⟨⟨hk.1, by simp⟩, (haway (by simp [hpc])).agrees (by simp)⟩
  | setReq hpc =>
      rw [hpc] at hk
      obtain ⟨hflags, hloaded⟩ := hk
      obtain rfl := hloaded _ rfl
      exact ⟨by simp [KernelPc.Agrees, hflags], (haway (by simp [hpc])).agrees (by simp)⟩
  | error hpc hrsp | wait hpc hrsp =>
      -- the response is there, so the request is not
      rw [hpc] at hk
      have hreq : h.flags.req = false := by
        apply Bool.eq_false_of_not_eq_true
        intro hreq
        simp [hk hreq] at hrsp
      exact ⟨hreq, (ht.away fun _ => hrsp).agrees (by simp [Half.kernelReturn])⟩

/-- A request is there only while the kernel's thread waits. -/
lemma Turns.posted (ht : Turns h) (hreq : h.flags.req = true) : h.kernel = .wait := by
  have hk := ht.kernel
  cases hpc : h.kernel with
  | wait => rfl
  | clearRsp loaded =>
      rw [hpc] at hk
      simp [hk.1] at hreq
  | setReq loaded =>
      rw [hpc] at hk
      simp [hk.1] at hreq
  | idle | next | setBuf | setBytes | setCount | setError | add =>
      rw [hpc] at hk
      simp [KernelPc.Agrees, hreq] at hk

/-- The user's moves keep the turns. -/
theorem Turns.userMove (ht : Turns h) (hmove : UserMove d h h') : Turns h' := by
  have hk := ht.kernel
  have hu := ht.user
  cases hmove with
  | wait hpc hreq => exact ⟨hk, ht.posted hreq, hreq⟩
  | bytes hpc | addCount hpc =>
      rw [hpc] at hu
      exact ⟨hk, hu⟩
  | copy hpc =>
      rw [hpc] at hu
      refine ⟨?_, ?_⟩
      · simpa using hk
      · simpa [UserPc.Agrees] using hu
  | answered hpc =>
      rw [hpc] at hu
      exact ⟨hk, hu.1, hu.2, by simp⟩
  | notAnswered hpc =>
      rw [hpc] at hu
      refine ⟨hk, fun _ hflags => ?_⟩
      have hreq : h.flags.req = true := hu.2
      rw [hflags] at hreq
      cases hreq
  | loadReq hpc =>
      rw [hpc] at hu
      exact ⟨hk, hu.1, hu.2.1, by simp⟩
  | clearReq hpc =>
      rw [hpc] at hu
      obtain ⟨hwait, hreq, hloaded⟩ := hu
      obtain rfl := hloaded _ rfl
      rw [hwait] at hk
      refine ⟨by simp [hwait, KernelPc.Agrees], hwait, ?_, by simp⟩
      simp [hk hreq]
  | loadRsp hpc =>
      rw [hpc] at hu
      exact ⟨hk, hu.1, hu.2.1, by simp⟩
  | setRsp hpc =>
      rw [hpc] at hu
      obtain ⟨hwait, hflags, hloaded⟩ := hu
      obtain rfl := hloaded _ rfl
      exact ⟨by simp [hwait, KernelPc.Agrees, hflags], fun _ => by simp⟩
  | put hpc =>
      rw [hpc] at hu
      exact ⟨hk, hu⟩

/-! ## A request that is being answered -/

/-- How much of the request the kernel's thread has filled in: the buffer, its length, the count;
then it is posted. -/
def KernelPc.filled : KernelPc → Nat
  | .idle | .next => 0
  | .setBuf => 1
  | .setBytes => 2
  | .setCount => 3
  | .setError | .clearRsp _ | .setReq _ => 4
  | .wait | .add => 5

/-- The bytes that the user's thread is about to count. -/
def UserPc.uncounted : UserPc → Nat
  | .copy n | .addCount n => n.toNat
  | _ => 0

/-- A thread that is away has nothing to count. -/
lemma UserPc.Away.uncounted {user : UserPc} (h : user.Away) : user.uncounted = 0 := by
  obtain rfl | rfl | ⟨ret, rfl⟩ := h
  · rfl
  · rfl
  · rfl

/-- The request is the present buffer, and what is copied fits both buffers. -/
structure Requested (h : Half) : Prop where
  small : ∀ vec ∈ h.rest, vec.length < 2 ^ 31
  error : h.error = 0
  rest : 1 ≤ h.kernel.filled → h.rest ≠ []
  buf : 2 ≤ h.kernel.filled → h.buf.length = (h.rest.headD []).length
  bytes : 3 ≤ h.kernel.filled → h.bytes = BitVec.ofNat 32 h.buf.length
  start : h.kernel.filled = 4 → h.count = 0
  bound : h.kernel.filled = 5 → h.count.toNat + h.user.uncounted ≤ h.buf.length
  fits : ∀ n, h.user = .copy n → n.toNat ≤ h.ubuf.length

namespace Requested

/-- An `int` holds the length of the present buffer. -/
lemma buf_lt (hr : Requested h) (hfilled : 2 ≤ h.kernel.filled) : h.buf.length < 2 ^ 31 := by
  rw [hr.buf hfilled]
  have hrest : h.rest ≠ [] := hr.rest (by omega)
  obtain ⟨vec, rest, hcons⟩ := List.exists_cons_of_ne_nil hrest
  rw [hcons]
  exact hr.small vec (by simp [hcons])

/-- Nothing has been filled in. -/
lemma of_filled_le_one (hsmall : ∀ vec ∈ h.rest, vec.length < 2 ^ 31) (herror : h.error = 0)
    (hrest : 1 ≤ h.kernel.filled → h.rest ≠ []) (hle : h.kernel.filled ≤ 1)
    (hfits : ∀ n, h.user = .copy n → n.toNat ≤ h.ubuf.length) : Requested h where
  small := hsmall
  error := herror
  rest := hrest
  buf hfilled := absurd hfilled (by omega)
  bytes hfilled := absurd hfilled (by omega)
  start hfilled := absurd hfilled (by omega)
  bound hfilled := absurd hfilled (by omega)
  fits := hfits

/-- A statement that fills in nothing. -/
lemma keep (hr : Requested h) {kernel : KernelPc} {flags : Flags}
    (hfilled : kernel.filled = h.kernel.filled) :
    Requested { h with kernel := kernel, flags := flags } where
  small := hr.small
  error := hr.error
  rest h := hr.rest (hfilled ▸ h)
  buf h := hr.buf (hfilled ▸ h)
  bytes h := hr.bytes (hfilled ▸ h)
  start h := hr.start (hfilled ▸ h)
  bound h := hr.bound (hfilled ▸ h)
  fits := hr.fits

/-- The kernel's moves keep the request. -/
theorem kernelMove (hr : Requested h) (ht : Turns h) (hmove : KernelMove h h') :
    Requested h' := by
  have hrest := hr.rest
  have hbuf := hr.buf
  have hbytes := hr.bytes
  cases hmove with
  | ret hpc =>
      have hzero : (h.kernelReturn h.sum).kernel.filled = 0 := rfl
      refine of_filled_le_one hr.small hr.error ?_ ?_ hr.fits
      · simp [hzero]
      · simp [hzero]
  | next hpc hne => exact of_filled_le_one hr.small hr.error (fun _ => hne) le_rfl hr.fits
  | add hpc =>
      refine of_filled_le_one (fun vec hvec => hr.small vec (List.mem_of_mem_tail hvec)) hr.error
        ?_ ?_ hr.fits
      · simp [KernelPc.filled]
      · simp [KernelPc.filled]
  | setBuf hpc =>
      rw [hpc] at hrest
      exact ⟨hr.small, hr.error, fun _ => hrest le_rfl, fun _ => rfl, by simp [KernelPc.filled],
        by simp [KernelPc.filled], by simp [KernelPc.filled], hr.fits⟩
  | setBytes hpc =>
      rw [hpc] at hrest hbuf
      refine ⟨hr.small, hr.error, fun _ => hrest (by decide), fun _ => hbuf le_rfl, fun _ => ?_,
        by simp [KernelPc.filled], by simp [KernelPc.filled], hr.fits⟩
      dsimp only
      rw [hbuf le_rfl]
  | setCount hpc =>
      rw [hpc] at hrest hbuf hbytes
      exact ⟨hr.small, hr.error, fun _ => hrest (by decide), fun _ => hbuf (by decide),
        fun _ => hbytes le_rfl, fun _ => rfl, by simp [KernelPc.filled], hr.fits⟩
  | setError hpc =>
      have hkeep : Requested { h with kernel := .clearRsp none } := hr.keep (by rw [hpc]; rfl)
      exact ⟨hkeep.small, rfl, hkeep.rest, hkeep.buf, hkeep.bytes, hkeep.start, hkeep.bound,
        hkeep.fits⟩
  | loadRsp hpc | clearRsp hpc | loadReq hpc | wait hpc => exact hr.keep (by rw [hpc]; rfl)
  | setReq hpc =>
      have hfilled : h.kernel.filled = 4 := by rw [hpc]; rfl
      have hcount : h.count = 0 := hr.start hfilled
      have huncounted : h.user.uncounted = 0 :=
        (ht.away fun hwait => absurd (hpc.symm.trans hwait) (by simp)).uncounted
      refine ⟨hr.small, hr.error, fun _ => hrest (by omega), fun _ => hbuf (by omega),
        fun _ => hbytes (by omega), by simp [KernelPc.filled], fun _ => ?_, hr.fits⟩
      simp [hcount, huncounted]
  | error hpc hrsp herror => exact absurd hr.error herror

/-- What is left of the request, or the whole buffer when that is shorter. -/
lemma bytesLeft (hr : Requested h) (hwait : h.kernel = .wait) :
    h.bytesLeft.toNat = min h.ubuf.length (h.buf.length - h.count.toNat) := by
  have hlt : h.buf.length < 2 ^ 31 := hr.buf_lt (by rw [hwait]; decide)
  have hbytes : h.bytes = BitVec.ofNat 32 h.buf.length := hr.bytes (by rw [hwait]; decide)
  have hbound := hr.bound (by rw [hwait]; rfl)
  have hnat : h.bytes.toNat = h.buf.length := by
    rw [hbytes, BitVec.toNat_ofNat]
    exact Nat.mod_eq_of_lt (by omega)
  have hsub : (h.bytes - h.count).toNat = h.buf.length - h.count.toNat := by
    rw [BitVec.toNat_sub_of_le (BitVec.le_def.mpr (by omega)), hnat]
  have hmsb : (h.bytes - h.count).msb = false := by
    rw [BitVec.msb_eq_false_iff_two_mul_lt]
    omega
  have hext : ((h.bytes - h.count).signExtend 64).toNat = h.buf.length - h.count.toNat := by
    rw [BitVec.signExtend_eq_setWidth_of_msb_false hmsb, BitVec.toNat_setWidth, hsub]
    exact Nat.mod_eq_of_lt (by omega)
  unfold Half.bytesLeft
  simp only
  rw [hext]
  split
  · rw [BitVec.toNat_ofNat, Nat.mod_eq_of_lt (by omega)]
    omega
  · rw [hsub]
    omega

/-- A statement of the user's thread that takes no more of the request. -/
lemma keepUser (hr : Requested h) {user : UserPc} {flags : Flags}
    (hle : user.uncounted ≤ h.user.uncounted) (hfits : ∀ n, user ≠ .copy n) :
    Requested { h with user := user, flags := flags } where
  small := hr.small
  error := hr.error
  rest := hr.rest
  buf := hr.buf
  bytes := hr.bytes
  start := hr.start
  bound hfilled := by
    have hbound := hr.bound hfilled
    dsimp only
    omega
  fits n huser := absurd huser (hfits n)

/-- What is copied is as long as it is to be. -/
lemma length_chunk (hr : Requested h) (hwait : h.kernel = .wait) {n : BitVec 32}
    (hpc : h.user = .copy n) : (h.chunk n d).length = n.toNat := by
  have hbound := hr.bound (by rw [hwait]; rfl)
  rw [hpc] at hbound
  have hfits := hr.fits n hpc
  cases d with
  | tx =>
      simp only [Half.chunk, List.length_take, List.length_drop]
      change _ + n.toNat ≤ _ at hbound
      omega
  | rx =>
      simp only [Half.chunk, List.length_take]
      omega

/-- A copy changes the contents of a buffer, not its length. -/
lemma length_buf_copy (hr : Requested h) (hwait : h.kernel = .wait) {n : BitVec 32}
    (hpc : h.user = .copy n) : (h.copy d n).buf.length = h.buf.length := by
  cases d with
  | tx => rfl
  | rx =>
      have hlength := hr.length_chunk (d := .rx) hwait hpc
      have hbound := hr.bound (by rw [hwait]; rfl)
      rw [hpc] at hbound
      apply length_overwrite
      rw [hlength]
      exact hbound

/-- The user's moves keep the request. -/
theorem userMove (hr : Requested h) (ht : Turns h) (hmove : UserMove d h h') :
    Requested h' := by
  have hu := ht.user
  cases hmove with
  | wait hpc | answered hpc | notAnswered hpc | loadReq hpc | clearReq hpc | loadRsp hpc
  | setRsp hpc => exact hr.keepUser (Nat.zero_le _) (by simp)
  | put hpc =>
      have hkeep : Requested { h with user := .idle } := hr.keepUser (Nat.zero_le _) (by simp)
      exact ⟨hkeep.small, hkeep.error, hkeep.rest, hkeep.buf, hkeep.bytes, hkeep.start, hkeep.bound,
        hkeep.fits⟩
  | bytes hpc =>
      rw [hpc] at hu
      have hbytes := hr.bytesLeft hu.1
      have hbound := hr.bound (by rw [hu.1]; rfl)
      refine ⟨hr.small, hr.error, hr.rest, hr.buf, hr.bytes, hr.start, fun _ => ?_, ?_⟩
      · change h.count.toNat + h.bytesLeft.toNat ≤ h.buf.length
        omega
      · intro n huser
        obtain rfl := UserPc.copy.inj huser
        change h.bytesLeft.toNat ≤ h.ubuf.length
        omega
  | copy hpc =>
      rw [hpc] at hu
      have hlength := hr.length_buf_copy (d := d) hu.1 hpc
      have hbound := hr.bound (by rw [hu.1]; rfl)
      rw [hpc] at hbound
      refine ⟨?_, ?_, ?_, ?_, ?_, ?_, ?_, ?_⟩
      · simpa using hr.small
      · simpa using hr.error
      · simpa using hr.rest
      · simpa [hlength] using hr.buf
      · simpa [hlength] using hr.bytes
      · simpa using hr.start
      · intro _
        rw [copy_count, hlength]
        exact hbound
      · simp
  | addCount hpc => 
      rw [hpc] at hu
      have hbound := hr.bound (by rw [hu.1]; rfl)
      rw [hpc] at hbound
      have hlt := hr.buf_lt (by rw [hu.1]; decide)
      refine ⟨hr.small, hr.error, hr.rest, hr.buf, hr.bytes, fun hfilled => ?_, fun _ => ?_, by simp⟩
      · dsimp only at hfilled
        rw [hu.1] at hfilled
        cases hfilled
      · change _ + BitVec.toNat _ ≤ _ at hbound
        dsimp only
        rw [BitVec.toNat_add_of_lt (by omega)]
        exact hbound

end Requested

/-! ## What the user's calls return -/

/-- The value that the call in progress is to return for what it has copied. -/
def UserPc.copied : UserPc → Option (BitVec 32)
  | .addCount n | .test n => some n
  | .clearReq ret _ | .setRsp ret _ | .put ret => some ret
  | _ => none

/-- What a read has brought, or a write has taken. -/
def UserReturn.data (r : UserReturn) : List Byte := r.buf.take r.ret.toNat

/-- What the call in progress has copied. -/
def Half.inFlight (h : Half) : List (List Byte) :=
  h.user.copied.toList.map fun n => h.ubuf.take n.toNat

/-- What has been copied is what the calls have returned, but for the one in progress; and an `int`
holds what they return. -/
structure Served (h : Half) : Prop where
  copied : h.copied = h.userReturns.map UserReturn.data ++ h.inFlight
  present : ∀ n ∈ h.user.copied, n.toNat ≤ h.ubuf.length ∧ n.toNat < 2 ^ 31
  returned : ∀ r ∈ h.userReturns, r.ret.toNat ≤ r.buf.length ∧ r.ret.toNat < 2 ^ 31

/-- After a copy the user's buffer begins with what has been copied. -/
lemma Requested.take_ubuf_copy (hr : Requested h) (hwait : h.kernel = .wait) {n : BitVec 32}
    (hpc : h.user = .copy n) : (h.copy d n).ubuf.take n.toNat = h.chunk n d := by
  cases d with
  | rx => rfl
  | tx =>
      have hlength := hr.length_chunk (d := .tx) hwait hpc
      change (overwrite h.ubuf 0 (h.chunk n .tx)).take n.toNat = _
      simp only [overwrite, List.take_zero, List.nil_append]
      rw [← hlength]
      exact List.take_left

namespace Served

/-- The kernel's thread does not touch what the user's works on. -/
theorem kernelMove (hs : Served h) (hmove : KernelMove h h') : Served h' := by
  cases hmove <;> exact ⟨hs.copied, hs.present, hs.returned⟩

/-- A statement that neither copies nor returns. -/
lemma keep (hs : Served h) {user : UserPc} {flags : Flags} {count : BitVec 32}
    (hcopied : user.copied = h.user.copied) :
    Served { h with user := user, flags := flags, count := count } := by
  refine ⟨?_, ?_, hs.returned⟩
  · have hall := hs.copied
    simp only [Half.inFlight] at hall ⊢
    rw [hcopied]
    exact hall
  · dsimp only
    rw [hcopied]
    exact hs.present

/-- The user's moves keep what the calls have returned. -/
theorem userMove (hs : Served h) (hr : Requested h) (ht : Turns h) (hmove : UserMove d h h') :
    Served h' := by
  have hu := ht.user
  cases hmove with
  | wait hpc | bytes hpc | addCount hpc | answered hpc | notAnswered hpc | loadReq hpc
  | clearReq hpc | loadRsp hpc | setRsp hpc => exact hs.keep (by rw [hpc]; rfl)
  | copy hpc =>
      rw [hpc] at hu
      have hlt := hr.buf_lt (by rw [hu.1]; decide)
      have hbound := hr.bound (by rw [hu.1]; rfl)
      rw [hpc] at hbound
      change _ + BitVec.toNat _ ≤ _ at hbound
      refine ⟨?_, ?_, by simpa using hs.returned⟩
      · have hall := hs.copied
        simp only [Half.inFlight, hpc, UserPc.copied, Option.toList_none, List.map_nil,
          List.append_nil] at hall
        simp only [Half.inFlight, UserPc.copied, copy_copied, copy_userReturns, hall]
        simp [hr.take_ubuf_copy hu.1 hpc]
      · intro n hn
        obtain rfl := Option.some.inj hn
        have hlength := hr.length_chunk (d := d) hu.1 hpc
        refine ⟨?_, by omega⟩
        have htake := congrArg List.length (hr.take_ubuf_copy (d := d) hu.1 hpc)
        rw [List.length_take, hlength] at htake
        dsimp only
        omega
  | put hpc =>
      have hall := hs.copied
      refine ⟨?_, by simp [Half.userReturn, UserPc.copied], ?_⟩
      · simp only [Half.inFlight, hpc, UserPc.copied] at hall
        simp [Half.inFlight, Half.userReturn, UserPc.copied, UserReturn.data, hall]
      · intro r hmem
        simp only [Half.userReturn, List.mem_append, List.mem_singleton] at hmem
        obtain hmem | rfl := hmem
        · exact hs.returned r hmem
        · exact hs.present _ (by simp [hpc, UserPc.copied])

end Served

/-! ## Both threads together -/

/-- What holds of a direction at any time, whichever it is. -/
structure Handshake (h : Half) : Prop where
  turns : Turns h
  requested : Requested h
  served : Served h

namespace Handshake

/-- Nothing has begun at the start. -/
theorem init : Handshake {} where
  turns := ⟨rfl, by simp [UserPc.Agrees]⟩
  requested := Requested.of_filled_le_one (by simp) rfl (by simp [KernelPc.filled])
    (by simp [KernelPc.filled]) (by simp)
  served := ⟨rfl, by simp [UserPc.copied], by simp⟩

/-- The kernel begins a call. -/
lemma kernelCall (hi : Handshake h) (hidle : h.kernel = .idle) {vecs : List (List Byte)}
    (hsmall : ∀ vec ∈ vecs, vec.length < 2 ^ 31) : Handshake (h.kernelCall vecs) where
  turns := by
    have hk := hi.turns.kernel
    rw [hidle] at hk
    have haway : h.user.Away := hi.turns.away fun h => absurd (hidle.symm.trans h) (by simp)
    exact ⟨hk, haway.agrees (by simp [Half.kernelCall])⟩
  requested := by
    have hzero : (h.kernelCall vecs).kernel.filled = 0 := rfl
    refine Requested.of_filled_le_one hsmall hi.requested.error ?_ ?_ hi.requested.fits
    · simp [hzero]
    · simp [hzero]
  served := ⟨hi.served.copied, hi.served.present, hi.served.returned⟩

/-- The user begins a call. -/
lemma userCall (hi : Handshake h) (hidle : h.user = .idle) (ubuf : List Byte) :
    Handshake (h.userCall ubuf) where
  turns := by
    have hu := hi.turns.user
    rw [hidle] at hu
    exact ⟨hi.turns.kernel, hu⟩
  requested := by
    have hkeep : Requested { h with user := .wait } :=
      hi.requested.keepUser (Nat.zero_le _) (by simp)
    exact ⟨hkeep.small, rfl, hkeep.rest, hkeep.buf, hkeep.bytes, hkeep.start, hkeep.bound,
      by simp [Half.userCall]⟩
  served := by
    have hall := hi.served.copied
    simp only [Half.inFlight, hidle, UserPc.copied] at hall
    exact ⟨hall, by simp [Half.userCall, UserPc.copied], hi.served.returned⟩

/-- The kernel's moves keep the handshake. -/
theorem kernelMove (hi : Handshake h) (hmove : KernelMove h h') : Handshake h' :=
  ⟨hi.turns.kernelMove hmove, hi.requested.kernelMove hi.turns hmove, hi.served.kernelMove hmove⟩

/-- The user's moves keep the handshake. -/
theorem userMove (hi : Handshake h) (hmove : UserMove d h h') : Handshake h' :=
  ⟨hi.turns.userMove hmove, hi.requested.userMove hi.turns hmove,
    hi.served.userMove hi.requested hi.turns hmove⟩

end Handshake

end Usbip.Ux
