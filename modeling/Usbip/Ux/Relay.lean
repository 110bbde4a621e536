import Usbip.Ux.Transport

/-!
# What the kernel sends on one host arrives at the kernel of the other

On the sending host `usbip_ux_tx` reads what the kernel sends and passes it to the socket; on the
receiving host `usbip_ux_rx` writes what comes from the socket to the kernel.  Each of the four
threads goes on in steps of its own: a read gets a piece of a buffer of the kernel, the socket hands
out what is there in pieces of any size, and a write is taken in pieces as the kernel receives.

* `relayed_in_order`: what has been received is the beginning of what has been sent.
* `relayed_to_end`: the threads come to rest only when all of it has been received, or the kernel
  receives nothing more.
-/

namespace Usbip.Ux

open Usbip.Core Usbip.Common

/-- Source: `libsrc/usbip_ux.c`, `BLEN`. -/
def BLEN : Nat := 1500

/-- The position of `usbip_ux_tx`. -/
inductive TxLoop
  /-- At the call of `read`. -/
  | read
  | reading
  /-- At the call of `send`. -/
  | send (data : List Byte)
  /-- It has left the loop; `unsent` is what it has read and not sent. -/
  | ended (unsent : List Byte)
  deriving DecidableEq

/-- The position of `usbip_ux_rx`. -/
inductive RxLoop
  /-- At the call of `recv`. -/
  | recv
  /-- At the call of `write`, with what is left to be written. -/
  | write (left : List Byte)
  | writing (left : List Byte)
  /-- It has left the loop; `left` is what it has received and not written. -/
  | ended (left : List Byte)
  deriving DecidableEq

/-- The stream from the kernel of one host to the kernel of the other. -/
structure Relay where
  tx : Half := {}
  txBuf : List Byte
  txLoop : TxLoop := .read
  /-- What has been sent on the connection and not received. -/
  wire : List Byte := []
  rxLoop : RxLoop := .recv
  rx : Half := {}
  deriving DecidableEq

inductive RelayAction
  /-- The kernel calls `usbip_ux_sendmsg`. -/
  | sendmsg (vecs : List (List Byte))
  | kernelTx (interrupted : Bool)
  | userTx (interrupted fault : Bool)
  /-- `send` has taken so many bytes, or failed. -/
  | send (sent : Option Nat)
  /-- `recv` has brought so many bytes, none when the connection is closed, or failed. -/
  | recv (received : Option Nat)
  | userRx (interrupted fault : Bool)
  /-- The other kernel calls `usbip_ux_recvmsg`. -/
  | recvmsg (vec : List Byte)
  | kernelRx (interrupted : Bool)
  deriving DecidableEq

/-! ## The threads of the user -/

/-- What `usbip_ux_tx` does with the return value of `read`. -/
def afterRead (buf : List Byte) (reads : BitVec 32) : TxLoop :=
  if reads = 0 then .read
  else if reads.toInt < 0 then .ended []
  else .send (buf.take reads.toNat)

/-- What it does with the return value of `send`. -/
def afterSend (data : List Byte) : Option Nat → TxLoop
  | none => .ended data
  | some sent => if sent < data.length then .ended (data.drop sent) else .read

/-- The inner loop of `usbip_ux_rx`: `while (written < received)`. -/
def writeLoop (left : List Byte) : RxLoop :=
  if left = [] then .recv else .write left

/-- What `usbip_ux_rx` does with the return value of `write`. -/
def afterWrite (left : List Byte) (ret : BitVec 32) : RxLoop :=
  if ret.toInt < 0 then .ended left else writeLoop (left.drop ret.toNat)

/-- A statement of `usbip_ux_tx` or of the `read` it has called.

Source: `libsrc/usbip_ux.c`, `usbip_ux_tx`. -/
def usbipUxTx (interrupted fault : Bool) (s : Relay) : Option Relay :=
  match s.txLoop with
  | .read => some { s with tx := s.tx.userCall s.txBuf, txLoop := .reading }
  | .reading =>
      (usbipUxRead interrupted fault s.tx).map fun h =>
        match s.tx.user with
        | .put ret => { s with tx := h, txBuf := h.ubuf, txLoop := afterRead h.ubuf ret }
        | _ => { s with tx := h }
  | .send _ | .ended _ => none

/-- A statement of `usbip_ux_rx` or of the `write` it has called.

Source: `libsrc/usbip_ux.c`, `usbip_ux_rx`. -/
def usbipUxRx (interrupted fault : Bool) (s : Relay) : Option Relay :=
  match s.rxLoop with
  | .write left => some { s with rx := s.rx.userCall left, rxLoop := .writing left }
  | .writing left =>
      (usbipUxWrite interrupted fault s.rx).map fun h =>
        match s.rx.user with
        | .put ret => { s with rx := h, rxLoop := afterWrite left ret }
        | _ => { s with rx := h }
  | .recv | .ended _ => none

/-! ## The machine -/

/-- The state an action leads to. -/
def relayStep (s : Relay) : RelayAction → Option Relay
  | .sendmsg vecs =>
      if s.tx.kernel = .idle then some { s with tx := s.tx.kernelCall vecs } else none
  | .kernelTx interrupted => (usbipUxSendmsg interrupted s.tx).map fun h => { s with tx := h }
  | .userTx interrupted fault => usbipUxTx interrupted fault s
  | .send sent =>
      match s.txLoop with
      | .send data =>
          let n := sent.getD 0
          if n ≤ data.length then
            some { s with wire := s.wire ++ data.take n, txLoop := afterSend data sent }
          else none
      | _ => none
  | .recv received =>
      match s.rxLoop, received with
      | .recv, some (n + 1) =>
          if n < BLEN ∧ n < s.wire.length then
            some { s with wire := s.wire.drop (n + 1), rxLoop := writeLoop (s.wire.take (n + 1)) }
          else none
      | .recv, _ => some { s with rxLoop := .ended [] }
      | _, _ => none
  | .userRx interrupted fault => usbipUxRx interrupted fault s
  | .recvmsg vec =>
      if s.rx.kernel = .idle then some { s with rx := s.rx.kernelCall [vec] } else none
  | .kernelRx interrupted => (usbipUxRecvmsg interrupted s.rx).map fun h => { s with rx := h }

def relayMachine : Machine Relay RelayAction where
  init s := ∃ buf : List Byte, buf.length = BLEN ∧ s = { txBuf := buf }
  step := relayStep

/-- Neither a signal nor an interrupt of a `usbip_ux` nor a fault comes, and an `int` holds the
length of each buffer.  The connection may fail or be closed. -/
def Unhurt (_ : Relay) : RelayAction → Prop
  | .sendmsg vecs => Undisturbed (.kernelCall vecs)
  | .recvmsg vec => Undisturbed (.kernelCall [vec])
  | .kernelTx interrupted | .kernelRx interrupted => interrupted = false
  | .userTx interrupted fault | .userRx interrupted fault => interrupted = false ∧ fault = false
  | .send _ | .recv _ => True

instance (s : Relay) : ∀ a : RelayAction, Decidable (Unhurt s a)
  | .sendmsg vecs => inferInstanceAs (Decidable (Undisturbed (.kernelCall vecs)))
  | .recvmsg vec => inferInstanceAs (Decidable (Undisturbed (.kernelCall [vec])))
  | .kernelTx interrupted | .kernelRx interrupted =>
      inferInstanceAs (Decidable (interrupted = false))
  | .userTx interrupted fault | .userRx interrupted fault =>
      inferInstanceAs (Decidable (interrupted = false ∧ fault = false))
  | .send _ | .recv _ => isTrue trivial

variable {h h' : Half} {d : Direction} {s t : Relay} {a : RelayAction}

/-! ## What the threads hold -/

/-- What `usbip_ux_tx` has read and not sent. -/
def TxLoop.held : TxLoop → List Byte
  | .send data => data
  | .ended unsent => unsent
  | .read | .reading => []

/-- What `usbip_ux_rx` has received and not written. -/
def RxLoop.held : RxLoop → List Byte
  | .write left | .writing left | .ended left => left
  | .recv => []

/-- What the calls of the user have reported to it. -/
def Half.reported (h : Half) : List Byte := (h.userReturns.map UserReturn.data).flatten

/-- A read holds the bytes that it brought. -/
lemma held_afterRead {buf : List Byte} {reads : BitVec 32} (hlt : reads.toNat < 2 ^ 31) :
    (afterRead buf reads).held = buf.take reads.toNat := by
  unfold afterRead
  split
  · next hzero =>
    rw [hzero]
    rfl
  · rw [if_neg (by rw [toInt_of_lt hlt]; omega)]
    rfl

/-- A send holds what it has not sent. -/
lemma take_append_held_afterSend {data : List Byte} {sent : Option Nat} :
    data.take (sent.getD 0) ++ (afterSend data sent).held = data := by
  cases sent with
  | none => rfl
  | some sent =>
      simp only [afterSend, Option.getD_some]
      split
      · exact List.take_append_drop sent data
      · next hge =>
        rw [List.take_of_length_le (Nat.le_of_not_lt hge)]
        exact List.append_nil data

/-- The loop holds what is left to write. -/
lemma held_writeLoop (left : List Byte) : (writeLoop left).held = left := by
  unfold writeLoop
  split
  · next hnil => exact hnil.symm
  · rfl

/-- A write holds what it has not written. -/
lemma held_afterWrite {left : List Byte} {ret : BitVec 32} (hlt : ret.toNat < 2 ^ 31) :
    (afterWrite left ret).held = left.drop ret.toNat := by
  unfold afterWrite
  rw [if_neg (by rw [toInt_of_lt hlt]; omega)]
  exact held_writeLoop _

/-- The loop begins with a new call. -/
lemma writeLoop_ne_writing (left left' : List Byte) : writeLoop left ≠ .writing left' := by
  unfold writeLoop
  split <;> simp

/-- Behind a read the thread does not read. -/
lemma afterRead_ne_reading (buf : List Byte) (reads : BitVec 32) :
    afterRead buf reads ≠ .reading := by
  unfold afterRead
  split
  · simp
  · split <;> simp

/-- Behind a send the thread does not read. -/
lemma afterSend_ne_reading (data : List Byte) (sent : Option Nat) :
    afterSend data sent ≠ .reading := by
  cases sent with
  | none => simp [afterSend]
  | some sent =>
      unfold afterSend
      dsimp only
      split <;> simp

/-- Behind a write the thread begins a new call. -/
lemma afterWrite_ne_writing (left left' : List Byte) (ret : BitVec 32) :
    afterWrite left ret ≠ .writing left' := by
  unfold afterWrite
  split
  · simp
  · exact writeLoop_ne_writing _ _

/-! ## What is sent is held, on its way or received -/

/-- The thread of the kernel leaves the user's alone. -/
lemma KernelMove.frame (hmove : KernelMove h h') :
    h'.user = h.user ∧ h'.ubuf = h.ubuf ∧ h'.userReturns = h.userReturns := by
  cases hmove <;> exact ⟨rfl, rfl, rfl⟩

/-- A statement of a call of the user is in the middle of it, or returns. -/
lemma UserMove.returns (hmove : UserMove d h h') :
    (∃ ret, h.user = .put ret ∧ h' = h.userReturn ret) ∨
      (∀ ret, h.user ≠ .put ret) ∧ h'.user ≠ .idle ∧ h'.userReturns = h.userReturns ∧
        (d = .rx → h'.ubuf = h.ubuf) := by
  cases hmove with
  | put hpc => exact .inl ⟨_, hpc, rfl⟩
  | copy hpc =>
      refine .inr ⟨by simp [hpc], by simp, copy_userReturns _ _ _, ?_⟩
      rintro rfl
      rfl
  | wait hpc | bytes hpc | addCount hpc | answered hpc | notAnswered hpc | loadReq hpc
  | clearReq hpc | loadRsp hpc | setRsp hpc =>
      exact .inr ⟨by simp [hpc], by simp, rfl, fun _ => rfl⟩

/-- A call that returns reports its bytes. -/
lemma reported_userReturn (h : Half) (ret : BitVec 32) :
    (h.userReturn ret).reported = h.reported ++ h.ubuf.take ret.toNat := by
  simp [Half.reported, Half.userReturn, UserReturn.data]

/-- Nothing is lost between the two kernels, and nothing changes its place. -/
structure Flows (s : Relay) : Prop where
  sends : Sends s.tx
  receives : Receives s.rx
  txIdle : s.tx.user = .idle ↔ s.txLoop ≠ .reading
  rxIdle : s.rx.user = .idle ↔ ∀ left, s.rxLoop ≠ .writing left
  rxBuf : ∀ left, s.rxLoop = .writing left → s.rx.ubuf = left
  flow : s.tx.reported = s.rx.reported ++ s.rxLoop.held ++ s.wire ++ s.txLoop.held

namespace Flows

/-- Nothing has flowed at the start. -/
lemma init {buf : List Byte} : Flows { txBuf := buf } where
  sends := ⟨Handshake.init, Counted.of_filled_lt Handshake.init.turns (Nat.succ_pos 4), .init⟩
  receives := ⟨Handshake.init, .init⟩
  txIdle := by simp
  rxIdle := by simp
  rxBuf := by simp
  flow := rfl

/-- The kernel begins a send. -/
lemma sendmsg (hi : Flows s) {vecs : List (List Byte)} (hok : Undisturbed (.kernelCall vecs))
    (hidle : s.tx.kernel = .idle) : Flows { s with tx := s.tx.kernelCall vecs } :=
  { hi with sends := hi.sends.step hok (if_pos hidle) }

/-- The kernel begins a receive. -/
lemma recvmsg (hi : Flows s) {vec : List Byte} (hok : Undisturbed (.kernelCall [vec]))
    (hidle : s.rx.kernel = .idle) : Flows { s with rx := s.rx.kernelCall [vec] } where
  sends := hi.sends
  receives := hi.receives.step hok (fun vecs heq => by cases heq; rfl) (if_pos hidle)
  txIdle := hi.txIdle
  rxIdle := hi.rxIdle
  rxBuf := hi.rxBuf
  flow := hi.flow

/-- A statement of the kernel's send. -/
lemma kernelTx (hi : Flows s) (hstep : usbipUxSendmsg false s.tx = some h) :
    Flows { s with tx := h } := by
  obtain ⟨huser, -, hreturns⟩ := (kernelStep_cases hstep).frame
  exact
    { hi with
      sends := hi.sends.step (a := .kernel false) rfl hstep
      txIdle := by
        dsimp only
        rw [huser]
        exact hi.txIdle
      flow := by
        simp only [Half.reported, hreturns]
        exact hi.flow }

/-- A statement of the kernel's receive. -/
lemma kernelRx (hi : Flows s) (hstep : usbipUxRecvmsg false s.rx = some h) :
    Flows { s with rx := h } := by
  obtain ⟨huser, hubuf, hreturns⟩ := (kernelStep_cases hstep).frame
  exact
    { hi with
      receives := hi.receives.step (a := .kernel false) rfl (fun vecs heq => by cases heq) hstep
      rxIdle := by
        dsimp only
        rw [huser]
        exact hi.rxIdle
      rxBuf := by
        dsimp only
        rw [hubuf]
        exact hi.rxBuf
      flow := by
        simp only [Half.reported, hreturns]
        exact hi.flow }

/-- A statement of the thread that reads from the kernel and sends to the socket. -/
lemma userTx (hi : Flows s) (hstep : usbipUxTx false false s = some t) : Flows t := by
  unfold usbipUxTx at hstep
  cases hloop : s.txLoop with
  | send data | ended unsent =>
      rw [hloop] at hstep
      cases hstep
  | read =>
      rw [hloop] at hstep
      cases hstep
      have hidle := hi.txIdle.mpr (by rw [hloop]; simp)
      have hflow := hi.flow
      rw [hloop] at hflow
      exact
        { hi with
          sends := hi.sends.step (a := .userCall s.txBuf) trivial (if_pos hidle)
          txIdle := by simp [Half.userCall]
          flow := hflow }
  | reading =>
      rw [hloop] at hstep
      obtain ⟨h, hread, hst⟩ := Option.map_eq_some_iff.mp hstep
      have hsends : Sends h := hi.sends.step (a := .user false false) ⟨rfl, rfl⟩ hread
      have hflow := hi.flow
      rw [hloop] at hflow
      obtain ⟨ret, hpc, rfl⟩ | ⟨hput, hbusy, hreturns, -⟩ := (userStep_cases hread).returns
      · rw [hpc] at hst
        cases hst
        have hlt := (hi.sends.handshake.served.present ret (by rw [hpc]; rfl)).2
        exact
          { hi with
            sends := hsends
            txIdle := iff_of_true rfl (afterRead_ne_reading _ _)
            flow := by
              dsimp only
              rw [held_afterRead hlt, reported_userReturn, hflow, TxLoop.held, List.append_nil]
              rfl }
      · have hst : t = { s with tx := h } := by
          rw [← hst]
          split
          · next ret heq => exact absurd heq (hput ret)
          · rw [hloop]
        subst hst
        exact
          { hi with
            sends := hsends
            txIdle := iff_of_false hbusy (not_not_intro hloop)
            flow := by
              simp only [Half.reported, hreturns]
              exact hi.flow }

/-- A statement of the thread that reads from the socket and writes to the kernel. -/
lemma userRx (hi : Flows s) (hstep : usbipUxRx false false s = some t) : Flows t := by
  unfold usbipUxRx at hstep
  cases hloop : s.rxLoop with
  | recv | ended left =>
      rw [hloop] at hstep
      cases hstep
  | write left =>
      rw [hloop] at hstep
      cases hstep
      have hidle := hi.rxIdle.mpr (by rw [hloop]; simp)
      have hflow := hi.flow
      rw [hloop] at hflow
      exact
        { hi with
          receives := hi.receives.step (a := .userCall left) trivial (fun vecs heq => by cases heq)
            (if_pos hidle)
          rxIdle := by simp [Half.userCall]
          rxBuf := fun left' heq => by
            obtain rfl := RxLoop.writing.inj heq
            rfl
          flow := hflow }
  | writing left =>
      rw [hloop] at hstep
      obtain ⟨h, hwrite, hst⟩ := Option.map_eq_some_iff.mp hstep
      have hreceives : Receives h := hi.receives.step (a := .user false false) ⟨rfl, rfl⟩
        (fun vecs heq => by cases heq) hwrite
      have hubuf := hi.rxBuf left hloop
      have hflow := hi.flow
      rw [hloop] at hflow
      obtain ⟨ret, hpc, rfl⟩ | ⟨hput, hbusy, hreturns, hkeeps⟩ := (userStep_cases hwrite).returns
      · rw [hpc] at hst
        cases hst
        have hlt := (hi.receives.handshake.served.present ret (by rw [hpc]; rfl)).2
        exact
          { hi with
            receives := hreceives
            rxIdle := iff_of_true rfl fun left' => afterWrite_ne_writing _ _ _
            rxBuf := fun left' heq => absurd heq (afterWrite_ne_writing _ _ _)
            flow := by
              dsimp only
              rw [held_afterWrite hlt, reported_userReturn, hubuf, hflow, List.append_assoc _
                (left.take _), List.take_append_drop]
              rfl }
      · have hst : t = { s with rx := h } := by
          rw [← hst]
          split
          · next ret heq => exact absurd heq (hput ret)
          · rw [hloop]
        subst hst
        exact
          { hi with
            receives := hreceives
            rxIdle := iff_of_false hbusy fun hall => hall left hloop
            rxBuf := fun left' heq => by
              dsimp only
              rw [hkeeps rfl]
              exact hi.rxBuf left' heq
            flow := by
              simp only [Half.reported, hreturns]
              exact hi.flow }

/-- Every statement keeps the flow. -/
theorem step (hi : Flows s) (hok : Unhurt s a) (hstep : relayStep s a = some t) : Flows t := by
  cases a with
  | sendmsg vecs =>
      obtain ⟨hidle, hst⟩ := Option.ite_none_right_eq_some.mp hstep
      obtain rfl := Option.some.inj hst
      exact hi.sendmsg hok hidle
  | recvmsg vec =>
      obtain ⟨hidle, hst⟩ := Option.ite_none_right_eq_some.mp hstep
      obtain rfl := Option.some.inj hst
      exact hi.recvmsg hok hidle
  | kernelTx interrupted =>
      obtain rfl : interrupted = false := hok
      obtain ⟨h, hkernel, rfl⟩ := Option.map_eq_some_iff.mp hstep
      exact hi.kernelTx hkernel
  | kernelRx interrupted =>
      obtain rfl : interrupted = false := hok
      obtain ⟨h, hkernel, rfl⟩ := Option.map_eq_some_iff.mp hstep
      exact hi.kernelRx hkernel
  | userTx interrupted fault =>
      obtain ⟨rfl, rfl⟩ := hok
      exact hi.userTx hstep
  | userRx interrupted fault =>
      obtain ⟨rfl, rfl⟩ := hok
      exact hi.userRx hstep
  | send sent =>
      unfold relayStep at hstep
      cases hloop : s.txLoop with
      | read | reading | ended unsent =>
          simp only [hloop] at hstep
          cases hstep
      | send data =>
          simp only [hloop] at hstep
          obtain ⟨-, hst⟩ := Option.ite_none_right_eq_some.mp hstep
          obtain rfl := Option.some.inj hst
          have hidle := hi.txIdle.mpr (by rw [hloop]; simp)
          have hflow := hi.flow
          rw [hloop] at hflow
          exact
            { hi with
              txIdle := iff_of_true hidle (afterSend_ne_reading _ _)
              flow := by
                dsimp only
                rw [hflow, ← List.append_assoc _ s.wire, List.append_assoc _ (data.take _),
                  take_append_held_afterSend]
                rfl }
  | recv received =>
      unfold relayStep at hstep
      have hend (hloop : s.rxLoop = .recv) : Flows { s with rxLoop := .ended [] } := by
        have hidle := hi.rxIdle.mpr (by rw [hloop]; simp)
        have hflow := hi.flow
        rw [hloop] at hflow
        exact
          { hi with
            rxIdle := iff_of_true hidle (by simp)
            rxBuf := by simp
            flow := hflow }
      cases hloop : s.rxLoop with
      | write left | writing left | ended left =>
          simp only [hloop] at hstep
          cases hstep
      | recv =>
          cases received with
          | none =>
              simp only [hloop] at hstep
              obtain rfl := Option.some.inj hstep
              exact hend hloop
          | some n =>
              cases n with
              | zero =>
                  simp only [hloop] at hstep
                  obtain rfl := Option.some.inj hstep
                  exact hend hloop
              | succ n =>
                  simp only [hloop] at hstep
                  obtain ⟨-, hst⟩ := Option.ite_none_right_eq_some.mp hstep
                  obtain rfl := Option.some.inj hst
                  have hidle := hi.rxIdle.mpr (by rw [hloop]; simp)
                  have hflow := hi.flow
                  rw [hloop] at hflow
                  exact
                    { hi with
                      rxIdle := iff_of_true hidle fun left => writeLoop_ne_writing _ _
                      rxBuf := fun left heq => absurd heq (writeLoop_ne_writing _ _)
                      flow := by
                        dsimp only
                        rw [hflow, held_writeLoop, List.append_assoc _ (s.wire.take _),
                          List.take_append_drop, RxLoop.held, List.append_nil] }

end Flows

/-- Nothing is lost or changed in any run. -/
lemma flows_of_reach (h : relayMachine.Reach Unhurt s) : Flows s := by
  refine h.invariant (I := Flows) ?_ fun _ _ _ hi hok hst => hi.step hok hst
  rintro s ⟨buf, -, rfl⟩
  exact .init

/-! ## What the other kernel receives -/

/-- What the kernel has received. -/
def Half.received (h : Half) : List Byte := (h.returns.map KernelReturn.data).flatten

/-- What the user has read is the beginning of what the kernel has sent. -/
lemma Sends.reported (hi : Sends h) : h.reported <+: h.sent := by
  have hread := hi.readsSent.read
  rw [hi.handshake.served.copied, List.flatten_append] at hread
  exact (List.prefix_append _ _).trans hread

/-- What the kernel has received is the beginning of what the user has written, with what the
present call is writing. -/
lemma Receives.received (hi : Receives h) : h.received <+: h.reported ++ h.ubuf := by
  have hdata := hi.receivesWritten.data
  rw [hi.handshake.served.copied] at hdata
  have hflat := hdata.flatten
  rw [List.flatten_append] at hflat
  refine hflat.trans (List.prefix_append_right_inj _ |>.mpr ?_)
  unfold Half.inFlight
  cases h.user.copied with
  | none => exact List.nil_prefix
  | some n =>
      rw [Option.toList_some, List.map_singleton, List.flatten_singleton]
      exact List.take_prefix _ _

/-- Between two calls of the user, with no receive half done, all that was written is received. -/
lemma Receives.received_all (hi : Receives h) (huser : h.user = .idle)
    (hkernel : h.kernel = .idle ∨ h.kernel = .wait ∧ h.flags.rsp = false) :
    h.received = h.reported := by
  have hcopied := hi.handshake.served.reports.all huser
  have hreturned : h.copied = h.returns.map KernelReturn.data := by
    rcases hkernel with hidle | ⟨hwait, hrsp⟩
    · exact (hi.receivesWritten.all hidle).symm
    · have hphase := hi.receiving.phase
      rw [Half.Phase, hwait] at hphase
      rcases hphase with ⟨-, -, vec, hbefore⟩ | ⟨htaken, -⟩
      · exact hbefore.copied
      · simp [Half.taken, huser, hrsp, UserPc.working] at htaken
  rw [Half.received, Half.reported, hcopied, hreturned]

/-- The kernel of one host receives the bytes that the kernel of the other sends, in their order,
whatever becomes of the connection. -/
theorem relayed_in_order (h : relayMachine.Reach Unhurt s) : s.rx.received <+: s.tx.sent := by
  have hi := flows_of_reach h
  have hreceived : s.rx.received <+: s.rx.reported ++ s.rxLoop.held := by
    by_cases hidle : s.rx.user = .idle
    · have hcopied := hi.receives.handshake.served.reports.all hidle
      have hdata := hi.receives.receivesWritten.data.flatten
      rw [← hcopied] at hdata
      exact hdata.trans (List.prefix_append _ _)
    · obtain ⟨left, hloop⟩ := not_forall_not.mp fun hall => hidle (hi.rxIdle.mpr hall)
      rw [hloop, RxLoop.held, ← hi.rxBuf left hloop]
      exact hi.receives.received
  have hreported := hi.sends.reported
  rw [hi.flow, List.append_assoc] at hreported
  exact hreceived.trans ((List.prefix_append _ _).trans hreported)

/-! ## Where the threads come to rest -/

/-- An action of one of the four threads, or one with which the connection brings some bytes on. -/
def RelayAction.Goes : RelayAction → Prop
  | .sendmsg _ | .recvmsg _ => False
  | .kernelTx interrupted | .kernelRx interrupted => interrupted = false
  | .userTx interrupted fault | .userRx interrupted fault => interrupted = false ∧ fault = false
  | .send sent => sent ≠ none
  | .recv received => ∃ n, received = some (n + 1)

/-- The threads and the connection are at rest, but for new calls of the kernels. -/
def Rests (s : Relay) : Prop := ∀ a : RelayAction, a.Goes → relayStep s a = none

/-- A kernel thread that cannot go on is idle or waits for its answer. -/
lemma kernel_rests (hnone : kernelStep false h = none) :
    h.kernel = .idle ∨ h.kernel = .wait ∧ h.flags.rsp = false := by
  unfold kernelStep at hnone
  split at hnone
  case h_1 hpc => exact .inl hpc
  case h_2 hpc => split at hnone <;> cases hnone
  case h_11 hpc =>
      rw [if_neg (by simp)] at hnone
      split at hnone
      · next hrsp => exact .inr ⟨hpc, hrsp⟩
      · split at hnone <;> cases hnone
  all_goals cases hnone

/-- A user's thread that cannot go on is idle or waits for a request. -/
lemma user_rests (hnone : userStep d false false h = none) :
    h.user = .idle ∨ h.user = .wait ∧ h.flags.req = false := by
  unfold userStep at hnone
  split at hnone
  case h_1 hpc => exact .inl hpc
  case h_2 hpc =>
      rw [if_neg (by simp)] at hnone
      split at hnone
      · next hreq => exact .inr ⟨hpc, hreq⟩
      · cases hnone
  case h_4 hpc =>
      rw [if_neg (by simp)] at hnone
      cases hnone
  all_goals cases hnone

/-- While the user waits for a request and there is none, the kernel is at no call. -/
lemma Handshake.kernel_idle (hi : Handshake h) (hnone : kernelStep false h = none)
    (hwait : h.user = .wait) (hreq : h.flags.req = false) : h.kernel = .idle := by
  refine (kernel_rests hnone).resolve_right fun hkernel => ?_
  have hu := hi.turns.user
  rw [hwait] at hu
  have hflags : h.flags ≠ {} := hu hkernel.1
  apply hflags
  cases hf : h.flags with
  | mk req rsp =>
      rw [hf] at hreq hkernel
      obtain rfl : req = false := hreq
      obtain rfl : rsp = false := hkernel.2
      rfl

namespace Flows

/-- At rest `usbip_ux_tx` waits in `read` for the kernel to send. -/
lemma tx_rests (hi : Flows s) (hrests : Rests s) (hruns : ∀ unsent, s.txLoop ≠ .ended unsent) :
    s.txLoop = .reading ∧ s.tx.kernel = .idle ∧ s.tx.reported = s.tx.sent := by
  have hkernel : kernelStep false s.tx = none :=
    Option.map_eq_none_iff.mp (hrests (.kernelTx false) rfl)
  have huser : usbipUxTx false false s = none := hrests (.userTx false false) ⟨rfl, rfl⟩
  have hloop : s.txLoop = .reading := by
    cases hloop : s.txLoop with
    | reading => rfl
    | ended unsent => exact absurd hloop (hruns unsent)
    | read =>
        rw [usbipUxTx, hloop] at huser
        cases huser
    | send data =>
        have hsend := hrests (.send (some data.length)) (by simp [RelayAction.Goes])
        simp [relayStep, hloop] at hsend
  rw [usbipUxTx, hloop] at huser
  have hpc := (user_rests (Option.map_eq_none_iff.mp huser)).resolve_left fun hidle =>
    hi.txIdle.mp hidle hloop
  have hidle := hi.sends.handshake.kernel_idle hkernel hpc.1 hpc.2
  refine ⟨hloop, hidle, ?_⟩
  rw [← hi.sends.readsSent.all hidle, hi.sends.handshake.served.copied, Half.inFlight, hpc.1]
  simp [UserPc.copied, Half.reported]

/-- At rest `usbip_ux_rx` waits in `recv` for the connection, or in `write` for the kernel to
receive. -/
lemma rx_rests (hi : Flows s) (hrests : Rests s) (hruns : ∀ left, s.rxLoop ≠ .ended left) :
    s.rxLoop = .recv ∧ s.wire = [] ∧ s.rx.received = s.rx.reported ∨
      (∃ left, s.rxLoop = .writing left) ∧ s.rx.kernel = .idle := by
  have hkernel : kernelStep false s.rx = none :=
    Option.map_eq_none_iff.mp (hrests (.kernelRx false) rfl)
  have huser : usbipUxRx false false s = none := hrests (.userRx false false) ⟨rfl, rfl⟩
  cases hloop : s.rxLoop with
  | ended left => exact absurd hloop (hruns left)
  | write left =>
      rw [usbipUxRx, hloop] at huser
      cases huser
  | recv =>
      have hwire : s.wire = [] := by
        by_contra hne
        have hrecv := hrests (.recv (some 1)) ⟨0, rfl⟩
        have hpos := List.length_pos_iff.mpr hne
        simp only [relayStep, hloop] at hrecv
        rw [if_pos ⟨by decide, hpos⟩] at hrecv
        cases hrecv
      have hidle := hi.rxIdle.mpr (by rw [hloop]; simp)
      exact .inl ⟨rfl, hwire, hi.receives.received_all hidle (kernel_rests hkernel)⟩
  | writing left =>
      rw [usbipUxRx, hloop] at huser
      have hpc := (user_rests (Option.map_eq_none_iff.mp huser)).resolve_left fun hidle =>
        hi.rxIdle.mp hidle left hloop
      exact .inr ⟨⟨left, rfl⟩, hi.receives.handshake.kernel_idle hkernel hpc.1 hpc.2⟩

end Flows

/-- When the threads and the connection are at rest while both loops run, every send has returned
its full size, and all that was sent has been received, unless `usbip_ux_rx` waits for the kernel
to receive. -/
theorem relayed_to_end (h : relayMachine.Reach Unhurt s) (hrests : Rests s)
    (htx : ∀ unsent, s.txLoop ≠ .ended unsent) (hrx : ∀ left, s.rxLoop ≠ .ended left) :
    (s.tx.kernel = .idle ∧
      ∀ r ∈ s.tx.returns, r.ret = BitVec.ofNat 32 r.vecs.flatten.length) ∧
    (s.rx.received = s.tx.sent ∨ s.rx.kernel = .idle ∧ ∃ left, s.rxLoop = .writing left) := by
  have hi := flows_of_reach h
  obtain ⟨hread, hidle, hreported⟩ := hi.tx_rests hrests htx
  refine ⟨⟨hidle, hi.sends.readsSent.full⟩, ?_⟩
  rcases hi.rx_rests hrests hrx with ⟨hrecv, hwire, hreceived⟩ | ⟨hwriting, hkernel⟩
  · have hflow := hi.flow
    rw [hread, hrecv, hwire] at hflow
    left
    rw [hreceived, ← hreported, hflow]
    simp [RxLoop.held, TxLoop.held]
  · exact .inr ⟨hkernel, hwriting⟩

/-- Both kernels and both users wait. -/
lemma rests_of_waiting (htx : kernelStep false s.tx = none) (hread : s.txLoop = .reading)
    (huser : userStep .tx false false s.tx = none) (hwire : s.wire = []) (hrecv : s.rxLoop = .recv)
    (hrx : kernelStep false s.rx = none) : Rests s := by
  intro a hgoes
  cases a with
  | sendmsg vecs | recvmsg vec => exact hgoes.elim
  | kernelTx interrupted =>
      obtain rfl : interrupted = false := hgoes
      exact Option.map_eq_none_iff.mpr htx
  | kernelRx interrupted =>
      obtain rfl : interrupted = false := hgoes
      exact Option.map_eq_none_iff.mpr hrx
  | userTx interrupted fault =>
      obtain ⟨rfl, rfl⟩ := hgoes
      simp only [relayStep, usbipUxTx, hread]
      exact Option.map_eq_none_iff.mpr huser
  | userRx interrupted fault => simp only [relayStep, usbipUxRx, hrecv]
  | send sent => simp only [relayStep, hread]
  | recv received =>
      obtain ⟨n, rfl⟩ := hgoes
      simp only [relayStep, hrecv, hwire]
      exact if_neg (by simp)

/-- A send of two buffers, the second of which is received with the end of the first. -/
def relayRun : List RelayAction :=
  List.flatten [
    [.sendmsg [[1, 2, 3], [4]]], List.replicate 9 (.kernelTx false),
    List.replicate 11 (.userTx false false), [.send (some 3)], List.replicate 11 (.kernelTx false),
    [.recv (some 2), .recvmsg [0, 0, 0]], List.replicate 9 (.kernelRx false),
    List.replicate 11 (.userTx false false), [.send (some 1)], List.replicate 3 (.kernelTx false),
    List.replicate 11 (.userRx false false), [.recv (some 2)], List.replicate 3 (.kernelRx false),
    [.recvmsg [0, 0, 0, 0]], List.replicate 9 (.kernelRx false),
    List.replicate 11 (.userRx false false), List.replicate 3 (.kernelRx false),
    [.recvmsg [0]], List.replicate 9 (.kernelRx false), [.userTx false false]]

/-- The run with two pieces is one of the machine. -/
lemma reach_relayRun :
    ∃ s : Relay, relayMachine.Reach Unhurt s ∧
      (s.tx.sent = [1, 2, 3, 4] ∧ s.rx.returns.map KernelReturn.ret = [2, 2] ∧
        kernelStep false s.tx = none ∧ s.txLoop = .reading ∧
        userStep .tx false false s.tx = none ∧ s.wire = [] ∧ s.rxLoop = .recv ∧
        kernelStep false s.rx = none ∧ s.rx.kernel = .wait) :=
  Machine.Reach.of_perform (M := relayMachine) relayRun
    ⟨List.replicate BLEN 0, List.length_replicate, rfl⟩ (by decide +kernel)

/-- Two pieces in each direction. -/
theorem relayed_in_order_relayRun :
    ∃ s : Relay, relayMachine.Reach Unhurt s ∧ s.rx.received <+: s.tx.sent := by
  obtain ⟨s, h, -⟩ := reach_relayRun
  exact ⟨s, h, relayed_in_order h⟩

/-- All four bytes at their ends. -/
theorem relayed_to_end_relayRun :
    ∃ s : Relay, (s.tx.kernel = .idle ∧
      ∀ r ∈ s.tx.returns, r.ret = BitVec.ofNat 32 r.vecs.flatten.length) ∧
      s.rx.received = [1, 2, 3, 4] := by
  obtain ⟨s, h, hsent, -, htx, hread, huser, hwire, hrecv, hrx, hwait⟩ := reach_relayRun
  obtain ⟨hends, hall⟩ := relayed_to_end h (rests_of_waiting htx hread huser hwire hrecv hrx)
    (by simp [hread]) (by simp [hrecv])
  have hbusy : ¬ (s.rx.kernel = .idle ∧ ∃ left, s.rxLoop = .writing left) := by simp [hwait]
  exact ⟨s, hends, (hall.resolve_right hbusy).trans hsent⟩

end Usbip.Ux
