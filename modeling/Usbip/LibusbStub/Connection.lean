import Usbip.LibusbStub.Order
import Usbip.LibusbStub.Requests
import Usbip.Stub.Ownership

/-!
# A connection of the libusb stub, with its socket

The machine of `Machine.lean` with the stream that its receiving thread reads: what `stub_rx_pdu`
does is no longer chosen but follows from the bytes.  The client sends requests one behind the
other, and may be cut off anywhere.  As long as no request is dropped, the next header is read
where the client has put one, and every CMD_SUBMIT received is at the device or has its one reply,
unless the connection is torn down (`requests_served`).
-/

namespace Usbip.LibusbStub

open Usbip.Core Usbip.Common Usbip.Stub

/-! ## The machine -/

/-- Source: `stub_common.h`, `USBIP_NOP`. -/
def usbipNop : BitVec 32 := 0

/-- What a client sends: a header, and what follows it.  `isoc` is whether the client takes the
endpoint for an isochronous one. -/
structure Sent where
  frame : Frame
  isoc : Bool
  payload : List Byte

namespace Sent

def bytes (r : Sent) : List Byte := r.frame.bytes ++ r.payload

/-- The header as the stub reads it. -/
def pdu (e : Endian) (r : Sent) : Header := correctEndianRecv e (r.frame.header e)

def IsSubmit (e : Endian) (r : Sent) : Prop := (r.pdu e).base.command = cmdSubmit

instance (e : Endian) : DecidablePred (IsSubmit e) :=
  fun r => inferInstanceAs (Decidable ((r.pdu e).base.command = cmdSubmit))

/-- The payload is as long as the header says. -/
def Framed (e : Endian) (r : Sent) : Prop :=
  r.payload.length = if r.IsSubmit e then payloadLength r.isoc (r.pdu e) else 0

instance (e : Endian) : DecidablePred (Framed e) :=
  fun r => inferInstanceAs (Decidable (r.payload.length = _))

end Sent

/-- A connection: the threads and their lists, the socket, and the CMD_SUBMIT that is between
`stub_priv_alloc` and `libusb_submit_transfer`.  `requests` and `received` are what the client has
sent and the stub has not or has read the header of; no step depends on them. -/
structure Connection where
  stub : State := {}
  io : List Recvmsg
  current : Option (Env × Header) := none
  /-- Why the receiving thread does not go on, if it does not. -/
  fault : Option Fault := none
  received : List Sent := []
  requests : List Sent

namespace Connection

inductive Action
  /-- A step of the event thread or of the sending thread, or one of `rxTop`. -/
  | stub (a : LibusbStub.Action)
  /-- `stub_complete` in the poll of the sending thread, without memory for the `stub_unlink`. -/
  | completeNoMemory (n : Seqnum)
  /-- `stub_rx_pdu`, with what the thread finds; a CMD_SUBMIT up to `stub_priv_alloc`. -/
  | rxPdu (env : Env)
  /-- The rest of `stub_recv_cmd_submit`. -/
  | rxPayload

/-- The step follows from the stream. -/
def reads : LibusbStub.Action → Bool
  | .rxFail | .rxCmdUnlink _ _ | .rxCmdSubmit _ | .rxSubmitTransfer | .rxSubmitFail _ => true
  | .eventAdd | .ehShutdown | .rxTop | .complete _ _ | .txTop | .tx _ => false

/-- A step of the threads. -/
def lift (a : LibusbStub.Action) (c : Connection) : Option Connection :=
  (LibusbStub.step c.stub a).map fun stub => { c with stub }

/-- What the receiving thread finds, with its own `priv_init`. -/
def finds (env : Env) (c : Connection) : Env :=
  { env with pending := fun n => c.stub.lists.privInit.any fun p => p.seqnum = n }

/-- A header has been read. -/
def readTo (io : List Recvmsg) (c : Connection) : Connection :=
  { c with io, received := c.received ++ c.requests.head?.toList, requests := c.requests.tail }

/-- Source: libusb stub's `stub_rx.c`, `stub_recv_cmd_submit` up to `stub_priv_alloc`. -/
def stubRecvCmdSubmit (env : Env) (pdu : Header) (c : Connection) : Option Connection :=
  match stubGetTransferType env.eps (epNumber pdu) with
  | none => some { c with stub := { c.stub with rx := .top } }
  | some _ =>
      if ¬ env.privOk then c.lift .rxFail
      else lift (.rxCmdSubmit pdu.base.seqnum) { c with current := some (env, pdu) }

/-- Source: libusb stub's `stub_rx.c`, `stub_rx_pdu`. -/
def stubRxPdu (e : Endian) (env : Env) (c : Connection) : Option Connection :=
  if c.stub.rx ≠ .pdu then none
  else
    match recvHeader e c.io with
    | none => lift .rxFail { c with io := (Common.usbipRecv 48 c.io).io }
    | some (pdu, io) =>
        let c := c.readTo io
        -- `goto again`
        if pdu.base.command = usbipNop then some c
        else if ¬ validRequest env pdu then c.lift .rxFail
        else if pdu.base.command = cmdUnlink then
          if (stubRecvCmdUnlink (c.finds env) pdu io).event then c.lift .rxFail
          else c.lift (.rxCmdUnlink pdu.base.seqnum pdu.u.w₀)
        else if pdu.base.command = cmdSubmit then c.stubRecvCmdSubmit env pdu
        else c.lift .rxFail

/-- Source: libusb stub's `stub_rx.c`, `stub_recv_cmd_submit` after `stub_priv_alloc`. -/
def rxPayload (c : Connection) : Option Connection :=
  match c.current with
  | none => none
  | some (env, pdu) =>
      match LibusbStub.stubRecvCmdSubmit env pdu c.io with
      | .error f => some { c with current := none, fault := some f }
      | .ok t =>
          let c := { c with current := none, io := t.io }
          if t.submitted.isSome ∧ env.submitOk then
            lift .rxSubmitTransfer
              { c with stub := { c.stub with event := c.stub.event || t.event } }
          else c.lift (.rxSubmitFail t.event)

/-- The entry is freed all the same.
Source: `stub_tx.c`, `stub_complete` and `stub_enqueue_ret_unlink`. -/
def completeNoMemory (n : Seqnum) (c : Connection) : Option Connection :=
  match c.stub.lists.tx, c.stub.lists.privInit.find? (fun p => p.origin = n) with
  | .top, some p =>
      if n ∈ c.stub.inFlight ∧ p.unlinking then
        some { c with stub := { c.stub with
          lists := { c.stub.lists with
            privInit := c.stub.lists.privInit.eraseP fun p => p.origin = n
            freed := c.stub.lists.freed ++ [n] }
          inFlight := c.stub.inFlight.erase n
          event := true } }
      else none
  | _, _ => none

/-- The connection after an action. -/
def step (e : Endian) (c : Connection) : Action → Option Connection
  | .stub a => if reads a then none else c.lift a
  | .completeNoMemory n => c.completeNoMemory n
  | .rxPdu env => c.stubRxPdu e env
  | .rxPayload => c.rxPayload

/-- The client sends its requests, and at some point nothing more arrives. -/
def machine (e : Endian) : Machine Connection Action where
  init c := ∃ io rs lost, c = { io, requests := rs } ∧ (∀ r ∈ rs, r.Framed e) ∧
    available io ++ lost = rs.flatMap Sent.bytes
  step := step e

end Connection

/-! ## What a client and its stub owe each other -/

/-- An event has been raised, or has been handled. -/
def State.TornDown (s : State) : Prop := s.event = true ∨ s.shouldStop = true

instance : DecidablePred State.TornDown :=
  fun s => inferInstanceAs (Decidable (s.event = true ∨ s.shouldStop = true))

/-- Every request has a seqnum of its own, and a CMD_UNLINK does not name a CMD_UNLINK. -/
structure Numbered (s : State) (pdu : Header) : Prop where
  submit : pdu.base.command = cmdSubmit → pdu.base.seqnum ∉ s.seqnums
  unlink : pdu.base.command = cmdUnlink →
    pdu.base.seqnum ∉ s.seqnums ∧ pdu.u.w₀ ∉ s.lists.unlinks.map Prod.fst

instance (s : State) (pdu : Header) : Decidable (Numbered s pdu) :=
  decidable_of_iff ((pdu.base.command = cmdSubmit → pdu.base.seqnum ∉ s.seqnums) ∧
    (pdu.base.command = cmdUnlink →
      pdu.base.seqnum ∉ s.seqnums ∧ pdu.u.w₀ ∉ s.lists.unlinks.map Prod.fst))
    ⟨fun h => ⟨h.1, h.2⟩, fun h => ⟨h.submit, h.unlink⟩⟩

/-- How many replies to request `n` have been written to the socket. -/
def repliesTo (n : Seqnum) (s : State) : Nat :=
  s.lists.retSubmits.count n +
    (s.lists.wire.filterMap Ret.unlinked).countP fun u => u.caught = some n

/-! ## The threads -/

/-- Every request on the lists has its one reply, or is waiting for it. -/
structure State.Serves (s : State) : Prop where
  answered : s.lists.Answered
  atDevice : ∀ p ∈ s.lists.privInit, p.origin ∈ s.inFlight ∨ s.rx = .submit p.origin
  sock : s.sock = true
  sends : ∀ r, s.lists.tx ≠ .stopped r

/-- What a receiving thread does that drops nothing. -/
def Honest (s : State) : Action → Prop
  | .rxCmdSubmit n => n ∉ s.seqnums
  | .rxCmdUnlink u n => u ∉ s.seqnums ∧ n ∉ s.lists.unlinks.map Prod.fst
  | .rxSubmitFail addsEvent => addsEvent = true
  | _ => True

section Threads

variable {s t : State} {a : Action}

/-- No request is under way twice. -/
lemma count_origin_le_one {lists : Session Transfer TransferStatus} (h : lists.Answered)
    (n : Seqnum) : (lists.privInit.map StubPriv.origin).count n ≤ 1 := by
  have hcount : (lists.privInit.map StubPriv.origin).count n =
      lists.ledger.pending.countP (fun e => e.req = n) := by
    simp only [Session.ledger, List.count, List.countP_map, Function.comp_def, StubPriv.entry,
      beq_eq_decide]
    rfl
  rw [hcount]
  by_cases hn : n ∈ lists.ledger.reqs
  · have hone := h.sound.one_answer n hn
    omega
  · rw [h.sound.pending_countP_req_eq_zero hn]
    exact Nat.zero_le 1

/-- Behind a completion the other entries are still at the device. -/
lemma State.Serves.erase (h : s.Serves) {n : Seqnum} {p : StubPriv Transfer}
    (hf : s.lists.privInit.find? (fun p => p.origin = n) = some p) :
    ∀ q ∈ s.lists.privInit.eraseP (fun p => p.origin = n),
      q.origin ∈ s.inFlight.erase n ∨ s.rx = .submit q.origin := by
  intro q hq
  have hp : p.origin = n := by simpa using List.find?_some hf
  have hcount := ((perm_cons_eraseP_of_find? hf).map StubPriv.origin).count_eq n
  rw [List.map_cons, hp, List.count_cons_self] at hcount
  have hone := count_origin_le_one h.answered n
  have hzero : ((s.lists.privInit.eraseP (fun p => p.origin = n)).map
      StubPriv.origin).count n = 0 := by
    omega
  have hne : q.origin ≠ n := by
    intro hqn
    have hmem := List.mem_map_of_mem (f := StubPriv.origin) hq
    rw [hqn] at hmem
    exact List.count_eq_zero.mp hzero hmem
  exact (h.atDevice q (List.mem_of_mem_eraseP hq)).imp_left (List.mem_erase_of_ne hne).mpr

/-- The sending thread touches only its own lists, and a reply that it cannot send is an event. -/
lemma frame_stubTxStep {lists lists' : Session Transfer TransferStatus} {sendOk : Bool}
    (h : lists.stubTxStep sendOk = some lists') :
    lists'.privInit = lists.privInit ∧ lists'.submits = lists.submits := by
  unfold Session.stubTxStep Session.dequeueFromPrivTx Session.dequeueFromUnlinkTx at h
  split at h <;> (try split at h) <;> cases h <;> exact ⟨rfl, rfl⟩

/-- Whatever the threads do, every request stays accounted for, or the connection is torn down. -/
theorem State.Serves.step (h : s.Serves) (hok : Honest s a) (hst : LibusbStub.step s a = some t) :
    t.TornDown ∨ t.Serves := by
  have hflying : ∀ {pc}, s.rx = pc → (∀ n, pc ≠ .submit n) →
      ∀ p ∈ s.lists.privInit, p.origin ∈ s.inFlight := fun hrx hpc p hp =>
    (h.atDevice p hp).resolve_right fun hsubmit => hpc _ (hrx.symm.trans hsubmit)
  cases moves_of_step hst with
  | eventAdd | rxFail => exact .inl (.inl rfl)
  | ehShutdown => exact .inl (.inr rfl)
  | rxTop hrx =>
      have hall := hflying hrx fun n => RxPc.noConfusion
      exact .inr ⟨h.answered, fun p hp => .inl (hall p hp), h.sock, h.sends⟩
  | @rxCmdUnlink u n hrx =>
      have hall := hflying hrx fun n => RxPc.noConfusion
      refine .inr ⟨h.answered.stubRecvCmdUnlink .completed hok.1 hok.2, fun p hp => .inl ?_, h.sock,
        ?_⟩
      · have hmem : p.origin ∈ s.lists.privInit.map StubPriv.origin := by
          rw [← Session.map_origin_stubRecvCmdUnlink TransferStatus.completed u n]
          exact List.mem_map_of_mem hp
        obtain ⟨q, hq, hqp⟩ := List.mem_map.mp hmem
        exact hqp ▸ hall q hq
      · show ∀ r, (s.lists.stubRecvCmdUnlink .completed u n).tx ≠ .stopped r
        unfold Session.stubRecvCmdUnlink
        split <;> exact h.sends
  | rxCmdSubmit hrx =>
      have hall := hflying hrx fun n => RxPc.noConfusion
      refine .inr ⟨h.answered.stubPrivAlloc hok, fun p hp => ?_, h.sock, h.sends⟩
      rcases List.mem_append.mp hp with hp | hp
      · exact .inl (hall p hp)
      · rw [List.mem_singleton.mp hp]
        exact .inr rfl
  | rxSubmitTransfer hrx =>
      refine .inr ⟨h.answered, fun p hp => .inl ?_, h.sock, h.sends⟩
      rcases h.atDevice p hp with hmem | hsubmit
      · exact List.mem_append_left _ hmem
      · cases hrx.symm.trans hsubmit
        exact List.mem_append_right _ List.mem_cons_self
  | @rxSubmitFail _ addsEvent _ =>
      exact .inl (.inl (by rw [show addsEvent = true from hok, Bool.or_true]))
  | ignored _ _ hsock => cases h.sock.symm.trans hsock
  | complete _ _ hl =>
      obtain ⟨p, hf, -, hcase⟩ := Session.stubComplete_cases hl
      have herase := h.erase hf
      refine .inr ⟨h.answered.stubComplete hl, ?_, h.sock, ?_⟩
      · rcases hcase with ⟨-, rfl⟩ | ⟨-, rfl⟩ <;> exact herase
      · rcases hcase with ⟨-, rfl⟩ | ⟨-, rfl⟩ <;> exact h.sends
  | txTop htx =>
      cases hdown : s.shouldStop || s.event with
      | true =>
          refine .inl ?_
          rcases Bool.or_eq_true_iff.mp hdown with hstop | hevent
          · exact .inr hstop
          · exact .inl hevent
      | false =>
          exact .inr ⟨h.answered.setTx htx (.inl rfl), h.atDevice, h.sock, fun r hr => by cases hr⟩
  | @tx _ lists hl =>
      by_cases hstopped : ∃ r, lists.tx = .stopped r
      · obtain ⟨r, hr⟩ := hstopped
        refine .inl (.inl ?_)
        dsimp only
        rw [hr, Bool.or_true]
      · refine .inr ⟨h.answered.stubTxStep hl, ?_, h.sock, fun r hr => hstopped ⟨r, hr⟩⟩
        show ∀ p ∈ lists.privInit, _
        rw [(frame_stubTxStep hl).1]
        exact h.atDevice

/-- An event is not taken back. -/
lemma State.TornDown.step (h : s.TornDown) (hst : LibusbStub.step s a = some t) : t.TornDown := by
  have hor : s.event = true ∨ s.shouldStop = true := h
  unfold State.TornDown
  cases moves_of_step hst with
  | eventAdd | rxFail => exact .inl rfl
  | ehShutdown => exact .inr rfl
  | rxSubmitFail | tx => exact hor.imp_left fun hevent => by rw [hevent, Bool.true_or]
  | rxTop | rxCmdUnlink | rxCmdSubmit | rxSubmitTransfer | ignored | complete | txTop => exact h

end Threads

namespace Connection

/-- No CMD_SUBMIT that is accepted as valid is dropped. -/
def Fine (e : Endian) (c : Connection) : Action → Prop
  | .rxPdu env => ∀ x ∈ recvHeader e c.io, ∀ r ∈ c.requests.head?,
      Numbered c.stub x.1 ∧ (x.1.base.command = cmdSubmit → validRequest env x.1 = true →
        ¬ Drops env r.isoc x.1 x.2)
  | _ => True

instance (e : Endian) (c : Connection) (a : Action) : Decidable (c.Fine e a) :=
  match a with
  | .rxPdu env => inferInstanceAs (Decidable (∀ x ∈ recvHeader e c.io, ∀ r ∈ c.requests.head?,
      Numbered c.stub x.1 ∧ (x.1.base.command = cmdSubmit → validRequest env x.1 = true →
        ¬ Drops env r.isoc x.1 x.2)))
  | .stub _ | .completeNoMemory _ | .rxPayload => isTrue trivial

/-- Where the receiving thread is in the stream. -/
inductive Aligned (e : Endian) (c : Connection) : Prop
  /-- In front of a request, or at the end of what arrives. -/
  | header (hcurrent : c.current = none) {lost : List Byte}
      (h : available c.io ++ lost = c.requests.flatMap Sent.bytes)
  /-- In front of the payload of the request received last. -/
  | payload {env : Env} {rs : List Sent} {r : Sent} (hcurrent : c.current = some (env, r.pdu e))
      (hlast : c.received = rs ++ [r]) {lost : List Byte}
      (h : available c.io ++ lost = r.payload ++ c.requests.flatMap Sent.bytes)

/-- Nothing is lost. -/
structure Kept (e : Endian) (c : Connection) : Prop where
  goesOn : c.fault = none
  aligned : c.Aligned e
  /-- Every CMD_SUBMIT received is on the lists or has been. -/
  submits : c.stub.lists.submits =
    (c.received.filter (Sent.IsSubmit e)).map fun r => (r.pdu e).base.seqnum
  /-- It is waiting, or it is answered once. -/
  once : ∀ n ∈ c.stub.lists.submits, c.stub.lists.unanswered n + c.stub.lists.answered n = 1
  /-- It waits for the device only when the device has it, or gets it next. -/
  atDevice : ∀ p ∈ c.stub.lists.privInit, p.origin ∈ c.stub.inFlight ∨ c.stub.rx = .submit p.origin
  /-- With nothing left to send, it has one reply. -/
  replied : c.stub.lists.privInit = [] → c.stub.lists.privTx = [] → c.stub.lists.unlinkTx = [] →
    c.stub.lists.tx = .top → ∀ n ∈ c.stub.lists.submits, repliesTo n c.stub = 1

/-- What a connection keeps that is not torn down. -/
structure Inv (e : Endian) (c : Connection) : Prop where
  goesOn : c.fault = none
  aligned : c.Aligned e
  submits : c.stub.lists.submits =
    (c.received.filter (Sent.IsSubmit e)).map fun r => (r.pdu e).base.seqnum
  serves : c.stub.Serves
  framed : ∀ r ∈ c.requests, r.Framed e
  /-- The request that is being received is not dropped. -/
  current : ∀ env pdu, c.current = some (env, pdu) → c.stub.rx = .submit pdu.base.seqnum ∧
    ∀ rs r, c.received = rs ++ [r] → r.Framed e ∧ r.IsSubmit e ∧ ¬ Drops env r.isoc pdu c.io
  noCurrent : c.current = none → ∀ n, c.stub.rx ≠ .submit n

variable {e : Endian} {c d : Connection}

/-- The invariant gives what is promised about a session that goes on. -/
lemma Inv.kept (h : c.Inv e) : c.Kept e := by
  have honce : ∀ n ∈ c.stub.lists.submits,
      c.stub.lists.unanswered n + c.stub.lists.answered n = 1 :=
    fun n hn => h.serves.answered.request (fun r => h.serves.sends (some r)) hn
  refine ⟨h.goesOn, h.aligned, h.submits, honce, h.serves.atDevice, ?_⟩
  intro hinit htx hunlink htop n hn
  have hone := honce n hn
  simpa [Session.unanswered, Session.answered, Session.retUnlinks, repliesTo, hinit, htx, hunlink,
    htop, TxPc.sendingSubmit, TxPc.sendingUnlink] using hone

/-! ## One step -/

/-- A header is read whole, and then it is the client's next, or not at all. -/
lemma recvHeader_cases {io : List Recvmsg} {lost : List Byte} {rs : List Sent} (e : Endian)
    (h : available io ++ lost = rs.flatMap Sent.bytes) :
    recvHeader e io = none ∨ ∃ r rest io', rs = r :: rest ∧
      recvHeader e io = some (r.pdu e, io') ∧
      available io' ++ lost = r.payload ++ rest.flatMap Sent.bytes := by
  by_cases hle : 48 ≤ (available io).length
  · right
    cases rs with
    | nil =>
        have hlen := congrArg List.length h
        simp only [List.length_append, List.flatMap_nil, List.length_nil] at hlen
        omega
    | cons r rest =>
        obtain ⟨hret, hbuf, hio⟩ := Common.usbipRecv_of_le (by decide) hle
        have hlen := r.frame.length_bytes
        rw [List.flatMap_cons, Sent.bytes, List.append_assoc] at h
        have htake : (available io).take 48 = r.frame.bytes := by
          have := congrArg (List.take 48) h
          rwa [List.take_append_of_le_length hle, List.take_left' hlen] at this
        refine ⟨r, rest, (Common.usbipRecv 48 io).io, rfl, ?_, ?_⟩
        · have hret48 : (Common.usbipRecv 48 io).ret = 48 := hret
          unfold recvHeader
          dsimp only
          rw [if_pos hret48, hbuf, htake]
          rfl
        · have := congrArg (List.drop 48) h
          rwa [List.drop_append_of_le_length hle, List.drop_left' hlen, ← hio] at this
  · left
    unfold recvHeader
    dsimp only
    rw [if_neg]
    intro hret
    exact hle ((Common.usbipRecv_ret_eq_iff (by decide)).mp hret)

/-! ## The other threads -/

/-- A step that reads no request changes no request read and starts no submit. -/
lemma frame_of_not_reads {s t : State} {a : LibusbStub.Action} (ha : reads a = false)
    (hst : LibusbStub.step s a = some t) : t.lists.submits = s.lists.submits ∧
      (t.rx = s.rx ∨ (∀ n, s.rx ≠ .submit n) ∧ ∀ n, t.rx ≠ .submit n) := by
  cases moves_of_step hst with
  | rxFail | rxCmdUnlink | rxCmdSubmit | rxSubmitTransfer | rxSubmitFail => cases ha
  | eventAdd | ehShutdown | ignored | txTop => exact ⟨rfl, .inl rfl⟩
  | rxTop hrx =>
      refine ⟨rfl, .inr ⟨fun n hn => (by cases hrx.symm.trans hn), fun n => ?_⟩⟩
      dsimp only
      split <;> exact RxPc.noConfusion
  | complete _ _ hl =>
      obtain ⟨p, -, -, ⟨-, rfl⟩ | ⟨-, rfl⟩⟩ := Session.stubComplete_cases hl
      · exact ⟨rfl, .inl rfl⟩
      · exact ⟨rfl, .inl rfl⟩
  | tx hl => exact ⟨(frame_stubTxStep hl).2, .inl rfl⟩

/-- A step that reads no request is an honest one. -/
lemma honest_of_not_reads {s : State} {a : LibusbStub.Action} (ha : reads a = false) :
    Honest s a := by
  cases a with
  | rxFail | rxCmdUnlink | rxCmdSubmit | rxSubmitTransfer | rxSubmitFail => cases ha
  | _ => trivial

/-- A step of the stub is a step of the connection over the same stream. -/
lemma lift_some {a : LibusbStub.Action} (h : c.lift a = some d) :
    ∃ stub, LibusbStub.step c.stub a = some stub ∧ d = { c with stub } := by
  obtain ⟨stub, hst, rfl⟩ := Option.map_eq_some_iff.mp h
  exact ⟨stub, hst, rfl⟩

/-- The other threads do not touch the socket. -/
theorem Inv.lift (h : c.Inv e) {a : LibusbStub.Action} (ha : reads a = false)
    (hst : c.lift a = some d) : d.stub.TornDown ∨ d.Inv e := by
  obtain ⟨stub, hstub, rfl⟩ := lift_some hst
  obtain ⟨hsubmits, hrx⟩ := frame_of_not_reads ha hstub
  refine (h.serves.step (honest_of_not_reads ha) hstub).imp_right fun hserves => ?_
  constructor
  · exact h.goesOn
  · cases h.aligned with
    | header hcurrent hav => exact .header hcurrent hav
    | payload hcurrent hlast hav => exact .payload hcurrent hlast hav
  · exact hsubmits.trans h.submits
  · exact hserves
  · exact h.framed
  · intro env pdu hcurrent
    obtain ⟨hsubmit, hrequest⟩ := h.current env pdu hcurrent
    refine ⟨?_, hrequest⟩
    rcases hrx with hsame | ⟨hnot, -⟩
    · exact hsame.trans hsubmit
    · exact absurd hsubmit (hnot _)
  · intro hcurrent n
    rcases hrx with hsame | ⟨-, hnot⟩
    · exact fun hn => h.noCurrent hcurrent n (hsame.symm.trans hn)
    · exact hnot n

/-! ## A header -/

/-- The receiving thread is at a header, and reads what the client has sent. -/
lemma Inv.at_header (h : c.Inv e) (hrx : c.stub.rx = .pdu) :
    c.current = none ∧ (recvHeader e c.io = none ∨ ∃ r rest io lost, c.requests = r :: rest ∧
      recvHeader e c.io = some (r.pdu e, io) ∧
      available io ++ lost = r.payload ++ rest.flatMap Sent.bytes) := by
  cases h.aligned with
  | header hcurrent hav =>
      refine ⟨hcurrent, (recvHeader_cases e hav).imp_right ?_⟩
      rintro ⟨r, rest, io, hrequests, hrecv, hrest⟩
      exact ⟨r, rest, io, _, hrequests, hrecv, hrest⟩
  | payload hcurrent =>
      cases hrx.symm.trans (h.current _ _ hcurrent).1

/-- A request without a payload has been read. -/
lemma Inv.readTo (h : c.Inv e) {r : Sent} {rest : List Sent} {io : List Recvmsg}
    {lost : List Byte} {stub : State} (hcurrent : c.current = none)
    (hrequests : c.requests = r :: rest) (hsubmit : ¬ r.IsSubmit e)
    (hav : available io ++ lost = r.payload ++ rest.flatMap Sent.bytes)
    (hsubmits : stub.lists.submits = c.stub.lists.submits) (hserves : stub.Serves)
    (hrx : ∀ n, stub.rx ≠ .submit n) : Inv e { c.readTo io with stub } := by
  have hframed := h.framed r (hrequests ▸ List.mem_cons_self)
  rw [Sent.Framed, if_neg hsubmit, List.length_eq_zero_iff] at hframed
  rw [hframed, List.nil_append] at hav
  constructor
  · exact h.goesOn
  · refine @Aligned.header e _ hcurrent lost ?_
    show available io ++ lost = c.requests.tail.flatMap Sent.bytes
    rw [hrequests]
    exact hav
  · show stub.lists.submits = _
    rw [hsubmits, h.submits, Connection.readTo, hrequests]
    simp [hsubmit]
  · exact hserves
  · exact fun q hq => h.framed q (List.mem_of_mem_tail hq)
  · exact fun env pdu hsome => by cases hcurrent.symm.trans hsome
  · exact fun _ => hrx

/-- Behind a failed receive the connection is torn down. -/
lemma tornDown_of_rxFail (h : c.lift .rxFail = some d) : d.stub.TornDown := by
  obtain ⟨stub, hst, rfl⟩ := lift_some h
  cases moves_of_step hst with
  | rxFail => exact .inl rfl

/-- A CMD_SUBMIT has been put on `priv_init`. -/
lemma Inv.alloc (h : c.Inv e) {env : Env} {r : Sent} {rest : List Sent} {io : List Recvmsg}
    {lost : List Byte} {stub : State} (hrequests : c.requests = r :: rest)
    (hsubmit : r.IsSubmit e) (hav : available io ++ lost = r.payload ++ rest.flatMap Sent.bytes)
    (hdrops : ¬ Drops env r.isoc (r.pdu e) io)
    (hsubmits : stub.lists.submits = c.stub.lists.submits ++ [(r.pdu e).base.seqnum])
    (hserves : stub.Serves) (hrx : stub.rx = .submit (r.pdu e).base.seqnum) :
    Inv e { c.readTo io with stub, current := some (env, r.pdu e) } := by
  have hlast : c.received ++ c.requests.head?.toList = c.received ++ [r] := by
    rw [hrequests]
    rfl
  constructor
  · exact h.goesOn
  · refine @Aligned.payload e _ env c.received r rfl hlast lost ?_
    show available io ++ lost = r.payload ++ c.requests.tail.flatMap Sent.bytes
    rw [hrequests]
    exact hav
  · show stub.lists.submits = _
    rw [hsubmits, h.submits, Connection.readTo, hrequests]
    simp [hsubmit]
  · exact hserves
  · exact fun q hq => h.framed q (List.mem_of_mem_tail hq)
  · rintro env' pdu ⟨⟩
    refine ⟨hrx, fun rs q hq => ?_⟩
    obtain ⟨-, hqr⟩ := List.append_inj' (hlast.symm.trans hq) rfl
    obtain rfl : r = q := List.singleton_inj.mp hqr
    exact ⟨h.framed r (hrequests ▸ List.mem_cons_self), hsubmit, hdrops⟩
  · exact fun hnone => by cases hnone

/-- A header is the client's next, and what it asks for is done or refused with an event. -/
theorem Inv.stubRxPdu (h : c.Inv e) {env : Env} (hok : c.Fine e (.rxPdu env))
    (hst : c.stubRxPdu e env = some d) : d.stub.TornDown ∨ d.Inv e := by
  unfold Connection.stubRxPdu at hst
  split at hst
  · cases hst
  rename_i hrx
  rw [not_not] at hrx
  have hnot : ∀ n, c.stub.rx ≠ .submit n := fun n hn => by cases hrx.symm.trans hn
  obtain ⟨hcurrent, hnone | ⟨r, rest, io, lost, hrequests, hrecv, hav⟩⟩ := h.at_header hrx
  · rw [hnone] at hst
    exact .inl (tornDown_of_rxFail hst)
  · obtain ⟨hnumbered, hdrops⟩ := hok _ hrecv r (by rw [hrequests]; rfl)
    rw [hrecv] at hst
    dsimp only at hst
    split at hst
    · rename_i hnop
      cases hst
      refine .inr (h.readTo hcurrent hrequests ?_ hav rfl h.serves hnot)
      exact fun hsubmit => absurd (hnop.symm.trans hsubmit) (by decide)
    split at hst
    · exact .inl (tornDown_of_rxFail hst)
    rename_i hvalid
    rw [not_not] at hvalid
    split at hst
    · rename_i hunlink
      split at hst
      · exact .inl (tornDown_of_rxFail hst)
      obtain ⟨stub, hstub, rfl⟩ := lift_some hst
      have hhonest : Honest c.stub (.rxCmdUnlink _ _) := hnumbered.unlink hunlink
      refine (h.serves.step hhonest hstub).imp_right fun hserves => ?_
      have hnotSubmit : ¬ r.IsSubmit e := fun hsubmit =>
        absurd (hunlink.symm.trans hsubmit) (by decide)
      simp only [LibusbStub.step, Connection.readTo, hrx, Option.some.injEq] at hstub
      subst hstub
      refine h.readTo hcurrent hrequests hnotSubmit hav ?_ hserves fun n hn => by cases hn
      show (c.stub.lists.stubRecvCmdUnlink _ _ _).submits = _
      unfold Session.stubRecvCmdUnlink
      split <;> rfl
    split at hst
    · rename_i hsubmit
      have hnotDropped := hdrops hsubmit hvalid
      unfold Connection.stubRecvCmdSubmit at hst
      split at hst
      · rename_i hunknown
        exact absurd (.unknown hunknown) hnotDropped
      split at hst
      · exact .inl (tornDown_of_rxFail hst)
      obtain ⟨stub, hstub, rfl⟩ := lift_some hst
      have hhonest : Honest c.stub (.rxCmdSubmit _) := hnumbered.submit hsubmit
      refine (h.serves.step hhonest hstub).imp_right fun hserves => ?_
      simp only [LibusbStub.step, Connection.readTo, hrx, Option.some.injEq] at hstub
      subst hstub
      exact h.alloc hrequests hsubmit hav hnotDropped rfl hserves rfl
    · exact .inl (tornDown_of_rxFail hst)

/-! ## A payload -/

/-- A transfer that libusb has not taken is an event. -/
lemma submitOk_of_submitted {env : Env} {pdu : Header} {io : List Recvmsg} {t : Taken}
    (h : LibusbStub.stubRecvCmdSubmit env pdu io = .ok t) (hsubmitted : t.submitted ≠ none)
    (hevent : t.event = false) : env.submitOk = true := by
  unfold LibusbStub.stubRecvCmdSubmit stubRecvOnType stubRecvPayload at h
  dsimp only at h
  repeat' split at h
  all_goals cases h
  all_goals try exact absurd rfl hsubmitted
  simpa using (Bool.or_eq_false_iff.mp hevent).2

/-- The payload has been taken, and the receiving thread is back at the head of its loop. -/
lemma Inv.submitted (h : c.Inv e) {r : Sent} {io : List Recvmsg} {lost : List Byte}
    {stub : State} (hav : available c.io ++ lost = r.payload ++ c.requests.flatMap Sent.bytes)
    (hframed : r.Framed e) (hsubmit : r.IsSubmit e)
    (hle : payloadLength r.isoc (r.pdu e) ≤ (available c.io).length)
    (hdrop : available io = (available c.io).drop (payloadLength r.isoc (r.pdu e)))
    (hsubmits : stub.lists.submits = c.stub.lists.submits) (hserves : stub.Serves)
    (hrx : ∀ n, stub.rx ≠ .submit n) : Inv e { c with stub, current := none, io } := by
  constructor
  · exact h.goesOn
  · refine @Aligned.header e _ rfl lost ?_
    have hlen : r.payload.length = payloadLength r.isoc (r.pdu e) := by
      rw [hframed, if_pos hsubmit]
    have hrest := congrArg (List.drop (payloadLength r.isoc (r.pdu e))) hav
    rwa [List.drop_append_of_le_length hle, List.drop_left' hlen, ← hdrop] at hrest
  · exact hsubmits.trans h.submits
  · exact hserves
  · exact h.framed
  · exact fun env pdu hsome => by cases hsome
  · exact fun _ => hrx

/-- Exactly the payload is taken and the transfer is submitted, or there is an event. -/
theorem Inv.rxPayload (h : c.Inv e) (hst : c.rxPayload = some d) :
    d.stub.TornDown ∨ d.Inv e := by
  unfold Connection.rxPayload at hst
  cases h.aligned with
  | header hcurrent =>
      rw [hcurrent] at hst
      cases hst
  | @payload env rs r hcurrent hlast lost hav =>
      obtain ⟨hrx, hrequest⟩ := h.current _ _ hcurrent
      obtain ⟨hframed, hsubmit, hdrops⟩ := hrequest rs r hlast
      have hsettles := (settles_iff env r.isoc (r.pdu e) c.io).mpr hdrops
      rw [hcurrent] at hst
      dsimp only at hst
      cases ht : LibusbStub.stubRecvCmdSubmit env (r.pdu e) c.io with
      | error f =>
          rw [ht] at hsettles
          exact hsettles.elim
      | ok t =>
          rw [ht] at hsettles hst
          dsimp only at hst
          by_cases hevent : t.event = true
          · left
            rw [hevent] at hst
            split at hst
            · obtain ⟨stub, hstub, rfl⟩ := lift_some hst
              exact State.TornDown.step (.inl (Bool.or_true _)) hstub
            · obtain ⟨stub, hstub, rfl⟩ := lift_some hst
              simp only [LibusbStub.step, hrx, Option.some.injEq] at hstub
              subst hstub
              exact .inl (Bool.or_true _)
          · obtain ⟨hsubmitted, hle, hdrop⟩ := hsettles.resolve_left hevent
            rw [Bool.not_eq_true] at hevent
            have hok := submitOk_of_submitted ht hsubmitted hevent
            have hsome : t.submitted.isSome = true := Option.isSome_iff_ne_none.mpr hsubmitted
            rw [if_pos ⟨hsome, hok⟩, hevent, Bool.or_false] at hst
            obtain ⟨stub, hstub, rfl⟩ := lift_some hst
            have hhonest : Honest c.stub .rxSubmitTransfer := trivial
            refine (h.serves.step hhonest hstub).imp_right fun hserves => ?_
            simp only [LibusbStub.step, hrx, Option.some.injEq] at hstub
            subst hstub
            exact h.submitted hav hframed hsubmit hle hdrop rfl hserves fun n hn => by cases hn

/-! ## Every run -/

/-- Every step keeps the invariant or tears the connection down. -/
theorem Inv.step (h : c.Inv e) {a : Action} (hok : c.Fine e a)
    (hst : Connection.step e c a = some d) : d.stub.TornDown ∨ d.Inv e := by
  cases a with
  | stub a =>
      simp only [Connection.step] at hst
      split at hst
      · cases hst
      · rename_i ha
        exact h.lift (Bool.not_eq_true _ ▸ ha) hst
  | completeNoMemory n =>
      simp only [Connection.step, Connection.completeNoMemory] at hst
      split at hst
      · split at hst <;> cases hst
        exact .inl (.inl rfl)
      · cases hst
  | rxPdu env => exact h.stubRxPdu hok hst
  | rxPayload => exact h.rxPayload hst

/-- The stream of framed requests that are still to be read. -/
lemma inv_start {io : List Recvmsg} {rs : List Sent} {lost : List Byte}
    (hframed : ∀ r ∈ rs, r.Framed e) (hav : available io ++ lost = rs.flatMap Sent.bytes) :
    Inv e { io, requests := rs } := by
  constructor
  · rfl
  · exact .header rfl hav
  · rfl
  · exact ⟨Session.answered_empty, fun p hp => (by cases hp), rfl, fun r hr => (by cases hr)⟩
  · exact hframed
  · exact fun env pdu hsome => by cases hsome
  · exact fun _ n hn => by cases hn

end Connection

/-- A device with a bulk endpoint 1. -/
def oneBulk : Env where
  malloc := .all
  allocTransfer := .all
  privOk := true
  unlinkOk := true
  eps := [⟨1, 0, .bulk⟩]
  devid := 0x10002
  used := true
  pending _ := false
  submitOk := true

def servedRun : List Connection.Action :=
  [.stub .rxTop, .rxPdu oneBulk, .rxPayload, .stub (.complete 7 ⟨.completed, 3, []⟩), .stub .txTop,
    .stub (.tx true), .stub (.tx true), .stub (.tx true), .stub (.tx true), .stub (.tx true),
    .stub (.tx true)]

end Usbip.LibusbStub
