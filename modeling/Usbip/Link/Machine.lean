import Usbip.Stub.Success
import Usbip.Vhci.Givebacks
import Usbip.Vhci.Traffic

/-!
# A vhci and a stub over one connection

The composition of the two machines.  A connection delivers what is written to it, in order, so
that what is under way is what one side has written and the other has not yet read.  `served` and
`read` are how far the stub and the vhci have come.

A PDU is read in two steps, its header and then its payload.  The payload may be cut short, when
the connection ends, and the vhci may read beyond it, when it expects more than the stub sends.  A
receiving thread that fails ends the connection, with one exception (`inStep`).
-/

namespace Usbip.Link

open Usbip.Core Usbip.Common

/-- The state of both sides. -/
structure State where
  client : Vhci.State
  server : Stub.State := {}
  /-- How many requests the server has read. -/
  served : Nat := 0
  /-- How many replies the client has read. -/
  read : Nat := 0
  /-- What follows the header of the last of them. -/
  payload : List Byte := []
  /-- The client is at the start of a PDU when it reads a header.  When the `kzalloc` in
  `usbip_recv_iso` fails it returns without an event, and the descriptors are still to come. -/
  inStep : Bool := true
  /-- What the device has returned, for each CMD_SUBMIT. -/
  completed : List (Seqnum × Stub.UrbResult) := []

inductive Action
  | client (a : Vhci.Action)
  | server (a : Stub.Action)
  deriving DecidableEq

namespace State

/-- The requests that the client has written. -/
def requests (s : State) : List (Seqnum ⊕ Seqnum × Seqnum) := s.client.wire.map Vhci.Pdu.request

/-- The replies that the client has read. -/
def replies (s : State) : List (Stub.Ret Stub.UrbResult (BitVec 32)) :=
  s.server.lists.wire.take s.read

/-- The next reply. -/
def nextReply (s : State) : Option (Stub.Ret Stub.UrbResult (BitVec 32)) :=
  s.server.lists.wire[s.read]?

/-- The next request. -/
def nextRequest (s : State) : Option (Seqnum ⊕ Seqnum × Seqnum) := s.requests[s.served]?

end State

/-- The header of a reply, as far as the vhci acts on it.
Source: `stub_tx.c`, `setup_ret_submit_pdu` and `setup_ret_unlink_pdu`. -/
def IsHeaderOf (pdu : Header) : Stub.Ret Stub.UrbResult (BitVec 32) → Prop
  | .submit n urb => pdu.base.command = retSubmit ∧ pdu.base.seqnum = n ∧
      ∀ r ∈ urb, pdu.u.w₀ = r.status ∧ pdu.u.w₁ = r.actualLength
  | .unlink u => pdu.base.command = retUnlink ∧ pdu.base.seqnum = u.seqnum ∧ pdu.u.w₀ = u.status

instance (pdu : Header) : (ret : Stub.Ret Stub.UrbResult (BitVec 32)) → Decidable (IsHeaderOf pdu ret)
  | .submit n urb => inferInstanceAs (Decidable (pdu.base.command = retSubmit ∧
      pdu.base.seqnum = n ∧ ∀ r ∈ urb, pdu.u.w₀ = r.status ∧ pdu.u.w₁ = r.actualLength))
  | .unlink u => inferInstanceAs (Decidable (pdu.base.command = retUnlink ∧
      pdu.base.seqnum = u.seqnum ∧ pdu.u.w₀ = u.status))

/-- What follows the header of a reply.
Source: `stub_tx.c`, `stub_send_ret_submit`. -/
def payloadOf : Stub.Ret Stub.UrbResult (BitVec 32) → List Byte
  | .submit _ (some r) => r.data
  | .submit _ none | .unlink _ => []

/-- Two lists of which one continues the other. -/
def Agree (l l' : List Byte) : Prop := l.take l'.length = l'.take l.length

instance (l l' : List Byte) : Decidable (Agree l l') := inferInstanceAs (Decidable (_ = _))

/-- What the client receives is what the server has written.  Its connection is attached before the
run starts. -/
def ClientReceives (s : State) : Vhci.Action → Prop
  | .attach _ => False
  | .rxPdu pdu => s.inStep = true → ∃ ret ∈ s.nextReply, IsHeaderOf pdu ret
  | .rxPayload _ io => Agree (available io) s.payload
  | _ => True

instance (s : State) (a : Vhci.Action) : Decidable (ClientReceives s a) :=
  match a with
  | .attach _ => isFalse id
  | .rxPdu pdu =>
      inferInstanceAs (Decidable (s.inStep = true → ∃ ret ∈ s.nextReply, IsHeaderOf pdu ret))
  | .rxPayload _ io => inferInstanceAs (Decidable (Agree (available io) s.payload))
  | .eventAdd | .otherSeqnum | .enqueue _ _ _ | .txUrb _ | .dequeue _ | .dequeueFinish _ _ | .txTop
  | .tx _ | .rxTop | .rxFail _ | .rxUnlink | .rxGiveback | .ehShutdown | .ehClose | .ehCleanup
  | .ehCleanupNext | .ehCleanupGiveback | .ehCleanupRelock | .ehReset | .ehUnusable | .ehFinish =>
      isTrue trivial

/-- What the server receives is what the client has written. -/
def ServerReceives (s : State) : Stub.Action → Prop
  | .rxCmdSubmit n => s.nextRequest = some (.inl n)
  | .rxCmdUnlink u n => s.nextRequest = some (.inr (u, n))
  | _ => True

instance (s : State) (a : Stub.Action) : Decidable (ServerReceives s a) :=
  match a with
  | .rxCmdSubmit n => inferInstanceAs (Decidable (s.nextRequest = some (.inl n)))
  | .rxCmdUnlink u n => inferInstanceAs (Decidable (s.nextRequest = some (.inr (u, n))))
  | .eventAdd | .rxTop | .rxFail | .rxSubmitUrb | .rxSubmitFail _ | .complete _ _ | .txTop | .tx _
  | .ehShutdown | .ehClose | .ehPop | .ehFree | .ehFreeUnlinks => isTrue trivial

/-- The client has read a header or a payload. -/
def State.reads (s : State) : Vhci.Action → State
  | .rxPdu _ => { s with read := s.read + 1, payload := s.nextReply.elim [] payloadOf }
  | .rxPayload allocOk _ => { s with inStep := s.inStep && allocOk }
  | _ => s

/-- The server has read a request. -/
def State.serves (s : State) : Stub.Action → State
  | .rxCmdSubmit _ | .rxCmdUnlink _ _ => { s with served := s.served + 1 }
  | _ => s

/-- The state an action leads to. -/
def step (s : State) : Action → Option State
  | .client a =>
      if ClientReceives s a then
        (Vhci.step s.client a).map fun client => { s.reads a with client }
      else none
  | .server a =>
      if ServerReceives s a then
        (Stub.step s.server a).map fun server =>
          { s.serves a with server, completed := s.completed ++ a.completes }
      else none

/-- A run starts when `store_attach` has given a connection to an idle port and the stub has taken
its other end. -/
def machine (c : BitVec 32) : Machine State Action where
  init s := ∃ devid client, Vhci.step { seqnum := c } (.attach devid) = some client ∧ s = { client }
  step := step

variable {s t : State}

/-- A step of the client, with what it receives. -/
lemma step_client {a : Vhci.Action} (h : step s (.client a) = some t) :
    ClientReceives s a ∧ ∃ client, Vhci.step s.client a = some client ∧
      t = { s.reads a with client } := by
  simp only [step] at h
  split at h
  · rename_i hreceives
    obtain ⟨client, hst, rfl⟩ := Option.map_eq_some_iff.mp h
    exact ⟨hreceives, client, hst, rfl⟩
  · cases h

/-- A step of the server, with what it receives. -/
lemma step_server {a : Stub.Action} (h : step s (.server a) = some t) :
    ServerReceives s a ∧ ∃ server, Stub.step s.server a = some server ∧
      t = { s.serves a with server, completed := s.completed ++ a.completes } := by
  simp only [step] at h
  split at h
  · rename_i hreceives
    obtain ⟨server, hst, rfl⟩ := Option.map_eq_some_iff.mp h
    exact ⟨hreceives, server, hst, rfl⟩
  · cases h

end Usbip.Link
