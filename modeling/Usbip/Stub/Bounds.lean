import Usbip.Common.Truncation
import Usbip.Stub.Receive

/-!
# What a client can make the stub do

The endpoint number, the direction and the count of packets of a CMD_SUBMIT come from the client.
`cmd_submit_robust_iff` says which of them the stub is robust against: it neither stops in `BUG()`
nor leaves its objects, and it submits the URB or adds an event.
-/

namespace Usbip.Stub

open Usbip.Core Usbip.Common

/-- The transfer buffer and the descriptors as they were allocated for the URB, and `buff` of the
size that `usbip_recv_iso` asks for. -/
def objectSize (pdu : Header) (t : Taken) : Object → Nat
  | .transferBuffer => pdu.u.w₁.toInt.toNat
  | .isoFrameDesc => t.room
  | .buff => (pdu.u.w₃ * 16).toNat

/-- The thread returns, the URB is submitted or an event added, and nothing outside the objects of
the URB is touched. -/
def Robust (pdu : Header) : Except Fault Taken → Prop
  | .error _ => False
  | .ok t => (t.submitted.isSome = true ∨ t.event = true) ∧
      ∀ a ∈ t.accesses, a.InBounds (objectSize pdu t)

/-- The endpoint that a request names, if the index is in the array and the device has it. -/
def UsbDevice.endpoint (udev : UsbDevice) (epnum dir : BitVec 32) : Option EndpointDescriptor :=
  if h : (epnum &&& 0x7f).toNat < 16 then
    (if dir = dirIn then udev.epIn else udev.epOut) ⟨_, h⟩
  else none

/-- The device has the endpoint; and when it is isochronous, and everything up to the descriptors is
there, the buffer for these can be allocated. -/
def Tolerable (env : Env) (pdu : Header) (io : List Recvmsg) : Prop :=
  ∃ epd, env.udev.endpoint pdu.base.ep pdu.base.direction = some epd ∧
    (epd.type = .isochronous → pdu.base.ep.getLsbD 15 = false → pdu.base.ep.getLsbD 16 = false →
      pdu.u.w₃ ≠ 0 → env.Allocates pdu pdu.u.w₃.toInt →
      (pdu.base.direction = dirOut → 0 < pdu.u.w₁.toInt →
        pdu.u.w₁.toNat ≤ (available io).length) →
      env.kz.ok .recvIso (sizeT (pdu.u.w₃ * 16).toInt) = true)

section Submit

variable {env : Env} {pdu : Header} {io : List Recvmsg}

/-- `get_pipe` returns just when there is an endpoint. -/
lemma getPipe_eq_ok {epd : EndpointDescriptor} {udev : UsbDevice} {epnum dir : BitVec 32}
    (h : udev.endpoint epnum dir = some epd) :
    getPipe udev epnum dir = .ok (usbPipe epd.type (dir = dirOut) udev epnum) := by
  unfold UsbDevice.endpoint at h
  unfold getPipe
  dsimp only
  split at h
  · rename_i hlt
    rw [dif_pos hlt, h]
  · cases h

/-- Without the endpoint `get_pipe` fails. -/
lemma getPipe_eq_error {udev : UsbDevice} {epnum dir : BitVec 32}
    (h : udev.endpoint epnum dir = none) : ∃ f, getPipe udev epnum dir = .error f := by
  unfold UsbDevice.endpoint at h
  unfold getPipe
  dsimp only
  split at h
  · rename_i hlt
    rw [dif_pos hlt, h]
    exact ⟨.bug, rfl⟩
  · rename_i hge
    rw [dif_neg hge]
    exact ⟨_, rfl⟩

/-- The descriptors of a URB are allocated for its packets. -/
lemma inBounds_recvPayload {pipe : BitVec 32} {room : Nat}
    (hroom : env.allocUrb.room (packetsOn pdu pipe) = some room) {size : Object → Nat} (hbuffer : size .transferBuffer = pdu.u.w₁.toInt.toNat)
    (hdesc : size .isoFrameDesc = room) (hbuff : size .buff = (pdu.u.w₃ * 16).toNat) :
    ∀ a ∈ recvPayloadAccesses .stub env.kz io (stubUrb pdu pipe room), a.InBounds size := by
  have hxbuff : ∀ a ∈ usbipRecvXbuffAccesses .stub (stubUrb pdu pipe room), a.InBounds size := by
    refine inBounds_usbipRecvXbuff fun hpos => ?_
    have hnat := toInt_eq_toNat_of_nonneg (Int.le_of_lt hpos)
    rw [hbuffer]
    show pdu.u.w₁.toNat ≤ pdu.u.w₁.toInt.toNat
    have hsize : pdu.u.w₁.toInt = pdu.u.w₁.toNat := hnat
    omega
  have hiso : ∀ {allocOk io' buf}, ∀ a ∈ usbipRecvIsoAccesses allocOk io'
      { stubUrb pdu pipe room with transferBuffer := buf }, a.InBounds size := by
    intro allocOk io' buf
    by_cases hisoc : (pipeOfBits pipe).type = .isochronous
    · rw [packetsOn, if_pos hisoc] at hroom
      have hle := env.allocUrb.le_of_room _ _ hroom
      have hlt := env.allocUrb.lt_of_room _ _ hroom
      have hnp : pdu.u.w₃.toInt < 2 ^ 27 := by omega
      exact inBounds_usbipRecvIso hnp (by rw [hdesc]; exact hle) hbuff
    · have hnone : usbipRecvIsoAccesses allocOk io'
          { stubUrb pdu pipe room with transferBuffer := buf } = [] := if_pos (Or.inl hisoc)
      rw [hnone]
      simp
  unfold recvPayloadAccesses
  dsimp only
  rw [List.forall_mem_append]
  refine ⟨hxbuff, ?_⟩
  split
  · simp
  · obtain ⟨data, hdata⟩ := usbipRecvXbuff_withData io (stubUrb pdu pipe room)
      (show Side.stub ≠ .vhci by decide)
    rw [hdata]
    exact hiso

/-- A payload that is not taken has to be answered with an event. -/
lemma robust_stubRecvPayload_iff {pipe : BitVec 32} {room : Nat}
    (hroom : env.allocUrb.room (packetsOn pdu pipe) = some room) :
    Robust pdu (.ok (stubRecvPayload env pdu pipe room io)) ↔
      0 ≤ (recvPayload .stub env.kz io (stubUrb pdu pipe room)).ret ∨
        (recvPayload .stub env.kz io (stubUrb pdu pipe room)).event = true := by
  have hbounds : ∀ t : Taken, t.room = room →
      ∀ a ∈ recvPayloadAccesses .stub env.kz io (stubUrb pdu pipe room),
        a.InBounds (objectSize pdu t) :=
    fun _ ht => inBounds_recvPayload hroom rfl ht rfl
  unfold stubRecvPayload
  dsimp only
  split_ifs with hret
  · constructor
    · rintro ⟨h | h, -⟩
      · cases h
      · exact Or.inr h
    · rintro (h | h)
      · exact absurd hret (by omega)
      · exact ⟨Or.inr h, hbounds _ rfl⟩
  · exact iff_of_true ⟨Or.inl rfl, hbounds _ rfl⟩ (Or.inl (Int.not_lt.mp hret))

/-- Once there is a pipe, only the allocation of the buffer for the descriptors is not answered. -/
lemma robust_stubRecvOnPipe_iff (pipe : BitVec 32) :
    Robust pdu (.ok (stubRecvOnPipe env pdu pipe io)) ↔
      ((pipeOfBits pipe).type = .isochronous → pdu.u.w₃ ≠ 0 → env.Allocates pdu pdu.u.w₃.toInt →
        ((pipeOfBits pipe).isIn = false → 0 < pdu.u.w₁.toInt →
          pdu.u.w₁.toNat ≤ (available io).length) →
        env.kz.ok .recvIso (sizeT (pdu.u.w₃ * 16).toInt) = true) := by
  have hpackets : (pipeOfBits pipe).type = .isochronous → packetsOn pdu pipe = pdu.u.w₃.toInt :=
    fun hisoc => if_pos hisoc
  by_cases halloc : env.Allocates pdu (packetsOn pdu pipe)
  · obtain ⟨room, hroom, htaken⟩ := stubRecvOnPipe_of_allocates io halloc
    have hanswered := recvPayload_answered_iff env.kz io (stubUrb pdu pipe room)
      (show Side.stub ≠ .vhci by decide)
    have hlength : xbuffExpected .stub (stubUrb pdu pipe room) ≤ (available io).length ↔
        ((pipeOfBits pipe).isIn = false → 0 < pdu.u.w₁.toInt →
          pdu.u.w₁.toNat ≤ (available io).length) := by
      rw [xbuffExpected_server _ (show Side.stub ≠ .vhci by decide)]
      show (if (pipeOfBits pipe).isIn = false ∧ 0 < pdu.u.w₁.toInt then pdu.u.w₁.toNat else 0) ≤ _ ↔
        _
      split_ifs with hout
      · exact ⟨fun h _ _ => h, fun h => h hout.1 hout.2⟩
      · exact iff_of_true (Nat.zero_le _) fun h₁ h₂ => absurd ⟨h₁, h₂⟩ hout
    rw [htaken, robust_stubRecvPayload_iff hroom, hanswered, hlength]
    constructor
    · exact fun h hisoc hnp _ hdata => h hdata hisoc hnp
    · exact fun h hdata hisoc hnp => h hisoc hnp (hpackets hisoc ▸ halloc) hdata
  · obtain ⟨room, htaken⟩ := stubRecvOnPipe_of_not_allocates io halloc
    rw [htaken]
    refine iff_of_true ⟨Or.inr rfl, by simp⟩ fun hisoc _ h => ?_
    exact absurd (hpackets hisoc ▸ h) halloc

/-- The stub is robust against a request exactly when it is tolerable. -/
theorem cmd_submit_robust_iff (env : Env) (pdu : Header) (io : List Recvmsg) :
    Robust pdu (stubRecvCmdSubmit env pdu io) ↔ Tolerable env pdu io := by
  unfold stubRecvCmdSubmit Tolerable
  rcases hendpoint : env.udev.endpoint pdu.base.ep pdu.base.direction with _ | epd
  · obtain ⟨f, hpipe⟩ := getPipe_eq_error hendpoint
    rw [hpipe]
    refine iff_of_false not_false ?_
    rintro ⟨_, h, -⟩
    cases h
  · rw [getPipe_eq_ok hendpoint]
    dsimp only
    rw [robust_stubRecvOnPipe_iff, type_pipeOfBits_eq_isochronous, isIn_pipeOfBits]
    simp only [Option.some.injEq, exists_eq_left', Bool.not_eq_false', decide_eq_true_eq, and_imp]

end Submit

/-- A device with its control endpoint and nothing else. -/
def controlDevice : UsbDevice where
  devnum := 2
  epIn i := if i = 0 then some ⟨0, .control⟩ else none
  epOut i := if i = 0 then some ⟨0, .control⟩ else none

/-- A stub for it that can allocate everything. -/
def controlEnv : Env where
  kz := .all
  allocUrb := .all
  privOk := true
  unlinkOk := true
  udev := controlDevice
  devid := 0x10002
  used := true
  pending _ := false
  submit _ := true

/-- A request to an endpoint that the device does not have. -/
def absentPdu : Header where
  base := { command := cmdSubmit, seqnum := 1, devid := 0x10002, direction := dirOut, ep := 5 }

/-- A valid request reaches `BUG()`. -/
theorem cmd_submit_reaches_bug :
    validRequest controlEnv absentPdu = true ∧
      stubRecvCmdSubmit controlEnv absentPdu [] = .error .bug ∧
      ¬ Robust absentPdu (stubRecvCmdSubmit controlEnv absentPdu []) := by
  have hbug : stubRecvCmdSubmit controlEnv absentPdu [] = .error .bug := rfl
  refine ⟨by decide, hbug, ?_⟩
  rw [hbug]
  exact not_false

end Usbip.Stub
