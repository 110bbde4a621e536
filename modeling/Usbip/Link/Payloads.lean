import Usbip.LibusbStub.Payload
import Usbip.Vudc.Receive

/-!
# Payloads that are handed on

The three servers receive a payload with functions of the same shape, and make the same mistake:
when the connection is closed in the middle of the data, `usbip_recv` returns 0, `usbip_recv_xbuff`
adds an event and returns the 0, and the caller takes only a negative number for an error.  The URB
goes on to the device with what came.  `handed_on_whole_iff` says that nothing else goes wrong.
-/

namespace Usbip.Link

open Usbip.Core Usbip.Common

variable {pdu : Header} {io : List Recvmsg}

/-! ## The stub -/

/-- A URB that is submitted has its whole payload. -/
def StubWhole (env : Stub.Env) (pdu : Header) (io : List Recvmsg) : Prop :=
  ∀ t urb, Stub.stubRecvCmdSubmit env pdu io = .ok t → t.submitted = some urb → Whole io urb

/-- The payload of no request that comes so far is truncated. -/
def StubUncut (env : Stub.Env) (pdu : Header) (io : List Recvmsg) : Prop :=
  ∀ pipe, Stub.getPipe env.udev pdu.base.ep pdu.base.direction = .ok pipe →
    env.Allocates pdu (Stub.packetsOn pdu pipe) → ¬ Truncates env.kz io (Stub.stubUrb pdu pipe 0)

/-- Masking leaves all but the flags. -/
lemma whole_maskingBogusFlags (udev : Stub.UsbDevice) (urb : Urb) :
    Whole io (Stub.maskingBogusFlags udev urb) ↔ Whole io urb := by
  have hflags : ∃ flags, Stub.maskingBogusFlags udev urb = { urb with transferFlags := flags } := by
    unfold Stub.maskingBogusFlags
    split
    · exact ⟨_, rfl⟩
    · split
      · exact ⟨_, rfl⟩
      · split
        · exact ⟨_, rfl⟩
        · exact ⟨_, rfl⟩
  obtain ⟨flags, hflags⟩ := hflags
  rw [hflags]
  exact ⟨fun h => ⟨h.data, h.descriptors⟩, fun h => ⟨h.data, h.descriptors⟩⟩

/-- The URB has room for the packets that it is allocated for, and their count fits. -/
lemma packets_lt {alloc : UsbAllocUrb} {np : BitVec 32} {room : Nat}
    (h : alloc.room np.toInt = some room) : np.toInt < 2 ^ 27 := by
  have hle := alloc.le_of_room _ _ h
  have hlt := alloc.lt_of_room _ _ h
  omega

/-- On a pipe that was found the stub hands on whole URBs exactly when no kzalloc fails or the
receive is not cut. -/
lemma stub_onPipe_whole_iff (env : Stub.Env) (pdu : Header) (pipe : BitVec 32)
    (io : List Recvmsg) :
    (∀ urb, (Stub.stubRecvOnPipe env pdu pipe io).submitted = some urb → Whole io urb) ↔
      (env.Allocates pdu (Stub.packetsOn pdu pipe) →
        ¬ Truncates env.kz io (Stub.stubUrb pdu pipe 0)) := by
  by_cases halloc : env.Allocates pdu (Stub.packetsOn pdu pipe)
  · obtain ⟨room, hroom, htaken⟩ := Stub.stubRecvOnPipe_of_allocates io halloc
    have hbuf : (Stub.stubUrb pdu pipe room).transferBuffer.length =
        (Stub.stubUrb pdu pipe room).transferBufferLength.toInt.toNat := List.length_replicate
    have hpackets : (Stub.stubUrb pdu pipe room).pipe.type = .isochronous →
        (Stub.stubUrb pdu pipe room).numberOfPackets.toInt < 2 ^ 27 := by
      intro (hisoc : (Stub.pipeOfBits pipe).type = .isochronous)
      rw [Stub.packetsOn, if_pos hisoc] at hroom
      exact packets_lt hroom
    have hside : Side.stub ≠ .vhci := by decide
    have hwhole := recvPayload_whole_iff env.kz io hside hbuf hpackets
    rw [htaken, forall_prop_of_true halloc]
    refine Iff.trans ?_ hwhole
    unfold Stub.stubRecvPayload
    dsimp only
    split
    · rename_i hneg
      exact iff_of_true (fun urb h => by cases h) fun hret => absurd hneg (Int.not_lt.mpr hret)
    · rename_i hret
      simp only [Option.some.injEq, forall_eq', whole_maskingBogusFlags]
      exact ⟨fun h _ => h, fun h => h (Int.not_lt.mp hret)⟩
  · obtain ⟨room, htaken⟩ := Stub.stubRecvOnPipe_of_not_allocates io halloc
    rw [htaken]
    exact iff_of_true (fun urb h => by cases h) fun h => absurd h halloc

/-- The stub hands on whole URBs exactly when it is not cut in the middle of one. -/
lemma stub_whole_iff (env : Stub.Env) (pdu : Header) (io : List Recvmsg) :
    StubWhole env pdu io ↔ StubUncut env pdu io := by
  unfold StubWhole StubUncut Stub.stubRecvCmdSubmit
  cases Stub.getPipe env.udev pdu.base.ep pdu.base.direction with
  | error f => exact iff_of_true (fun t urb h => by cases h) (fun pipe h => by cases h)
  | ok pipe =>
      simp only [Except.ok.injEq, forall_eq']
      rw [← stub_onPipe_whole_iff]
      exact ⟨fun h urb => h _ urb rfl, fun h t urb ht => ht ▸ h urb⟩

/-! ## The vudc -/

/-- A URB that is queued for the timer has its whole payload. -/
def VudcWhole (env : Vudc.Env) (pdu : Header) (io : List Recvmsg) : Prop :=
  ∀ urb, (Vudc.takeCmdSubmit env pdu io).queued = some urb → Whole io urb

def VudcUncut (env : Vudc.Env) (pdu : Header) (io : List Recvmsg) : Prop :=
  ∀ i, Vudc.vudcFindEndpoint env.ep (Vudc.requestAddress pdu) = some i →
    env.Allocates pdu (Vudc.packetsOn pdu (env.ep i).type) →
      ¬ Truncates env.kz io (Vudc.vudcUrb pdu (env.ep i).type 0)

/-- Without its memory a submit of the vudc hands nothing on. -/
lemma takeCmdSubmit_of_not_allocates {env : Vudc.Env} {i : Fin 31} (io : List Recvmsg)
    (hep : Vudc.vudcFindEndpoint env.ep (Vudc.requestAddress pdu) = some i)
    (h : ¬ env.Allocates pdu (Vudc.packetsOn pdu (env.ep i).type)) :
    (Vudc.takeCmdSubmit env pdu io).queued = none := by
  unfold Vudc.takeCmdSubmit
  rw [hep]
  split
  · rfl
  · rename_i hurbp
    dsimp only
    cases halloc : Vudc.allocUrbFromCmd env pdu (env.ep i).type with
    | none => rfl
    | some urb =>
        refine absurd ?_ h
        unfold Vudc.allocUrbFromCmd at halloc
        split at halloc
        · cases halloc
        · rename_i room hroom
          split at halloc
          · cases halloc
          · rename_i hbuffer
            split at halloc
            · cases halloc
            · rename_i hsetup
              refine ⟨not_not.mp hurbp, by rw [hroom]; rfl, fun hpos => ?_, not_not.mp hsetup⟩
              exact not_not.mp fun hfail => hbuffer ⟨hpos, hfail⟩

/-- The vudc hands on whole URBs exactly when it is not cut in the middle of one. -/
lemma vudc_whole_iff (env : Vudc.Env) (pdu : Header) (io : List Recvmsg) :
    VudcWhole env pdu io ↔ VudcUncut env pdu io := by
  unfold VudcWhole VudcUncut
  cases hep : Vudc.vudcFindEndpoint env.ep (Vudc.requestAddress pdu) with
  | none =>
      refine iff_of_true (fun urb h => ?_) (fun i h => by cases h)
      unfold Vudc.takeCmdSubmit at h
      rw [hep] at h
      split at h <;> cases h
  | some i =>
      simp only [Option.some.injEq, forall_eq']
      by_cases halloc : env.Allocates pdu (Vudc.packetsOn pdu (env.ep i).type)
      · obtain ⟨room, hroom, htaken⟩ := Vudc.takeCmdSubmit_of_allocates io hep halloc
        have hlength : pdu.u.w₁.toInt.toNat = pdu.u.w₁.toNat := by
          have hnat := BitVec.toInt_eq_toNat_cond pdu.u.w₁
          by_cases hpos : 0 < pdu.u.w₁.toNat
          · have hlt := env.kz.lt_of_ok _ _ (halloc.buffer hpos)
            split at hnat <;> omega
          · split at hnat <;> omega
        have hbuf : (Vudc.vudcUrb pdu (env.ep i).type room).transferBuffer.length =
            (Vudc.vudcUrb pdu (env.ep i).type room).transferBufferLength.toInt.toNat :=
          List.length_replicate.trans hlength.symm
        have hpackets : (Vudc.vudcUrb pdu (env.ep i).type room).pipe.type = .isochronous →
            (Vudc.vudcUrb pdu (env.ep i).type room).numberOfPackets.toInt < 2 ^ 27 := by
          intro (hisoc : (env.ep i).type.pipeType = .isochronous)
          have htype : (env.ep i).type = .isoc := by
            cases htype : (env.ep i).type <;> rw [htype] at hisoc <;> first | rfl | cases hisoc
          rw [Vudc.packetsOn, if_pos htype] at hroom
          exact packets_lt hroom
        have hside : Side.vudc ≠ .vhci := by decide
        have hwhole := recvPayload_whole_iff env.kz io hside hbuf hpackets
        rw [htaken, forall_prop_of_true halloc]
        refine Iff.trans ?_ hwhole
        dsimp only
        split
        · rename_i hneg
          exact iff_of_true (fun urb h => by cases h) fun hret => absurd hneg (Int.not_lt.mpr hret)
        · rename_i hret
          simp only [Option.some.injEq, forall_eq']
          exact ⟨fun h _ => h, fun h => h (Int.not_lt.mp hret)⟩
      · rw [takeCmdSubmit_of_not_allocates io hep halloc]
        exact iff_of_true (fun urb h => by cases h) fun h => absurd h halloc

/-! ## The libusb stub -/

/-- A transfer that is submitted has its whole payload. -/
def LibusbWhole (env : LibusbStub.Env) (pdu : Header) (io : List Recvmsg) : Prop :=
  ∀ t trx, LibusbStub.stubRecvCmdSubmit env pdu io = .ok t → t.submitted = some trx →
    LibusbStub.WholeTransfer pdu io trx

def LibusbUncut (env : LibusbStub.Env) (pdu : Header) (io : List Recvmsg) : Prop :=
  ∀ type, LibusbStub.stubGetTransferType env.eps (LibusbStub.epNumber pdu) = some type →
    env.Allocates pdu type → ¬ LibusbStub.Truncates env pdu type io

/-! ## All three -/

/-- In each of the servers, a request is handed on with its whole payload only, unless its data is
cut off by a 0 and taken all the same. -/
theorem handed_on_whole_iff (pdu : Header) (io : List Recvmsg) (hsetup : pdu.u.setup.length = 8) :
    (∀ env, StubWhole env pdu io ↔ StubUncut env pdu io) ∧
      (∀ env, VudcWhole env pdu io ↔ VudcUncut env pdu io) ∧
      (∀ env, LibusbWhole env pdu io ↔ LibusbUncut env pdu io) :=
  ⟨fun env => stub_whole_iff env pdu io, fun env => vudc_whole_iff env pdu io,
    fun env => LibusbStub.stubRecvCmdSubmit_whole_iff env pdu io hsetup⟩

/-- A device with a bulk endpoint. -/
def outDevice : Stub.UsbDevice where
  devnum := 2
  epIn i := if i = 0 then some ⟨0, .control⟩ else none
  epOut i := if i = 0 then some ⟨0, .control⟩ else if i = 1 then some ⟨1, .bulk⟩ else none

def outEnv : Stub.Env where
  kz := .all
  allocUrb := .all
  privOk := true
  unlinkOk := true
  udev := outDevice
  devid := 0x10002
  used := true
  pending _ := false
  submit _ := true

/-- A request with four bytes of data. -/
def outPdu : Header where
  base := { command := cmdSubmit, seqnum := 1, devid := 0x10002, direction := dirOut, ep := 1 }
  u := { w₁ := 4, setup := List.replicate 8 0 }

/-- An OUT request with all its data. -/
theorem handed_on_whole_iff_out :
    StubWhole outEnv outPdu [.bytes [1, 2, 3, 4]] := by
  refine ((handed_on_whole_iff outPdu _ rfl).1 outEnv).mpr ?_
  rintro pipe - - ⟨hlt, -⟩
  unfold Urb.outLength at hlt
  split at hlt
  · omega
  · have hlt : (available [.bytes [1, 2, 3, 4]]).length < (4 : BitVec 32).toInt.toNat := hlt
    exact absurd hlt (by decide)

/-- The connection is closed behind the second byte, and the URB is submitted. -/
theorem truncated_payload_submitted :
    Stub.validRequest outEnv outPdu = true ∧ ¬ StubWhole outEnv outPdu [.bytes [1, 2]] := by
  refine ⟨by decide, fun h => ?_⟩
  have hdata := (h _ _ rfl rfl).data rfl
  exact absurd hdata.1 (by decide)

end Usbip.Link
