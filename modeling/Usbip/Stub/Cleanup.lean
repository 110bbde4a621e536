import Usbip.Stub.Bounds
import Usbip.Common.Truncation

/-!
# What a submit leaves to be cleaned up

`stub_priv_alloc` puts a `stub_priv` on `priv_init` before its URB, the transfer buffer and the
setup packet exist, and each of the later steps of `stub_recv_cmd_submit` can fail.  The two
functions that free a `stub_priv` read its URB without a check, and free the transfer buffer
themselves although the flags of the URB, which come from the client, can say that it is freed with
the URB.  `cleanup_frees_once` says for which submits they free everything once.
-/

namespace Usbip.Stub

open Usbip.Core Usbip.Common

/-! ## Memory -/

/-- What is allocated for a request. -/
inductive Block
  | priv
  | urb
  | transferBuffer
  | setupPacket
  deriving DecidableEq

/-- The pointers in a URB that are not NULL, and its flags. -/
structure UrbMemory where
  transferBuffer : Bool := false
  setupPacket : Bool := false
  transferFlags : BitVec 32 := 0
  deriving DecidableEq

/-- A `stub_priv`, with its URB if it is not NULL. -/
structure PrivMemory where
  urb : Option UrbMemory := none
  deriving DecidableEq

/-- What is allocated. -/
def PrivMemory.allocated (m : PrivMemory) : List Block :=
  match m.urb with
  | none => [.priv]
  | some u => [.priv, .urb] ++ (if u.transferBuffer then [.transferBuffer] else []) ++
      if u.setupPacket then [.setupPacket] else []

/-- What a request with a URB has allocated. -/
lemma PrivMemory.allocated_of_urb {m : PrivMemory} {u : UrbMemory} (hu : m.urb = some u) :
    m.allocated = [.priv, .urb] ++ (if u.transferBuffer then [.transferBuffer] else []) ++
      if u.setupPacket then [.setupPacket] else [] := by
  unfold PrivMemory.allocated
  rw [hu]

/-- The transfer buffer goes with the URB. -/
def UrbMemory.ownsBuffer (u : UrbMemory) : Bool :=
  u.transferBuffer ∧ u.transferFlags &&& urbFreeBuffer ≠ 0

/-- What the last `usb_free_urb` for a URB frees.
Source: `<linux/usb.h>`, `usb_free_urb` and `URB_FREE_BUFFER`. -/
structure UsbFreeUrb where
  frees : UrbMemory → List Block
  perm_frees : ∀ u, (frees u).Perm (.urb :: if u.ownsBuffer then [.transferBuffer] else [])

def UsbFreeUrb.core : UsbFreeUrb where
  frees u := (if u.ownsBuffer then [.transferBuffer] else []) ++ [.urb]
  perm_frees _ := List.perm_append_comm

/-- Source: `<linux/slab.h>`, `kfree`. -/
def kfree (allocated : Bool) (b : Block) : List Block := if allocated then [b] else []

/-- What is freed, or nothing when a NULL pointer is read.
Source: `stub_main.c`, `stub_device_cleanup_urbs`. -/
def stubDeviceCleanupUrbs (usb : UsbFreeUrb) (m : PrivMemory) : Option (List Block) :=
  m.urb.map fun u =>
    [.priv] ++ kfree u.transferBuffer .transferBuffer ++ kfree u.setupPacket .setupPacket ++
      usb.frees u

/-- Source: `stub_tx.c`, `stub_free_priv_and_urb`. -/
def stubFreePrivAndUrb (usb : UsbFreeUrb) (m : PrivMemory) : Option (List Block) :=
  m.urb.map fun u =>
    kfree u.setupPacket .setupPacket ++ kfree u.transferBuffer .transferBuffer ++ [.priv] ++
      usb.frees u

/-- Both functions free everything once. -/
def FreedOnce (usb : UsbFreeUrb) (m : PrivMemory) : Prop :=
  (∃ l, stubDeviceCleanupUrbs usb m = some l ∧ l.Perm m.allocated) ∧
    ∃ l, stubFreePrivAndUrb usb m = some l ∧ l.Perm m.allocated

/-! ## `stub_recv_cmd_submit` -/

/-- The flags of the URB after the payload, and after `masking_bogus_flags` if it comes so far. -/
def flagsLeft (env : Env) (pdu : Header) (pipe : BitVec 32) (room : Nat) (io : List Recvmsg) :
    BitVec 32 :=
  let r := recvPayload .stub env.kz io (stubUrb pdu pipe room)
  if r.ret < 0 then r.urb.transferFlags else (maskingBogusFlags env.udev r.urb).transferFlags

/-- The `stub_priv` that `stub_recv_cmd_submit` leaves, if it is allocated.
Source: `stub_rx.c`, `stub_priv_alloc` and `stub_recv_cmd_submit`. -/
def privLeft (env : Env) (pdu : Header) (pipe : BitVec 32) (io : List Recvmsg) : Option PrivMemory :=
  if ¬ env.privOk then none
  else
    match env.allocUrb.room (packetsOn pdu pipe) with
    | none => some {}
    | some room =>
        if 0 < pdu.u.w₁.toInt ∧ ¬ env.kz.ok .buffer pdu.u.w₁.toInt.toNat then some { urb := some {} }
        else
          let transferBuffer : Bool := 0 < pdu.u.w₁.toInt
          if ¬ env.kz.ok .setup 8 then some { urb := some { transferBuffer } }
          else some { urb := some {
            transferBuffer, setupPacket := true
            transferFlags := flagsLeft env pdu pipe room io } }

/-- `masking_bogus_flags` lets the flag through. -/
lemma maskingBogusFlags_freeBuffer (udev : UsbDevice) (urb : Urb) :
    (maskingBogusFlags udev urb).transferFlags &&& urbFreeBuffer =
      urb.transferFlags &&& urbFreeBuffer := by
  unfold maskingBogusFlags
  split
  · rfl
  split
  · rfl
  split
  · rfl
  dsimp only
  rw [BitVec.and_assoc]
  congr 1
  split_ifs <;> decide

/-- The flag that frees the buffer is left as the client sent it. -/
lemma flagsLeft_freeBuffer (env : Env) (pdu : Header) (pipe : BitVec 32) (room : Nat)
    (io : List Recvmsg) :
    flagsLeft env pdu pipe room io &&& urbFreeBuffer = pdu.u.w₀ &&& urbFreeBuffer := by
  obtain ⟨buf, iso, hurb⟩ :=
    recvPayload_fields env.kz io (stubUrb pdu pipe room) (show Side.stub ≠ .vhci by decide)
  have hflags : (recvPayload .stub env.kz io (stubUrb pdu pipe room)).urb.transferFlags =
      pdu.u.w₀ := by
    rw [hurb]
    rfl
  unfold flagsLeft
  dsimp only
  split
  · rw [hflags]
  · rw [maskingBogusFlags_freeBuffer, hflags]

/-! ## When it can be cleaned up -/

section FreedOnce

variable (usb : UsbFreeUrb)

/-- Everything is freed once when there is a URB that does not own the buffer. -/
lemma freedOnce_iff (m : PrivMemory) :
    FreedOnce usb m ↔ ∃ u, m.urb = some u ∧ u.ownsBuffer = false := by
  constructor
  · rintro ⟨⟨l, hl, hperm⟩, -⟩
    obtain ⟨u, hu, rfl⟩ := Option.map_eq_some_iff.mp hl
    refine ⟨u, hu, ?_⟩
    cases howns : u.ownsBuffer with
    | false => rfl
    | true =>
        have hbuffer : u.transferBuffer = true := (of_decide_eq_true howns).1
        have hfrees := (usb.perm_frees u).count_eq .transferBuffer
        have hcount := hperm.count_eq .transferBuffer
        rw [howns, if_pos rfl] at hfrees
        unfold PrivMemory.allocated kfree at hcount
        rw [hu, hbuffer] at hcount
        cases hsetup : u.setupPacket <;> simp [hbuffer, hsetup, hfrees] at hcount
  · rintro ⟨u, hu, howns⟩
    have hfrees : (usb.frees u).Perm [.urb] := by
      have hperm := usb.perm_frees u
      rwa [howns, if_neg (by decide)] at hperm
    have hcleanup : (Block.priv :: (kfree u.transferBuffer .transferBuffer ++
        kfree u.setupPacket .setupPacket ++ [.urb])).Perm m.allocated := by
      rw [PrivMemory.allocated_of_urb hu]
      unfold kfree
      cases u.transferBuffer <;> cases u.setupPacket <;> decide
    have hfree : (kfree u.setupPacket .setupPacket ++ kfree u.transferBuffer .transferBuffer ++
        [Block.priv] ++ [Block.urb]).Perm m.allocated := by
      rw [PrivMemory.allocated_of_urb hu]
      unfold kfree
      cases u.transferBuffer <;> cases u.setupPacket <;> decide
    unfold FreedOnce stubDeviceCleanupUrbs stubFreePrivAndUrb
    rw [hu]
    exact ⟨⟨_, rfl, (List.Perm.append_left _ hfrees).trans hcleanup⟩,
      _, rfl, (List.Perm.append_left _ hfrees).trans hfree⟩

/-- A submit whose `stub_priv` gets a URB, and whose flags do not free the transfer buffer if one
comes so far. -/
def Cleanable (env : Env) (pdu : Header) : Prop :=
  ∀ pipe, getPipe env.udev pdu.base.ep pdu.base.direction = .ok pipe → env.privOk = true →
    (env.allocUrb.room (packetsOn pdu pipe)).isSome = true ∧
      (0 < pdu.u.w₁.toInt → env.kz.ok .buffer pdu.u.w₁.toInt.toNat = true → env.kz.ok .setup 8 = true →
        pdu.u.w₀ &&& urbFreeBuffer = 0)

/-- What a submit leaves is freed once exactly when the submit is `Cleanable`. -/
theorem cleanup_frees_once (env : Env) (pdu : Header) (io : List Recvmsg) :
    (∀ pipe m, getPipe env.udev pdu.base.ep pdu.base.direction = .ok pipe →
      privLeft env pdu pipe io = some m → FreedOnce usb m) ↔ Cleanable env pdu := by
  have hleft : ∀ pipe, (∀ m, privLeft env pdu pipe io = some m → FreedOnce usb m) ↔
      (env.privOk = true → (env.allocUrb.room (packetsOn pdu pipe)).isSome = true ∧
        (0 < pdu.u.w₁.toInt → env.kz.ok .buffer pdu.u.w₁.toInt.toNat = true → env.kz.ok .setup 8 = true →
          pdu.u.w₀ &&& urbFreeBuffer = 0)) := by
    intro pipe
    unfold privLeft
    split
    · rename_i hpriv
      exact iff_of_true (fun m h => (by cases h)) (fun h => absurd h hpriv)
    rename_i hpriv
    simp only [not_not.mp hpriv, forall_true_left]
    split
    · rename_i hroom
      refine iff_of_false (fun h => ?_) fun h => ?_
      · obtain ⟨u, hu, -⟩ := (freedOnce_iff usb _).mp (h _ rfl)
        cases hu
      · rw [hroom] at h
        cases h.1
    rename_i room hroom
    simp only [hroom, Option.isSome_some, true_and]
    split
    · rename_i hbuffer
      refine iff_of_true (fun m h => ?_) fun _ hok => absurd hok hbuffer.2
      cases h
      exact (freedOnce_iff usb _).mpr ⟨_, rfl, rfl⟩
    rename_i hbuffer
    split
    · rename_i hsetup
      refine iff_of_true (fun m h => ?_) fun _ _ hok => absurd hok hsetup
      cases h
      exact (freedOnce_iff usb _).mpr ⟨_, rfl, by simp [UrbMemory.ownsBuffer]⟩
    rename_i hsetup
    have hflags := flagsLeft_freeBuffer env pdu pipe room io
    constructor
    · intro h hpos _ _
      obtain ⟨u, hu, howns⟩ := (freedOnce_iff usb _).mp (h _ rfl)
      cases hu
      unfold UrbMemory.ownsBuffer at howns
      rw [hflags] at howns
      simpa [hpos] using howns
    · intro h m hm
      cases hm
      refine (freedOnce_iff usb _).mpr ⟨_, rfl, ?_⟩
      unfold UrbMemory.ownsBuffer
      rw [hflags]
      refine decide_eq_false fun hboth => hboth.2 ?_
      have hpos : 0 < pdu.u.w₁.toInt := of_decide_eq_true hboth.1
      exact h hpos (not_not.mp fun hfail => hbuffer ⟨hpos, hfail⟩) (not_not.mp hsetup)
  constructor
  · intro h pipe hpipe
    exact (hleft pipe).mp fun m hm => h pipe m hpipe hm
  · intro h pipe m hpipe hm
    exact (hleft pipe).mpr (h pipe hpipe) m hm

end FreedOnce

/-- A request for two bytes whose buffer goes with the URB. -/
def freeBufferPdu : Header where
  base := { command := cmdSubmit, seqnum := 1, devid := 0x10002, direction := dirIn, ep := 0 }
  u := { w₀ := urbFreeBuffer, w₁ := 2, setup := [0x80, 6, 0, 1, 0, 0, 2, 0] }

/-- The buffer is freed twice. -/
theorem buffer_freed_twice : ¬ ∀ (usb : UsbFreeUrb) (env : Env) (pdu : Header) (io : List Recvmsg)
    (pipe : BitVec 32) (m : PrivMemory),
    getPipe env.udev pdu.base.ep pdu.base.direction = .ok pipe →
      privLeft env pdu pipe io = some m → FreedOnce usb m := by
  intro hall
  have hleft : ∃ pipe m, getPipe controlDevice 0 dirIn = .ok pipe ∧
      privLeft controlEnv freeBufferPdu pipe [] = some m ∧
        (m.urb.map UrbMemory.ownsBuffer) = some true := ⟨0x80000280, _, rfl, rfl, by decide +kernel⟩
  obtain ⟨pipe, m, hpipe, hm, howns⟩ := hleft
  obtain ⟨u, hu, hnot⟩ :=
    (freedOnce_iff .core m).mp (hall .core controlEnv freeBufferPdu [] pipe m hpipe hm)
  rw [hu] at howns
  exact absurd (hnot.symm.trans (Option.some.inj howns)) (by decide)

end Usbip.Stub
