import Usbip.Common.Urb

/-!
# The header of a PDU

A PDU starts with `struct usbip_header`: five words that every command has, then a union.  A
sender fills it in host order and turns it into the byte order of the wire with
`usbip_header_correct_endian`, and a receiver turns it back.  `Header` is the structure in
memory, on a host of either byte order.
-/

namespace Usbip.Common

/-- Source: `usbip_common.h`, `struct usbip_header_basic`. -/
structure HeaderBasic where
  command : BitVec 32 := 0
  seqnum : Seqnum := 0
  devid : BitVec 32 := 0
  direction : BitVec 32 := 0
  ep : BitVec 32 := 0
  deriving DecidableEq

/-- The union of the four commands: five words, and the bytes only CMD_SUBMIT has.
Source: `usbip_common.h`, `struct usbip_header`. -/
structure HeaderUnion where
  w₀ : BitVec 32 := 0
  w₁ : BitVec 32 := 0
  w₂ : BitVec 32 := 0
  w₃ : BitVec 32 := 0
  w₄ : BitVec 32 := 0
  setup : List Byte := List.replicate 8 0
  deriving DecidableEq

/-- Source: `usbip_common.h`, `struct usbip_header`. -/
structure Header where
  base : HeaderBasic := {}
  u : HeaderUnion := {}
  deriving DecidableEq

def cmdSubmit : BitVec 32 := 1
def cmdUnlink : BitVec 32 := 2
def retSubmit : BitVec 32 := 3
def retUnlink : BitVec 32 := 4

def dirOut : BitVec 32 := 0
def dirIn : BitVec 32 := 1

/-! ## Byte order -/

/-- The byte order of a host. -/
inductive Endian
  | little
  | big
  deriving DecidableEq

/-- Source: `<linux/swab.h>`, `swab32`. -/
def swab32 (x : BitVec 32) : BitVec 32 :=
  x.extractLsb' 0 8 ++ x.extractLsb' 8 8 ++ x.extractLsb' 16 8 ++ x.extractLsb' 24 8

/-- Where a bit comes from when the bytes are swapped. -/
lemma getLsbD_swab32 (x : BitVec 32) {i : Nat} (hi : i < 32) :
    (swab32 x).getLsbD i = x.getLsbD (8 * (3 - i / 8) + i % 8) := by
  simp only [swab32, BitVec.getLsbD_append, BitVec.getLsbD_extractLsb']
  obtain h | ⟨h₁, h₂⟩ | ⟨h₁, h₂⟩ | h : i < 8 ∨ 8 ≤ i ∧ i < 16 ∨ 16 ≤ i ∧ i < 24 ∨ 24 ≤ i := by
    omega
  · simp [h, show 8 * (3 - i / 8) + i % 8 = 24 + i by omega]
  · simp [show ¬ i < 8 by omega, show i - 8 < 8 by omega,
      show 8 * (3 - i / 8) + i % 8 = 16 + (i - 8) by omega]
  · simp [show ¬ i < 8 by omega, show ¬ i - 8 < 8 by omega, show i - 8 - 8 < 8 by omega,
      show 8 * (3 - i / 8) + i % 8 = 8 + (i - 8 - 8) by omega]
  · simp [show ¬ i < 8 by omega, show ¬ i - 8 < 8 by omega, show ¬ i - 8 - 8 < 8 by omega,
      show i - 8 - 8 - 8 < 8 by omega, show 8 * (3 - i / 8) + i % 8 = i - 8 - 8 - 8 by omega]

/-- Swapping twice does nothing. -/
lemma swab32_swab32 (x : BitVec 32) : swab32 (swab32 x) = x := by
  apply BitVec.eq_of_getLsbD_eq
  intro i hi
  rw [getLsbD_swab32 _ hi, getLsbD_swab32 _ (by omega)]
  congr 1
  omega

def cpuToBe32 : Endian → BitVec 32 → BitVec 32
  | .little, x => swab32 x
  | .big, x => x

def be32ToCpu : Endian → BitVec 32 → BitVec 32
  | .little, x => swab32 x
  | .big, x => x

/-- The two conversions of one host undo each other. -/
@[simp] lemma be32ToCpu_cpuToBe32 (e : Endian) (x : BitVec 32) :
    be32ToCpu e (cpuToBe32 e x) = x := by
  cases e
  · exact swab32_swab32 x
  · rfl

/-- Both directions of `correct_endian_basic`, by the conversion `f` of a word.
Source: `usbip_common.c`, `correct_endian_basic`. -/
def correctEndianBasic (f : BitVec 32 → BitVec 32) (b : HeaderBasic) : HeaderBasic :=
  ⟨f b.command, f b.seqnum, f b.devid, f b.direction, f b.ep⟩

/-- The fields of the union that the command has; the setup bytes stay.
Source: `usbip_common.c`, `correct_endian_cmd_submit` and the three like it. -/
def correctEndianUnion (f : BitVec 32 → BitVec 32) (cmd : BitVec 32) (u : HeaderUnion) :
    HeaderUnion :=
  if cmd = cmdSubmit ∨ cmd = retSubmit then
    { u with w₀ := f u.w₀, w₁ := f u.w₁, w₂ := f u.w₂, w₃ := f u.w₃, w₄ := f u.w₄ }
  else if cmd = cmdUnlink ∨ cmd = retUnlink then { u with w₀ := f u.w₀ }
  else u

/-- Source: `usbip_common.c`, `usbip_header_correct_endian` with `send` set. -/
def correctEndianSend (e : Endian) (h : Header) : Header :=
  ⟨correctEndianBasic (cpuToBe32 e) h.base, correctEndianUnion (cpuToBe32 e) h.base.command h.u⟩

/-- Source: `usbip_common.c`, `usbip_header_correct_endian` with `send` clear. -/
def correctEndianRecv (e : Endian) (h : Header) : Header :=
  let base := correctEndianBasic (be32ToCpu e) h.base
  ⟨base, correctEndianUnion (be32ToCpu e) base.command h.u⟩

/-- What is sent is what is received. -/
theorem correctEndianRecv_correctEndianSend (e : Endian) (h : Header) :
    correctEndianRecv e (correctEndianSend e h) = h := by
  have hbase : correctEndianBasic (be32ToCpu e) (correctEndianBasic (cpuToBe32 e) h.base) =
      h.base := by
    simp [correctEndianBasic]
  unfold correctEndianRecv correctEndianSend
  simp only [hbase]
  unfold correctEndianUnion
  split
  · simp
  · split <;> simp

/-! ## Packing -/

/-- Source: `<linux/usb.h>`, `URB_NO_TRANSFER_DMA_MAP`. -/
def urbNoTransferDmaMap : BitVec 32 := 0x0004

/-- Source: `usbip_common.c`, `tweak_transfer_flags`. -/
def tweakTransferFlags (flags : BitVec 32) : BitVec 32 :=
  flags &&& ~~~urbNoTransferDmaMap

/-- Source: `usbip_common.c`, `usbip_pack_cmd_submit` with `pack` set. -/
def packCmdSubmit (urb : Urb) (u : HeaderUnion) : HeaderUnion :=
  { u with
    w₀ := tweakTransferFlags urb.transferFlags
    w₁ := urb.transferBufferLength
    w₂ := urb.startFrame
    w₃ := urb.numberOfPackets
    w₄ := urb.interval }

/-- Source: `usbip_common.c`, `usbip_pack_cmd_submit` with `pack` clear. -/
def unpackCmdSubmit (u : HeaderUnion) (urb : Urb) : Urb :=
  { urb with
    transferFlags := u.w₀
    transferBufferLength := u.w₁
    startFrame := u.w₂
    numberOfPackets := u.w₃
    interval := u.w₄ }

/-- Source: `usbip_common.c`, `usbip_pack_ret_submit` with `pack` set. -/
def packRetSubmit (urb : Urb) (u : HeaderUnion) : HeaderUnion :=
  { u with
    w₀ := urb.status
    w₁ := urb.actualLength
    w₂ := urb.startFrame
    w₃ := urb.numberOfPackets
    w₄ := urb.errorCount }

/-- Source: `usbip_common.c`, `usbip_pack_ret_submit` with `pack` clear. -/
def unpackRetSubmit (u : HeaderUnion) (urb : Urb) : Urb :=
  { urb with
    status := u.w₀
    actualLength := u.w₁
    startFrame := u.w₂
    numberOfPackets := u.w₃
    errorCount := u.w₄ }

/-- Source: `usbip_common.c`, `usbip_pack_pdu` with `pack` set. -/
def packPdu (cmd : BitVec 32) (urb : Urb) (u : HeaderUnion) : HeaderUnion :=
  if cmd = cmdSubmit then packCmdSubmit urb u
  else if cmd = retSubmit then packRetSubmit urb u
  else u

/-- Source: `usbip_common.c`, `usbip_pack_pdu` with `pack` clear. -/
def unpackPdu (cmd : BitVec 32) (u : HeaderUnion) (urb : Urb) : Urb :=
  if cmd = cmdSubmit then unpackCmdSubmit u urb
  else if cmd = retSubmit then unpackRetSubmit u urb
  else urb

end Usbip.Common
