import Usbip.Common.Recv
import Usbip.Core.Spread

/-!
# Headers and descriptors as bytes

`struct usbip_header` and `struct usbip_iso_packet_descriptor` are packed, so that a socket is
given the bytes they have in the memory of the host.  `Frame` is such a header, 48 bytes of any
contents, and `usbipHeaderCorrectEndian` is what the function of this name makes of them.

The wire is big-endian, and what two hosts make of one frame does not depend on their byte orders:
`correctEndianRecv_ofBytes_wire`.
-/

namespace Usbip.Common

open Usbip.Core

/-! ## Words -/

/-- The bytes of a word on the wire. -/
def be32Bytes (x : BitVec 32) : List Byte :=
  [x.extractLsb' 24 8, x.extractLsb' 16 8, x.extractLsb' 8 8, x.extractLsb' 0 8]

/-- The bytes of a word in the memory of a host. -/
def wordBytes : Endian → BitVec 32 → List Byte
  | .little, x => (be32Bytes x).reverse
  | .big, x => be32Bytes x

/-- The word that has these bytes in the memory of a host. -/
def wordOf : Endian → List Byte → BitVec 32
  | .little, [b₀, b₁, b₂, b₃] => be32 b₃ b₂ b₁ b₀
  | .big, [b₀, b₁, b₂, b₃] => be32 b₀ b₁ b₂ b₃
  | _, _ => 0

def wordAt (e : Endian) (offset : Nat) (b : List Byte) : BitVec 32 := wordOf e (slice offset 4 b)

/-- A word is four bytes. -/
@[simp] lemma length_be32Bytes (x : BitVec 32) : (be32Bytes x).length = 4 := rfl

/-- A word is four bytes on every host. -/
@[simp] lemma length_wordBytes (e : Endian) (x : BitVec 32) : (wordBytes e x).length = 4 := by
  cases e <;> rfl

/-- A word is made of its bytes. -/
lemma be32_extractLsb' (x : BitVec 32) :
    be32 (x.extractLsb' 24 8) (x.extractLsb' 16 8) (x.extractLsb' 8 8) (x.extractLsb' 0 8) = x := by
  unfold be32
  rw [BitVec.extractLsb'_append_extractLsb'_eq_extractLsb' (by decide),
    BitVec.extractLsb'_append_extractLsb'_eq_extractLsb' (by decide),
    BitVec.extractLsb'_append_extractLsb'_eq_extractLsb' (by decide)]
  exact BitVec.extractLsb'_eq_self

/-- The bytes of a word are those it was made of. -/
lemma be32Bytes_be32 (b₀ b₁ b₂ b₃ : Byte) : be32Bytes (be32 b₀ b₁ b₂ b₃) = [b₀, b₁, b₂, b₃] := by
  have hlow : ∀ {w : Nat} (x : BitVec w) (b : Byte), (x ++ b).extractLsb' 0 8 = b := by
    intro w x b
    rw [BitVec.extractLsb'_append_eq_of_add_le (by decide), BitVec.extractLsb'_eq_self]
  have hhigh : ∀ {w n : Nat} (x : BitVec w) (b : Byte), 8 ≤ n →
      (x ++ b).extractLsb' n 8 = x.extractLsb' (n - 8) 8 := by
    intro w n x b hn
    exact BitVec.extractLsb'_append_eq_of_le hn
  simp only [be32Bytes, be32, hlow, hhigh _ _ (Nat.le_refl 8), hhigh _ _ (show 8 ≤ 16 by decide),
    hhigh _ _ (show 8 ≤ 24 by decide), Nat.reduceSub, BitVec.extractLsb'_eq_self]

/-- A word that was stored is read back. -/
@[simp] lemma wordOf_wordBytes (e : Endian) (x : BitVec 32) : wordOf e (wordBytes e x) = x := by
  cases e
  · exact be32_extractLsb' x
  · exact be32_extractLsb' x

/-- Four bytes are those of the word they hold. -/
lemma wordBytes_wordOf (e : Endian) {b : List Byte} (h : b.length = 4) :
    wordBytes e (wordOf e b) = b := by
  obtain ⟨b₀, b₁, b₂, b₃, rfl⟩ := List.length_eq_four.mp h
  cases e
  · exact congrArg List.reverse (be32Bytes_be32 b₃ b₂ b₁ b₀)
  · exact be32Bytes_be32 b₀ b₁ b₂ b₃

/-- A word in the byte order of the wire is its bytes on the wire. -/
lemma wordBytes_cpuToBe32 (e : Endian) (x : BitVec 32) :
    wordBytes e (cpuToBe32 e x) = be32Bytes x := by
  cases e
  · show (be32Bytes (swab32 x)).reverse = be32Bytes x
    have hswab : swab32 x = be32 (x.extractLsb' 0 8) (x.extractLsb' 8 8) (x.extractLsb' 16 8)
        (x.extractLsb' 24 8) := rfl
    rw [hswab, be32Bytes_be32]
    rfl
  · rfl

/-- The word that a host finds, and what it makes of it. -/
lemma be32ToCpu_wordOf (e : Endian) (x : BitVec 32) : be32ToCpu e (wordOf e (be32Bytes x)) = x := by
  rw [← wordBytes_cpuToBe32 e, wordOf_wordBytes, be32ToCpu_cpuToBe32]

/-! ## Headers -/

/-- Source: `usbip_common.h`, `struct usbip_header_basic`. -/
def HeaderBasic.bytes (e : Endian) (b : HeaderBasic) : List Byte :=
  wordBytes e b.command ++ wordBytes e b.seqnum ++ wordBytes e b.devid ++
    wordBytes e b.direction ++ wordBytes e b.ep

/-- Source: `usbip_common.h`, `struct usbip_header_cmd_submit` and the three that share its
place. -/
def HeaderUnion.bytes (e : Endian) (u : HeaderUnion) : List Byte :=
  wordBytes e u.w₀ ++ wordBytes e u.w₁ ++ wordBytes e u.w₂ ++ wordBytes e u.w₃ ++
    wordBytes e u.w₄ ++ u.setup

/-- A header as it lies in the memory of a host.
Source: `usbip_common.h`, `struct usbip_header`. -/
def Header.bytes (e : Endian) (h : Header) : List Byte := h.base.bytes e ++ h.u.bytes e

/-- The header that has these bytes in the memory of a host. -/
def Header.ofBytes (e : Endian) (b : List Byte) : Header where
  base := ⟨wordAt e 0 b, wordAt e 4 b, wordAt e 8 b, wordAt e 12 b, wordAt e 16 b⟩
  u := ⟨wordAt e 20 b, wordAt e 24 b, wordAt e 28 b, wordAt e 32 b, wordAt e 36 b, slice 40 8 b⟩

/-- A header as it travels, with all its words big-endian. -/
def Header.wire (h : Header) : List Byte := h.bytes .big

/-- The basic header is five words. -/
lemma HeaderBasic.length_bytes (e : Endian) (b : HeaderBasic) : (b.bytes e).length = 20 := by
  simp [HeaderBasic.bytes]

/-- A header is 48 bytes. -/
lemma Header.length_bytes (e : Endian) {h : Header} (hsetup : h.u.setup.length = 8) :
    (h.bytes e).length = 48 := by
  simp [Header.bytes, HeaderBasic.bytes, HeaderUnion.bytes, hsetup]

/-- The bytes of a header that was read are those that were read. -/
lemma Header.bytes_ofBytes (e : Endian) {b : List Byte} (h : b.length = 48) :
    (Header.ofBytes e b).bytes e = b := by
  have hword : ∀ n, n + 4 ≤ 48 → wordBytes e (wordAt e n b) = slice n 4 b := fun n hn =>
    wordBytes_wordOf e (length_slice (by omega))
  simp only [Header.bytes, HeaderBasic.bytes, HeaderUnion.bytes, Header.ofBytes, hword,
    Nat.reduceAdd, Nat.reduceLeDiff, ← List.append_assoc]
  simp (disch := decide) only [slice_join]
  simp [slice, ← h]

/-- A header is read back from its bytes. -/
lemma Header.ofBytes_bytes (e : Endian) {h : Header} (hsetup : h.u.setup.length = 8) :
    Header.ofBytes e (h.bytes e) = h := by
  have hword : ∀ {n x}, slice n 4 (h.bytes e) = wordBytes e x → wordAt e n (h.bytes e) = x := by
    intro n x hx
    rw [wordAt, hx, wordOf_wordBytes]
  have hrest : slice 40 8 (h.bytes e) = h.u.setup := by
    have htake : slice 40 8 (h.bytes e) = h.u.setup.take 8 := by cases e <;> rfl
    rw [htake, ← hsetup, List.take_length]
  have hbase : (Header.ofBytes e (h.bytes e)).base = h.base := by
    unfold Header.ofBytes
    rw [hword (x := h.base.command) (by cases e <;> rfl),
      hword (x := h.base.seqnum) (by cases e <;> rfl),
      hword (x := h.base.devid) (by cases e <;> rfl),
      hword (x := h.base.direction) (by cases e <;> rfl),
      hword (x := h.base.ep) (by cases e <;> rfl)]
  have hunion : (Header.ofBytes e (h.bytes e)).u = h.u := by
    show (⟨_, _, _, _, _, _⟩ : HeaderUnion) = h.u
    rw [hword (x := h.u.w₀) (by cases e <;> rfl), hword (x := h.u.w₁) (by cases e <;> rfl),
      hword (x := h.u.w₂) (by cases e <;> rfl), hword (x := h.u.w₃) (by cases e <;> rfl),
      hword (x := h.u.w₄) (by cases e <;> rfl), hrest]
  exact congrArg₂ Header.mk hbase hunion

/-! ## Headers on the wire -/

/-- The setup packet is bytes and is not converted. -/
@[simp] lemma setup_correctEndianUnion (f : BitVec 32 → BitVec 32) (cmd : BitVec 32)
    (u : HeaderUnion) : (correctEndianUnion f cmd u).setup = u.setup := by
  unfold correctEndianUnion
  split_ifs <;> rfl

/-- After the conversion the basic header lies in memory as it goes over the wire. -/
lemma HeaderBasic.bytes_correctEndianBasic (e : Endian) (b : HeaderBasic) :
    (correctEndianBasic (cpuToBe32 e) b).bytes e = b.bytes .big := by
  simp only [HeaderBasic.bytes, correctEndianBasic, wordBytes_cpuToBe32]
  rfl

/-- The union of a command that has all five words. -/
lemma HeaderUnion.bytes_of_submit (e : Endian) {cmd : BitVec 32} (u : HeaderUnion)
    (h : cmd = cmdSubmit ∨ cmd = retSubmit) :
    (correctEndianUnion (cpuToBe32 e) cmd u).bytes e = u.bytes .big := by
  simp only [HeaderUnion.bytes, correctEndianUnion, if_pos h, wordBytes_cpuToBe32]
  rfl

/-- Of an unlink one word is converted. -/
lemma correctEndianUnion_of_unlink (f : BitVec 32 → BitVec 32) {cmd : BitVec 32}
    (u : HeaderUnion) (h : cmd = cmdUnlink ∨ cmd = retUnlink) :
    correctEndianUnion f cmd u = { u with w₀ := f u.w₀ } := by
  have hne : ¬ (cmd = cmdSubmit ∨ cmd = retSubmit) := by
    rcases h with rfl | rfl <;> decide
  rw [correctEndianUnion, if_neg hne, if_pos h]

/-- What a command with one word leaves alone. -/
lemma HeaderUnion.drop_bytes (e : Endian) (u : HeaderUnion) :
    (u.bytes e).drop 4 = wordBytes e u.w₁ ++ wordBytes e u.w₂ ++ wordBytes e u.w₃ ++
      wordBytes e u.w₄ ++ u.setup := by
  cases e <;> rfl

/-- The union of a command that has one word: the others stay in the order of the host. -/
lemma HeaderUnion.bytes_of_unlink (e : Endian) {cmd : BitVec 32} (u : HeaderUnion)
    (h : cmd = cmdUnlink ∨ cmd = retUnlink) :
    (correctEndianUnion (cpuToBe32 e) cmd u).bytes e = be32Bytes u.w₀ ++ (u.bytes e).drop 4 := by
  rw [correctEndianUnion_of_unlink _ u h, HeaderUnion.drop_bytes]
  simp only [HeaderUnion.bytes, wordBytes_cpuToBe32, List.append_assoc]

/-- What a driver fills in: the words that its command does not have are those `memset` has
left. -/
structure Header.Clean (h : Header) : Prop where
  setup : h.u.setup.length = 8
  words : (h.base.command = cmdSubmit ∨ h.base.command = retSubmit) ∨
    (h.base.command = cmdUnlink ∨ h.base.command = retUnlink) ∧
      h.u.w₁ = 0 ∧ h.u.w₂ = 0 ∧ h.u.w₃ = 0 ∧ h.u.w₄ = 0

/-- The wire does not depend on the host that sends. -/
theorem Header.bytes_correctEndianSend (e : Endian) {h : Header} (hclean : h.Clean) :
    (correctEndianSend e h).bytes e = h.wire := by
  unfold Header.wire Header.bytes
  rw [correctEndianSend, HeaderBasic.bytes_correctEndianBasic]
  rcases hclean.words with hsubmit | ⟨hunlink, h₁, h₂, h₃, h₄⟩
  · rw [HeaderUnion.bytes_of_submit e h.u hsubmit]
  · have hzero : wordBytes e 0 = wordBytes .big 0 := by cases e <;> rfl
    simp only [HeaderUnion.bytes, correctEndianUnion_of_unlink _ _ hunlink, wordBytes_cpuToBe32,
      h₁, h₂, h₃, h₄, hzero]
    rfl

/-- The host that receives finds the header that was sent. -/
theorem correctEndianRecv_ofBytes_wire (e : Endian) {h : Header} (hclean : h.Clean) :
    correctEndianRecv e (Header.ofBytes e h.wire) = h := by
  have hsetup : (correctEndianSend e h).u.setup.length = 8 := by
    simp [correctEndianSend, hclean.setup]
  rw [← Header.bytes_correctEndianSend e hclean, Header.ofBytes_bytes e hsetup,
    correctEndianRecv_correctEndianSend]

/-- A header is 48 bytes on the wire. -/
lemma Header.Clean.length_wire {h : Header} (hclean : h.Clean) : h.wire.length = 48 :=
  Header.length_bytes .big hclean.setup

/-! ## Frames -/

/-- The 48 bytes of a header, in memory or on the wire. -/
structure Frame where
  bytes : List Byte
  length_bytes : bytes.length = 48
  deriving DecidableEq

/-- The header that a host finds in a frame. -/
def Frame.header (e : Endian) (f : Frame) : Header := Header.ofBytes e f.bytes

/-- The frame in which a host keeps a header. -/
def Frame.ofHeader (e : Endian) (h : Header) (hsetup : h.u.setup.length = 8) : Frame :=
  ⟨h.bytes e, Header.length_bytes e hsetup⟩

/-- A frame holds eight bytes of setup. -/
lemma Frame.length_setup (e : Endian) (f : Frame) : (f.header e).u.setup.length = 8 := by
  show (slice 40 8 f.bytes).length = 8
  exact length_slice (by rw [f.length_bytes])

/-- A header is read back from its frame. -/
@[simp] lemma Frame.header_ofHeader (e : Endian) {h : Header} (hsetup : h.u.setup.length = 8) :
    (Frame.ofHeader e h hsetup).header e = h :=
  Header.ofBytes_bytes e hsetup

/-- A frame is made again from its header. -/
lemma Frame.ofHeader_header (e : Endian) (f : Frame) :
    Frame.ofHeader e (f.header e) (f.length_setup e) = f := by
  obtain ⟨b, hb⟩ := f
  simp only [Frame.ofHeader, Frame.header, Header.bytes_ofBytes e hb]

/-- A frame is known by its header. -/
lemma Frame.ext_header {e : Endian} {f g : Frame} (h : f.header e = g.header e) : f = g := by
  rw [← f.ofHeader_header e, ← g.ofHeader_header e]
  congr 1

/-- Source: `usbip_common.c`, `usbip_header_correct_endian`. -/
def usbipHeaderCorrectEndian (e : Endian) (pdu : Frame) (send : Bool) : Frame :=
  if send then
    .ofHeader e (correctEndianSend e (pdu.header e)) (by
      rw [correctEndianSend, setup_correctEndianUnion]
      exact pdu.length_setup e)
  else
    .ofHeader e (correctEndianRecv e (pdu.header e)) (by
      rw [correctEndianRecv, setup_correctEndianUnion]
      exact pdu.length_setup e)

/-- On frames the conversion is that on headers. -/
lemma header_usbipHeaderCorrectEndian (e : Endian) (pdu : Frame) (send : Bool) :
    (usbipHeaderCorrectEndian e pdu send).header e =
      if send then correctEndianSend e (pdu.header e) else correctEndianRecv e (pdu.header e) := by
  cases send <;> simp [usbipHeaderCorrectEndian]

/-- Packing leaves the setup packet alone. -/
lemma setup_packPdu (cmd : BitVec 32) (urb : Urb) (u : HeaderUnion) :
    (packPdu cmd urb u).setup = u.setup := by
  unfold packPdu
  split_ifs <;> rfl

/-- Source: `usbip_common.c`, `usbip_pack_pdu` with `pack` set. -/
def usbipPackPdu (e : Endian) (pdu : Frame) (urb : Urb) (cmd : BitVec 32) : Frame :=
  .ofHeader e { pdu.header e with u := packPdu cmd urb (pdu.header e).u } (by
    rw [setup_packPdu]
    exact pdu.length_setup e)

/-! ## Descriptors -/

/-- Source: `usbip_common.c`, `usbip_pack_iso` and `usbip_iso_packet_correct_endian`. -/
def IsoPacketDescriptor.wire (d : IsoPacketDescriptor) : List Byte :=
  be32Bytes d.offset ++ be32Bytes d.length ++ be32Bytes d.actualLength ++ be32Bytes d.status

/-- Descriptors are read back from the wire. -/
lemma isoDescriptors_flatMap_wire (iso : List IsoPacketDescriptor) :
    isoDescriptors (iso.flatMap IsoPacketDescriptor.wire) = iso := by
  induction iso with
  | nil => rfl
  | cons d iso ih =>
      have hd : isoDescriptors (d.wire ++ iso.flatMap IsoPacketDescriptor.wire) =
          ⟨be32 _ _ _ _, be32 _ _ _ _, be32 _ _ _ _, be32 _ _ _ _⟩ ::
            isoDescriptors (iso.flatMap IsoPacketDescriptor.wire) := rfl
      rw [List.flatMap_cons, hd, ih]
      simp only [be32_extractLsb']

/-- As many descriptors are read back as the header says. -/
lemma isoReceived_flatMap_wire {np : BitVec 32} {iso : List IsoPacketDescriptor}
    (h : np.toInt = iso.length) : isoReceived np (iso.flatMap IsoPacketDescriptor.wire) = iso := by
  rw [isoReceived, isoDescriptors_flatMap_wire, h, Int.toNat_natCast, List.take_length]

/-- So many descriptors are 16 bytes each. -/
lemma length_flatMap_wire (iso : List IsoPacketDescriptor) :
    (iso.flatMap IsoPacketDescriptor.wire).length = iso.length * 16 := by
  induction iso with
  | nil => rfl
  | cons d iso ih =>
      rw [List.flatMap_cons, List.length_append, ih, List.length_cons]
      show 16 + _ = _
      omega

end Usbip.Common
