import Usbip.Ports.Named

/-!
# Attaching through the attribute

The numbers of an attach go to the kernel as text: `usbip_vhci_attach_device` prints four of them
into the attribute `attach`, with `%d` for the descriptor, and `store_attach` scans four numbers
without a sign.  `attach_reads_written` says that the kernel takes the text exactly when the
descriptor is not negative, the port is one of the table and the speed one that it supports, and
that it then has the numbers that were written, the two numbers of the device among them.
-/

namespace Usbip.Ports

open Usbip.Core Usbip.Common Usbip.Tools

/-! ## The tool -/

/-- Source: `vhci_driver.c`, `get_devid`. -/
def getDevid (busnum devnum : BitVec 8) : BitVec 32 :=
  busnum.setWidth 32 <<< 16 ||| devnum.setWidth 32

/-- `%u`. -/
def showUnsigned (x : BitVec 32) : List Char := Nat.toDigits 10 x.toNat

/-- `%d`. -/
def showInt (x : BitVec 32) : List Char :=
  if x.toInt < 0 then '-' :: Nat.toDigits 10 x.toInt.natAbs else Nat.toDigits 10 x.toInt.natAbs

/-- What is written to `attach`; the buffer has 200 bytes.
Source: `vhci_driver.c`, `usbip_vhci_attach_device2`. -/
def usbipVhciAttachDevice2 (port sockfd devid speed : BitVec 32) : List Char :=
  (showUnsigned port ++ ' ' :: (showInt sockfd ++ ' ' ::
    (showUnsigned devid ++ ' ' :: showUnsigned speed))).take 199

/-- Source: `vhci_driver.c`, `usbip_vhci_attach_device`. -/
def usbipVhciAttachDevice (port sockfd : BitVec 32) (busnum devnum : BitVec 8)
    (speed : BitVec 32) : List Char :=
  usbipVhciAttachDevice2 port sockfd (getDevid busnum devnum) speed

/-! ## The kernel -/

/-- Source: `<linux/ctype.h>`, `isspace`, which takes the no-break space too. -/
def isSpaceKernel (ch : Char) : Bool := isSpace ch || ch.toNat == 160

/-- `%u` into 32 bits: no sign is taken, and the number is cut off.
Source: `<linux/kernel.h>`, `sscanf`. -/
def scanUnsigned (l : List Char) : Option (BitVec 32 × List Char) :=
  let l := l.dropWhile isSpaceKernel
  let ds := l.takeWhile Char.isDigit
  if ds = [] then none
  else some (BitVec.ofNat 32 (Nat.ofDigitChars 10 ds 0), l.dropWhile Char.isDigit)

/-- The white space of the format is skipped by the conversion that follows it.
Source: `vhci_sysfs.c`, the `sscanf` of `store_attach`. -/
def sscanfAttach (buf : List Char) : Option (BitVec 32 × BitVec 32 × BitVec 32 × BitVec 32) := do
  let port ← scanUnsigned buf
  let sockfd ← scanUnsigned port.2
  let devid ← scanUnsigned sockfd.2
  let speed ← scanUnsigned devid.2
  some (port.1, sockfd.1, devid.1, speed.1)

/-- `USB_SPEED_LOW`, `USB_SPEED_FULL`, `USB_SPEED_HIGH` or `USB_SPEED_WIRELESS`. -/
def SupportedSpeed (speed : BitVec 32) : Prop := speed = 1 ∨ speed = 2 ∨ speed = 3 ∨ speed = 4

instance instDecidableSupportedSpeed (speed : BitVec 32) : Decidable (SupportedSpeed speed) :=
  inferInstanceAs (Decidable (_ ∨ _))

/-- Source: `vhci_sysfs.c`, `valid_args`. -/
def ValidArgs (p : Params) (n i : Nat) (speed : BitVec 32) : Prop :=
  ValidPort p n i ∧ SupportedSpeed speed

instance instDecidableValidArgs (p : Params) (n i : Nat) (speed : BitVec 32) :
    Decidable (ValidArgs p n i speed) :=
  inferInstanceAs (Decidable (_ ∧ _))

/-- What an attach goes on with. -/
structure AttachArgs where
  pdevNr : Nat
  rhport : Nat
  sockfd : BitVec 32
  devid : BitVec 32
  speed : BitVec 32
  deriving DecidableEq

/-- Up to `vhci_get_device`.
Source: `vhci_sysfs.c`, `store_attach`. -/
def storeAttachArgs (p : Params) (buf : List Char) : Except Int AttachArgs :=
  match sscanfAttach buf with
  | none => .error (-EINVAL.toInt)
  | some (port, sockfd, devid, speed) =>
      if ValidArgs p (portToPdevNr p port) (portToRhport p port) speed then
        .ok ⟨portToPdevNr p port, portToRhport p port, sockfd, devid, speed⟩
      else .error (-EINVAL.toInt)

/-! ## Scanning what was printed -/

variable {rest : List Char}

/-- A number is written in digits. -/
lemma isDigit_of_mem_digits {n : Nat} : ∀ ch ∈ Nat.toDigits 10 n, ch.isDigit = true := fun _ h =>
  Nat.isDigit_of_mem_toDigits (by decide) (by decide) h

/-- A digit is no white space. -/
lemma isSpaceKernel_of_isDigit {ch : Char} (h : ch.isDigit = true) : isSpaceKernel ch = false := by
  rw [isDigit_iff] at h
  simp only [isSpaceKernel, isSpace, Bool.or_eq_false_iff, decide_eq_false_iff_not,
    beq_eq_false_iff_ne]
  omega

/-- A number is scanned as it was printed. -/
lemma scanUnsigned_digits {blanks : List Char} (hblanks : ∀ ch ∈ blanks, isSpaceKernel ch = true)
    (x : BitVec 32) (hrest : Ends Char.isDigit rest) :
    scanUnsigned (blanks ++ (Nat.toDigits 10 x.toNat ++ rest)) = some (x, rest) := by
  obtain ⟨htake, hdrop⟩ := takeWhile_item (isDigit_of_mem_digits (n := x.toNat)) hrest
  obtain ⟨ch, ds, hds⟩ := List.exists_cons_of_ne_nil (Nat.toDigits_ne_nil (b := 10) (n := x.toNat))
  have hch : isSpaceKernel ch = false :=
    isSpaceKernel_of_isDigit (isDigit_of_mem_digits ch (hds ▸ List.mem_cons_self))
  have hskip : (blanks ++ (Nat.toDigits 10 x.toNat ++ rest)).dropWhile isSpaceKernel =
      Nat.toDigits 10 x.toNat ++ rest := by
    rw [List.dropWhile_append_of_pos hblanks, hds, List.cons_append, List.dropWhile_cons, hch]
    rfl
  unfold scanUnsigned
  rw [hskip]
  dsimp only
  rw [htake, hdrop, if_neg Nat.toDigits_ne_nil, Nat.ofDigitChars_ten_toDigits, BitVec.ofNat_toNat,
    BitVec.setWidth_eq]

/-- No sign is scanned. -/
lemma scanUnsigned_minus (l : List Char) : scanUnsigned (' ' :: '-' :: l) = none := rfl

/-- The buffer is long enough. -/
lemma usbipVhciAttachDevice2_eq (port sockfd devid speed : BitVec 32) :
    usbipVhciAttachDevice2 port sockfd devid speed =
      showUnsigned port ++ ' ' :: (showInt sockfd ++ ' ' ::
        (showUnsigned devid ++ ' ' :: showUnsigned speed)) := by
  have hlength : ∀ n < 2 ^ 32, (Nat.toDigits 10 n).length ≤ 10 := fun n hn =>
    Nat.toDigits_length 10 n 10 (by decide) (hn.trans (by decide))
  have hsockfd : (showInt sockfd).length ≤ 11 := by
    have habs : sockfd.toInt.natAbs < 2 ^ 32 := by
      have hlt := sockfd.toInt_lt
      have hle := sockfd.le_toInt
      omega
    have hdigits := hlength _ habs
    rw [showInt]
    split
    · rw [List.length_cons]
      omega
    · omega
  have hport := hlength _ port.isLt
  have hdevid := hlength _ devid.isLt
  have hspeed := hlength _ speed.isLt
  refine List.take_of_length_le ?_
  simp only [showUnsigned, List.length_append, List.length_cons]
  omega

/-- The text is scanned whole, unless the descriptor is negative. -/
lemma sscanfAttach_written (port sockfd devid speed : BitVec 32) :
    sscanfAttach (usbipVhciAttachDevice2 port sockfd devid speed) =
      if 0 ≤ sockfd.toInt then some (port, sockfd, devid, speed) else none := by
  have hblank : ∀ ch ∈ [' '], isSpaceKernel ch = true := by simp [isSpaceKernel, isSpace]
  have hend : ∀ l, Ends Char.isDigit (' ' :: l) := fun l => .cons (by decide)
  have hport := fun l => scanUnsigned_digits (List.forall_mem_nil _) port (hend l)
  have hsockfd := fun l => scanUnsigned_digits hblank sockfd (hend l)
  have hdevid := fun l => scanUnsigned_digits hblank devid (hend l)
  have hnil : Ends Char.isDigit [] := by
    intro ch h
    cases h
  have hspeed := scanUnsigned_digits hblank speed hnil
  simp only [List.nil_append, List.singleton_append, List.append_nil] at hport hsockfd hdevid hspeed
  rw [usbipVhciAttachDevice2_eq, sscanfAttach]
  split_ifs with hsign
  · have habs : sockfd.toInt.natAbs = sockfd.toNat := by
      rw [BitVec.toInt_eq_toNat_cond] at hsign ⊢
      split_ifs at hsign ⊢ <;> omega
    have hshow : showInt sockfd = Nat.toDigits 10 sockfd.toNat := by
      rw [showInt, if_neg (not_lt.mpr hsign), habs]
    simp only [showUnsigned, hshow, hport, hsockfd, hdevid, hspeed, Option.bind_eq_bind,
      Option.bind_some]
  · have hshow : showInt sockfd = '-' :: Nat.toDigits 10 sockfd.toInt.natAbs := by
      rw [showInt, if_pos (not_le.mp hsign)]
    simp only [showUnsigned, hshow, List.cons_append, hport, scanUnsigned_minus,
      Option.bind_eq_bind, Option.bind_some, Option.bind_none]

/-! ## Both together -/

/-- The two numbers of the device, as the tools take them from a status line. -/
lemma busnum_devnum_getDevid (busnum devnum : BitVec 8) :
    (getDevid busnum devnum >>> 16).setWidth 8 = busnum ∧
      (getDevid busnum devnum &&& 0xffff).setWidth 8 = devnum := by
  constructor
  · refine BitVec.eq_of_getLsbD_eq fun i hi => ?_
    have hbusnum : 16 + i < 32 := by omega
    have hdevnum : devnum.getLsbD (16 + i) = false := BitVec.getLsbD_of_ge devnum _ (by omega)
    simp [getDevid, hi, hbusnum, hdevnum]
  · refine BitVec.eq_of_getLsbD_eq fun i hi => ?_
    have hlow : (0xffff : BitVec 32).getLsbD i = true := by
      interval_cases i <;> rfl
    have hword : i < 32 := by omega
    have hbusnum : i < 16 := by omega
    rw [BitVec.getLsbD_setWidth, BitVec.getLsbD_and, hlow]
    simp [getDevid, hi, hword, hbusnum]

/-- The kernel takes what the tool writes exactly when the descriptor is not negative, the port is
one of the table and the speed one that it supports; it then has the numbers that were written. -/
theorem attach_reads_written (p : Params) (port sockfd : BitVec 32) (busnum devnum : BitVec 8)
    (speed : BitVec 32) :
    storeAttachArgs p (usbipVhciAttachDevice port sockfd busnum devnum speed) =
      (if 0 ≤ sockfd.toInt ∧ port.toNat < nports p ∧ SupportedSpeed speed then
        .ok ⟨port.toNat / p.hcPorts, port.toNat % p.hcPorts, sockfd, getDevid busnum devnum, speed⟩
      else .error (-EINVAL.toInt)) ∧
      (getDevid busnum devnum >>> 16).setWidth 8 = busnum ∧
      (getDevid busnum devnum &&& 0xffff).setWidth 8 = devnum := by
  refine ⟨?_, busnum_devnum_getDevid busnum devnum⟩
  have hvalid : ValidPort p (portToPdevNr p port) (portToRhport p port) ↔
      port.toNat < nports p := by
    rw [ValidPort, portToPdevNr, portToRhport, nports, Nat.div_lt_iff_lt_mul p.hcPorts_pos,
      Nat.mul_comm]
    exact and_iff_left (Nat.mod_lt _ p.hcPorts_pos)
  rw [usbipVhciAttachDevice, storeAttachArgs, sscanfAttach_written]
  by_cases hsign : 0 ≤ sockfd.toInt
  · rw [if_pos hsign]
    dsimp only
    by_cases hargs : port.toNat < nports p ∧ SupportedSpeed speed
    · rw [if_pos ⟨hvalid.mpr hargs.1, hargs.2⟩, if_pos ⟨hsign, hargs⟩]
      rfl
    · rw [if_neg fun h => hargs ⟨hvalid.mp h.1, h.2⟩, if_neg fun h => hargs h.2]
  · rw [if_neg hsign, if_neg fun h => hsign h.1]

end Usbip.Ports
