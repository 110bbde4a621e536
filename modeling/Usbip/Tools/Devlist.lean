import Usbip.Tools.Network

/-!
# The list of exported devices

The server answers OP_REQ_DEVLIST with a header, the number of devices, and for each device its
`struct usbip_usb_device` and one `struct usbip_usb_interface` for each of its interfaces.  The
client reads the stream with loops of its own: it takes the number of interfaces from the device
it has just unpacked.  Both convert the words in place, in the byte order of the host.

What the stream holds does not depend on the host that writes it (`writes_sendReplyDevlist`), and
the client takes exactly one reply from any stream that starts with one
(`decodes_recvReplyDevlist`).  Together they are `devlist_round_trip`.
-/

namespace Usbip.Tools

open Usbip.Core Usbip.Common

/-! ## What is sent -/

/-- Source: `usbip_common.h`, `struct usbip_usb_interface`. -/
structure UsbInterface where
  bInterfaceClass : Byte
  bInterfaceSubClass : Byte
  bInterfaceProtocol : Byte
  bInterfaceNumber : Byte
  deriving DecidableEq

/-- Source: `usbip_common.h`, `struct usbip_usb_device`, with `SYSFS_PATH_MAX` and
`SYSFS_BUS_ID_SIZE`. -/
@[ext]
structure UsbDevice where
  path : List Byte
  busid : List Byte
  busnum : BitVec 32
  devnum : BitVec 32
  speed : BitVec 32
  idVendor : BitVec 16
  idProduct : BitVec 16
  bcdDevice : BitVec 16
  bDeviceClass : Byte
  bDeviceSubClass : Byte
  bDeviceProtocol : Byte
  bConfigurationValue : Byte
  bNumConfigurations : Byte
  bNumInterfaces : Byte
  length_path : path.length = 256
  length_busid : busid.length = 32
  deriving DecidableEq

/-- Source: `usbip_host_common.h`, `struct usbip_exported_device`; `uinf` is allocated for
`bNumInterfaces`. -/
structure UsbipExportedDevice where
  udev : UsbDevice
  uinf : List UsbInterface
  length_uinf : uinf.length = udev.bNumInterfaces.toNat
  deriving DecidableEq

def byteAt (offset : Nat) (b : List Byte) : Byte := b.getD offset 0

def UsbInterface.bytes (u : UsbInterface) : List Byte :=
  [u.bInterfaceClass, u.bInterfaceSubClass, u.bInterfaceProtocol, u.bInterfaceNumber]

def UsbInterface.ofBytes (b : List Byte) : UsbInterface :=
  ⟨byteAt 0 b, byteAt 1 b, byteAt 2 b, byteAt 3 b⟩

/-- Source: `usbip_network.c`, `usbip_net_pack_usb_interface`. -/
def usbipNetPackUsbInterface (_pack : Bool) (u : UsbInterface) : UsbInterface := u

/-- The device as it lies in the memory of a host. -/
def UsbDevice.bytes (e : Endian) (d : UsbDevice) : List Byte :=
  d.path ++ d.busid ++
    (wordBytes e d.busnum ++ wordBytes e d.devnum ++ wordBytes e d.speed ++
      halfBytes e d.idVendor ++ halfBytes e d.idProduct ++ halfBytes e d.bcdDevice ++
      [d.bDeviceClass, d.bDeviceSubClass, d.bDeviceProtocol, d.bConfigurationValue,
        d.bNumConfigurations, d.bNumInterfaces])

/-- The device that has these bytes in the memory of a host. -/
def UsbDevice.ofBytes (e : Endian) (b : {b : List Byte // b.length = 312}) : UsbDevice where
  path := slice 0 256 b.1
  busid := slice 256 32 b.1
  busnum := wordAt e 288 b.1
  devnum := wordAt e 292 b.1
  speed := wordAt e 296 b.1
  idVendor := halfAt e 300 b.1
  idProduct := halfAt e 302 b.1
  bcdDevice := halfAt e 304 b.1
  bDeviceClass := byteAt 306 b.1
  bDeviceSubClass := byteAt 307 b.1
  bDeviceProtocol := byteAt 308 b.1
  bConfigurationValue := byteAt 309 b.1
  bNumConfigurations := byteAt 310 b.1
  bNumInterfaces := byteAt 311 b.1
  length_path := length_slice (by rw [b.2]; decide)
  length_busid := length_slice (by rw [b.2]; decide)

/-- Source: `usbip_network.c`, `usbip_net_pack_usb_device`. -/
def usbipNetPackUsbDevice (e : Endian) (pack : Bool) (d : UsbDevice) : UsbDevice :=
  { d with
    busnum := usbipNetPackUint32T e pack d.busnum
    devnum := usbipNetPackUint32T e pack d.devnum
    speed := usbipNetPackUint32T e pack d.speed
    idVendor := usbipNetPackUint16T e pack d.idVendor
    idProduct := usbipNetPackUint16T e pack d.idProduct
    bcdDevice := usbipNetPackUint16T e pack d.bcdDevice }

/-! ## The two programs -/

/-- The body of the outer loop of `send_reply_devlist`.
Source: `usbipd_dev.c`, `send_reply_devlist`. -/
def sendExportedDevice (e : Endian) (edev : UsbipExportedDevice) : Program UsbipSock PUnit := do
  usbipNetSend ((usbipNetPackUsbDevice e true edev.udev).bytes e)
  edev.uinf.forM fun uinf => usbipNetSend (usbipNetPackUsbInterface true uinf).bytes

/-- Source: `usbipd_dev.c`, `send_reply_devlist`. -/
def sendReplyDevlist (e : Endian) (edevs : List UsbipExportedDevice) : Program UsbipSock PUnit := do
  usbipNetSendOpCommon e OP_REP_DEVLIST ST_OK
  usbipNetSend (wordBytes e (usbipNetPackUint32T e true (BitVec.ofNat 32 edevs.length)))
  edevs.forM (sendExportedDevice e)

/-- The body of the inner loop of `get_importable_devices`.
Source: `usbip_list.c`, `get_importable_devices`. -/
def recvInterface : Program UsbipSock UsbInterface := do
  let b ← usbipNetRecv 4
  pure (usbipNetPackUsbInterface false (UsbInterface.ofBytes b.1))

/-- The body of the outer loop of `get_importable_devices`.
Source: `usbip_list.c`, `get_importable_devices`. -/
def recvExportedDevice (e : Endian) : Program UsbipSock (UsbDevice × List UsbInterface) := do
  let b ← usbipNetRecv 312
  let udev := usbipNetPackUsbDevice e false (UsbDevice.ofBytes e b)
  let uinf ← times recvInterface udev.bNumInterfaces.toNat
  pure (udev, uinf)

/-- What `get_importable_devices` does after its request.
Source: `usbip_list.c`, `get_importable_devices`. -/
def recvReplyDevlist (e : Endian) : Program UsbipSock (List (UsbDevice × List UsbInterface)) := do
  let _ ← usbipNetRecvOpCommon e (OP_REP_DEVLIST.setWidth 16)
  let b ← usbipNetRecv 4
  let ndev := usbipNetPackUint32T e false (wordOf e b.1)
  if ndev = 0 then pure []
  else times (recvExportedDevice e) ndev.toNat

/-- The devices and interfaces that are printed.
Source: `usbip_list.c`, `get_importable_devices`. -/
def getImportableDevices (e : Endian) :
    Program UsbipSock (List (UsbDevice × List UsbInterface)) := do
  usbipNetSendOpCommon e OP_REQ_DEVLIST 0
  recvReplyDevlist e

/-! ## The reply on the wire -/

def UsbDevice.wire (d : UsbDevice) : List Byte := d.bytes .big

def UsbipExportedDevice.wire (d : UsbipExportedDevice) : List Byte :=
  d.udev.wire ++ d.uinf.flatMap UsbInterface.bytes

/-- The reply to OP_REQ_DEVLIST. -/
def devlistWire (edevs : List UsbipExportedDevice) : List Byte :=
  OpCommon.wire ⟨USBIP_VERSION, OP_REP_DEVLIST.setWidth 16, ST_OK⟩ ++
    (be32Bytes (BitVec.ofNat 32 edevs.length) ++ edevs.flatMap UsbipExportedDevice.wire)

/-- A packed device is its wire format. -/
lemma UsbDevice.bytes_pack (e : Endian) (d : UsbDevice) :
    (usbipNetPackUsbDevice e true d).bytes e = d.wire := by
  simp only [UsbDevice.bytes, usbipNetPackUsbDevice, halfBytes_pack, wordBytes_pack]
  rfl

/-- What follows the two strings. -/
def UsbDevice.wireTail (d : UsbDevice) : List Byte :=
  be32Bytes d.busnum ++ be32Bytes d.devnum ++ be32Bytes d.speed ++ be16Bytes d.idVendor ++
    be16Bytes d.idProduct ++ be16Bytes d.bcdDevice ++
    [d.bDeviceClass, d.bDeviceSubClass, d.bDeviceProtocol, d.bConfigurationValue,
      d.bNumConfigurations, d.bNumInterfaces]

/-- A device takes 312 bytes. -/
lemma UsbDevice.length_wire (d : UsbDevice) : d.wire.length = 312 := by
  show (d.path ++ d.busid ++ _).length = 312
  rw [List.length_append, List.length_append, d.length_path, d.length_busid]
  rfl

/-- A device is read from its wire format. -/
lemma UsbDevice.unpack_wire (e : Endian) (d : UsbDevice) :
    usbipNetPackUsbDevice e false (UsbDevice.ofBytes e ⟨d.wire, d.length_wire⟩) = d := by
  have hpath : slice 0 256 d.wire = d.path := by
    show (d.path ++ d.busid ++ d.wireTail).take 256 = d.path
    rw [List.append_assoc, List.take_left' d.length_path]
  have hbusid : slice 256 32 d.wire = d.busid := by
    show slice (256 + 0) 32 (d.path ++ d.busid ++ d.wireTail) = d.busid
    rw [List.append_assoc, slice_append_right d.length_path]
    exact List.take_left' d.length_busid
  have htail : ∀ offset n, slice (288 + offset) n d.wire = slice offset n d.wireTail := by
    intro offset n
    refine slice_append_right ?_ offset n d.wireTail
    rw [List.length_append, d.length_path, d.length_busid]
  have hbyte : ∀ offset, byteAt (288 + offset) d.wire = byteAt offset d.wireTail := by
    intro offset
    have hhead : (d.path ++ d.busid).length = 288 := by
      rw [List.length_append, d.length_path, d.length_busid]
    show (d.path ++ d.busid ++ d.wireTail).getD (288 + offset) 0 = _
    rw [List.getD_append_right _ _ _ _ (by omega), hhead, Nat.add_sub_cancel_left]
    rfl
  have hword : ∀ offset x, slice offset 4 d.wireTail = be32Bytes x →
      usbipNetPackUint32T e false (wordAt e (288 + offset) d.wire) = x := by
    intro offset x hx
    rw [wordAt, htail, hx, unpack_wordOf]
  have hhalf : ∀ offset x, slice offset 2 d.wireTail = be16Bytes x →
      usbipNetPackUint16T e false (halfAt e (288 + offset) d.wire) = x := by
    intro offset x hx
    rw [halfAt, htail, hx, unpack_halfOf]
  exact UsbDevice.ext hpath hbusid (hword 0 _ rfl) (hword 4 _ rfl) (hword 8 _ rfl)
    (hhalf 12 _ rfl) (hhalf 14 _ rfl) (hhalf 16 _ rfl) (hbyte 18) (hbyte 19) (hbyte 20)
    (hbyte 21) (hbyte 22) (hbyte 23)

/-! ## The server -/

/-- A device is written with its interfaces. -/
lemma writes_sendExportedDevice (e : Endian) (edev : UsbipExportedDevice) :
    Writes UsbipSock.sent (sendExportedDevice e edev) edev.wire := by
  rw [sendExportedDevice, UsbDevice.bytes_pack]
  exact (writes_usbipNetSend edev.udev.wire).bind (.forM fun u _ => writes_usbipNetSend u.bytes)

/-- What the server writes does not depend on its byte order. -/
lemma writes_sendReplyDevlist (e : Endian) (edevs : List UsbipExportedDevice) :
    Writes UsbipSock.sent (sendReplyDevlist e edevs) (devlistWire edevs) := by
  rw [sendReplyDevlist, wordBytes_pack]
  exact (writes_sendOpCommon e OP_REP_DEVLIST ST_OK).bind
    ((writes_usbipNetSend _).bind (.forM fun d _ => writes_sendExportedDevice e d))

/-- The socket needs the room of a device and its interfaces. -/
lemma completes_sendExportedDevice (e : Endian) (edev : UsbipExportedDevice) :
    Completes UsbipSock.room (sendExportedDevice e edev) edev.wire.length := by
  rw [sendExportedDevice, UsbDevice.bytes_pack, UsbipExportedDevice.wire, List.length_append]
  exact (completes_usbipNetSend _).bind (.forM fun u _ => completes_usbipNetSend u.bytes)

/-- A transport that takes at least one byte at each call takes the whole reply. -/
lemma completes_sendReplyDevlist (e : Endian) (edevs : List UsbipExportedDevice) :
    Completes UsbipSock.room (sendReplyDevlist e edevs) (devlistWire edevs).length := by
  rw [sendReplyDevlist, wordBytes_pack, devlistWire, List.length_append, List.length_append]
  exact (completes_sendOpCommon e OP_REP_DEVLIST ST_OK).bind
    ((completes_usbipNetSend _).bind (.forM fun d _ => completes_sendExportedDevice e d))

/-! ## The client -/

/-- An interface is read from its bytes. -/
lemma decodes_recvInterface (u : UsbInterface) :
    Decodes UsbipSock.avail recvInterface u.bytes u :=
  (decodes_usbipNetRecv ⟨u.bytes, rfl⟩).map fun b => UsbInterface.ofBytes b.1

/-- The client takes the number of interfaces from the device that it has just read. -/
lemma decodes_recvExportedDevice (e : Endian) (edev : UsbipExportedDevice) :
    Decodes UsbipSock.avail (recvExportedDevice e) edev.wire (edev.udev, edev.uinf) := by
  refine (decodes_usbipNetRecv ⟨edev.udev.wire, edev.udev.length_wire⟩).bind ?_
  rw [UsbDevice.unpack_wire]
  dsimp only
  rw [← edev.length_uinf]
  have huinf : Decodes UsbipSock.avail (times recvInterface edev.uinf.length)
      (edev.uinf.flatMap UsbInterface.bytes) (edev.uinf.map id) :=
    Decodes.times fun u _ => decodes_recvInterface u
  rw [List.map_id] at huinf
  exact huinf.map fun uinf => (edev.udev, uinf)

/-- The client takes exactly one reply, however it is split, and makes of it what the server has
made it of. -/
lemma decodes_recvReplyDevlist (e : Endian) {edevs : List UsbipExportedDevice}
    (hndevs : edevs.length < 2 ^ 32) :
    Decodes UsbipSock.avail (recvReplyDevlist e) (devlistWire edevs)
      (edevs.map fun d => (d.udev, d.uinf)) := by
  refine (decodes_recvOpCommon e _).bind ((decodes_usbipNetRecv ⟨be32Bytes _, rfl⟩).bind ?_)
  rw [unpack_wordOf]
  dsimp only
  have hlength : (BitVec.ofNat 32 edevs.length).toNat = edevs.length := by
    rw [BitVec.toNat_ofNat, Nat.mod_eq_of_lt hndevs]
  by_cases hzero : BitVec.ofNat 32 edevs.length = 0
  · rw [hzero] at hlength
    obtain rfl : edevs = [] := List.length_eq_zero_iff.mp hlength.symm
    exact Decodes.pure []
  · rw [if_neg hzero, hlength]
    exact Decodes.times fun d _ => decodes_recvExportedDevice e d

/-! ## Both together -/

/-- The reply is the same bytes from every server, which it writes out on every transport that
takes a byte at each call, and every client to which they come, in pieces of any lengths, finds
in them the devices and the interfaces that the server has, and takes nothing of what follows. -/
theorem devlist_round_trip (edevs : List UsbipExportedDevice) (hndevs : edevs.length < 2 ^ 32) :
    ∃ w : List Byte,
      (∀ (e : Endian) (s s' : UsbipSock),
        (sendReplyDevlist e edevs).run s = some (PUnit.unit, s') → s'.sent = s.sent ++ w) ∧
      (∀ (e : Endian) (s : UsbipSock), w.length ≤ s.room →
        ∃ s', (sendReplyDevlist e edevs).run s = some (PUnit.unit, s')) ∧
      ∀ (e : Endian) (s : UsbipSock) (rest : List Byte), 8 ≤ s.room →
        available s.recvs = w ++ rest →
        ∃ s', (getImportableDevices e).run s =
            some (edevs.map fun d => (d.udev, d.uinf), s') ∧ available s'.recvs = rest := by
  refine ⟨devlistWire edevs, fun e => writes_sendReplyDevlist e edevs, ?_, ?_⟩
  · intro e s hroom
    obtain ⟨s', hrun, -⟩ := completes_sendReplyDevlist e edevs s hroom
    exact ⟨s', hrun⟩
  · intro e s rest hroom havail
    obtain ⟨t, hrun, -⟩ := completes_sendOpCommon e OP_REQ_DEVLIST 0 s hroom
    have ht : t.avail = devlistWire edevs ++ rest := by
      rw [← havail, UsbipSock.avail, recvs_sendOpCommon hrun]
    obtain ⟨s', hrun', hs'⟩ := decodes_recvReplyDevlist e hndevs t rest ht
    refine ⟨s', ?_, hs'⟩
    rw [getImportableDevices, StateT.run_bind, hrun]
    exact hrun'

/-- A camera with one interface. -/
def camera : UsbipExportedDevice where
  udev :=
    { path := .replicate 256 0x2f, busid := .replicate 32 0x31, busnum := 3, devnum := 2,
      speed := 3, idVendor := 0x1d6b, idProduct := 0x0104, bcdDevice := 0x0100,
      bDeviceClass := 0, bDeviceSubClass := 0, bDeviceProtocol := 0, bConfigurationValue := 1,
      bNumConfigurations := 1, bNumInterfaces := 1, length_path := List.length_replicate,
      length_busid := List.length_replicate }
  uinf := [⟨14, 1, 0, 0⟩]
  length_uinf := rfl

/-- A disk with two interfaces. -/
def disk : UsbipExportedDevice where
  udev :=
    { path := .replicate 256 0x2f, busid := .replicate 32 0x32, busnum := 1, devnum := 4,
      speed := 5, idVendor := 0x0951, idProduct := 0x1666, bcdDevice := 0x0110,
      bDeviceClass := 0, bDeviceSubClass := 0, bDeviceProtocol := 0, bConfigurationValue := 1,
      bNumConfigurations := 1, bNumInterfaces := 2, length_path := List.length_replicate,
      length_busid := List.length_replicate }
  uinf := [⟨8, 6, 0x50, 0⟩, ⟨8, 6, 0x62, 1⟩]
  length_uinf := rfl

/-- A camera with an interface and a disk with two. -/
theorem devlist_round_trip_two :
    ∃ w : List Byte,
      (∀ (e : Endian) (s s' : UsbipSock),
        (sendReplyDevlist e [camera, disk]).run s = some (PUnit.unit, s') →
          s'.sent = s.sent ++ w) ∧
      (∀ (e : Endian) (s : UsbipSock), w.length ≤ s.room →
        ∃ s', (sendReplyDevlist e [camera, disk]).run s = some (PUnit.unit, s')) ∧
      ∀ (e : Endian) (s : UsbipSock) (rest : List Byte), 8 ≤ s.room →
        available s.recvs = w ++ rest →
        ∃ s', (getImportableDevices e).run s =
            some ([(camera.udev, camera.uinf), (disk.udev, disk.uinf)], s') ∧
          available s'.recvs = rest :=
  devlist_round_trip [camera, disk] (by decide)

end Usbip.Tools
