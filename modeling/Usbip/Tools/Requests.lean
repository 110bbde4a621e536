import Usbip.Core.Dialogue
import Usbip.Tools.ExportedDevices

/-!
# The requests of the tools

`usbip list`, `attach`, `connect` and `disconnect` open a connection, send one request and wait for
the reply; `usbipd`, which has devices, and `usbipa`, which uses them, take one request from a
connection and answer it.  All of them are written here as the programs that they are, with every
return, over what they send and receive and what they call on their own host.
-/

namespace Usbip.Tools.Requests

open Usbip.Core Usbip.Common

/-! ## Calls -/

/-- What the tools call on their own host. -/
inductive HostCall
  | refreshDeviceList
  | freeDeviceList
  | exportDevice (edev : UsbipExportedDevice)
  | tryTransfer (edev : UsbipExportedDevice)
  | hasTransferred
  | driverOpen
  | driverClose
  | bindDevice (busid : List Byte)
  | unbindDevice (busid : List Byte)
  | vhciDriverOpen
  | vhciDriverClose
  | vhciGetFreePort
  | vhciAttachDevice (port : Int) (busnum devnum : Byte) (speed : BitVec 32)
  | vhciDetachDevice (port : Int)
  | vhciFindDevice (host busid : List Byte)
  | vhciCreateRecord (host port busid : List Byte) (rhport : Int)
  | vhciDeleteRecord (rhport : Int)
  | uxTryTransfer
  | uxSetup
  | uxCleanup
  | connOpen (host port : List Byte)
  | connClose
  /-- The heading of a list, or what stands in its place when it is empty. -/
  | printHeading (host : List Byte) (empty : Bool)
  | printDevice (udev : UsbDevice)
  | printInterface (j : Nat) (uintf : UsbInterface)
  /-- The line behind a device. -/
  | printEnd

/-- What comes back: the list with the result of refreshing it, `errno` with that of attaching,
whether there is a connection, nothing from a `printf`, and otherwise what the function returns. -/
abbrev HostCall.Answer : HostCall → Type
  | refreshDeviceList => Int × List UsbipExportedDevice
  | vhciAttachDevice _ _ _ _ => Int × Nat
  | connOpen _ _ => Bool
  | freeDeviceList | driverClose | vhciDriverClose | uxSetup | uxCleanup | connClose => Unit
  | printHeading _ _ | printDevice _ | printInterface _ _ | printEnd => Unit
  | _ => Int

/-- A program of the tools. -/
abbrev Tool := Proc Byte HostCall.Answer

def call (l : HostCall) : Tool l.Answer := .host l .done

/-- Whether everything was sent. -/
def usbipNetSend (b : List Byte) : Tool Bool := .send b .done

def usbipNetRecv (n : Nat) : Tool (Option {b : List Byte // b.length = n}) := .recv n .done

/-- Source: `usbip_network.c`, `usbip_net_send_op_common`. -/
def usbipNetSendOpCommon (e : Endian) (code status : BitVec 32) : Tool Bool :=
  usbipNetSend ((packOpCommon e true ⟨USBIP_VERSION, code.setWidth 16, status⟩).bytes e)

/-- What `usbip_net_recv_op_common` makes of a header, when `code` is expected.
Source: `usbip_network.c`, `usbip_net_recv_op_common`. -/
def opCode (e : Endian) (code : BitVec 16) (b : List Byte) : Option (BitVec 16) :=
  let op := packOpCommon e false (OpCommon.ofBytes e b)
  if op.version ≠ USBIP_VERSION then none
  else if code ≠ OP_UNSPEC ∧ op.code ≠ code then none
  else if op.status ≠ ST_OK then none
  else some op.code

/-- Source: `usbip_network.c`, `usbip_net_recv_op_common`. -/
def usbipNetRecvOpCommon (e : Endian) (code : BitVec 16) : Tool (Option (BitVec 16)) := do
  let some b ← usbipNetRecv 8 | return none
  return opCode e code b.1

/-! ## Attaching -/

def OP_REQ_IMPORT : BitVec 32 := 0x8003
def OP_REQ_DEVINFO : BitVec 32 := 0x8002
def OP_REQ_CRYPKEY : BitVec 32 := 0x8004
def ST_NO_FREE_PORT : BitVec 32 := 2
def ST_DEVICE_NOT_FOUND : BitVec 32 := 3
def EBUSY : Nat := 16

/-- The part of a string that the functions of C see. -/
def cString (s : List Byte) : List Byte := s.takeWhile (· ≠ 0)

/-- Source: `<string.h>`, `strncpy`. -/
def strncpy (s : List Byte) (n : Nat) : List Byte :=
  (cString s).take n ++ .replicate (n - (cString s).length) 0

/-- How the loop over the free ports ends. -/
inductive Tried
  | noFreePort
  | refused
  | attached (port : Int)
  /-- It is still at it. -/
  | trying

/-- The loop of `import_device`, for as many rounds; the numbers are passed as bytes.
Source: `usbip_attach.c` and `usbipd_app.c`, `import_device`. -/
def tryFreePorts (udev : UsbDevice) : Nat → Tool Tried
  | 0 => return .trying
  | tries + 1 => do
      let portNr : Int ← call .vhciGetFreePort
      if portNr < 0 then return .noFreePort
      else
        let attached : Int × Nat ← call (.vhciAttachDevice portNr (udev.busnum.setWidth 8)
          (udev.devnum.setWidth 8) udev.speed)
        if 0 ≤ attached.1 then return .attached portNr
        else if attached.2 ≠ EBUSY then return .refused
        else tryFreePorts udev tries

/-- Source: `usbip_attach.c`, `import_device`. -/
def importDevice (tries : Nat) (host port busid : List Byte) (udev : UsbDevice) :
    Tool (Option Int) := do
  let rc : Int ← call .vhciDriverOpen
  if rc < 0 then return some (-1)
  else
    match ← tryFreePorts udev tries with
    | .trying => return none
    | .noFreePort | .refused =>
        call .vhciDriverClose
        return some (-1)
    | .attached portNr =>
        let rc : Int ← call (.vhciCreateRecord host port busid portNr)
        if rc < 0 then
          let _ ← call (.vhciDetachDevice portNr)
          call .vhciDriverClose
          return some (-1)
        else
          call .vhciDriverClose
          return some 0

/-- Source: `usbip_attach.c`, `query_import_device`. -/
def queryImportDevice (e : Endian) (tries : Nat) (host port busid : List Byte) :
    Tool (Option Int) := do
  unless ← usbipNetSendOpCommon e OP_REQ_IMPORT 0 do return some (-1)
  unless ← usbipNetSend (strncpy busid 31 ++ [0]) do return some (-1)
  let some _ ← usbipNetRecvOpCommon e (Exported.OP_REP_IMPORT.setWidth 16) | return some (-1)
  let some b ← usbipNetRecv 312 | return some (-1)
  let udev := usbipNetPackUsbDevice e false (UsbDevice.ofBytes e b)
  if Exported.strncmpEq udev.busid busid 32 then importDevice tries host port busid udev
  else return some (-1)

/-- Source: `usbip_common.h`, `usbip_conn_open`. -/
def usbipConnOpen (host port : List Byte) : Tool Bool := do
  let connected : Bool ← call (.connOpen host port)
  if connected then
    call .uxSetup
    return true
  else return false

/-- Source: `usbip_common.h`, `usbip_conn_close`. -/
def usbipConnClose : Tool Unit := do
  call .connClose
  call .uxCleanup

/-- Source: `usbip_attach.c`, `usbip_attach_device`. -/
def usbipAttachDevice (e : Endian) (tries : Nat) (usbipPortString host port busid : List Byte) :
    Tool (Option Int) := do
  unless ← usbipConnOpen host usbipPortString do return some (-1)
  let some rc ← queryImportDevice e tries host port busid | return none
  if rc < 0 then
    usbipConnClose
    return some (-1)
  else
    let rc : Int ← call .uxTryTransfer
    usbipConnClose
    return some (if rc < 0 then -1 else 0)

/-! ## Listing -/

/-- The body of a loop that returns when something cannot be sent. -/
def sendAll {α : Type} (send : α → Tool Bool) : List α → Tool Bool
  | [] => return true
  | x :: xs => do
      if ← send x then sendAll send xs
      else return false

/-- A loop of `n` rounds from round `i` on, that ends when one fails. -/
def repeatAll (round : Nat → Tool Bool) : Nat → Nat → Tool Bool
  | 0, _ => return true
  | n + 1, i => do
      if ← round i then repeatAll round n (i + 1)
      else return false

/-- A round of the inner loop of `get_importable_devices`. -/
def listInterface (j : Nat) : Tool Bool := do
  let some b ← usbipNetRecv 4 | return false
  call (.printInterface j (usbipNetPackUsbInterface false (UsbInterface.ofBytes b.1)))
  return true

/-- A round of the outer loop of `get_importable_devices`. -/
def listDevice (e : Endian) : Tool Bool := do
  let some b ← usbipNetRecv 312 | return false
  let udev := usbipNetPackUsbDevice e false (UsbDevice.ofBytes e b)
  call (.printDevice udev)
  if ← repeatAll listInterface udev.bNumInterfaces.toNat 0 then
    call .printEnd
    return true
  else return false

/-- Each device is printed as it is received, before what follows it is.
Source: `usbip_list.c`, `get_importable_devices`. -/
def getImportableDevices (e : Endian) (host : List Byte) : Tool Int := do
  unless ← usbipNetSendOpCommon e OP_REQ_DEVLIST 0 do return -1
  let some _ ← usbipNetRecvOpCommon e (OP_REP_DEVLIST.setWidth 16) | return -1
  let some b ← usbipNetRecv 4 | return -1
  let ndev := usbipNetPackUint32T e false (wordOf e b.1)
  call (.printHeading host (ndev = 0))
  if ← repeatAll (fun _ => listDevice e) ndev.toNat 0 then return 0
  else return -1

/-- Source: `usbip_list.c`, `usbip_list_importable_devices`. -/
def usbipListImportableDevices (e : Endian) (host port : List Byte) : Tool Int := do
  unless ← usbipConnOpen host port do return -1
  let rc ← getImportableDevices e host
  usbipConnClose
  return if rc < 0 then -1 else 0

/-! ## Connecting and disconnecting -/

/-- The request is packed as if it had been received.
Source: `usbip_connect.c`, `send_export_device`, and `usbip_disconnect.c`,
`send_unexport_device`. -/
def sendRequest (e : Endian) (req rep : BitVec 32) (udev : UsbDevice) : Tool Bool := do
  unless ← usbipNetSendOpCommon e req 0 do return false
  unless ← usbipNetSend ((usbipNetPackUsbDevice e false udev).bytes e) do return false
  let some _ ← usbipNetRecvOpCommon e (rep.setWidth 16) | return false
  return true

/-- Source: `usbip_host_common.c`, `usbip_generic_get_device`, with `SYSFS_BUS_ID_SIZE`. -/
def usbipGetDevice (edevs : List UsbipExportedDevice) (busid : List Byte) :
    Option UsbipExportedDevice :=
  edevs.find? fun edev => Exported.strncmpEq busid edev.udev.busid 32

/-- What `export_device` and `unexport_device` have in common: the device that is sent, and what is
done with it. -/
def withDevice (busid : List Byte) (fails : Int → Bool) (work : UsbipExportedDevice → Tool Bool) :
    Tool Int := do
  let rc : Int ← call .driverOpen
  if fails rc then return -1
  else
    let edevs : Int × List UsbipExportedDevice ← call .refreshDeviceList
    if edevs.1 < 0 then
      call .driverClose
      return -1
    else
      match usbipGetDevice edevs.2 busid with
      | none =>
          call .freeDeviceList
          call .driverClose
          return -1
      | some edev =>
          let ok ← work edev
          call .freeDeviceList
          call .driverClose
          return if ok then 0 else -1

/-- Source: `usbip_connect.c`, `export_device`. -/
def exportDevice (e : Endian) (busid : List Byte) : Tool Int :=
  withDevice busid (fun rc => rc ≠ 0) fun edev => do
    unless ← sendRequest e Exported.OP_REQ_EXPORT Exported.OP_REP_EXPORT edev.udev do
      return false
    let rc : Int ← call (.exportDevice edev)
    if rc < 0 then return false
    else
      let rc : Int ← call (.tryTransfer edev)
      return decide (0 ≤ rc)

/-- Source: `usbip_disconnect.c`, `unexport_device`. -/
def unexportDevice (e : Endian) (busid : List Byte) : Tool Int :=
  withDevice busid (fun rc => rc < 0) fun edev =>
    sendRequest e Exported.OP_REQ_UNEXPORT Exported.OP_REP_UNEXPORT edev.udev

/-- Source: `usbip_connect.c`, `usbip_connect_device`. -/
def usbipConnectDevice (e : Endian) (host port busid : List Byte) : Tool Int := do
  let rc : Int ← call (.bindDevice busid)
  if rc ≠ 0 then return -1
  else if ← usbipConnOpen host port then
    let rc ← exportDevice e busid
    if rc < 0 then
      usbipConnClose
      let _ ← call (.unbindDevice busid)
      return -1
    else
      let transferred : Int ← call .hasTransferred
      if transferred ≠ 0 then
        let _ ← call (.unbindDevice busid)
      usbipConnClose
      return 0
  else
    let _ ← call (.unbindDevice busid)
    return -1

/-- Source: `usbip_disconnect.c`, `usbip_disconnect_device`. -/
def usbipDisconnectDevice (e : Endian) (host port busid : List Byte) : Tool Int := do
  if ← usbipConnOpen host port then
    let rc ← unexportDevice e busid
    usbipConnClose
    if rc < 0 then return -1
    else
      let transferred : Int ← call .hasTransferred
      if transferred = 0 then
        let rc : Int ← call (.unbindDevice busid)
        return if rc ≠ 0 then -1 else 0
      else return 0
  else return -1

/-! ## The daemon of the devices -/

/-- Source: `usbipd_dev.c`, `recv_request_import`, from the search for the device. -/
def replyImport (e : Endian) (edev : Option UsbipExportedDevice) : Tool Int := do
  let exported ← (match edev with
    | none => return none
    | some edev => do
        let rc : Int ← call (.exportDevice edev)
        return if rc < 0 then none else some edev)
  match exported with
  | none =>
      let _ ← usbipNetSendOpCommon e Exported.OP_REP_IMPORT Exported.ST_NA
      return -1
  | some edev =>
      unless ← usbipNetSendOpCommon e Exported.OP_REP_IMPORT ST_OK do return -1
      unless ← usbipNetSend ((usbipNetPackUsbDevice e true edev.udev).bytes e) do return -1
      let rc : Int ← call (.tryTransfer edev)
      return if rc < 0 then -1 else 0

/-- Source: `usbipd_dev.c`, `recv_request_import`. -/
def recvRequestImport (e : Endian) : Tool (Option Int) := do
  let edevs : Int × List UsbipExportedDevice ← call .refreshDeviceList
  if edevs.1 < 0 then return some (-1)
  else
    let rc ← (do
      let some req ← usbipNetRecv 32 | return -1
      replyImport e (usbipGetDevice edevs.2 req.1))
    call .freeDeviceList
    return some rc

/-- The body of the outer loop of `send_reply_devlist`. -/
def sendExportedDevice (e : Endian) (edev : UsbipExportedDevice) : Tool Bool := do
  unless ← usbipNetSend ((usbipNetPackUsbDevice e true edev.udev).bytes e) do return false
  sendAll (fun uinf => usbipNetSend (usbipNetPackUsbInterface true uinf).bytes) edev.uinf

/-- Source: `usbipd_dev.c`, `recv_request_devlist` and `send_reply_devlist`. -/
def recvRequestDevlist (e : Endian) : Tool (Option Int) := do
  let edevs : Int × List UsbipExportedDevice ← call .refreshDeviceList
  if edevs.1 < 0 then return some (-1)
  else
    let sent ← (do
      unless ← usbipNetSendOpCommon e OP_REP_DEVLIST ST_OK do return false
      unless ← usbipNetSend (wordBytes e
          (usbipNetPackUint32T e true (BitVec.ofNat 32 edevs.2.length))) do return false
      sendAll (sendExportedDevice e) edevs.2)
    call .freeDeviceList
    return some (if sent then 0 else -1)

/-! ## The daemon of the applications -/

/-- Source: `usbipd_app.c`, `import_device`. -/
def importDeviceStatus (tries : Nat) (host port busid : List Byte) (udev : UsbDevice) :
    Tool (Option (BitVec 32)) := do
  match ← tryFreePorts udev tries with
  | .trying => return none
  | .noFreePort => return some ST_NO_FREE_PORT
  | .refused => return some Exported.ST_NA
  | .attached portNr =>
      let rc : Int ← call (.vhciCreateRecord host port busid portNr)
      if rc < 0 then
        let _ ← call (.vhciDetachDevice portNr)
        return some Exported.ST_NA
      else return some ST_OK

/-- The reply is sent, and the transfer tried, whether or not the device is imported.
Source: `usbipd_app.c`, `recv_request_export`. -/
def recvRequestExport (e : Endian) (tries : Nat) (host port : List Byte) : Tool (Option Int) := do
  let some b ← usbipNetRecv 312 | return some (-1)
  let udev := usbipNetPackUsbDevice e false (UsbDevice.ofBytes e b)
  let some status ← importDeviceStatus tries host port udev.busid udev | return none
  unless ← usbipNetSendOpCommon e Exported.OP_REP_EXPORT status do return some (-1)
  let rc : Int ← call .uxTryTransfer
  return some (if rc < 0 then -1 else 0)

/-- Source: `usbipd_app.c`, `unimport_device`. -/
def unimportDevice (host : List Byte) (udev : UsbDevice) : Tool (BitVec 32) := do
  let portNr : Int ← call (.vhciFindDevice host udev.busid)
  if portNr < 0 then return ST_DEVICE_NOT_FOUND
  else
    let rc : Int ← call (.vhciDetachDevice portNr)
    if rc < 0 then return Exported.ST_NA
    else
      let _ ← call (.vhciDeleteRecord portNr)
      return ST_OK

/-- Source: `usbipd_app.c`, `recv_request_unexport`. -/
def recvRequestUnexport (e : Endian) (host : List Byte) : Tool (Option Int) := do
  let some b ← usbipNetRecv 312 | return some (-1)
  let udev := usbipNetPackUsbDevice e false (UsbDevice.ofBytes e b)
  let status ← unimportDevice host udev
  if ← usbipNetSendOpCommon e Exported.OP_REP_UNEXPORT status then return some 0
  else return some (-1)

/-! ## What the daemons do with a request -/

/-- Source: `usbipd.h`, `struct usbipd_recv_pdu_op`. -/
structure UsbipdRecvPduOp where
  code : BitVec 16
  proc : Option (List Byte → List Byte → Tool (Option Int))

/-- Source: `usbipd_dev.c`, `usbipd_recv_pdu_ops`. -/
def usbipdOps (e : Endian) : List UsbipdRecvPduOp :=
  [⟨OP_REQ_DEVLIST.setWidth 16, some fun _ _ => recvRequestDevlist e⟩,
    ⟨OP_REQ_IMPORT.setWidth 16, some fun _ _ => recvRequestImport e⟩,
    ⟨OP_REQ_DEVINFO.setWidth 16, none⟩, ⟨OP_REQ_CRYPKEY.setWidth 16, none⟩, ⟨OP_UNSPEC, none⟩]

/-- Source: `usbipd_app.c`, `usbipd_recv_pdu_ops`. -/
def usbipaOps (e : Endian) (tries : Nat) : List UsbipdRecvPduOp :=
  [⟨Exported.OP_REQ_EXPORT.setWidth 16, some (recvRequestExport e tries)⟩,
    ⟨Exported.OP_REQ_UNEXPORT.setWidth 16, some fun host _ => recvRequestUnexport e host⟩,
    ⟨OP_UNSPEC, none⟩]

/-- The loop over the table stops at its last entry.
Source: `usbipd.c`, `__recv_pdu`. -/
def findOp (ops : List UsbipdRecvPduOp) (code : BitVec 16) : Option UsbipdRecvPduOp :=
  (ops.takeWhile fun op => op.code ≠ OP_UNSPEC).find? fun op => op.code = code

/-- Source: `usbipd.c`, `__recv_pdu`. -/
def recvPdu (e : Endian) (ops : List UsbipdRecvPduOp) (host port : List Byte) :
    Tool (Option Int) := do
  let some code ← usbipNetRecvOpCommon e OP_UNSPEC | return some (-1)
  match findOp ops code with
  | none => return some (-1)
  | some op =>
      match op.proc with
      | none => return some (-1)
      | some proc => proc host port

/-- Source: `usbipd.c`, `usbipd_recv_pdu`. -/
def usbipdRecvPdu (e : Endian) (ops : List UsbipdRecvPduOp) (host port : List Byte) :
    Tool (Option Int) := do
  call .uxSetup
  let ret ← recvPdu e ops host port
  call .uxCleanup
  return ret

/-! ## What the programs do -/

/-- What a program of the tools has done. -/
abbrev Trace := List (Act Byte HostCall.Answer)

/-- A header. -/
def header (code status : BitVec 32) : List Byte :=
  OpCommon.wire ⟨USBIP_VERSION, code.setWidth 16, status⟩

/-- A header takes eight bytes. -/
lemma length_header (code status : BitVec 32) : (header code status).length = 8 := rfl

/-- What a header that was sent is read as. -/
lemma opCode_header (e : Endian) (code : BitVec 16) (req status : BitVec 32) :
    opCode e code (header req status) =
      if code ≠ OP_UNSPEC ∧ req.setWidth 16 ≠ code then none
      else if status ≠ ST_OK then none else some (req.setWidth 16) := by
  rw [opCode, header, OpCommon.unpack_wire]
  rfl

variable {α : Type} {P : Trace → Proc.Place α → Prop} {A : HostCall → Prop}

/-- A call before a program that stays on its host. -/
lemma stays_call {l : HostCall} {f : l.Answer → Tool α} (hl : A l)
    (hf : ∀ r, Proc.Stays (f r) A) : Proc.Stays (call l >>= f) A :=
  Proc.Stays.host hl hf

/-- A call and what follows each answer. -/
lemma spec_call {l : HostCall} {f : l.Answer → Tool α} (h₀ : P [] .goes)
    (hf : ∀ r, Proc.Spec (f r) fun t c => P (.host l r :: t) c) :
    Proc.Spec (call l >>= f) P :=
  Proc.Spec.host h₀ hf

/-- A send that ends whole, and one that breaks within the buffer. -/
lemma spec_usbipNetSend {b : List Byte} {f : Bool → Tool α} (h₀ : P [] .goes)
    (hok : Proc.Spec (f true) fun t c => P (.sent b :: t) c)
    (hfail : ∀ n < b.length, Proc.Spec (f false) fun t c => P (.sent (b.take n) :: t) c) :
    Proc.Spec (usbipNetSend b >>= f) P :=
  Proc.Spec.send h₀ hok hfail

/-- A receive that waits, ends whole or breaks within its bytes. -/
lemma spec_usbipNetRecv {n : Nat} {f : Option {b : List Byte // b.length = n} → Tool α}
    (h₀ : P [] (.waits n)) (hok : ∀ b, Proc.Spec (f (some b)) fun t c => P (.got b.1 :: t) c)
    (hfail : ∀ b : List Byte, b.length < n →
      Proc.Spec (f none) fun t c => P (.got b :: t) c) :
    Proc.Spec (usbipNetRecv n >>= f) P :=
  Proc.Spec.recv h₀ hok hfail

/-- The header is sent whole, or the send breaks within it. -/
lemma spec_usbipNetSendOpCommon {e : Endian} {code status : BitVec 32} {f : Bool → Tool α}
    (h₀ : P [] .goes) (hok : Proc.Spec (f true) fun t c => P (.sent (header code status) :: t) c)
    (hfail : ∀ n < 8, Proc.Spec (f false) fun t c =>
      P (.sent ((header code status).take n) :: t) c) :
    Proc.Spec (usbipNetSendOpCommon e code status >>= f) P := by
  rw [usbipNetSendOpCommon, OpCommon.bytes_pack]
  exact spec_usbipNetSend h₀ hok hfail

/-- A header is received whole, or the receive breaks within it. -/
lemma spec_usbipNetRecvOpCommon {e : Endian} {code : BitVec 16}
    {f : Option (BitVec 16) → Tool α} (h₀ : P [] (.waits 8))
    (hok : ∀ b : List Byte, b.length = 8 →
      Proc.Spec (f (opCode e code b)) fun t c => P (.got b :: t) c)
    (hfail : ∀ b : List Byte, b.length < 8 →
      Proc.Spec (f none) fun t c => P (.got b :: t) c) :
    Proc.Spec (usbipNetRecvOpCommon e code >>= f) P :=
  Proc.Spec.recv h₀ (fun b => hok b.1 b.2) hfail

/-! ## The connection -/

/-- The calls that open and close the connection. -/
def HostCall.IsConn : HostCall → Prop
  | connOpen _ _ | connClose | uxSetup | uxCleanup => True
  | _ => False

/-- Opening the connection calls the host alone. -/
lemma stays_usbipConnOpen (host port : List Byte) :
    (usbipConnOpen host port).Stays HostCall.IsConn := by
  refine stays_call trivial fun connected => ?_
  split
  · exact stays_call trivial fun _ => .done _
  · exact .done _

/-- Closing the connection calls the host alone. -/
lemma stays_usbipConnClose : usbipConnClose.Stays HostCall.IsConn :=
  stays_call trivial fun _ => .host trivial fun _ => .done _

/-! ## The daemons -/

/-- A request that starts with another header is not this one. -/
lemma header_eq {req : BitVec 32} {h b body : List Byte} (hlen : h.length = 8)
    (hgot : h ++ b <+: header req 0 ++ body) : h = header req 0 ∧ b <+: body := by
  obtain ⟨rest, hrest⟩ := hgot
  rw [List.append_assoc] at hrest
  obtain ⟨hh, hb⟩ := List.append_inj hrest hlen
  exact ⟨hh, ⟨rest, hb⟩⟩

/-- The calls around a request. -/
def HostCall.IsUx : HostCall → Prop
  | uxSetup | uxCleanup => True
  | _ => False

/-- What a daemon does, as far as what it reads is this request: nothing, or what the procedure of
the request does. -/
lemma spec_usbipdRecvPdu {e : Endian} {ops : List UsbipdRecvPduOp} {host port body : List Byte}
    {req : BitVec 32} {op : UsbipdRecvPduOp} {proc : List Byte → List Byte → Tool (Option Int)}
    {S : Trace → Prop} (hfind : findOp ops (req.setWidth 16) = some op)
    (hproc : op.proc = some proc)
    (hnothing : ∀ t : Trace, sentBy t = [] → Calls HostCall.IsUx t → S t)
    (haround : ∀ pre t post : Trace, sentBy pre = [] → Calls HostCall.IsUx pre →
      Local HostCall.IsUx post → S t → S (pre ++ t ++ post))
    (hspec : Proc.Spec (proc host port) fun t _ => gotBy t <+: body → S t) :
    (usbipdRecvPdu e ops host port).Spec fun t _ => gotBy t <+: header req 0 ++ body → S t := by
  have hsetup : ∀ t post : Trace, Local HostCall.IsUx post →
      (gotBy t <+: header req 0 ++ body → S t) →
      gotBy (.host .uxSetup () :: (t ++ post)) <+: header req 0 ++ body →
      S (.host .uxSetup () :: (t ++ post)) := by
    intro t post hpost ht hgot
    rw [gotBy_cons, gotBy_append, hpost.gotBy, List.append_nil] at hgot
    simpa using haround [.host .uxSetup ()] t post rfl (by simp [HostCall.IsUx]) hpost (ht hgot)
  rw [usbipdRecvPdu]
  refine spec_call (fun _ => hnothing _ rfl calls_nil) fun _ => ?_
  refine Proc.Spec.bind (P := fun t _ => gotBy t <+: header req 0 ++ body → S t) ?_
    (fun t ht => by simpa using hsetup t [] local_nil ht)
    (fun t n ht => by simpa using hsetup t [] local_nil ht) fun ret t ht =>
      Proc.Spec.mono (show Proc.Stays _ HostCall.IsUx from stays_call trivial fun _ => .done _)
        fun u c ⟨hu, _⟩ => hsetup t u hu ht
  rw [recvPdu]
  refine spec_usbipNetRecvOpCommon (fun _ => hnothing _ rfl calls_nil) (fun h hh => ?_) fun b _ =>
    .done fun _ => hnothing _ rfl (by simp)
  by_cases hreq : h = header req 0
  · subst hreq
    have hcode : opCode e OP_UNSPEC (header req 0) = some (req.setWidth 16) := opCode_header e _ _ _
    rw [hcode]
    dsimp only
    rw [hfind]
    dsimp only
    rw [hproc]
    refine hspec.mono fun t c ht hgot => ?_
    rw [gotBy_cons, Act.into_got] at hgot
    simpa using haround [.got _] t [] rfl (by simp) local_nil (ht (header_eq hh hgot).2)
  · intro t q _ hgot
    rw [gotBy_cons, Act.into_got] at hgot
    exact absurd (header_eq hh hgot).1 hreq

/-! ## When a program is done -/

variable {Q : Trace → α → Prop}

/-- A call and what follows each answer, to its end. -/
lemma ends_call {l : HostCall} {f : l.Answer → Tool α}
    (hf : ∀ r, Proc.Ends (f r) fun t a => Q (.host l r :: t) a) : Proc.Ends (call l >>= f) Q :=
  Proc.Ends.host hf

/-- A send and what follows it, to its end. -/
lemma ends_usbipNetSend {b : List Byte} {f : Bool → Tool α}
    (hok : Proc.Ends (f true) fun t a => Q (.sent b :: t) a)
    (hfail : ∀ n < b.length, Proc.Ends (f false) fun t a => Q (.sent (b.take n) :: t) a) :
    Proc.Ends (usbipNetSend b >>= f) Q :=
  Proc.Ends.send hok hfail

/-- A receive and what follows it, to its end. -/
lemma ends_usbipNetRecv {n : Nat} {f : Option {b : List Byte // b.length = n} → Tool α}
    (hok : ∀ b, Proc.Ends (f (some b)) fun t a => Q (.got b.1 :: t) a)
    (hfail : ∀ b : List Byte, b.length < n → Proc.Ends (f none) fun t a => Q (.got b :: t) a) :
    Proc.Ends (usbipNetRecv n >>= f) Q :=
  Proc.Ends.recv hok hfail

/-- The header and what follows it, to its end. -/
lemma ends_usbipNetSendOpCommon {e : Endian} {code status : BitVec 32} {f : Bool → Tool α}
    (hok : Proc.Ends (f true) fun t a => Q (.sent (header code status) :: t) a)
    (hfail : ∀ n < 8, Proc.Ends (f false) fun t a =>
      Q (.sent ((header code status).take n) :: t) a) :
    Proc.Ends (usbipNetSendOpCommon e code status >>= f) Q := by
  rw [usbipNetSendOpCommon, OpCommon.bytes_pack]
  exact ends_usbipNetSend hok hfail

/-- A received header and what follows it, to its end. -/
lemma ends_usbipNetRecvOpCommon {e : Endian} {code : BitVec 16}
    {f : Option (BitVec 16) → Tool α}
    (hok : ∀ b : List Byte, b.length = 8 →
      Proc.Ends (f (opCode e code b)) fun t a => Q (.got b :: t) a)
    (hfail : ∀ b : List Byte, b.length < 8 →
      Proc.Ends (f none) fun t a => Q (.got b :: t) a) :
    Proc.Ends (usbipNetRecvOpCommon e code >>= f) Q :=
  Proc.Ends.recv (fun b => hok b.1 b.2) hfail

/-! ## When nothing breaks off -/

variable {ans : ∀ l : HostCall, l.Answer} {t : Trace} {q : Tool α}

/-- A call with its answer, as a run. -/
lemma performs_call {l : HostCall} {f : l.Answer → Tool α}
    (h : Proc.Performs ans (f (ans l)) t q) :
    Proc.Performs ans (call l >>= f) (.host l (ans l) :: t) q :=
  .cons (.host l _) h

/-- A send that succeeds, as a run. -/
lemma performs_usbipNetSend {b : List Byte} {f : Bool → Tool α}
    (h : Proc.Performs ans (f true) t q) :
    Proc.Performs ans (usbipNetSend b >>= f) (.sent b :: t) q :=
  .cons (.send b _) h

/-- A receive that succeeds, as a run. -/
lemma performs_usbipNetRecv {n : Nat} {f : Option {b : List Byte // b.length = n} → Tool α}
    (b : {b : List Byte // b.length = n}) (h : Proc.Performs ans (f (some b)) t q) :
    Proc.Performs ans (usbipNetRecv n >>= f) (.got b.1 :: t) q :=
  .cons (.recv n _ b.1 b.2) h

/-- A header that is sent, as a run. -/
lemma performs_usbipNetSendOpCommon {e : Endian} {code status : BitVec 32} {f : Bool → Tool α}
    (h : Proc.Performs ans (f true) t q) :
    Proc.Performs ans (usbipNetSendOpCommon e code status >>= f)
      (.sent (header code status) :: t) q := by
  rw [usbipNetSendOpCommon, OpCommon.bytes_pack]
  exact performs_usbipNetSend h

/-- A header that is received, as a run. -/
lemma performs_usbipNetRecvOpCommon {e : Endian} {code : BitVec 16} {req status : BitVec 32}
    {f : Option (BitVec 16) → Tool α}
    (h : Proc.Performs ans (f (opCode e code (header req status))) t q) :
    Proc.Performs ans (usbipNetRecvOpCommon e code >>= f) (.got (header req status) :: t) q :=
  .cons (.recv 8 _ _ (length_header req status)) h

/-- A daemon that has read the header of a request does what its procedure does. -/
lemma performs_usbipdRecvPdu (e : Endian) (host port : List Byte) {ops : List UsbipdRecvPduOp}
    {req : BitVec 32} {op : UsbipdRecvPduOp} {proc : List Byte → List Byte → Tool (Option Int)}
    {ret : Option Int} (hfind : findOp ops (req.setWidth 16) = some op)
    (hproc : op.proc = some proc) (h : Proc.Performs ans (proc host port) t (.done ret)) :
    Proc.Performs ans (usbipdRecvPdu e ops host port)
      (.host .uxSetup (ans _) :: .got (header req 0) :: (t ++ [.host .uxCleanup (ans _)]))
      (.done ret) := by
  have hpdu : Proc.Performs ans (recvPdu e ops host port) (.got (header req 0) :: t)
      (.done ret) := by
    rw [recvPdu]
    refine performs_usbipNetRecvOpCommon ?_
    have hcode : opCode e OP_UNSPEC (header req 0) = some (req.setWidth 16) := opCode_header e _ _ _
    rw [hcode]
    dsimp only
    rw [hfind]
    dsimp only
    rwa [hproc]
  rw [usbipdRecvPdu]
  exact performs_call (hpdu.bind (performs_call (.nil _)))

end Usbip.Tools.Requests
