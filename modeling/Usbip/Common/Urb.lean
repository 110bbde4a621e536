import Usbip.Common.Basic

/-!
# The URB

What the drivers of this repository read and write of the USB core's `struct urb`.  The words are
the C types of the header, all 32 bits wide; whether one is signed shows where it is compared.
-/

namespace Usbip.Common

abbrev Byte := BitVec 8

/-- Source: `<linux/usb.h>`, `PIPE_ISOCHRONOUS` and the others. -/
inductive PipeType
  | isochronous
  | interrupt
  | control
  | bulk
  deriving DecidableEq

/-- What `usb_pipetype`, `usb_pipein`, `usb_pipedevice` and `usb_pipeendpoint` read of a pipe. -/
structure Pipe where
  type : PipeType
  isIn : Bool
  device : BitVec 7
  endpoint : BitVec 4
  deriving DecidableEq

/-- Source: `<linux/usb/ch9.h>`, `USB_REQ_SET_ADDRESS` and `USB_REQ_GET_DESCRIPTOR`. -/
def reqSetAddress : Byte := 0x05

def reqGetDescriptor : Byte := 0x06

/-- Source: `<linux/usb.h>`, `struct usb_iso_packet_descriptor`. -/
structure IsoPacketDescriptor where
  offset : BitVec 32
  length : BitVec 32
  actualLength : BitVec 32
  status : BitVec 32
  deriving DecidableEq

/-- `dev` stands for the address of the `struct usb_device`.
Source: `<linux/usb.h>`, `struct urb`. -/
structure Urb where
  dev : Nat := 0
  pipe : Pipe := ⟨.bulk, false, 0, 0⟩
  status : BitVec 32 := 0
  transferFlags : BitVec 32 := 0
  transferBuffer : List Byte := []
  transferBufferLength : BitVec 32 := 0
  actualLength : BitVec 32 := 0
  /-- The eight bytes of `setup_packet`, if there is one. -/
  setupPacket : Option (List Byte) := none
  startFrame : BitVec 32 := 0
  numberOfPackets : BitVec 32 := 0
  interval : BitVec 32 := 0
  errorCount : BitVec 32 := 0
  isoFrameDesc : List IsoPacketDescriptor := []
  deriving DecidableEq, Inhabited

end Usbip.Common
