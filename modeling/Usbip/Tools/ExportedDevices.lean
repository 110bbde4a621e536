import Usbip.Core.Memory
import Usbip.Tools.Devlist

/-!
# The list of exported devices and its release

Four functions of the tools refresh the list of exported devices, work with it and call
`usbip_free_device_list` on every path that leaves them.  This wrapper was copied from the one
above it: it calls the operation that refreshes the list.  The nodes that were on the list are
lost, and those of the devices that are found now are linked in their place.  Nothing is released
that was ever linked (`released_iff`), although the functions have a call in every place where
one is needed (`released_of_free`).
-/

namespace Usbip.Tools.Exported

open Usbip.Core Usbip.Common

/-! ## The list -/

/-- Source: `usbip_host_common.h`, `struct usbip_exported_device`, by its address. -/
structure Node where
  addr : Nat
  edev : UsbipExportedDevice
  deriving DecidableEq

/-- Source: `usbip_host_common.h`, `struct usbip_exported_devices`. -/
structure UsbipExportedDevices where
  ndevs : Nat := 0
  edevList : List Node := []
  deriving DecidableEq

/-- Source: `list.h`, `list_add`, and the count of the devices. -/
def UsbipExportedDevices.add (node : Node) (edevs : UsbipExportedDevices) : UsbipExportedDevices :=
  ⟨edevs.ndevs + 1, node :: edevs.edevList⟩

/-- What a refresh makes of a device. -/
inductive Seen
  /-- It is not exported, or it is a hub. -/
  | skipped
  /-- `udev_device_new_from_syspath` returns NULL, or `libusb_get_device_descriptor` fails. -/
  | unreadable
  /-- `usbip_exported_device_new` or `exported_device_new` returns NULL. -/
  | broken
  | found (edev : UsbipExportedDevice)

/-- The devices that the system lists at the moment, or `none` when it lists none. -/
abbrev Scan := Option (List Seen)

/-- A function that refreshes a list, with its result. -/
abbrev Refresh := UsbipExportedDevices → Memory → Int × UsbipExportedDevices × Memory

/-! ## The drivers -/

/-- Source: `usbip_host_common.c`, `refresh_exported_devices`. -/
def refreshExportedDevices :
    List Seen → UsbipExportedDevices → Memory → UsbipExportedDevices × Memory
  | [], edevs, m => (edevs, m)
  | .skipped :: seen, edevs, m | .unreadable :: seen, edevs, m =>
      refreshExportedDevices seen edevs m
  -- `usbip_exported_device_new` frees its node itself
  | .broken :: seen, edevs, m => refreshExportedDevices seen edevs (m.alloc.free m.used)
  | .found edev :: seen, edevs, m =>
      refreshExportedDevices seen (edevs.add ⟨m.used, edev⟩) m.alloc

/-- Source: `usbip_host_common.c`, `usbip_generic_refresh_device_list`. -/
def usbipGenericRefreshDeviceList (scan : Scan) : Refresh := fun _ m =>
  (0, refreshExportedDevices (scan.getD []) {} m)

/-- The loop of `stub_refresh_device_list`. -/
def stubRefreshLoop : List Seen → Refresh
  | [], edevs, m => (0, edevs, m)
  | .skipped :: seen, edevs, m => stubRefreshLoop seen edevs m
  | .unreadable :: _, edevs, m | .broken :: _, edevs, m => (-1, edevs, m)
  | .found edev :: seen, edevs, m => stubRefreshLoop seen (edevs.add ⟨m.used, edev⟩) m.alloc

/-- Source: libusb stub's `stub_dev.c`, `stub_refresh_device_list`. -/
def stubRefreshDeviceList (scan : Scan) : Refresh := fun _ m =>
  match scan with
  | none => (-1, {}, m)
  | some seen => stubRefreshLoop seen {} m

/-- Source: `dummy_device_driver.c`, `dummy_refresh_device_list`. -/
def dummyRefreshDeviceList : Refresh := fun edevs m => (-1, edevs, m)

/-- Source: `usbip_host_common.c`, `usbip_generic_free_device_list`, and libusb stub's
`stub_dev.c`, `stub_free_device_list`. -/
def freeDeviceList (edevs : UsbipExportedDevices) (m : Memory) : UsbipExportedDevices × Memory :=
  ({ edevs with edevList := [] }, (edevs.edevList.map Node.addr).foldl (fun m a => m.free a) m)

/-- Whether two strings agree up to `n` bytes.
Source: `<string.h>`, `strncmp`. -/
def strncmpEq (a b : List Byte) (n : Nat) : Bool :=
  (a.take n).takeWhile (· ≠ 0) = (b.take n).takeWhile (· ≠ 0)

/-- Source: `usbip_host_common.c`, `usbip_generic_get_device`, and libusb stub's `stub_dev.c`,
`stub_get_device`, with `SYSFS_BUS_ID_SIZE`. -/
def getDevice (edevs : UsbipExportedDevices) (busid : List Byte) : Option Node :=
  edevs.edevList.find? fun node => strncmpEq busid node.edev.udev.busid 32

/-- Source: `usbip_host_driver.c`, `host_driver`, `usbip_device_driver.c`, `device_driver`, libusb
stub's `stub_dev.c`, `host_driver`, and `dummy_device_driver.c`, `device_driver`. -/
inductive HostDriver
  | host
  | device
  | stub
  | dummy
  deriving DecidableEq

/-- The operations on the list; NULL is `none`.
Source: `usbip_host_common.h`, `struct usbip_host_driver_ops`. -/
structure UsbipHostDriverOps where
  refreshDeviceList : Option (Scan → Refresh)
  freeDeviceList : Option (UsbipExportedDevices → Memory → UsbipExportedDevices × Memory)
  getDevice : Option (UsbipExportedDevices → List Byte → Option Node)

def HostDriver.ops : HostDriver → UsbipHostDriverOps
  | .host | .device => ⟨some usbipGenericRefreshDeviceList, some freeDeviceList, some getDevice⟩
  | .stub => ⟨some stubRefreshDeviceList, some freeDeviceList, some getDevice⟩
  | .dummy => ⟨some fun _ => dummyRefreshDeviceList, some fun edevs m => (edevs, m),
      some fun _ _ => none⟩

def EOPNOTSUPP : Int := 95

/-- Source: `usbip_host_common.h`, `usbip_refresh_device_list`. -/
def usbipRefreshDeviceList (ops : UsbipHostDriverOps) (scan : Scan) : Refresh := fun edevs m =>
  match ops.refreshDeviceList with
  | none => (-EOPNOTSUPP, edevs, m)
  | some refresh => refresh scan edevs m

/-- The operation that is called is not `free_device_list`; `scan` is what it finds.
Source: `usbip_host_common.h`, `usbip_free_device_list`. -/
def usbipFreeDeviceList (ops : UsbipHostDriverOps) (scan : Scan) : Refresh := fun edevs m =>
  match ops.refreshDeviceList with
  | none => (-EOPNOTSUPP, edevs, m)
  | some refresh => refresh scan edevs m

/-- Source: `usbip_host_common.h`, `usbip_get_device`. -/
def usbipGetDevice (ops : UsbipHostDriverOps) (edevs : UsbipExportedDevices) (busid : List Byte) :
    Option Node :=
  match ops.getDevice with
  | none => none
  | some get => get edevs busid

/-! ## The four functions -/

/-- What the functions find: the driver, the socket, what `usbip_driver_open`,
`usbip_export_device` and `usbip_try_transfer` return, and the devices that are listed first and
when the list should be freed. -/
structure Env where
  driver : HostDriver
  e : Endian
  sock : UsbipSock
  openRc : Int := 0
  exportRc : Int := 0
  transferRc : Int := 0
  scan : Scan
  later : Scan

/-- What a function returns, and the list and the memory that it leaves. -/
structure Returned where
  rc : Int
  edevs : UsbipExportedDevices
  mem : Memory
  deriving DecidableEq

/-- What the functions have in common: nothing is released when the list cannot be refreshed, and
otherwise it is, whatever becomes of the work with it. -/
def withDeviceList (env : Env)
    (release : UsbipExportedDevices → Memory → UsbipExportedDevices × Memory)
    (work : UsbipExportedDevices → Program UsbipSock PUnit) (m : Memory) : Returned :=
  let r := usbipRefreshDeviceList env.driver.ops env.scan {} m
  if r.1 < 0 then ⟨-1, r.2.1, r.2.2⟩
  else
    let rc := if (work r.2.1 env.sock).isSome then 0 else -1
    let freed := release r.2.1 r.2.2
    ⟨rc, freed.1, freed.2⟩

/-- The release as it is called. -/
def Env.release (env : Env) (edevs : UsbipExportedDevices) (m : Memory) :
    UsbipExportedDevices × Memory :=
  (usbipFreeDeviceList env.driver.ops env.later edevs m).2

def OP_REP_IMPORT : BitVec 32 := 0x0003
def OP_REQ_EXPORT : BitVec 32 := 0x8006
def OP_REP_EXPORT : BitVec 32 := 0x0006
def OP_REQ_UNEXPORT : BitVec 32 := 0x8007
def OP_REP_UNEXPORT : BitVec 32 := 0x0007
def ST_NA : BitVec 32 := 1

/-- `if (rc < 0) goto err;` -/
def check (rc : Int) : Program UsbipSock PUnit := if rc < 0 then failure else pure PUnit.unit

/-- Source: `usbipd_dev.c`, `recv_request_import`. -/
def recvRequestImport (env : Env) (m : Memory) : Returned :=
  withDeviceList env env.release (fun edevs => do
    let busid ← usbipNetRecv 32
    let edev := usbipGetDevice env.driver.ops edevs busid.1
    let exported := if env.exportRc < 0 then none else edev
    usbipNetSendOpCommon env.e OP_REP_IMPORT (if exported.isSome then ST_OK else ST_NA)
    match exported with
    | none => failure
    | some node =>
        usbipNetSend ((usbipNetPackUsbDevice env.e true node.edev.udev).bytes env.e)
        check env.transferRc) m

/-- Source: `usbipd_dev.c`, `send_reply_devlist`. -/
def sendReplyDevlist (env : Env) (m : Memory) : Returned :=
  withDeviceList env env.release
    (fun edevs => Tools.sendReplyDevlist env.e (edevs.edevList.map Node.edev)) m

/-- The request is packed as if it had been received.
Source: `usbip_connect.c`, `send_export_device`, and `usbip_disconnect.c`,
`send_unexport_device`. -/
def sendRequest (e : Endian) (req rep : BitVec 32) (udev : UsbDevice) :
    Program UsbipSock PUnit := do
  usbipNetSendOpCommon e req 0
  usbipNetSend ((usbipNetPackUsbDevice e false udev).bytes e)
  let _ ← usbipNetRecvOpCommon e (rep.setWidth 16)

/-- Source: `usbip_connect.c`, `export_device`. -/
def exportDevice (env : Env) (busid : List Byte) (m : Memory) : Returned :=
  if env.openRc ≠ 0 then ⟨-1, {}, m⟩
  else
    withDeviceList env env.release (fun edevs =>
      match usbipGetDevice env.driver.ops edevs busid with
      | none => failure
      | some node => do
          sendRequest env.e OP_REQ_EXPORT OP_REP_EXPORT node.edev.udev
          check env.exportRc
          check env.transferRc) m

/-- Source: `usbip_disconnect.c`, `unexport_device`. -/
def unexportDevice (env : Env) (busid : List Byte) (m : Memory) : Returned :=
  if env.openRc < 0 then ⟨-1, {}, m⟩
  else
    withDeviceList env env.release (fun edevs =>
      match usbipGetDevice env.driver.ops edevs busid with
      | none => failure
      | some node => sendRequest env.e OP_REQ_UNEXPORT OP_REP_UNEXPORT node.edev.udev) m

/-! ## What a refresh links -/

def Seen.edev : Seen → Option UsbipExportedDevice
  | .found edev => some edev
  | _ => none

/-- The refresh of the libusb stub goes on behind the device. -/
def Seen.goesOn : Seen → Bool
  | .skipped | .found _ => true
  | .unreadable | .broken => false

/-- The devices that a refresh links nodes for. -/
def HostDriver.nodes : HostDriver → Scan → List UsbipExportedDevice
  | .host, scan | .device, scan => (scan.getD []).filterMap Seen.edev
  | .stub, scan => ((scan.getD []).takeWhile Seen.goesOn).filterMap Seen.edev
  | .dummy, _ => []

/-- Whether a refresh succeeds. -/
def HostDriver.succeeds : HostDriver → Scan → Bool
  | .host, _ | .device, _ => true
  | .stub, scan => scan.isSome && (scan.getD []).all Seen.goesOn
  | .dummy, _ => false

/-- What is known of a refresh: whether it succeeds, and that the nodes it has allocated are those
on the list.  The dummy leaves the list as it is. -/
structure Refreshed (d : HostDriver) (scan : Scan) (edevs : UsbipExportedDevices) (m : Memory)
    (r : Int × UsbipExportedDevices × Memory) : Prop where
  rc : r.1 < 0 ↔ d.succeeds scan = false
  nodes : ∃ l : List Node, Memory.Traced m r.2.2 (l.map Node.addr) ∧
    l.map Node.edev = (d.nodes scan).reverse ∧
    (r.2.1.edevList = l ∨ r.2.1 = edevs ∧ l = [])

/-- A node is allocated and linked, and then others are. -/
lemma traced_add {m m' : Memory} {l : List Node} (edev : UsbipExportedDevice)
    (h : Memory.Traced m.alloc m' (l.map Node.addr)) :
    Memory.Traced m m' ((l ++ [Node.mk m.used edev]).map Node.addr) := by
  rw [List.map_append]
  exact ((Memory.traced_alloc m).trans h).perm List.perm_append_comm

/-- What the first refresh allocates is the list it leaves. -/
lemma refreshExportedDevices_spec (seen : List Seen) (edevs : UsbipExportedDevices) (m : Memory) :
    ∃ l : List Node, Memory.Traced m (refreshExportedDevices seen edevs m).2 (l.map Node.addr) ∧
      l.map Node.edev = (seen.filterMap Seen.edev).reverse ∧
      (refreshExportedDevices seen edevs m).1.edevList = l ++ edevs.edevList := by
  induction seen generalizing edevs m with
  | nil => exact ⟨[], .refl m, rfl, rfl⟩
  | cons s seen ih =>
      cases s with
      | skipped | unreadable => exact ih edevs m
      | broken =>
          obtain ⟨l, htraced, hl, hlist⟩ := ih edevs (m.alloc.free m.used)
          exact ⟨l, (Memory.traced_alloc m).free.trans htraced, hl, hlist⟩
      | found edev =>
          obtain ⟨l, htraced, hl, hlist⟩ := ih (edevs.add ⟨m.used, edev⟩) m.alloc
          refine ⟨l ++ [Node.mk m.used edev], traced_add edev htraced, ?_, ?_⟩
          · rw [List.map_append, hl, List.filterMap_cons, Seen.edev, List.reverse_cons]
            rfl
          · rw [List.append_assoc]
            exact hlist

/-- The loop fails exactly at a device that stops it, and allocates the list it leaves. -/
lemma stubRefreshLoop_spec (seen : List Seen) (edevs : UsbipExportedDevices) (m : Memory) :
    ((stubRefreshLoop seen edevs m).1 < 0 ↔ seen.all Seen.goesOn = false) ∧
    ∃ l : List Node, Memory.Traced m (stubRefreshLoop seen edevs m).2.2 (l.map Node.addr) ∧
      l.map Node.edev = ((seen.takeWhile Seen.goesOn).filterMap Seen.edev).reverse ∧
      (stubRefreshLoop seen edevs m).2.1.edevList = l ++ edevs.edevList := by
  induction seen generalizing edevs m with
  | nil => exact ⟨iff_of_false (Int.lt_irrefl 0) Bool.noConfusion, [], .refl m, rfl, rfl⟩
  | cons s seen ih =>
      cases s with
      | skipped => exact ih edevs m
      | unreadable | broken =>
          exact ⟨iff_of_true (by decide : (-1 : Int) < 0) rfl, [], .refl m, rfl, rfl⟩
      | found edev =>
          obtain ⟨hrc, l, htraced, hl, hlist⟩ := ih (edevs.add ⟨m.used, edev⟩) m.alloc
          refine ⟨hrc, l ++ [Node.mk m.used edev], traced_add edev htraced, ?_, ?_⟩
          · rw [List.map_append, hl, List.takeWhile_cons_of_pos rfl, List.filterMap_cons, Seen.edev,
              List.reverse_cons]
            rfl
          · rw [List.append_assoc]
            exact hlist

/-- The refresh of the host driver. -/
lemma refreshed_host (scan : Scan) (edevs : UsbipExportedDevices) (m : Memory) :
    Refreshed .host scan edevs m (usbipGenericRefreshDeviceList scan edevs m) := by
  obtain ⟨l, htraced, hl, hlist⟩ := refreshExportedDevices_spec (scan.getD []) {} m
  rw [List.append_nil] at hlist
  exact ⟨iff_of_false (Int.lt_irrefl 0) Bool.noConfusion, l, htraced, hl, .inl hlist⟩

/-- The refresh of the libusb stub. -/
lemma refreshed_stub (scan : Scan) (edevs : UsbipExportedDevices) (m : Memory) :
    Refreshed .stub scan edevs m (stubRefreshDeviceList scan edevs m) := by
  cases scan with
  | none => exact ⟨iff_of_true (by decide : (-1 : Int) < 0) rfl, [], .refl m, rfl, .inl rfl⟩
  | some seen =>
      obtain ⟨hrc, l, htraced, hl, hlist⟩ := stubRefreshLoop_spec seen {} m
      rw [List.append_nil] at hlist
      exact ⟨hrc, l, htraced, hl, .inl hlist⟩

/-- Every driver. -/
lemma refreshed (d : HostDriver) (scan : Scan) (edevs : UsbipExportedDevices) (m : Memory) :
    Refreshed d scan edevs m (usbipRefreshDeviceList d.ops scan edevs m) := by
  cases d with
  | host => exact refreshed_host scan edevs m
  | device =>
      obtain ⟨hrc, hnodes⟩ := refreshed_host scan edevs m
      exact ⟨hrc, hnodes⟩
  | stub => exact refreshed_stub scan edevs m
  | dummy => exact ⟨iff_of_true (by decide : (-1 : Int) < 0) rfl, [], .refl m, rfl, .inr ⟨rfl, rfl⟩⟩

/-! ## What is released -/

/-- Every node that a function has allocated has been freed once, and none is linked. -/
structure Released (m : Memory) (r : Returned) : Prop where
  once : Memory.Traced m r.mem []
  unlinked : r.edevs.edevList = []

/-- No node is linked, neither by the refresh nor, when it succeeds, by the one in place of the
release. -/
def Env.Barren (env : Env) : Prop :=
  env.driver.nodes env.scan = [] ∧
    (env.driver.succeeds env.scan = true → env.driver.nodes env.later = [])

/-- The list is empty when no device was added. -/
lemma eq_nil_iff_nodes {l : List Node} {nodes : List UsbipExportedDevice}
    (h : l.map Node.edev = nodes.reverse) : l = [] ↔ nodes = [] := by
  rw [← List.map_eq_nil_iff, h, List.reverse_eq_nil_iff]

/-- A refresh that adds nothing leaves an empty list empty. -/
lemma edevList_eq_nil {edevs edevs' : UsbipExportedDevices} {l : List Node}
    (hlist : edevs'.edevList = l ∨ edevs' = edevs ∧ l = []) (hl : l = [])
    (hnil : edevs.edevList = []) : edevs'.edevList = [] := by
  rcases hlist with hlist | ⟨rfl, -⟩
  · exact hlist.trans hl
  · exact hnil

/-- The nodes of both refreshes are lost or linked. -/
lemma released_withDeviceList_iff (env : Env)
    (work : UsbipExportedDevices → Program UsbipSock PUnit) (m : Memory) :
    Released m (withDeviceList env env.release work m) ↔ env.Barren := by
  obtain ⟨hrc, l, htraced, hl, hlist⟩ := refreshed env.driver env.scan {} m
  have hnil := eq_nil_iff_nodes hl
  unfold withDeviceList
  dsimp only
  by_cases hneg : (usbipRefreshDeviceList env.driver.ops env.scan {} m).1 < 0
  · rw [if_pos hneg]
    have hfails := hrc.mp hneg
    have hiff : Released m ⟨-1, (usbipRefreshDeviceList env.driver.ops env.scan {} m).2.1,
        (usbipRefreshDeviceList env.driver.ops env.scan {} m).2.2⟩ ↔ l = [] := by
      constructor
      · intro h
        exact List.map_eq_nil_iff.mp (htraced.nil_iff.mp h.once)
      · rintro rfl
        exact ⟨htraced, edevList_eq_nil hlist rfl rfl⟩
    rw [hiff, hnil, Env.Barren, hfails]
    exact ⟨fun h => ⟨h, Bool.noConfusion⟩, And.left⟩
  · rw [if_neg hneg]
    have hsucceeds : env.driver.succeeds env.scan = true := by
      by_contra hfails
      exact hneg (hrc.mpr (Bool.eq_false_iff.mpr hfails))
    obtain ⟨-, l', htraced', hl', hlist'⟩ := refreshed env.driver env.later
      (usbipRefreshDeviceList env.driver.ops env.scan {} m).2.1
      (usbipRefreshDeviceList env.driver.ops env.scan {} m).2.2
    have hnil' := eq_nil_iff_nodes hl'
    have hboth := htraced.trans htraced'
    rw [Env.Barren, hsucceeds, forall_prop_of_true rfl, ← hnil, ← hnil']
    constructor
    · intro h
      have happend := hboth.nil_iff.mp h.once
      rw [List.append_eq_nil_iff, List.map_eq_nil_iff, List.map_eq_nil_iff] at happend
      exact happend
    · rintro ⟨rfl, rfl⟩
      exact ⟨hboth, edevList_eq_nil hlist' rfl (edevList_eq_nil hlist rfl rfl)⟩

/-- Freeing the list frees what was allocated for it. -/
lemma traced_freeDeviceList {edevs : UsbipExportedDevices} {m m' : Memory}
    (h : Memory.Traced m m' (edevs.edevList.map Node.addr)) :
    Memory.Traced m (freeDeviceList edevs m').2 [] :=
  h.free_all

/-- With the operation that frees a list in its place, the functions release what they have
refreshed on every path, unless the refresh itself fails with nodes on the list. -/
theorem released_of_free (env : Env) (work : UsbipExportedDevices → Program UsbipSock PUnit)
    (m : Memory)
    (h : env.driver.succeeds env.scan = true ∨ env.driver.nodes env.scan = []) :
    Released m (withDeviceList env freeDeviceList work m) := by
  obtain ⟨hrc, l, htraced, hl, hlist⟩ := refreshed env.driver env.scan {} m
  unfold withDeviceList
  dsimp only
  by_cases hneg : (usbipRefreshDeviceList env.driver.ops env.scan {} m).1 < 0
  · rw [if_pos hneg]
    have hfails : ¬ env.driver.succeeds env.scan = true := Bool.eq_false_iff.mp (hrc.mp hneg)
    obtain rfl := (eq_nil_iff_nodes hl).mpr (h.resolve_left hfails)
    exact ⟨htraced, edevList_eq_nil hlist rfl rfl⟩
  · rw [if_neg hneg]
    refine ⟨traced_freeDeviceList ?_, rfl⟩
    rcases hlist with hlist | ⟨hlist, rfl⟩
    · rw [hlist]
      exact htraced
    · rw [hlist]
      exact htraced

/-- The nodes are released just when there are none: when no device is found, neither when the list
is refreshed nor when it should be freed. -/
theorem released_iff (env : Env) (busid : List Byte) (m : Memory) :
    (Released m (recvRequestImport env m) ↔ env.Barren) ∧
      (Released m (sendReplyDevlist env m) ↔ env.Barren) ∧
      (Released m (exportDevice env busid m) ↔ (env.openRc = 0 → env.Barren)) ∧
      (Released m (unexportDevice env busid m) ↔ (0 ≤ env.openRc → env.Barren)) := by
  have hclosed : Released m ⟨-1, {}, m⟩ := ⟨.refl m, rfl⟩
  refine ⟨released_withDeviceList_iff env _ m, released_withDeviceList_iff env _ m, ?_, ?_⟩
  · unfold exportDevice
    by_cases hopen : env.openRc = 0
    · rw [if_neg (not_not_intro hopen), forall_prop_of_true hopen]
      exact released_withDeviceList_iff env _ m
    · rw [if_pos hopen]
      exact iff_of_true hclosed fun h => absurd h hopen
  · unfold unexportDevice
    by_cases hopen : env.openRc < 0
    · rw [if_pos hopen]
      exact iff_of_true hclosed fun h => absurd hopen (Int.not_lt.mpr h)
    · rw [if_neg hopen, forall_prop_of_true (Int.not_lt.mp hopen)]
      exact released_withDeviceList_iff env _ m

/-- A device without interfaces. -/
def plainDevice : UsbipExportedDevice where
  udev :=
    { path := List.replicate 256 0
      busid := List.replicate 32 0
      busnum := 1
      devnum := 2
      speed := 3
      idVendor := 0
      idProduct := 0
      bcdDevice := 0
      bDeviceClass := 0
      bDeviceSubClass := 0
      bDeviceProtocol := 0
      bConfigurationValue := 0
      bNumConfigurations := 0
      bNumInterfaces := 0
      length_path := List.length_replicate
      length_busid := List.length_replicate }
  uinf := []
  length_uinf := rfl

/-- One device is exported, and the client has closed the connection. -/
def closedEnv : Env where
  driver := .host
  e := .little
  sock := {}
  scan := some [.found plainDevice]
  later := some [.found plainDevice]

/-- Two nodes have been allocated, none of them is freed, and the second is linked. -/
theorem not_released :
    sendReplyDevlist closedEnv {} = ⟨-1, ⟨1, [⟨1, plainDevice⟩]⟩, ⟨2, []⟩⟩ ∧
      ¬ Released {} (sendReplyDevlist closedEnv {}) := by
  have hrun : sendReplyDevlist closedEnv {} = ⟨-1, ⟨1, [⟨1, plainDevice⟩]⟩, ⟨2, []⟩⟩ := rfl
  refine ⟨hrun, fun h => ?_⟩
  have hunlinked := h.unlinked
  rw [hrun] at hunlinked
  cases hunlinked

end Usbip.Tools.Exported
