import Usbip.Common.Basic
import Usbip.Core.Lists
import Usbip.Core.Scan
import Usbip.Core.Walk

/-!
# Finding a port

The kernel prints the states of the ports of a controller into a text, the attribute `status` or
`status.N`: a header, and a line for each port.  `usbip_vhci_get_free_port` and
`usbip_vhci_find_device` walk over the lines of all these texts.  The attributes are read without
their trailing newline, so the last line of a text ends with the text, and the search for the next
newline goes on in the next one.

Both walks end at a line that does not parse.  A line does not parse when the device it names is
not there (`0-0`, which is what is printed for a port in error), or when the kernel shows a null
socket as a word.  `getFreePort_same` and `findDevice_same` say that the walks over the texts are
`Core.walk` over the ports, and `port_search_complete_iff` says exactly when no port is lost.
-/

namespace Usbip.Tools

open Usbip.Core Usbip.Common

/-! ## What the kernel prints -/

/-- Source: `uapi/linux/usbip.h`, `enum usbip_device_status`. -/
def statusValue : UsbipDeviceStatus → Nat
  | .sdevAvailable => 1
  | .sdevUsed => 2
  | .sdevError => 3
  | .vdevNull => 4
  | .vdevNotassigned => 5
  | .vdevUsed => 6
  | .vdevError => 7

/-- What is printed of a port; `devName` is `dev_name(&vdev->udev->dev)`, a bus id, and `tcpSocket`
a pointer.  Source: `vhci.h`, `struct vhci_device`. -/
structure VhciDevice where
  status : UsbipDeviceStatus := .vdevNull
  speed : Nat := 0
  devid : BitVec 32 := 0
  tcpSocket : Nat := 0
  devName : List Char := "0-0".toList
  devName_ne_nil : devName ≠ [] := by decide
  devName_word : ∀ ch ∈ devName, isSpace ch = false := by simp [isSpace]
  length_devName : devName.length ≤ 31 := by decide

/-- `%16p` of the kernel, which shows a null pointer as a word. -/
def showPointer (p : Nat) : List Char :=
  List.leftpad 16 ' ' (if p = 0 then "(null)".toList else Nat.toDigits 16 p)

/-- The line of a port, without the newline.  Source: `vhci_sysfs.c`, `status_show_vhci`. -/
def statusLine (port : Nat) (vdev : VhciDevice) : List Char :=
  decimal 4 port ++ [' '] ++ decimal 3 (statusValue vdev.status) ++ [' '] ++
    if vdev.status = .vdevUsed then
      decimal 3 vdev.speed ++ [' '] ++ hexadecimal 8 vdev.devid.toNat ++ [' '] ++
        showPointer vdev.tcpSocket ++ [' '] ++ vdev.devName
    else "000 00000000 ".toList ++ "0000000000000000 0-0".toList

variable {ports : Nat}

/-- `ports` is `VHCI_HC_PORTS`.  Source: `vhci_sysfs.c`, `status_show_vhci`. -/
def statusShowVhci (pdevNr : Nat) (vdev : Fin ports → VhciDevice) : List Char :=
  (List.ofFn fun i => statusLine (pdevNr * ports + i) (vdev i) ++ ['\n']).flatten

/-- Source: `vhci_sysfs.c`, `status_show_idle`. -/
def statusShowIdle (ports pdevNr : Nat) : List Char :=
  (List.ofFn fun i : Fin ports =>
    decimal 4 (pdevNr * ports + i) ++ [' '] ++ decimal 3 (statusValue .vdevNull) ++ [' '] ++
      "000 00000000 0000000000000000 0-0".toList ++ ['\n']).flatten

def statusHeader : List Char := "port sta spd dev      socket           local_busid".toList

/-- The attribute of controller number `pdevNr`, which need not be there yet.
Source: `vhci_sysfs.c`, `status_show`. -/
def statusShow (pdevNr : Nat) (pdev : Option (Fin ports → VhciDevice)) : List Char :=
  statusHeader ++ ['\n'] ++
    match pdev with
    | some vdev => statusShowVhci pdevNr vdev
    | none => statusShowIdle ports pdevNr

/-- The controllers, by their numbers.  Source: `vhci_hcd.c`, `vhci_pdevs`. -/
abbrev VhciPdevs (ports : Nat) := List (Option (Fin ports → VhciDevice))

/-! ## What the tools read -/

/-- An attribute is read without the newlines at its end.  Source:
`udev_device_get_sysattr_value`. -/
def sysattrValue (text : List Char) : List Char := text.rdropWhile (· = '\n')

/-- The attributes `status`, `status.1` and so on. -/
def statusAttrs (pdevs : VhciPdevs ports) : List (List Char) :=
  pdevs.mapIdx fun pdevNr pdev => sysattrValue (statusShow pdevNr pdev)

/-- `pages` are the attributes of the controllers behind `controller`.
Source: `vhci_driver.c`, `struct status_context`. -/
structure StatusContext where
  c : List Char
  pages : List (List Char)
  deriving DecidableEq

/-- Source: `vhci_driver.c`, `open_status`. -/
def openStatus : List (List Char) → Option StatusContext
  | [] => none
  | page :: pages => some ⟨page, pages⟩

def strchr (ch : Char) (l : List Char) : List Char := l.dropWhile (· ≠ ch)

/-- Source: `vhci_driver.c`, `next_status_line`. -/
def nextStatusLine (c : List Char) : List (List Char) → Option StatusContext
  | [] =>
      match strchr '\n' c with
      | [] => none
      | _ :: rest => some ⟨rest, []⟩
  | page :: pages =>
      match strchr '\n' c with
      | [] => nextStatusLine page pages
      | _ :: rest => some ⟨rest, page :: pages⟩

/-- The parts of `struct usbip_vhci_device` that are read from a line.  Source: `vhci_driver.c`. -/
structure UsbipVhciDevice where
  port : Int
  status : Int
  devid : BitVec 32
  busnum : BitVec 8
  devnum : BitVec 8
  deriving DecidableEq

/-- Source: `vhci_driver.c`, the `sscanf` of `parse_status_line`. -/
def sscanfStatus (c : List Char) : Option ((Int × Int × Int) × (Int × Int × List Char)) := do
  let (port, c) ← scanInt c
  let (status, c) ← scanInt c
  let (speed, c) ← scanInt c
  let (devid, c) ← scanHex c
  let (socket, c) ← scanHex c
  let (lbusid, _) ← scanWord 31 c
  some ((port, status, speed), (devid, socket, lbusid))

/-- What a line says, where `udev` knows the USB devices that are there.  A failure says where it
has left the context; there is nothing to read behind the last attribute.
Source: `vhci_driver.c`, `parse_status_line` and `imported_device_init`. -/
def parseStatusLine (udev : List Char → Bool) (ctx : StatusContext) :
    Except StatusContext (UsbipVhciDevice × StatusContext) :=
  match nextStatusLine ctx.c ctx.pages with
  | none => .error ⟨[], []⟩
  | some ctx =>
      if ctx.c = [] then .error ctx
      else
        match sscanfStatus ctx.c with
        | none => .error ctx
        | some ((port, status, _), (devid, _, lbusid)) =>
            let devid := BitVec.ofInt 32 devid
            if status ≠ statusValue .vdevNull ∧ status ≠ statusValue .vdevNotassigned ∧
                udev lbusid = false then .error ctx
            else
              .ok (⟨port, status, devid, (devid >>> 16).setWidth 8,
                (devid &&& 0xffff).setWidth 8⟩, ctx)

/-! ### The walks -/

def StatusContext.size (ctx : StatusContext) : Nat :=
  ctx.c.length + (ctx.pages.map List.length).sum

/-- The next line leaves less to parse. -/
lemma size_nextStatusLine {c : List Char} {pages : List (List Char)} {ctx : StatusContext}
    (h : nextStatusLine c pages = some ctx) :
    ctx.size < c.length + (pages.map List.length).sum := by
  have hstrchr : ∀ c ch rest, strchr '\n' c = ch :: rest → rest.length < c.length := by
    intro c ch rest hc
    have := congrArg List.length hc
    have hle := List.length_dropWhile_le (fun a => decide (a ≠ '\n')) c
    simp only [strchr, List.length_cons] at this
    omega
  induction pages generalizing c with
  | nil =>
      unfold nextStatusLine at h
      split at h
      · cases h
      · rename_i hc
        cases h
        simpa [StatusContext.size] using hstrchr _ _ _ hc
  | cons page pages ih =>
      unfold nextStatusLine at h
      split at h
      · have := ih h
        simp only [List.map_cons, List.sum_cons]
        omega
      · rename_i hc
        cases h
        have := hstrchr _ _ _ hc
        simp only [StatusContext.size]
        omega

/-- Parsing a line leaves less to parse. -/
lemma size_parseStatusLine {udev : List Char → Bool} {ctx ctx' : StatusContext}
    {vdev : UsbipVhciDevice} (h : parseStatusLine udev ctx = .ok (vdev, ctx')) :
    ctx'.size < ctx.size := by
  unfold parseStatusLine at h
  split at h
  · cases h
  · rename_i hnext
    have := size_nextStatusLine hnext
    split at h
    · cases h
    · split at h
      · cases h
      · split at h
        · cases h
        · cases h
          exact this

/-- What a walk over the lines comes to: the value that is returned, the ports whose records were
read, and the context it was left with. -/
structure Walked where
  ret : Int
  records : List Int
  context : StatusContext
  deriving DecidableEq

/-- `while (!parse_status_line(…))`, where the body reads the records of some ports and may return
a port. -/
def whileParseStatusLine (udev : List Char → Bool)
    (body : UsbipVhciDevice → List Int × Option Int) (ctx : StatusContext) : Walked :=
  match h : parseStatusLine udev ctx with
  | .error ctx => ⟨-1, [], ctx⟩
  | .ok (vdev, ctx') =>
      match body vdev with
      | (records, some port) => ⟨port, records, ctx'⟩
      | (records, none) =>
          let w := whileParseStatusLine udev body ctx'
          ⟨w.ret, records ++ w.records, w.context⟩
termination_by ctx.size
decreasing_by exact size_parseStatusLine h

def walkStatus (udev : List Char → Bool) (body : UsbipVhciDevice → List Int × Option Int)
    (attrs : List (List Char)) : Walked :=
  match openStatus attrs with
  | none => ⟨-1, [], ⟨[], []⟩⟩
  | some ctx => whileParseStatusLine udev body ctx

/-- Source: `vhci_driver.c`, `usbip_vhci_get_free_port`. -/
def usbipVhciGetFreePort (udev : List Char → Bool) (attrs : List (List Char)) : Walked :=
  walkStatus udev
    (fun vdev => ([], if vdev.status = statusValue .vdevNull then some vdev.port else none)) attrs

def fgets (n : Nat) (file : List Char) : Option (List Char) :=
  let l := file.take (n - 1)
  if l = [] then none else some (l.takeWhile (· ≠ '\n') ++ (strchr '\n' l).take 1)

/-- The parts of a record end at their delimiters, and have lengths that are checked where the
part is asked for. -/
def recordParts : List (Char × Option Nat) → List Char → Option (List (List Char))
  | [], _ => some []
  | (delim, maxLen) :: parts, start =>
      match strchr delim start with
      | [] => none
      | _ :: rest =>
          let part := start.takeWhile (· ≠ delim)
          if maxLen.any (· ≤ part.length) then none
          else (recordParts parts rest).map (part :: ·)

def NI_MAXHOST : Nat := 1025
def SYSFS_BUS_ID_SIZE : Nat := 32

/-- The host and the bus id in the file of a port, without the service between them.
Source: `vhci_driver.c`, `read_record`, as `usbip_vhci_find_device` calls it. -/
def readRecord (file : Option (List Char)) : Option (List Char × List Char) :=
  match file.bind (fgets (NI_MAXHOST + 0 + SYSFS_BUS_ID_SIZE + 4)) with
  | none => none
  | some buffer =>
      match recordParts [(' ', some NI_MAXHOST), (' ', none), ('\n', some SYSFS_BUS_ID_SIZE)]
        buffer with
      | some [rhost, _, rbusid] => some (rhost, rbusid)
      | _ => none

/-- `files` are the files of the ports below `VHCI_STATE_PATH`.
Source: `vhci_driver.c`, `usbip_vhci_find_device`. -/
def usbipVhciFindDevice (udev : List Char → Bool) (files : Int → Option (List Char))
    (host busid : List Char) (attrs : List (List Char)) : Walked :=
  walkStatus udev
    (fun vdev =>
      if vdev.status = statusValue .vdevNull ∨ vdev.status = statusValue .vdevNotassigned then
        ([], none)
      else
        ([vdev.port],
          if readRecord (files vdev.port) = some (host, busid) then some vdev.port else none))
    attrs

/-! ## The ports behind the lines -/

structure Port where
  number : Nat
  vdev : VhciDevice

/-- The ports of one controller, with the states the attribute shows; a controller that is not there
shows free ports. -/
def controllerPorts (pdevNr : Nat) (pdev : Option (Fin ports → VhciDevice)) : List Port :=
  List.ofFn fun i : Fin ports => ⟨pdevNr * ports + i, (pdev.map (· i)).getD {}⟩

def portsOf (pdevs : VhciPdevs ports) : List Port := (pdevs.mapIdx controllerPorts).flatten

/-- What a line that parses says. -/
def Port.seen (p : Port) : UsbipVhciDevice where
  port := p.number
  status := statusValue p.vdev.status
  devid := if p.vdev.status = .vdevUsed then p.vdev.devid else 0
  busnum := ((if p.vdev.status = .vdevUsed then p.vdev.devid else 0) >>> 16).setWidth 8
  devnum := ((if p.vdev.status = .vdevUsed then p.vdev.devid else 0) &&& 0xffff).setWidth 8

/-- Whether the line of a port parses.  A port in use needs a socket and its device, a free port
and one that has no device yet need nothing, and any other needs a device `0-0`. -/
def Port.parses (udev : List Char → Bool) (p : Port) : Bool :=
  if p.vdev.status = .vdevUsed then p.vdev.tcpSocket ≠ 0 && udev p.vdev.devName
  else p.vdev.status = .vdevNull || p.vdev.status = .vdevNotassigned || udev "0-0".toList

/-! ### One line -/

/-- A pointer that is read back as a number. -/
def Readable (socket : List Char) : Prop :=
  ∃ blanks ds, socket = blanks ++ ds ∧ (∀ ch ∈ blanks, isSpace ch = true) ∧ ds ≠ [] ∧
    ∀ ch ∈ ds, isHexDigit ch = true

/-- A pointer that is not NULL is written so that it is read back. -/
lemma readable_showPointer {p : Nat} (hp : p ≠ 0) : Readable (showPointer p) := by
  refine ⟨_, Nat.toDigits 16 p, by rw [showPointer, if_neg hp, List.leftpad], ?_,
    Nat.toDigits_ne_nil, fun ch hch => isHexDigit_of_mem_toDigits hch⟩
  intro ch hch
  rw [List.eq_of_mem_replicate hch]
  rfl

/-- The text of a line up to the pointer. -/
def lineHead (port status speed devid : Nat) (rest : List Char) : List Char :=
  decimal 4 port ++ ' ' :: (decimal 3 status ++ ' ' :: (decimal 3 speed ++
    ' ' :: (hexadecimal 8 devid ++ ' ' :: rest)))

/-- The numbers before the pointer are scanned as they were printed. -/
lemma sscanfStatus_lineHead (port status speed devid : Nat) (rest : List Char) :
    sscanfStatus (lineHead port status speed devid rest) =
      (scanHex (' ' :: rest)).bind fun socket =>
        (scanWord 31 socket.2).bind fun lbusid =>
          some (((port : Int), (status : Int), (speed : Int)),
            ((devid : Int), socket.1, lbusid.1)) := by
  have hblank : ∀ ch ∈ [' '], isSpace ch = true := by simp [isSpace]
  have hend : ∀ l, Ends Char.isDigit (' ' :: l) := fun l => .cons (by decide)
  obtain ⟨hne₁, hds₁, hval₁⟩ := digits_decimal 4 port
  obtain ⟨hne₂, hds₂, hval₂⟩ := digits_decimal 3 status
  obtain ⟨hne₃, hds₃, hval₃⟩ := digits_decimal 3 speed
  obtain ⟨hne₄, hds₄, hval₄⟩ := hexDigits_hexadecimal 8 devid
  have hscan₁ := fun l => scanInt_digits (List.forall_mem_nil _) hne₁ hds₁ (hend l)
  have hscan₂ := fun l => scanInt_digits hblank hne₂ hds₂ (hend l)
  have hscan₃ := fun l => scanInt_digits hblank hne₃ hds₃ (hend l)
  have hscan₄ := fun l => scanHex_digits hblank hne₄ hds₄ l
  rw [hval₁] at hscan₁
  rw [hval₂] at hscan₂
  rw [hval₃] at hscan₃
  rw [hval₄] at hscan₄
  simp only [List.nil_append, List.singleton_append] at hscan₁ hscan₂ hscan₃ hscan₄
  unfold sscanfStatus lineHead
  simp only [hscan₁, hscan₂, hscan₃, hscan₄, Option.bind_eq_bind, Option.bind_some]

/-- A line with a readable pointer is scanned whole. -/
lemma sscanfStatus_readable (port status speed devid : Nat) {socket word rest : List Char}
    (hsocket : Readable socket) (hne : word ≠ []) (hword : ∀ ch ∈ word, isSpace ch = false)
    (hlength : word.length ≤ 31) (hrest : ∀ ch ∈ rest.head?, isSpace ch = true) :
    ∃ n, sscanfStatus (lineHead port status speed devid (socket ++ ' ' :: (word ++ rest))) =
      some (((port : Int), (status : Int), (speed : Int)), ((devid : Int), n, word)) := by
  obtain ⟨blanks, ds, rfl, hblanks, hds, hhex⟩ := hsocket
  have hspace : ∀ ch ∈ ' ' :: blanks, isSpace ch = true := by
    intro ch hch
    rcases List.mem_cons.mp hch with rfl | hch
    · rfl
    · exact hblanks ch hch
  have hscan := scanHex_digits hspace hds hhex (word ++ rest)
  have hblank : ∀ ch ∈ [' '], isSpace ch = true := by simp [isSpace]
  have hword := scanWord_word hblank hne hword hlength hrest
  rw [List.singleton_append] at hword
  rw [List.cons_append] at hscan
  rw [sscanfStatus_lineHead, List.append_assoc, hscan]
  exact ⟨(ofHexDigits ds : Nat), by simp only [Option.bind_some, hword]⟩

/-- A line with a null pointer is not. -/
lemma sscanfStatus_null {port status speed devid : Nat} {rest : List Char} :
    sscanfStatus (lineHead port status speed devid (showPointer 0 ++ rest)) = none := by
  have hscan : scanHex (List.replicate 11 ' ' ++ '(' :: ("null)".toList ++ rest)) = none :=
    scanHex_eq_none (by simp [isSpace]) (by decide)
  rw [sscanfStatus_lineHead, show ' ' :: (showPointer 0 ++ rest) =
    List.replicate 11 ' ' ++ '(' :: ("null)".toList ++ rest) from rfl, hscan]
  rfl

/-- The line of a port in use has its speed, device and socket. -/
lemma statusLine_of_used {port : Nat} {vdev : VhciDevice} (h : vdev.status = .vdevUsed)
    (rest : List Char) : statusLine port vdev ++ rest =
      lineHead port (statusValue .vdevUsed) vdev.speed vdev.devid.toNat
        (showPointer vdev.tcpSocket ++ ' ' :: (vdev.devName ++ rest)) := by
  unfold statusLine lineHead
  rw [if_pos h, h]
  simp only [List.append_assoc, List.cons_append, List.nil_append]

/-- The line of any other port has zeros. -/
lemma statusLine_of_ne_used {port : Nat} {vdev : VhciDevice} (h : vdev.status ≠ .vdevUsed)
    (rest : List Char) : statusLine port vdev ++ rest =
      lineHead port (statusValue vdev.status) 0 0
        (hexadecimal 16 0 ++ ' ' :: ("0-0".toList ++ rest)) := by
  unfold statusLine lineHead
  rw [if_neg h, show "000 00000000 ".toList ++ "0000000000000000 0-0".toList =
    decimal 3 0 ++ ' ' :: (hexadecimal 8 0 ++ ' ' :: (hexadecimal 16 0 ++ ' ' :: "0-0".toList))
    from by decide]
  simp only [List.append_assoc, List.cons_append, List.nil_append]

/-- The state of a port is read back, unless it is in use without a socket. -/
lemma sscanfStatus_statusLine (p : Port) {rest : List Char}
    (hrest : ∀ ch ∈ rest.head?, isSpace ch = true) :
    if p.vdev.status = .vdevUsed ∧ p.vdev.tcpSocket = 0 then
      sscanfStatus (statusLine p.number p.vdev ++ rest) = none
    else ∃ speed n, sscanfStatus (statusLine p.number p.vdev ++ rest) =
      some ((p.seen.port, p.seen.status, speed),
        ((p.seen.devid.toNat : Int), n,
          if p.vdev.status = .vdevUsed then p.vdev.devName else "0-0".toList)) := by
  by_cases hused : p.vdev.status = .vdevUsed
  · rw [statusLine_of_used hused]
    by_cases hsocket : p.vdev.tcpSocket = 0
    · rw [if_pos ⟨hused, hsocket⟩, hsocket]
      exact sscanfStatus_null
    · rw [if_neg (by simp [hsocket])]
      obtain ⟨n, hn⟩ := sscanfStatus_readable p.number (statusValue .vdevUsed) p.vdev.speed
        p.vdev.devid.toNat (readable_showPointer hsocket) p.vdev.devName_ne_nil
        p.vdev.devName_word p.vdev.length_devName hrest
      refine ⟨(p.vdev.speed : Nat), n, ?_⟩
      rw [hn]
      simp only [Port.seen, hused, if_true]
  · rw [if_neg (by simp [hused]), statusLine_of_ne_used hused]
    have hsocket : Readable (hexadecimal 16 0) :=
      ⟨[], _, rfl, by simp, (hexDigits_hexadecimal 16 0).1, (hexDigits_hexadecimal 16 0).2.1⟩
    have hname : "0-0".toList ≠ [] := by decide
    obtain ⟨n, hn⟩ := sscanfStatus_readable p.number (statusValue p.vdev.status) 0 0 hsocket hname
      (by simp [isSpace]) (by decide) hrest
    refine ⟨(0 : Nat), n, ?_⟩
    rw [hn]
    simp only [Port.seen, hused, if_false]
    rfl

/-! ### One attribute -/

def Port.line (p : Port) : List Char := statusLine p.number p.vdev

/-- Lines that each start with the newline that ends the one before. -/
def linesOf (l : List Port) : List Char := l.flatMap fun p => '\n' :: p.line

/-- The beginning of a line does not end it. -/
lemma newline_not_mem_lineHead {port status speed devid : Nat} {rest : List Char}
    (hrest : '\n' ∉ rest) : '\n' ∉ lineHead port status speed devid rest := by
  have hdecimal : ∀ w n, '\n' ∉ decimal w n := fun w n h =>
    absurd ((digits_decimal w n).2.1 _ h) (by decide)
  have hhex : ∀ w n, '\n' ∉ hexadecimal w n := fun w n h =>
    absurd ((hexDigits_hexadecimal w n).2.1 _ h) (by decide)
  simp [lineHead, hdecimal, hhex, hrest]

/-- A pointer does not end the line. -/
lemma newline_not_mem_showPointer (p : Nat) : '\n' ∉ showPointer p := by
  intro h
  unfold showPointer at h
  rcases mem_leftpad h with h | h
  · exact absurd h (by decide)
  · split at h
    · exact absurd h (by decide)
    · exact absurd (isHexDigit_of_mem_toDigits h) (by decide)

/-- A port's line has no line end within. -/
lemma Port.newline_not_mem_line (p : Port) : '\n' ∉ p.line := by
  rw [← List.append_nil p.line]
  unfold Port.line
  by_cases hused : p.vdev.status = .vdevUsed
  · have hname : '\n' ∉ p.vdev.devName := fun h =>
      absurd (p.vdev.devName_word _ h) (by decide)
    rw [statusLine_of_used hused]
    refine newline_not_mem_lineHead ?_
    simp [newline_not_mem_showPointer, hname]
  · rw [statusLine_of_ne_used hused]
    exact newline_not_mem_lineHead (by decide)

/-- A port's line is not empty. -/
lemma Port.line_ne_nil (p : Port) : p.line ≠ [] := by
  intro h
  have hblank := (List.append_eq_nil_iff.mp (List.append_eq_nil_iff.mp h).1).2
  cases hblank

/-- A status attribute is its header and the lines of its ports. -/
lemma statusShow_eq (pdevNr : Nat) (pdev : Option (Fin ports → VhciDevice)) :
    statusShow pdevNr pdev = statusHeader ++ ['\n'] ++
      (controllerPorts pdevNr pdev).flatMap fun p => p.line ++ ['\n'] := by
  unfold statusShow controllerPorts Port.line
  rw [List.flatMap_def, List.map_ofFn]
  cases pdev with
  | some vdev => rfl
  | none =>
      refine congrArg (statusHeader ++ ['\n'] ++ List.flatten ·) (congrArg List.ofFn ?_)
      funext i
      rfl

/-- The newlines may as well stand before the lines. -/
lemma flatMap_line (word : List Char) (l : List Port) :
    word ++ ['\n'] ++ (l.flatMap fun p => p.line ++ ['\n']) = word ++ linesOf l ++ ['\n'] := by
  induction l generalizing word with
  | nil => simp [linesOf]
  | cons p l ih =>
      have hih := ih (word ++ '\n' :: p.line)
      simp only [linesOf, List.flatMap_cons, List.append_assoc, List.cons_append,
        List.nil_append] at hih ⊢
      exact hih

/-- Dropping the last line ends leaves the lines. -/
lemma rdropWhile_linesOf {word : List Char} (hword : '\n' ∉ word) (l : List Port) :
    (word ++ linesOf l).rdropWhile (· = '\n') = word ++ linesOf l := by
  rw [List.rdropWhile_eq_self_iff]
  intro hne hlast
  have hlast : (word ++ linesOf l).getLast? = some '\n' :=
    (List.getLast?_eq_some_getLast hne).trans (congrArg some (of_decide_eq_true hlast))
  rcases List.eq_nil_or_concat l with rfl | ⟨l, p, rfl⟩
  · rw [show word ++ linesOf [] = word from List.append_nil word] at hlast
    exact hword (List.mem_of_getLast? hlast)
  · have hlines : word ++ linesOf (l.concat p) = word ++ linesOf l ++ ['\n'] ++ p.line := by
      simp [linesOf]
    rw [hlines, List.getLast?_append, List.getLast?_eq_some_getLast p.line_ne_nil] at hlast
    exact p.newline_not_mem_line (List.mem_of_getLast?
      ((List.getLast?_eq_some_getLast p.line_ne_nil).trans hlast))

/-- What is read of an attribute. -/
lemma sysattrValue_statusShow (pdevNr : Nat) (pdev : Option (Fin ports → VhciDevice)) :
    sysattrValue (statusShow pdevNr pdev) =
      statusHeader ++ linesOf (controllerPorts pdevNr pdev) := by
  unfold sysattrValue
  rw [statusShow_eq, flatMap_line, List.rdropWhile_concat_pos _ _ _ (by decide)]
  exact rdropWhile_linesOf (by decide) _

/-! ### All attributes -/

/-- The lines behind the next newline are those of the ports. -/
def At (ctx : StatusContext) (l : List Port) : Prop :=
  ∃ (word : List Char) (here : List Port) (pages : List (List Port)), '\n' ∉ word ∧
    ctx = ⟨word ++ linesOf here, pages.map fun page => statusHeader ++ linesOf page⟩ ∧
    l = here ++ pages.flatten

/-- A search goes past a word without the character. -/
lemma strchr_of_not_mem {word : List Char} (hword : '\n' ∉ word) (rest : List Char) :
    strchr '\n' (word ++ rest) = strchr '\n' rest :=
  List.dropWhile_append_of_pos fun ch hch => by
    have : ch ≠ '\n' := fun h => hword (h ▸ hch)
    simpa using this

/-- The first line end is before the second line. -/
lemma strchr_linesOf_cons (p : Port) (l : List Port) :
    strchr '\n' (linesOf (p :: l)) = '\n' :: (p.line ++ linesOf l) := rfl

/-- Behind the last line there is none. -/
lemma nextStatusLine_nil {word : List Char} {pages : List (List Port)} (hword : '\n' ∉ word)
    (hpages : pages.flatten = []) :
    nextStatusLine (word ++ linesOf []) (pages.map fun page => statusHeader ++ linesOf page) =
      none := by
  induction pages generalizing word with
  | nil =>
      unfold nextStatusLine
      rw [strchr_of_not_mem hword]
      rfl
  | cons page pages ih =>
      obtain ⟨rfl, hpages⟩ := List.append_eq_nil_iff.mp hpages
      unfold nextStatusLine
      rw [strchr_of_not_mem hword]
      exact ih (by decide) hpages

/-- The context is at the line of the port, with those of the others behind it. -/
def Behind (p : Port) (l : List Port) (ctx : StatusContext) : Prop :=
  (∃ rest, ctx.c = p.line ++ rest ∧ ∀ ch ∈ rest.head?, ch = '\n') ∧ At ctx l

/-- The text stands behind the first port of what is left. -/
lemma behind_line (p : Port) (here : List Port) (pages : List (List Port)) :
    Behind p (here ++ pages.flatten) ⟨p.line ++ linesOf here,
      pages.map fun page => statusHeader ++ linesOf page⟩ := by
  refine ⟨⟨linesOf here, rfl, ?_⟩, p.line, here, pages, p.newline_not_mem_line, rfl, rfl⟩
  cases here with
  | nil => exact fun ch hch => by cases hch
  | cons q here => exact fun ch hch => by cases hch; rfl

/-- The next line is that of the first port, on whatever page it is. -/
lemma nextStatusLine_cons {p : Port} {l : List Port} {word : List Char} {here : List Port}
    {pages : List (List Port)} (hword : '\n' ∉ word) (hl : here ++ pages.flatten = p :: l) :
    ∃ ctx, nextStatusLine (word ++ linesOf here)
      (pages.map fun page => statusHeader ++ linesOf page) = some ctx ∧ Behind p l ctx := by
  induction pages generalizing word here with
  | nil =>
      cases here with
      | nil => cases hl
      | cons q here =>
          cases hl
          refine ⟨_, ?_, behind_line p here []⟩
          unfold nextStatusLine
          rw [strchr_of_not_mem hword, strchr_linesOf_cons]
          rfl
  | cons page pages ih =>
      cases here with
      | nil =>
          have hheader : '\n' ∉ statusHeader := by decide
          have hl : page ++ pages.flatten = p :: l := hl
          obtain ⟨ctx, hnext, hctx⟩ := ih hheader hl
          refine ⟨ctx, ?_, hctx⟩
          unfold nextStatusLine
          rw [strchr_of_not_mem hword]
          exact hnext
      | cons q here =>
          cases hl
          refine ⟨_, ?_, behind_line p here (page :: pages)⟩
          unfold nextStatusLine
          rw [strchr_of_not_mem hword, strchr_linesOf_cons]
          rfl

/-- No line is left exactly when no port is. -/
lemma At.next_eq_none_iff {ctx : StatusContext} {l : List Port} (h : At ctx l) :
    nextStatusLine ctx.c ctx.pages = none ↔ l = [] := by
  obtain ⟨word, here, pages, hword, rfl, hl⟩ := h
  cases l with
  | nil =>
      obtain ⟨rfl, hpages⟩ := List.append_eq_nil_iff.mp hl.symm
      exact iff_of_true (nextStatusLine_nil hword hpages) rfl
  | cons p l =>
      obtain ⟨ctx, hnext, -⟩ := nextStatusLine_cons hword hl.symm
      exact iff_of_false (fun hnone => by rw [hnext] at hnone; cases hnone) (List.cons_ne_nil _ _)

/-- Nothing is left at the end of the text. -/
lemma At.nil : At ⟨[], []⟩ [] := ⟨[], [], [], List.not_mem_nil, rfl, rfl⟩

variable {udev : List Char → Bool}

/-- At the end there is no line to parse. -/
lemma At.parse_nil {ctx : StatusContext} (h : At ctx []) :
    parseStatusLine udev ctx = .error ⟨[], []⟩ := by
  unfold parseStatusLine
  rw [h.next_eq_none_iff.mpr rfl]

/-- Each status has a value of its own. -/
lemma statusValue_inj {s t : UsbipDeviceStatus} :
    (statusValue s : Int) = statusValue t ↔ s = t := by
  refine ⟨fun h => ?_, fun h => by rw [h]⟩
  revert h
  cases s <;> cases t <;> decide

/-- The test that lets a scanned line through. -/
lemma refused_iff_not_parses {p : Port}
    (hsocket : ¬ (p.vdev.status = .vdevUsed ∧ p.vdev.tcpSocket = 0)) :
    (p.seen.status ≠ statusValue .vdevNull ∧ p.seen.status ≠ statusValue .vdevNotassigned ∧
      udev (if p.vdev.status = .vdevUsed then p.vdev.devName else "0-0".toList) = false) ↔
      p.parses udev = false := by
  unfold Port.parses Port.seen
  simp only [ne_eq, statusValue_inj]
  by_cases hused : p.vdev.status = .vdevUsed
  · have hsocket : p.vdev.tcpSocket ≠ 0 := fun h => hsocket ⟨hused, h⟩
    simp [hused, hsocket]
  · simp [hused, and_assoc]

/-- The line of the next port is taken when it parses, and the walk is behind it in any case. -/
lemma At.parse_cons (udev : List Char → Bool) {ctx : StatusContext} {p : Port} {l : List Port}
    (h : At ctx (p :: l)) :
    ∃ ctx', At ctx' l ∧ parseStatusLine udev ctx =
      if p.parses udev then .ok (p.seen, ctx') else .error ctx' := by
  obtain ⟨word, here, pages, hword, rfl, hl⟩ := h
  obtain ⟨ctx, hnext, ⟨rest, hc, hrest⟩, hat⟩ := nextStatusLine_cons hword hl.symm
  refine ⟨ctx, hat, ?_⟩
  have hne : ctx.c ≠ [] := by
    rw [hc]
    exact List.append_ne_nil_of_left_ne_nil p.line_ne_nil rest
  have hspace : ∀ ch ∈ rest.head?, isSpace ch = true := by
    intro ch hch
    rw [hrest ch hch]
    rfl
  have hscan := sscanfStatus_statusLine p hspace
  rw [← Port.line, ← hc] at hscan
  unfold parseStatusLine
  rw [hnext]
  dsimp only
  rw [if_neg hne]
  split at hscan
  · rename_i hnull
    have hparses : p.parses udev = false := by simp [Port.parses, hnull]
    rw [hscan, hparses]
    rfl
  · rename_i hsocket
    obtain ⟨speed, n, hscan⟩ := hscan
    rw [hscan]
    dsimp only
    rw [BitVec.ofInt_natCast, BitVec.ofNat_toNat, BitVec.setWidth_eq]
    simp only [refused_iff_not_parses hsocket]
    cases hparses : p.parses udev <;> rfl

/-! ## The walks over the ports -/

variable {body : UsbipVhciDevice → List Int × Option Int}

/-- The loop ends at a line that cannot be parsed. -/
lemma whileParseStatusLine_error {ctx ctx' : StatusContext}
    (h : parseStatusLine udev ctx = .error ctx') :
    whileParseStatusLine udev body ctx = ⟨-1, [], ctx'⟩ := by
  unfold whileParseStatusLine
  split
  · rename_i h'
    cases h.symm.trans h'
    rfl
  · rename_i h'
    cases h.symm.trans h'

/-- The loop's body at a line that can. -/
lemma whileParseStatusLine_ok {ctx ctx' : StatusContext} {vdev : UsbipVhciDevice}
    (h : parseStatusLine udev ctx = .ok (vdev, ctx')) :
    whileParseStatusLine udev body ctx =
      match body vdev with
      | (records, some port) => ⟨port, records, ctx'⟩
      | (records, none) =>
          ⟨(whileParseStatusLine udev body ctx').ret,
            records ++ (whileParseStatusLine udev body ctx').records,
            (whileParseStatusLine udev body ctx').context⟩ := by
  rw [whileParseStatusLine]
  split
  · rename_i h'
    cases h.symm.trans h'
  · rename_i h'
    cases h.symm.trans h'
    rfl

/-- The body reads the records of some of the ports, and returns at some. -/
def Body (body : UsbipVhciDevice → List Int × Option Int) (reads stops : Port → Bool) : Prop :=
  ∀ p : Port, body p.seen =
    (if reads p then [(p.number : Int)] else [], if stops p then some (p.number : Int) else none)

/-- The walk over the lines came out as one over the ports. -/
structure Same (reads : Port → Bool) (w : Walk Port) (v : Walked) : Prop where
  ret : v.ret = (w.stop.map fun p => (p.number : Int)).getD (-1)
  records : v.records = (w.taken.filter reads).map fun p => (p.number : Int)
  context : At v.context w.unseen

/-- The loop walks over the ports. -/
lemma whileParseStatusLine_same {reads stops : Port → Bool} (hbody : Body body reads stops)
    {ctx : StatusContext} {l : List Port} (h : At ctx l) :
    Same reads (walk (Port.parses udev) stops l) (whileParseStatusLine udev body ctx) := by
  induction l generalizing ctx with
  | nil =>
      rw [whileParseStatusLine_error h.parse_nil]
      exact ⟨rfl, rfl, .nil⟩
  | cons p l ih =>
      obtain ⟨ctx', hat, hparse⟩ := h.parse_cons udev
      unfold walk
      cases hparses : p.parses udev with
      | false =>
          rw [hparses] at hparse
          rw [whileParseStatusLine_error hparse]
          exact ⟨rfl, rfl, hat⟩
      | true =>
          rw [hparses] at hparse
          rw [whileParseStatusLine_ok hparse, hbody p, if_pos rfl]
          cases hstops : stops p with
          | true => exact ⟨rfl, by cases hreads : reads p <;> simp [hreads], hat⟩
          | false =>
              obtain ⟨hret, hrecords, hcontext⟩ := ih hat
              refine ⟨hret, ?_, hcontext⟩
              cases hreads : reads p <;> simp [hreads, hrecords]

/-- The walk over all status attributes is one over all ports. -/
lemma walkStatus_same {reads stops : Port → Bool} (hbody : Body body reads stops)
    (pdevs : VhciPdevs ports) :
    Same reads (walk (Port.parses udev) stops (portsOf pdevs))
      (walkStatus udev body (statusAttrs pdevs)) := by
  have hattrs : statusAttrs pdevs =
      (pdevs.mapIdx controllerPorts).map fun page => statusHeader ++ linesOf page := by
    unfold statusAttrs
    simp only [sysattrValue_statusShow, List.mapIdx_eq_zipIdx_map, List.map_map]
    rfl
  unfold walkStatus portsOf
  rw [hattrs]
  cases pdevs.mapIdx controllerPorts with
  | nil => exact ⟨rfl, rfl, .nil⟩
  | cons page pages =>
      exact whileParseStatusLine_same hbody ⟨statusHeader, page, pages, by decide, rfl, rfl⟩

def Port.free (p : Port) : Bool := p.vdev.status = .vdevNull

/-- A port whose record `usbip_vhci_find_device` reads. -/
def Port.recorded (p : Port) : Bool :=
  ¬ (p.vdev.status = .vdevNull ∨ p.vdev.status = .vdevNotassigned)

/-- A port whose record is the one looked for. -/
def Port.isMatch (files : Int → Option (List Char)) (host busid : List Char) (p : Port) : Bool :=
  p.recorded && readRecord (files p.number) = some (host, busid)

/-- The search for a free port walks over all ports. -/
lemma getFreePort_same (udev : List Char → Bool) (pdevs : VhciPdevs ports) :
    Same (fun _ => false) (walk (Port.parses udev) Port.free (portsOf pdevs))
      (usbipVhciGetFreePort udev (statusAttrs pdevs)) := by
  refine walkStatus_same (fun p => ?_) pdevs
  simp only [Port.seen, Port.free, statusValue_inj, decide_eq_true_eq]
  rfl

/-- The search for a device walks over all ports. -/
lemma findDevice_same (udev : List Char → Bool) (files : Int → Option (List Char))
    (host busid : List Char) (pdevs : VhciPdevs ports) :
    Same Port.recorded (walk (Port.parses udev) (Port.isMatch files host busid) (portsOf pdevs))
      (usbipVhciFindDevice udev files host busid (statusAttrs pdevs)) := by
  refine walkStatus_same (fun p => ?_) pdevs
  simp only [Port.seen, Port.isMatch, Port.recorded, statusValue_inj]
  by_cases hstatus : p.vdev.status = .vdevNull ∨ p.vdev.status = .vdevNotassigned
  · simp [hstatus]
  · by_cases hrecord : readRecord (files p.number) = some (host, busid)
    · simp [hstatus, hrecord]
    · simp [hstatus, hrecord]

/-! ## What is found -/

/-- The ports are numbered in their order. -/
lemma map_number_portsOf (pdevs : VhciPdevs ports) :
    (portsOf pdevs).map Port.number = List.range (pdevs.length * ports) := by
  induction pdevs using List.reverseRecOn with
  | nil => simp [portsOf]
  | append_singleton pdevs pdev ih =>
      have hlast : (controllerPorts pdevs.length pdev).map Port.number =
          (List.range ports).map (pdevs.length * ports + ·) := by
        unfold controllerPorts
        rw [List.map_ofFn, ← List.map_coe_finRange_eq_range, List.map_map, ← List.ofFn_eq_map]
        rfl
      unfold portsOf at ih ⊢
      rw [List.mapIdx_concat, List.flatten_concat, List.map_append, ih, hlast, List.length_append,
        List.length_singleton, Nat.add_mul, Nat.one_mul, List.range_add]

/-- The ports are in the order of their numbers. -/
lemma portsOf_lt (pdevs : VhciPdevs ports) :
    (portsOf pdevs).Pairwise fun p q => p.number < q.number := by
  rw [← List.pairwise_map (f := Port.number) (R := (· < ·)), map_number_portsOf]
  exact List.pairwise_lt_range

/-- A walk that returns no port has left no line unread. -/
def Walked.Complete (v : Walked) : Prop :=
  v.ret = -1 → nextStatusLine v.context.c v.context.pages = none

/-- The lowest free port is found, and the search fails only when no port is free. -/
structure FreePortFound (l : List Port) (v : Walked) : Prop where
  lowest : ∀ p ∈ l, p.free = true → ∃ q ∈ l, q.free = true ∧ v.ret = q.number ∧ q.number ≤ p.number
  none : (∀ p ∈ l, p.free = false) → v.ret = -1
  complete : v.Complete

/-- A port in use. -/
def Port.Attached (p : Port) : Prop := p.vdev.status = .vdevUsed

/-- The record of every port in use is read, unless the search returns a port that has the record
it looks for. -/
structure AttachedExamined (files : Int → Option (List Char)) (host busid : List Char)
    (l : List Port) (v : Walked) : Prop where
  examined : ∀ p ∈ l, p.Attached → (p.number : Int) ∈ v.records ∨
    v.ret ≠ -1 ∧ readRecord (files v.ret) = some (host, busid)
  complete : v.Complete

section Search

variable {reads : Port → Bool} {w : Walk Port} {v : Walked}

/-- The search fails exactly when the walk does not stop. -/
lemma Same.ret_eq_iff (h : Same reads w v) : v.ret = -1 ↔ w.stop = none := by
  rw [h.ret]
  cases w.stop with
  | none => exact iff_of_true rfl rfl
  | some p =>
      refine iff_of_false (fun hp => ?_) (Option.some_ne_none p)
      have hp : (p.number : Int) = -1 := hp
      omega

/-- The search is complete exactly when a walk that does not stop has seen all ports. -/
lemma Same.complete_iff (h : Same reads w v) :
    v.Complete ↔ (w.stop = none → w.unseen = []) := by
  unfold Walked.Complete
  rw [h.ret_eq_iff, h.context.next_eq_none_iff]

/-- The first free port is the lowest. -/
lemma freePortFound_of_find? {pdevs : VhciPdevs ports} (h : Same reads w v)
    (hstop : w.stop = (portsOf pdevs).find? Port.free) (hcomplete : v.Complete) :
    FreePortFound (portsOf pdevs) v := by
  have hret := h.ret
  rw [hstop] at hret
  refine ⟨fun p hp hfree => ?_, fun hnone => ?_, hcomplete⟩
  · obtain ⟨q, hq⟩ : ∃ q, (portsOf pdevs).find? Port.free = some q :=
      Option.isSome_iff_exists.mp (List.find?_isSome.mpr ⟨p, hp, hfree⟩)
    rw [hq] at hret
    obtain ⟨hqfree, before, after, hl, hbefore⟩ := List.find?_eq_some_iff_append.mp hq
    have hlt := portsOf_lt pdevs
    refine ⟨q, List.mem_of_find?_eq_some hq, hqfree, hret, ?_⟩
    rw [hl] at hlt hp
    rcases List.mem_append.mp hp with hp | hp
    · exact absurd hfree (by simpa using hbefore p hp)
    · rcases List.mem_cons.mp hp with rfl | hp
      · exact le_rfl
      · exact ((List.pairwise_cons.mp (List.pairwise_append.mp hlt).2.1).1 p hp).le
  · rw [List.find?_eq_none.mpr fun p hp => by simp [hnone p hp]] at hret
    exact hret

/-- Each number has one port. -/
lemma Port.eq_of_number {pdevs : VhciPdevs ports} {p q : Port} (hp : p ∈ portsOf pdevs)
    (hq : q ∈ portsOf pdevs) (h : p.number = q.number) : p = q := by
  refine eq_of_nodup_map (f := Port.number) ?_ hp hq h
  rw [map_number_portsOf]
  exact List.nodup_range

/-- The line of a free port can be parsed. -/
lemma Port.parses_of_free (udev : List Char → Bool) {p : Port} (h : p.free = true) :
    p.parses udev = true := by
  have hstatus : p.vdev.status = .vdevNull := of_decide_eq_true h
  simp [Port.parses, hstatus]

/-- The two searches of the tools, and exactly when they lose no port.  Of the ports before the one
the search ends with, each that has a port behind it needs a line that parses; when the record of
a port in use is to be read, so does that port itself, although it be the last. -/
theorem port_search_complete_iff (udev : List Char → Bool) (pdevs : VhciPdevs ports) :
    (FreePortFound (portsOf pdevs) (usbipVhciGetFreePort udev (statusAttrs pdevs)) ↔
      Clear (Port.parses udev) Port.free (fun _ => False) (portsOf pdevs)) ∧
    ∀ (files : Int → Option (List Char)) (host busid : List Char),
      AttachedExamined files host busid (portsOf pdevs)
          (usbipVhciFindDevice udev files host busid (statusAttrs pdevs)) ↔
        Clear (Port.parses udev) (Port.isMatch files host busid) Port.Attached (portsOf pdevs) := by
  refine ⟨?_, fun files host busid => ?_⟩
  · have hsame := getFreePort_same udev pdevs
    rw [← walk_thorough_iff]
    refine ⟨fun h => ⟨fun _ _ h => h.elim, hsame.complete_iff.mp h.complete⟩, fun h => ?_⟩
    exact freePortFound_of_find? hsame
      (h.stop_eq (fun p => Port.parses_of_free udev) (walk_outcome _)) (hsame.complete_iff.mpr h.2)
  · have hsame := findDevice_same udev files host busid pdevs
    have houtcome : Outcome (Port.parses udev) (Port.isMatch files host busid) (portsOf pdevs) _ :=
      walk_outcome (portsOf pdevs)
    rw [← walk_thorough_iff]
    refine ⟨fun h => ⟨fun p hp hattached => ?_, hsame.complete_iff.mp h.complete⟩,
      fun h => ⟨fun p hp hattached => ?_, hsame.complete_iff.mpr h.2⟩⟩
    · rcases h.examined p hp hattached with hread | ⟨hret, -⟩
      · rw [hsame.records] at hread
        obtain ⟨q, hq, hnumber⟩ := List.mem_map.mp hread
        have hq := (List.mem_filter.mp hq).1
        rw [Port.eq_of_number hp (houtcome.taken_subset hq) (by exact_mod_cast hnumber.symm)]
        exact .inl hq
      · exact .inr fun hstop => hret (hsame.ret_eq_iff.mpr hstop)
    · rcases h.1 p hp hattached with hp | hstop
      · have hrecorded : p.recorded = true := by
          simp [Port.recorded, show p.vdev.status = .vdevUsed from hattached]
        rw [hsame.records]
        exact .inl (List.mem_map_of_mem (List.mem_filter.mpr ⟨hp, hrecorded⟩))
      · obtain ⟨q, hq⟩ := Option.ne_none_iff_exists'.mp hstop
        have hmatch := houtcome.stops_of_stop_eq hq
        have hret := hsame.ret
        rw [hq] at hret
        simp only [Port.isMatch, Bool.and_eq_true, decide_eq_true_eq] at hmatch
        refine .inr ⟨mt hsame.ret_eq_iff.mp hstop, ?_⟩
        rw [hret]
        exact hmatch.2

end Search

/-- A controller with a port in error before a free one. -/
def errorBeforeFree : VhciPdevs 2 := [some ![{ status := .vdevError }, {}]]

/-- The port in error hides the free one. -/
theorem not_freePortFound_behind_error :
    ¬ ∀ (udev : List Char → Bool) (ports : Nat) (pdevs : VhciPdevs ports),
      FreePortFound (portsOf pdevs) (usbipVhciGetFreePort udev (statusAttrs pdevs)) := by
  intro h
  have hfound := h (fun _ => false) 2 errorBeforeFree
  have hsame := getFreePort_same (fun _ => false) errorBeforeFree
  obtain ⟨q, -, -, hret, -⟩ := hfound.lowest ⟨1, {}⟩
    (by simp [portsOf, errorBeforeFree, controllerPorts]) rfl
  rw [hsame.ret_eq_iff.mpr rfl] at hret
  omega

end Usbip.Tools
