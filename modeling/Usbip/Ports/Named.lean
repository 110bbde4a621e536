import Usbip.Ports.Machine
import Usbip.Tools.Records

/-!
# Detaching a port by its number

`usbip detach -p` takes the number of a port as a string and keeps it in a `uint8_t`, before it is
written to the attribute `detach` as a string again.  A build may have thousands of ports, so that
the number that is written can be the one of another port.  `detach_named_iff` says when it is not.
-/

namespace Usbip.Ports

open Usbip.Core Usbip.Common Usbip.Tools

/-! ## The tool -/

/-- `atoi` of a string of digits; `strtol`, which it is made of, stops at the largest `long`, and
the rest is cut off. -/
def atoi (long : Nat) (l : List Char) : BitVec 32 :=
  BitVec.ofNat 32 (min (ofDigits l) (2 ^ (long - 1) - 1))

/-- What the calls to the system come to. -/
structure DetachCalls where
  driverOpen : Bool := true
  attrOpen : Bool := true
  /-- In the kernel, the `spin_trylock` before a controller is deleted. -/
  lock : Bool := false
  removed : Bool := true

/-- What a detach has come to; `outcome` is the one of the write to `detach`, if it was written. -/
structure Detached where
  ret : Int
  outcome : Option Outcome
  state : State
  files : Files

/-- The record goes when the write has succeeded; a write that crashes does not return. -/
def Detached.ofWrite (calls : DetachCalls) (files : Files) (port : Nat) (x : Outcome × State) :
    Detached :=
  match x.1 with
  | .added _ _ => ⟨0, some x.1, x.2, (usbipVhciDeleteRecord calls.removed files port).2⟩
  | .failed _ | .nullPdev | .crashed | .deleted => ⟨-1, some x.1, x.2, files⟩

/-- `"%u"` of the port is written.  Source: `vhci_driver.c`, `usbip_vhci_detach_device`. -/
def usbipVhciDetachDevice (p : Params) (lock : Bool) (port : BitVec 32) (s : State) :
    Outcome × State :=
  storeDetach p lock (Nat.toDigits 10 port.toNat) s

/-- `uint8_t portnum` -/
def portnum (long : Nat) (port : List Char) : BitVec 8 := (atoi long port).setWidth 8

/-- Source: `usbip_detach.c`, `usbip_detach_port`. -/
def usbipDetachPort (p : Params) (long : Nat) (calls : DetachCalls) (port : List Char)
    (files : Files) (s : State) : Detached :=
  if port.all Char.isDigit = false then ⟨-1, none, s, files⟩
  else if calls.driverOpen = false ∨ calls.attrOpen = false then ⟨-1, none, s, files⟩
  else
    Detached.ofWrite calls files (portnum long port).toNat
      (usbipVhciDetachDevice p calls.lock ((portnum long port).setWidth 32) s)

/-! ## What it is for -/

/-- The number of ports, which the attribute `nports` shows. -/
def nports (p : Params) : Nat := p.hcPorts * p.maxControllers

/-- Disconnect the port that has a number, if there is such a port. -/
def disconnectNumber (p : Params) (lock : Bool) (number : Nat) (s : State) : Outcome × State :=
  if number < nports p then
    match s.pdevs (number / p.hcPorts) with
    | none => (.nullPdev, s)
    | some none => (.failed (-EAGAIN.toInt), s)
    | some (some v) =>
        vhciPortDisconnect p lock (number / p.hcPorts) (number % p.hcPorts) v s
  else (.failed (-EINVAL.toInt), s)

/-- Detach the port that has a number, and delete its record. -/
def detachNumber (p : Params) (calls : DetachCalls) (number : Nat) (files : Files) (s : State) :
    Detached :=
  if calls.driverOpen = false ∨ calls.attrOpen = false then ⟨-1, none, s, files⟩
  else Detached.ofWrite calls files number (disconnectNumber p calls.lock number s)

/-- The port that is detached, and whose record is deleted, is always the one that the string is the
number of. -/
def ActsOnNamed (p : Params) (long : Nat) (port : List Char) : Prop :=
  ∀ (calls : DetachCalls) (files : Files) (s : State), (machine p).Reachable s →
    usbipDetachPort p long calls port files s = detachNumber p calls (ofDigits port) files s

/-! ## Numbers that are written -/

/-- A word of digits is taken whole. -/
lemma digits_of_all {l : List Char} (h : ∀ ch ∈ l, ch.isDigit = true) : digits l = (l, []) := by
  induction l with
  | nil => rfl
  | cons ch l ih =>
      rw [digits, if_pos (h ch List.mem_cons_self), ih fun a ha => h a (List.mem_cons_of_mem _ ha)]
      rfl

/-- Writing a number and reading it gives it back. -/
lemma ofDigits_toDigits (n : Nat) : ofDigits (Nat.toDigits 10 n) = n :=
  Nat.ofDigitChars_eq_foldl.symm.trans Nat.ofDigitChars_ten_toDigits

/-- The kernel reads the number that is written. -/
lemma kstrtoint_toDigits {n : Nat} (hn : n < 2 ^ 31) :
    kstrtoint (Nat.toDigits 10 n) = some (n : Int) := by
  have hdigits : ∀ ch ∈ Nat.toDigits 10 n, ch.isDigit = true :=
    fun ch hch => Nat.isDigit_of_mem_toDigits (by decide) (by decide) hch
  have hull : kstrtoull (Nat.toDigits 10 n) = some n := by
    unfold kstrtoull
    rw [digits_of_all hdigits]
    dsimp only
    rw [if_neg Nat.toDigits_ne_nil, if_pos (.inl rfl), ofDigits_toDigits]
  unfold kstrtoint
  dsimp only
  split
  · rename_i hsign
    exact absurd (hdigits '-' (hsign ▸ List.mem_cons_self)) (by decide)
  · rename_i hsign
    exact absurd (hdigits '+' (hsign ▸ List.mem_cons_self)) (by decide)
  · rw [hull]
    show Option.filter _ (some (n : Int)) = _
    rw [Option.filter_some, if_pos]
    simp only [decide_eq_true_eq]
    omega

section Numbers

variable {p : Params} {lock : Bool} {number : Nat} {s : State} {n i : Nat}

/-- A number names a port exactly when it is below the number of ports. -/
lemma validPort_iff (p : Params) (number : Nat) :
    ValidPort p (number / p.hcPorts) (number % p.hcPorts) ↔ number < nports p := by
  rw [ValidPort, Nat.div_lt_iff_lt_mul p.hcPorts_pos, Nat.mul_comm]
  exact and_iff_left (Nat.mod_lt _ p.hcPorts_pos)

/-- A write of a number to `detach` is for the port that has it. -/
lemma storeDetach_toDigits (hnumber : number < 2 ^ 31) :
    storeDetach p lock (Nat.toDigits 10 number) s = disconnectNumber p lock number s := by
  have hport : (BitVec.ofInt 32 (number : Int)).toNat = number := by
    rw [BitVec.ofInt_natCast, BitVec.toNat_ofNat, Nat.mod_eq_of_lt (by omega)]
  unfold storeDetach disconnectNumber portToPdevNr portToRhport
  rw [kstrtoint_toDigits hnumber]
  dsimp only
  rw [hport]
  by_cases hvalid : number < nports p
  · have hport := (validPort_iff p number).mpr hvalid
    exact (if_neg (not_not.mpr hport)).trans (if_pos hvalid).symm
  · have hport := mt (validPort_iff p number).mp hvalid
    exact (if_pos hport).trans (if_neg hvalid).symm

/-- The port that is detached is the one that has the number. -/
lemma added_of_disconnectNumber (h : (disconnectNumber p lock number s).1 = .added n i) :
    n = number / p.hcPorts ∧ i = number % p.hcPorts := by
  unfold disconnectNumber at h
  split at h
  · split at h
    · cases h
    · cases h
    · unfold vhciPortDisconnect vhciEventAdd at h
      split at h
      · cases h
      · split at h
        · cases h
        · split at h
          · cases h
            exact ⟨rfl, rfl⟩
          · cases h
  · cases h

/-- An attach takes a port that it has got. -/
lemma storeAttach_getDevice {v : Hcd} (hv : (v.vdev i).status = .vdevNull) (s : State) :
    ∃ t, (getDevice n i v s).onPort n i (storeAttach true) = some t ∧
      ∃ w : Hcd, t.pdevs n = some (some w) ∧ (w.vdev i).status ≠ .vdevNull := by
  have hpdev : (getDevice n i v s).pdevs n = some (some
      { v.setPort i { v.vdev i with usingPort := 1, attaching := (v.vdev i).attaching + 1 } with
        usingPorts := v.usingPorts + 1 }) := Function.update_self ..
  unfold State.onPort
  rw [hpdev]
  dsimp only [Hcd.setPort]
  rw [Function.update_self, storeAttach, if_neg (Nat.succ_ne_zero _), if_pos ⟨hv, rfl⟩]
  refine ⟨_, rfl, _, Function.update_self .., ?_⟩
  dsimp only
  rw [Function.update_self]
  exact fun hnull => by cases hnull

/-- The controller of a port is there, or is added. -/
lemma vhciGetDevice_start (p : Params) (n i : Nat) :
    ∃ v : Hcd, (v.vdev i).status = .vdevNull ∧
      ∃ s, vhciGetDevice n i .started (start p) = some (getDevice n i v s) := by
  by_cases hinit : n < p.initControllers
  · refine ⟨{}, rfl, start p, ?_⟩
    unfold vhciGetDevice start
    simp only [hinit, if_true]
  · refine ⟨{}, rfl, addPlatformDevice n (some {}) (start p), ?_⟩
    unfold vhciGetDevice
    simp only [start, hinit, if_false]

/-- Any port can be in use. -/
lemma exists_connected (h : number < nports p) :
    ∃ s, (machine p).Reachable s ∧
      (disconnectNumber p false number s).1 = .added (number / p.hcPorts) (number % p.hcPorts) := by
  obtain ⟨hn, hi⟩ := (validPort_iff p number).mpr h
  obtain ⟨v, hv, s₀, hget⟩ := vhciGetDevice_start p (number / p.hcPorts) (number % p.hcPorts)
  obtain ⟨t, htaken, w, hw, hstatus⟩ := @storeAttach_getDevice (number / p.hcPorts) _ v hv s₀
  have hgot : (machine p).Reachable
      (getDevice (number / p.hcPorts) (number % p.hcPorts) v s₀) := by
    refine Machine.Reach.next (a := .getDevice (number / p.hcPorts) (number % p.hcPorts) .started)
      (.start rfl) trivial ?_
    show (if ValidPort p _ _ then vhciGetDevice _ _ .started (start p) else none) = _
    rw [if_pos ⟨hn, hi⟩, hget]
  have hreach : (machine p).Reachable t := by
    refine hgot.next (a := .attach (number / p.hcPorts) (number % p.hcPorts) true) trivial ?_
    show (if number % p.hcPorts < p.hcPorts then _ else none) = _
    rw [if_pos hi, htaken]
  refine ⟨t, hreach, ?_⟩
  unfold disconnectNumber
  rw [if_pos h, hw]
  dsimp only
  unfold vhciPortDisconnect vhciEventAdd tryDelPlatformDevice
  rw [if_neg hstatus, if_neg (by simp)]
  dsimp only
  rw [hw]

/-- The tool's outcome is that of its write. -/
lemma outcome_ofWrite (calls : DetachCalls) (files : Files) (port : Nat) (x : Outcome × State) :
    (Detached.ofWrite calls files port x).outcome = some x.1 := by
  unfold Detached.ofWrite
  split <;> rfl

/-- A detach adds its event to the port of its own number. -/
lemma eq_of_disconnectNumber {number' : Nat}
    (h : (disconnectNumber p lock number s).1 =
      .added (number' / p.hcPorts) (number' % p.hcPorts)) : number = number' := by
  obtain ⟨hdiv, hmod⟩ := added_of_disconnectNumber h
  rw [← Nat.div_add_mod number p.hcPorts, ← Nat.div_add_mod number' p.hcPorts, hdiv, hmod]

end Numbers

/-! ## The number that is kept -/

section Named

variable {p : Params} {long : Nat} {port : List Char}

/-- What the tool does is meant for the number that the string is cut to. -/
lemma usbipDetachPort_eq (hdigits : ∀ ch ∈ port, ch.isDigit = true) (calls : DetachCalls)
    (files : Files) (s : State) : usbipDetachPort p long calls port files s =
      detachNumber p calls (portnum long port).toNat files s := by
  have hlt := (portnum long port).isLt
  have hport : ((portnum long port).setWidth 32).toNat = (portnum long port).toNat := by
    rw [BitVec.toNat_setWidth, Nat.mod_eq_of_lt (by omega)]
  unfold usbipDetachPort detachNumber usbipVhciDetachDevice
  rw [if_neg (by simpa using hdigits), hport, storeDetach_toDigits (by omega)]

/-- A string that is cut to another number, the one or the other a port's, acts on a wrong port. -/
lemma not_actsOnNamed (hdigits : ∀ ch ∈ port, ch.isDigit = true)
    (hne : (portnum long port).toNat ≠ ofDigits port)
    (hlt : (portnum long port).toNat < nports p ∨ ofDigits port < nports p) :
    ¬ ActsOnNamed p long port := by
  intro hacts
  have hsame : ∀ s, (machine p).Reachable s →
      (disconnectNumber p false (portnum long port).toNat s).1 =
        (disconnectNumber p false (ofDigits port) s).1 := by
    intro s hs
    have heq := congrArg Detached.outcome (hacts {} (fun _ => none) s hs)
    rw [usbipDetachPort_eq hdigits] at heq
    unfold detachNumber at heq
    rw [if_neg (by decide), if_neg (by decide), outcome_ofWrite, outcome_ofWrite] at heq
    exact Option.some.inj heq
  rcases hlt with hlt | hlt
  · obtain ⟨s, hs, hadded⟩ := exists_connected hlt
    exact hne (eq_of_disconnectNumber ((hsame s hs).symm.trans hadded)).symm
  · obtain ⟨s, hs, hadded⟩ := exists_connected hlt
    exact hne (eq_of_disconnectNumber ((hsame s hs).trans hadded))

/-- Detach acts on the port named if and only if the string is not cut to another number, or neither
number is one of a port. -/
theorem detach_named_iff (p : Params) (long : Nat) (port : List Char)
    (hdigits : ∀ ch ∈ port, ch.isDigit = true) :
    ActsOnNamed p long port ↔ min (ofDigits port) (2 ^ (long - 1) - 1) % 2 ^ 8 = ofDigits port ∨
      nports p ≤ min (ofDigits port) (2 ^ (long - 1) - 1) % 2 ^ 8 ∧ nports p ≤ ofDigits port := by
  have hcut : (portnum long port).toNat = min (ofDigits port) (2 ^ (long - 1) - 1) % 2 ^ 8 := by
    rw [portnum, atoi, BitVec.toNat_setWidth, BitVec.toNat_ofNat]
    omega
  rw [← hcut]
  constructor
  · intro hacts
    by_contra hnot
    obtain ⟨hne, hlt⟩ := not_or.mp hnot
    refine not_actsOnNamed hdigits hne ?_ hacts
    omega
  · intro h calls files s _
    rw [usbipDetachPort_eq hdigits]
    rcases h with h | ⟨hcut, hnumber⟩
    · rw [h]
    · unfold detachNumber disconnectNumber
      rw [if_neg (Nat.not_lt.mpr hcut), if_neg (Nat.not_lt.mpr hnumber)]
      rfl

end Named

/-- A build with 9 controllers of 31 ports. -/
def nineControllers : Params where
  hcPorts := 31
  maxControllers := 9
  initControllers := 1
  init_pos := Nat.one_pos
  init_le := by decide

/-- The last port that fits. -/
theorem detach_named_iff_last : ActsOnNamed nineControllers 64 ['2', '5', '5'] :=
  (detach_named_iff nineControllers 64 ['2', '5', '5'] (by simp)).mpr
    (.inl (by decide))

/-- The string "256" detaches port 0, although there is a port 256. -/
theorem not_detach_named : ¬ ∀ (p : Params) (long : Nat) (port : List Char), p.hcPorts ≤ 31 →
    p.maxControllers ≤ 128 → port ≠ [] → (∀ ch ∈ port, ch.isDigit = true) →
      ActsOnNamed p long port := by
  intro h
  refine @not_actsOnNamed nineControllers 64 ['2', '5', '6'] ?_ ?_ ?_
    (h nineControllers 64 ['2', '5', '6'] (by decide) (by decide) (by decide) ?_)
  · simp
  · decide
  · exact .inl (by decide)
  · simp

end Usbip.Ports
