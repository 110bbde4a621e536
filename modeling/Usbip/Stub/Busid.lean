import Usbip.Common.Basic
import Usbip.Core.Machine

/-!
# The busid table of the stub driver

`busid_table` says which devices the stub driver takes: a busid is put there through the file
`match_busid`, and its slot changes its status when the device is bound and unbound.  Seen from
outside the table is meant to be a set of busids, which is the history field `wanted`.

No busid is ever in two slots (`unique_of_reach`).  The table follows the set as long as no busid is
deleted while its device is not bound, and none is added while its removal is pending
(`probe_follows_set`): a deletion leaves such a busid in the table, and an addition leaves it marked
for removal (`probe_leaves_set`).
-/

namespace Usbip.Stub.Busid

open Usbip.Core Usbip.Common

/-! ## The table -/

/-- A busid as `store_match_busid` lets it through, and as the name of a device is.
Source: `stub_main.c`, `BUSID_SIZE`. -/
structure Name where
  chars : List (BitVec 8)
  nonempty : chars ≠ []
  short : chars.length < 32
  deriving DecidableEq

/-- Source: `stub.h`, `STUB_BUSID_OTHER` and the others. -/
inductive Status
  | other
  | remov
  | added
  | alloc
  deriving DecidableEq

/-- A slot of the table; a name that is empty is `none`.
Source: `stub.h`, `struct bus_id_priv`, for the fields that decide whether a device is taken. -/
structure BusIdPriv where
  name : Option Name := none
  status : Status := .other
  deriving DecidableEq

/-- Source: `stub_main.c`, `busid_table`. -/
abbrev Table := Fin 16 → BusIdPriv

/-- Source: `stub_main.c`, `get_busid_idx`. -/
def getBusidIdx (table : Table) (busid : Name) : Option (Fin 16) :=
  (List.finRange 16).find? fun i => (table i).name = some busid

/-- The first slot that is free. -/
def freeIdx (table : Table) : Option (Fin 16) :=
  (List.finRange 16).find? fun i => (table i).name = none

/-- The return value, and the table after it.
Source: `stub_main.c`, `add_match_busid`. -/
def addMatchBusid (busid : Name) (table : Table) : Int × Table :=
  if (getBusidIdx table busid).isSome then (0, table)
  else
    match freeIdx table with
    | none => (-1, table)
    | some i =>
        let status :=
          if (table i).status ≠ .alloc ∧ (table i).status ≠ .remov then .added else (table i).status
        (0, Function.update table i ⟨some busid, status⟩)

/-- Source: `stub_main.c`, `del_match_busid`. -/
def delMatchBusid (busid : Name) (table : Table) : Int × Table :=
  match getBusidIdx table busid with
  | none => (-1, table)
  | some i =>
      let slot := table i
      let slot := if slot.status = .other then { slot with name := none } else slot
      let slot :=
        if slot.status ≠ .other ∧ slot.status ≠ .added then { slot with status := .remov } else slot
      (0, Function.update table i slot)

/-! ## Binding and unbinding -/

/-- What `stub_probe` finds out about the device, and how its calls end. -/
structure ProbeEnv where
  hub : Bool
  onVhci : Bool
  allocOk : Bool
  claimPort : Int
  addFiles : Int

/-- Nothing but the table keeps the stub driver from taking the device. -/
def ProbeEnv.Eligible (env : ProbeEnv) : Prop :=
  env.hub = false ∧ env.onVhci = false ∧ env.allocOk = true ∧ env.claimPort = 0 ∧ env.addFiles = 0

/-- Source: `stub_dev.c`, `stub_probe`. -/
def stubProbe (env : ProbeEnv) (busid : Name) (table : Table) : Int × Table :=
  match getBusidIdx table busid with
  | none => (-ENODEV.toInt, table)
  | some i =>
      if (table i).status = .remov ∨ (table i).status = .other then (-ENODEV.toInt, table)
      else if env.hub then (-ENODEV.toInt, table)
      else if env.onVhci then (-ENODEV.toInt, table)
      else if ¬ env.allocOk then (-ENOMEM.toInt, table)
      else if env.claimPort ≠ 0 then (env.claimPort, table)
      else if env.addFiles ≠ 0 then (env.addFiles, table)
      else (0, Function.update table i { table i with status := .alloc })

/-- The end of `stub_disconnect`; a busid that is not in the table is a `BUG`. -/
def disconnectSlot (busid : Name) (table : Table) : Option Table :=
  match getBusidIdx table busid with
  | none => none
  | some i =>
      if (table i).status = .alloc then
        some (Function.update table i { table i with status := .added })
      else
        let table := Function.update table i { table i with status := .other }
        some (delMatchBusid busid table).2

/-! ## The machine -/

structure State where
  table : Table := fun _ => {}
  /-- The devices that `stub_probe` has taken: their `drvdata` is not NULL. -/
  bound : Name → Bool := fun _ => false
  /-- The busids that were added and not deleted after that. -/
  wanted : Name → Bool := fun _ => false

inductive Action
  /-- `add` is written to `match_busid`. -/
  | add (busid : Name)
  /-- `del` is written to `match_busid`. -/
  | del (busid : Name)
  | probe (env : ProbeEnv) (busid : Name)
  /-- `stub_disconnect`, which stops early when the port cannot be released or when it is called
  from the event handler. -/
  | disconnect (released inEh : Bool) (busid : Name)

def step (s : State) : Action → Option State
  | .add b => some { s with
      table := (addMatchBusid b s.table).2
      wanted :=
        if (addMatchBusid b s.table).1 = 0 then Function.update s.wanted b true else s.wanted }
  | .del b => some { s with
      table := (delMatchBusid b s.table).2, wanted := Function.update s.wanted b false }
  | .probe env b => some { s with
      table := (stubProbe env b s.table).2
      bound := if (stubProbe env b s.table).1 = 0 then Function.update s.bound b true else s.bound }
  | .disconnect released inEh b =>
      if (getBusidIdx s.table b).isNone then none
      else if s.bound b = false then some s
      else
        let s := { s with bound := Function.update s.bound b false }
        if ¬ released ∨ inEh then some s
        else (disconnectSlot b s.table).map fun table => { s with table }

/-- The table as `init_busid_table` leaves it. -/
def machine : Machine State Action where
  init s := s = {}
  step := step

/-- The slot of a busid has this status. -/
def HasStatus (table : Table) (b : Name) (status : Status) : Prop :=
  ∃ i, table i = ⟨some b, status⟩

instance (table : Table) (b : Name) (status : Status) : Decidable (HasStatus table b status) :=
  inferInstanceAs (Decidable (∃ i, table i = ⟨some b, status⟩))

/-- There is room for every busid that is added. -/
def Fits (s : State) : Action → Prop
  | .add b => (getBusidIdx s.table b).isSome = true ∨ (freeIdx s.table).isSome = true
  | _ => True

instance (s : State) (a : Action) : Decidable (Fits s a) :=
  match a with
  | .add b => inferInstanceAs (Decidable
      ((getBusidIdx s.table b).isSome = true ∨ (freeIdx s.table).isSome = true))
  | .del _ | .probe _ _ | .disconnect _ _ _ => isTrue trivial

/-- No busid is deleted that is added and not bound, and none is added that is to be removed. -/
def Follows (s : State) : Action → Prop
  | .add b => ¬ HasStatus s.table b .remov
  | .del b => ¬ HasStatus s.table b .added
  | _ => True

instance (s : State) (a : Action) : Decidable (Follows s a) :=
  match a with
  | .add b => inferInstanceAs (Decidable (¬ HasStatus s.table b .remov))
  | .del b => inferInstanceAs (Decidable (¬ HasStatus s.table b .added))
  | .probe _ _ | .disconnect _ _ _ => isTrue trivial

/-! ## The slots -/

section Slots

variable {t : Table} {b c : Name} {i : Fin 16}

/-- The index that is found has the bus id. -/
lemma getBusidIdx_some (h : getBusidIdx t b = some i) : (t i).name = some b := by
  simpa using List.find?_some h

/-- When none is found no entry has the bus id. -/
lemma getBusidIdx_none (h : getBusidIdx t b = none) (i : Fin 16) : (t i).name ≠ some b := by
  have hall := List.find?_eq_none.mp h i (List.mem_finRange i)
  simpa using hall

/-- A free index has no bus id. -/
lemma freeIdx_some (h : freeIdx t = some i) : (t i).name = none := by
  simpa using List.find?_some h

/-- A busid that is in no slot has no status. -/
lemma not_hasStatus (h : getBusidIdx t b = none) (st : Status) : ¬ HasStatus t b st := by
  rintro ⟨i, hi⟩
  exact getBusidIdx_none h i (congrArg BusIdPriv.name hi)

/-- No busid is in two slots. -/
def Unique (t : Table) : Prop :=
  ∀ i j b, (t i).name = some b → (t j).name = some b → i = j

/-- The slot of a busid has the status of the busid, and no other. -/
lemma Unique.status_eq (hu : Unique t) (hi : (t i).name = some b) {st : Status}
    (h : HasStatus t b st) : (t i).status = st := by
  obtain ⟨j, hj⟩ := h
  obtain rfl := hu i j b hi (congrArg BusIdPriv.name hj)
  exact congrArg BusIdPriv.status hj

/-- An entry with the bus id gives its status. -/
lemma hasStatus_of_name (hi : (t i).name = some b) : HasStatus t b (t i).status := by
  refine ⟨i, ?_⟩
  rw [← hi]

/-- Only the slot that a busid has, or is to have, may get its name. -/
lemma Unique.update (hu : Unique t) {slot : BusIdPriv}
    (h : ∀ b, slot.name = some b → ∀ j, (t j).name = some b → j = i) :
    Unique (Function.update t i slot) := by
  intro j k b hj hk
  by_cases hji : j = i
  · by_cases hki : k = i
    · rw [hji, hki]
    · rw [hji, Function.update_self] at hj
      rw [Function.update_of_ne hki] at hk
      exact absurd (h b hj k hk) hki
  · rw [Function.update_of_ne hji] at hj
    by_cases hki : k = i
    · rw [hki, Function.update_self] at hk
      exact absurd (h b hk j hj) hji
    · rw [Function.update_of_ne hki] at hk
      exact hu j k b hj hk

/-- The statuses after the slot of `b` has been written. -/
lemma hasStatus_update (hname : (t i).name = some b ∨ (t i).name = none)
    (honly : ∀ j, (t j).name = some b → j = i) {st st' : Status} :
    HasStatus (Function.update t i ⟨some b, st⟩) c st' ↔
      c = b ∧ st' = st ∨ c ≠ b ∧ HasStatus t c st' := by
  constructor
  · rintro ⟨j, hj⟩
    by_cases hji : j = i
    · rw [hji, Function.update_self, BusIdPriv.mk.injEq, Option.some.injEq] at hj
      exact Or.inl ⟨hj.1.symm, hj.2.symm⟩
    · rw [Function.update_of_ne hji] at hj
      refine Or.inr ⟨?_, j, hj⟩
      rintro rfl
      exact hji (honly j (congrArg BusIdPriv.name hj))
  · rintro (⟨rfl, rfl⟩ | ⟨hne, j, hj⟩)
    · exact ⟨i, Function.update_self i _ t⟩
    · refine ⟨j, ?_⟩
      rw [Function.update_of_ne, hj]
      rintro rfl
      rcases hname with hname | hname
      · rw [hj, Option.some.injEq] at hname
        exact hne hname
      · rw [hj] at hname
        cases hname

/-- The statuses after the name of `b` has been cleared. -/
lemma hasStatus_clear (hname : (t i).name = some b) (honly : ∀ j, (t j).name = some b → j = i)
    {st st' : Status} :
    HasStatus (Function.update t i ⟨none, st⟩) c st' ↔ c ≠ b ∧ HasStatus t c st' := by
  constructor
  · rintro ⟨j, hj⟩
    by_cases hji : j = i
    · rw [hji, Function.update_self] at hj
      cases hj
    · rw [Function.update_of_ne hji] at hj
      refine ⟨?_, j, hj⟩
      rintro rfl
      exact hji (honly j (congrArg BusIdPriv.name hj))
  · rintro ⟨hne, j, hj⟩
    refine ⟨j, ?_⟩
    rw [Function.update_of_ne, hj]
    rintro rfl
    rw [hj, Option.some.injEq] at hname
    exact hne hname

end Slots

/-! ## What the operations do -/

section Operations

variable {t : Table} {b : Name}

/-- What `add_match_busid` does: the entry is there, the table is full, or a free one is taken. -/
lemma addMatchBusid_cases (b : Name) (t : Table) :
    (∃ i, (t i).name = some b ∧ addMatchBusid b t = (0, t)) ∨
      getBusidIdx t b = none ∧ (freeIdx t = none ∧ addMatchBusid b t = (-1, t) ∨
        ∃ i st, (t i).name = none ∧ ((t i).status = .other → st = .added) ∧
          addMatchBusid b t = (0, Function.update t i ⟨some b, st⟩)) := by
  unfold addMatchBusid
  cases hidx : getBusidIdx t b with
  | some i => exact Or.inl ⟨i, getBusidIdx_some hidx, rfl⟩
  | none =>
      refine Or.inr ⟨rfl, ?_⟩
      cases hfree : freeIdx t with
      | none => exact Or.inl ⟨rfl, rfl⟩
      | some i =>
          refine Or.inr ⟨i, _, freeIdx_some hfree, ?_, rfl⟩
          intro hother
          rw [if_pos (by rw [hother]; decide)]

/-- What a deletion leaves of a slot. -/
def delSlot (slot : BusIdPriv) : BusIdPriv :=
  match slot.status with
  | .other => { slot with name := none }
  | .added => slot
  | .remov | .alloc => { slot with status := .remov }

/-- What `del_match_busid` does: there is no entry, or it is deleted. -/
lemma delMatchBusid_cases (b : Name) (t : Table) :
    getBusidIdx t b = none ∧ delMatchBusid b t = (-1, t) ∨
      ∃ i, (t i).name = some b ∧
        delMatchBusid b t = (0, Function.update t i (delSlot (t i))) := by
  unfold delMatchBusid
  cases hidx : getBusidIdx t b with
  | none => exact Or.inl ⟨rfl, rfl⟩
  | some i =>
      refine Or.inr ⟨i, getBusidIdx_some hidx, ?_⟩
      dsimp only
      cases hstatus : (t i).status <;> simp [delSlot, hstatus]

/-- What `stub_probe` does: it takes an entry that waits for the device, or it leaves the table. -/
lemma stubProbe_cases (env : ProbeEnv) (b : Name) (t : Table) :
    (∃ i, (t i).name = some b ∧ ((t i).status = .added ∨ (t i).status = .alloc) ∧ env.Eligible ∧
        stubProbe env b t = (0, Function.update t i ⟨some b, .alloc⟩)) ∨
      (stubProbe env b t).2 = t ∧ (stubProbe env b t).1 ≠ 0 ∧
        ∀ i, (t i).name = some b → getBusidIdx t b = some i →
          (t i).status = .remov ∨ (t i).status = .other ∨ ¬ env.Eligible := by
  have hnodev : -ENODEV.toInt ≠ 0 := by decide
  have hnomem : -ENOMEM.toInt ≠ 0 := by decide
  unfold stubProbe
  cases hidx : getBusidIdx t b with
  | none =>
      exact Or.inr ⟨rfl, hnodev, fun i _ h => by cases h⟩
  | some i =>
      have hname := getBusidIdx_some hidx
      have heq : ∀ j, some i = some j → j = i := fun j h => (Option.some.inj h).symm
      dsimp only
      by_cases hstatus : (t i).status = .remov ∨ (t i).status = .other
      · rw [if_pos hstatus]
        refine Or.inr ⟨rfl, hnodev, fun j _ h => ?_⟩
        rw [heq j h]
        exact hstatus.imp id Or.inl
      rw [if_neg hstatus]
      by_cases hok : env.Eligible
      · obtain ⟨hhub, hvhci, halloc, hport, hfiles⟩ := hok
        refine Or.inl ⟨i, hname, ?_, ⟨hhub, hvhci, halloc, hport, hfiles⟩, ?_⟩
        · cases hcase : (t i).status with
          | other => exact absurd (Or.inr hcase) hstatus
          | remov => exact absurd (Or.inl hcase) hstatus
          | added => exact Or.inl rfl
          | alloc => exact Or.inr rfl
        · simp [hhub, hvhci, halloc, hport, hfiles, ← hname]
      · right
        unfold ProbeEnv.Eligible at hok
        refine ⟨?_, ?_, fun j _ h => Or.inr (Or.inr hok)⟩
        · split_ifs with h₁ h₂ h₃ h₄ h₅
          · rfl
          · rfl
          · rfl
          · rfl
          · refine absurd ⟨?_, ?_, h₃, not_not.mp h₄, not_not.mp h₅⟩ hok
            · exact Bool.eq_false_iff.mpr h₁
            · exact Bool.eq_false_iff.mpr h₂
          · rfl
        · split_ifs with h₁ h₂ h₃ h₄ h₅
          · exact hnodev
          · exact hnodev
          · exact h₄
          · exact h₅
          · refine absurd ⟨?_, ?_, h₃, not_not.mp h₄, not_not.mp h₅⟩ hok
            · exact Bool.eq_false_iff.mpr h₁
            · exact Bool.eq_false_iff.mpr h₂
          · exact hnomem

/-- Unbinding a device puts its busid back or takes it out. -/
lemma disconnectSlot_cases {t' : Table} (h : disconnectSlot b t = some t') (hu : Unique t) :
    ∃ i, (t i).name = some b ∧
      ((t i).status = .alloc ∧ t' = Function.update t i ⟨some b, .added⟩ ∨
        (t i).status ≠ .alloc ∧ t' = Function.update t i ⟨none, .other⟩) := by
  unfold disconnectSlot at h
  cases hidx : getBusidIdx t b with
  | none =>
      rw [hidx] at h
      cases h
  | some i =>
      have hname := getBusidIdx_some hidx
      rw [hidx] at h
      dsimp only at h
      refine ⟨i, hname, ?_⟩
      split at h
      · rename_i halloc
        cases h
        exact Or.inl ⟨halloc, by rw [hname]⟩
      · rename_i halloc
        refine Or.inr ⟨halloc, ?_⟩
        obtain rfl := Option.some.inj h
        set t₁ : Table := Function.update t i { t i with status := .other } with ht₁
        have hself : t₁ i = ⟨some b, .other⟩ := by
          rw [ht₁, Function.update_self, ← hname]
        rcases delMatchBusid_cases b t₁ with ⟨hnone, -⟩ | ⟨j, hj, hdel⟩
        · exact absurd (congrArg BusIdPriv.name hself) (getBusidIdx_none hnone i)
        · have hji : j = i := by
            by_contra hne
            rw [ht₁, Function.update_of_ne hne] at hj
            exact hne (hu j i b hj hname)
          rw [hdel, hji, hself]
          show Function.update t₁ i ⟨none, .other⟩ = _
          rw [ht₁, Function.update_idem]

end Operations

/-! ## No busid is in two slots -/

section Unique

variable {t : Table} {b : Name}

/-- A bus id has one entry at most. -/
lemma Unique.only (hu : Unique t) {i : Fin 16} (hi : (t i).name = some b) :
    ∀ j, (t j).name = some b → j = i :=
  fun j hj => hu j i b hj hi

/-- A slot may be written for the busid that it has. -/
lemma Unique.rewrite (hu : Unique t) {i : Fin 16} (hi : (t i).name = some b) {slot : BusIdPriv}
    (hslot : slot.name = some b ∨ slot.name = none) : Unique (Function.update t i slot) := by
  apply hu.update
  intro c hc j hj
  rcases hslot with hslot | hslot
  · rw [hslot, Option.some.injEq] at hc
    exact hu.only hi j (hc ▸ hj)
  · rw [hslot] at hc
    cases hc

/-- Adding a bus id keeps them unique. -/
lemma Unique.addMatchBusid (hu : Unique t) (b : Name) : Unique (addMatchBusid b t).2 := by
  rcases addMatchBusid_cases b t with ⟨i, -, h⟩ | ⟨hnone, ⟨-, h⟩ | ⟨i, st, -, -, h⟩⟩
  · rwa [h]
  · rwa [h]
  · rw [h]
    apply hu.update
    intro c hc j hj
    obtain rfl := Option.some.inj hc
    exact absurd hj (getBusidIdx_none hnone j)

/-- A deletion leaves the name or clears it. -/
lemma delSlot_name {slot : BusIdPriv} (h : slot.name = some b) :
    (delSlot slot).name = some b ∨ (delSlot slot).name = none := by
  unfold delSlot
  split
  · exact Or.inr rfl
  · exact Or.inl h
  · exact Or.inl h
  · exact Or.inl h

/-- Deleting a bus id keeps them unique. -/
lemma Unique.delMatchBusid (hu : Unique t) (b : Name) : Unique (delMatchBusid b t).2 := by
  rcases delMatchBusid_cases b t with ⟨-, h⟩ | ⟨i, hi, h⟩
  · rwa [h]
  · rw [h]
    exact hu.rewrite hi (delSlot_name hi)

/-- A probe keeps the bus ids unique. -/
lemma Unique.stubProbe (hu : Unique t) (env : ProbeEnv) (b : Name) :
    Unique (stubProbe env b t).2 := by
  rcases stubProbe_cases env b t with ⟨i, hi, -, -, h⟩ | ⟨h, -⟩
  · rw [h]
    exact hu.rewrite hi (Or.inl rfl)
  · rwa [h]

/-- A disconnect keeps the bus ids unique. -/
lemma Unique.disconnectSlot (hu : Unique t) {t' : Table} (h : disconnectSlot b t = some t') :
    Unique t' := by
  obtain ⟨i, hi, ⟨-, rfl⟩ | ⟨-, rfl⟩⟩ := disconnectSlot_cases h hu
  · exact hu.rewrite hi (Or.inl rfl)
  · exact hu.rewrite hi (Or.inr rfl)

/-- What a step of `stub_disconnect` does. -/
lemma step_disconnect {s t : State} {released inEh : Bool} {b : Name}
    (h : step s (.disconnect released inEh b) = some t) :
    s.bound b = false ∧ t = s ∨
      s.bound b = true ∧ (t = { s with bound := Function.update s.bound b false } ∨
        ∃ table, disconnectSlot b s.table = some table ∧
          t = { s with table, bound := Function.update s.bound b false }) := by
  simp only [step] at h
  split at h
  · cases h
  · split at h
    · rename_i hbound
      cases h
      exact Or.inl ⟨hbound, rfl⟩
    · rename_i hbound
      refine Or.inr ⟨Bool.eq_true_of_not_eq_false hbound, ?_⟩
      split at h
      · cases h
        exact Or.inl rfl
      · obtain ⟨table, hslot, rfl⟩ := Option.map_eq_some_iff.mp h
        exact Or.inr ⟨table, hslot, rfl⟩

/-- The bus ids are unique in every state reached. -/
theorem unique_of_reach {ok : State → Action → Prop} {s : State} (h : machine.Reach ok s) :
    Unique s.table := by
  refine h.invariant (I := fun s => Unique s.table) ?_ ?_
  · rintro s rfl i j b hi
    cases hi
  · intro s a t hu _ hst
    cases a with
    | add b =>
        cases hst
        exact Unique.addMatchBusid hu b
    | del b =>
        cases hst
        exact Unique.delMatchBusid hu b
    | probe env b =>
        cases hst
        exact Unique.stubProbe hu env b
    | disconnect released inEh b =>
        rcases step_disconnect hst with ⟨-, rfl⟩ | ⟨-, rfl | ⟨table, hslot, rfl⟩⟩
        · exact hu
        · exact hu
        · exact Unique.disconnectSlot hu hslot

end Unique

/-! ## The table follows the set -/

/-- A busid is wanted when it is in the table and not to be removed; a device that is bound keeps its
busid there. -/
structure Tracks (s : State) : Prop where
  unique : Unique s.table
  free : ∀ i, (s.table i).name = none → (s.table i).status = .other
  taken : ∀ b, ¬ HasStatus s.table b .other
  bound : ∀ b, s.bound b = true → HasStatus s.table b .alloc ∨ HasStatus s.table b .remov
  wanted : ∀ b, s.wanted b = true ↔ HasStatus s.table b .added ∨ HasStatus s.table b .alloc

section Tracks

variable {s : State} {b : Name}

/-- The empty table follows no wish. -/
lemma tracks_start : Tracks {} := by
  have hnone : ∀ (b : Name) (st : Status), ¬ HasStatus (fun _ => {}) b st := by
    rintro b st ⟨i, hi⟩
    cases hi
  refine ⟨?_, fun _ _ => rfl, fun b => hnone b _, fun b h => (by cases h), fun b => ?_⟩
  · intro i j b hi
    cases hi
  · simp [hnone]

/-- A slot may get the name of its busid, or of one that is in no slot, with a new status. -/
lemma Tracks.write (hi : Tracks s) {i : Fin 16} {st : Status}
    (hname : (s.table i).name = some b ∨ (s.table i).name = none)
    (honly : ∀ j, (s.table j).name = some b → j = i) (hst : st ≠ .other) {bd wd : Name → Bool}
    (hbd : ∀ c, c ≠ b → bd c = s.bound c) (hbb : bd b = true → st = .alloc ∨ st = .remov)
    (hwd : ∀ c, c ≠ b → wd c = s.wanted c) (hwb : wd b = true ↔ st = .added ∨ st = .alloc) :
    Tracks ⟨Function.update s.table i ⟨some b, st⟩, bd, wd⟩ := by
  have hupdate : ∀ {c st'}, HasStatus (Function.update s.table i ⟨some b, st⟩) c st' ↔
      c = b ∧ st' = st ∨ c ≠ b ∧ HasStatus s.table c st' :=
    hasStatus_update hname honly
  constructor
  · apply hi.unique.update
    intro c hc j hj
    obtain rfl := Option.some.inj hc
    exact honly j hj
  · intro j hj
    by_cases hji : j = i
    · rw [hji] at hj
      change (Function.update s.table i ⟨some b, st⟩ i).name = none at hj
      rw [Function.update_self] at hj
      cases hj
    · change (Function.update s.table i _ j).name = none at hj
      change (Function.update s.table i _ j).status = .other
      rw [Function.update_of_ne hji] at hj ⊢
      exact hi.free j hj
  · intro c h
    rcases hupdate.mp h with ⟨-, h⟩ | ⟨-, h⟩
    · exact hst h.symm
    · exact hi.taken c h
  · intro c (hc : bd c = true)
    simp only [hupdate]
    by_cases hcb : c = b
    · rw [hcb] at hc ⊢
      exact (hbb hc).imp (fun h => Or.inl ⟨rfl, h.symm⟩) fun h => Or.inl ⟨rfl, h.symm⟩
    · rw [hbd c hcb] at hc
      exact (hi.bound c hc).imp (fun h => Or.inr ⟨hcb, h⟩) fun h => Or.inr ⟨hcb, h⟩
  · intro c
    simp only [hupdate]
    by_cases hcb : c = b
    · subst hcb
      simp only [true_and, ne_eq, not_true_eq_false, false_and, or_false]
      rw [hwb, eq_comm, @eq_comm _ st .alloc]
    · have hwanted : wd c = true ↔ _ := (hwd c hcb).symm ▸ hi.wanted c
      rw [hwanted]
      simp [hcb]

/-- A busid that is not wanted may be taken out. -/
lemma Tracks.clear (hi : Tracks s) {i : Fin 16} (hname : (s.table i).name = some b)
    (hwb : s.wanted b = false) {bd : Name → Bool} (hbd : ∀ c, c ≠ b → bd c = s.bound c)
    (hbb : bd b = false) : Tracks ⟨Function.update s.table i ⟨none, .other⟩, bd, s.wanted⟩ := by
  have honly := hi.unique.only hname
  have hupdate : ∀ {c st'}, HasStatus (Function.update s.table i ⟨none, .other⟩) c st' ↔
      c ≠ b ∧ HasStatus s.table c st' := hasStatus_clear hname honly
  constructor
  · exact hi.unique.rewrite hname (Or.inr rfl)
  · intro j hj
    change (Function.update s.table i _ j).name = none at hj
    change (Function.update s.table i _ j).status = .other
    by_cases hji : j = i
    · rw [hji, Function.update_self]
    · rw [Function.update_of_ne hji] at hj ⊢
      exact hi.free j hj
  · exact fun c h => hi.taken c (hupdate.mp h).2
  · intro c (hc : bd c = true)
    have hcb : c ≠ b := by
      rintro rfl
      rw [hbb] at hc
      cases hc
    rw [hbd c hcb] at hc
    simpa only [hupdate, ne_eq, hcb, not_false_eq_true, true_and] using hi.bound c hc
  · intro c
    simp only [hupdate]
    by_cases hcb : c = b
    · subst hcb
      simp [hwb]
    · rw [hi.wanted c]
      simp [hcb]

/-- The busid of a slot has its status. -/
lemma Tracks.wanted_iff (hi : Tracks s) {i : Fin 16} (hname : (s.table i).name = some b) :
    s.wanted b = true ↔ (s.table i).status = .added ∨ (s.table i).status = .alloc := by
  rw [hi.wanted b]
  constructor
  · exact Or.imp (hi.unique.status_eq hname) (hi.unique.status_eq hname)
  · rintro (h | h)
    · exact Or.inl (h ▸ hasStatus_of_name hname)
    · exact Or.inr (h ▸ hasStatus_of_name hname)

/-- A bus id without an entry is not bound. -/
lemma Tracks.not_bound (hi : Tracks s) (hnone : getBusidIdx s.table b = none) :
    s.bound b = false := by
  by_contra h
  exact (hi.bound b (Bool.eq_true_of_not_eq_false h)).elim (not_hasStatus hnone _)
    (not_hasStatus hnone _)

/-- The states of the two flags may be rewritten to what they are. -/
lemma Tracks.same (hi : Tracks s) {bd wd : Name → Bool} (hbd : ∀ c, bd c = true → s.bound c = true)
    (hwd : ∀ c, wd c = s.wanted c) : Tracks ⟨s.table, bd, wd⟩ :=
  ⟨hi.unique, hi.free, hi.taken, fun c hc => hi.bound c (hbd c hc), fun c =>
    (Bool.eq_iff_iff.mp (hwd c)).trans (hi.wanted c)⟩

/-- Setting what is set changes nothing. -/
lemma update_true {f : Name → Bool} (h : f b = true) (c : Name) :
    Function.update f b true c = f c := by
  by_cases hcb : c = b
  · rw [hcb, Function.update_self, h]
  · rw [Function.update_of_ne hcb]

/-- Adding a bus id keeps track. -/
lemma Tracks.add (hi : Tracks s) (hfollows : Follows s (.add b)) {t : State}
    (h : step s (.add b) = some t) : Tracks t := by
  cases h
  rcases addMatchBusid_cases b s.table with
    ⟨i, hname, heq⟩ | ⟨hnone, ⟨-, heq⟩ | ⟨i, st, hname, hst, heq⟩⟩
  · rw [heq, if_pos rfl]
    have hwanted : s.wanted b = true := by
      rw [hi.wanted_iff hname]
      have hstatus := hasStatus_of_name hname
      cases hcase : (s.table i).status with
      | added => exact Or.inl rfl
      | alloc => exact Or.inr rfl
      | remov => exact absurd (hcase ▸ hstatus) hfollows
      | other => exact absurd (hcase ▸ hstatus) (hi.taken b)
    exact hi.same (fun _ => id) (update_true hwanted)
  · rw [heq, if_neg (show ¬ (-1 : Int) = 0 by decide)]
    exact hi
  · rw [heq, if_pos rfl]
    obtain rfl := hst (hi.free i hname)
    refine hi.write (Or.inr hname) ?_ (by decide) (fun _ _ => rfl) ?_ ?_ ?_
    · exact fun j hj => absurd hj (getBusidIdx_none hnone j)
    · intro hbound
      rw [hi.not_bound hnone] at hbound
      cases hbound
    · exact fun c hcb => Function.update_of_ne hcb _ _
    · rw [Function.update_self]
      exact iff_of_true rfl (Or.inl rfl)

/-- Deleting a bus id keeps track. -/
lemma Tracks.del (hi : Tracks s) (hfollows : Follows s (.del b)) {t : State}
    (h : step s (.del b) = some t) : Tracks t := by
  cases h
  have hother : ∀ c, c ≠ b → Function.update s.wanted b false c = s.wanted c :=
    fun c hcb => Function.update_of_ne hcb _ _
  rcases delMatchBusid_cases b s.table with ⟨hnone, heq⟩ | ⟨i, hname, heq⟩
  · rw [heq]
    refine hi.same (fun _ => id) fun c => ?_
    by_cases hcb : c = b
    · rw [hcb, Function.update_self]
      have hnot : ¬ s.wanted b = true := by
        rw [hi.wanted b]
        exact not_or_intro (not_hasStatus hnone _) (not_hasStatus hnone _)
      exact (Bool.eq_false_iff.mpr hnot).symm
    · exact hother c hcb
  · rw [heq]
    have hremov : delSlot (s.table i) = ⟨some b, .remov⟩ := by
      have hstatus := hasStatus_of_name hname
      unfold delSlot
      cases hcase : (s.table i).status with
      | other => exact absurd (hcase ▸ hstatus) (hi.taken b)
      | added => exact absurd (hcase ▸ hstatus) hfollows
      | remov => rw [← hname]
      | alloc => rw [← hname]
    rw [hremov]
    refine hi.write (Or.inl hname) (hi.unique.only hname) (by decide) (fun _ _ => rfl)
      (fun _ => Or.inr rfl) hother ?_
    rw [Function.update_self]
    exact iff_of_false Bool.false_ne_true (by decide)

/-- A probe keeps track. -/
lemma Tracks.probe (hi : Tracks s) {env : ProbeEnv} {t : State}
    (h : step s (.probe env b) = some t) : Tracks t := by
  cases h
  rcases stubProbe_cases env b s.table with ⟨i, hname, hstatus, -, heq⟩ | ⟨heq, hne, -⟩
  · rw [heq, if_pos rfl]
    refine hi.write (Or.inl hname) (hi.unique.only hname) (by decide)
      (fun c hcb => Function.update_of_ne hcb _ _) (fun _ => Or.inl rfl) (fun _ _ => rfl) ?_
    exact iff_of_true ((hi.wanted_iff hname).mpr hstatus) (Or.inr rfl)
  · rw [heq, if_neg hne]
    exact hi

/-- A disconnect keeps track. -/
lemma Tracks.disconnect (hi : Tracks s) {released inEh : Bool} {t : State}
    (h : step s (.disconnect released inEh b) = some t) : Tracks t := by
  have hother : ∀ c, c ≠ b → Function.update s.bound b false c = s.bound c :=
    fun c hcb => Function.update_of_ne hcb _ _
  rcases step_disconnect h with ⟨-, rfl⟩ | ⟨hbound, rfl | ⟨table, hslot, rfl⟩⟩
  · exact hi
  · refine hi.same (fun c hc => ?_) fun _ => rfl
    by_cases hcb : c = b
    · rw [hcb, Function.update_self] at hc
      cases hc
    · rwa [hother c hcb] at hc
  · obtain ⟨i, hname, ⟨halloc, rfl⟩ | ⟨halloc, rfl⟩⟩ := disconnectSlot_cases hslot hi.unique
    · refine hi.write (Or.inl hname) (hi.unique.only hname) (by decide) hother ?_
        (fun _ _ => rfl) ?_
      · intro hb
        rw [Function.update_self] at hb
        cases hb
      · exact iff_of_true ((hi.wanted_iff hname).mpr (Or.inr halloc)) (Or.inl rfl)
    · refine hi.clear hname ?_ hother (Function.update_self _ _ _)
      have hremov : (s.table i).status = .remov := by
        rcases hi.bound b hbound with hb | hb
        · exact absurd (hi.unique.status_eq hname hb) halloc
        · exact hi.unique.status_eq hname hb
      have hnot : ¬ s.wanted b = true := by
        rw [hi.wanted_iff hname, hremov]
        decide
      exact Bool.eq_false_iff.mpr hnot

/-- Every step that follows the rule keeps track. -/
theorem Tracks.step (hi : Tracks s) {a : Action} {t : State} (hok : Follows s a)
    (h : step s a = some t) : Tracks t := by
  cases a with
  | add b => exact hi.add hok h
  | del b => exact hi.del hok h
  | probe env b => exact hi.probe h
  | disconnect released inEh b => exact hi.disconnect h

/-- `stub_probe` goes by the set. -/
lemma Tracks.probe_iff (hi : Tracks s) (env : ProbeEnv) (b : Name) :
    (stubProbe env b s.table).1 = 0 ↔ env.Eligible ∧ s.wanted b = true := by
  rcases stubProbe_cases env b s.table with ⟨i, hname, hstatus, hok, heq⟩ | ⟨-, hne, hwhy⟩
  · rw [heq]
    exact iff_of_true rfl ⟨hok, (hi.wanted_iff hname).mpr hstatus⟩
  · refine iff_of_false hne ?_
    rintro ⟨hok, hwanted⟩
    have hin : HasStatus s.table b .added ∨ HasStatus s.table b .alloc := (hi.wanted b).mp hwanted
    cases hidx : getBusidIdx s.table b with
    | none => exact hin.elim (not_hasStatus hidx _) (not_hasStatus hidx _)
    | some i =>
        have hname := getBusidIdx_some hidx
        have hstatus := (hi.wanted_iff hname).mp hwanted
        rcases hwhy i hname hidx with h | h | h
        · rw [h] at hstatus
          revert hstatus
          decide
        · rw [h] at hstatus
          revert hstatus
          decide
        · exact h hok

end Tracks

/-- In every history the busids are in different slots, and in one that deletes no busid while it is
not bound and adds none while it is to be removed, `stub_probe` takes the devices whose busids were
added and not deleted after that. -/
theorem probe_follows_set (s : State) :
    (machine.Reach Fits s → Unique s.table) ∧
      (machine.Reach (fun s a => Fits s a ∧ Follows s a) s →
        ∀ (env : ProbeEnv) (b : Name),
          (stubProbe env b s.table).1 = 0 ↔ env.Eligible ∧ s.wanted b = true) := by
  refine ⟨unique_of_reach, fun h => ?_⟩
  have htracks : Tracks s := by
    refine h.invariant (I := Tracks) ?_ ?_
    · rintro s rfl
      exact tracks_start
    · intro s a t hi hok hst
      exact hi.step hok.2 hst
  exact htracks.probe_iff

/-- The busid 1-2 of a device that the stub driver can take. -/
def busid12 : Name := ⟨[0x31, 0x2d, 0x32], by decide, by decide⟩

def eligibleEnv : ProbeEnv := ⟨false, false, true, 0, 0⟩

/-- The device is bound, its busid is deleted and the device unbound, and the busid is added again. -/
def readdedHistory : List Action :=
  [.add busid12, .probe eligibleEnv busid12, .del busid12, .disconnect true false busid12,
   .add busid12]

/-- A bus id that is deleted and added again is probed. -/
theorem probe_follows_set_readdedHistory :
    ∃ s : State, Unique s.table ∧ s.wanted busid12 = true ∧
      (stubProbe eligibleEnv busid12 s.table).1 = 0 := by
  have hrun : ∃ s, machine.Reach (fun s a => Fits s a ∧ Follows s a) s ∧
      s.wanted busid12 = true :=
    Machine.Reach.of_perform (M := machine) readdedHistory (s := {}) rfl (by decide +kernel)
  obtain ⟨s, hs, hwanted⟩ := hrun
  have hfits : machine.Reach Fits s := hs.mono fun _ _ h => h.1
  refine ⟨s, (probe_follows_set s).1 hfits, hwanted, ?_⟩
  exact ((probe_follows_set s).2 hs eligibleEnv busid12).mpr ⟨⟨rfl, rfl, rfl, rfl, rfl⟩, hwanted⟩

/-- A busid that was never bound stays in the table when it is deleted, and one that is added while
its removal is pending is taken out all the same. -/
theorem probe_leaves_set :
    (∃ s, machine.Reach Fits s ∧ s.wanted busid12 = false ∧
      (stubProbe eligibleEnv busid12 s.table).1 = 0) ∧
    ∃ s, machine.Reach Fits s ∧ s.wanted busid12 = true ∧
      (stubProbe eligibleEnv busid12 s.table).1 ≠ 0 := by
  constructor
  · exact Machine.Reach.of_perform (M := machine) [.add busid12, .del busid12] (s := {}) rfl
      (by decide +kernel)
  · exact Machine.Reach.of_perform (M := machine)
      [.add busid12, .probe eligibleEnv busid12, .del busid12, .add busid12,
       .disconnect true false busid12] (s := {}) rfl (by decide +kernel)

end Usbip.Stub.Busid
