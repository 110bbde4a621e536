import Mathlib

/-!
# Two programs that talk over a connection

A program here is what it does next: it sends, it receives a number of pieces, or it makes a call
on its own host, and it goes on with the answer.  Sending and receiving may break off anywhere;
the program is then told so.  What a program has done is a list of events.

`Proc.Spec` is a Hoare logic on these lists: a property of what was done so far, and of the place
where the program is, that holds everywhere.  There is one rule for each way to build a program.

A session is two programs and the connection between them, one queue for each direction.  In any
order of the steps each has received the front of what the other has sent (`Session.Reach.spec`),
so that properties of the two programs alone compose.  When nothing breaks off but a connection
that its other side has closed, every session comes to a rest, and always to the same one, whatever
the order of the steps (`Session.comes_to_rest`, `Session.Steps.settles`); there both programs are
done, or they wait for each other (`Session.AtRest.done_or_waits`).
-/

namespace Usbip.Core

/-! ## Programs -/

/-- A program over pieces in `β` with calls in `L`, answered in `R`. -/
inductive Proc (β : Type) {L : Type} (R : L → Type) (α : Type) : Type
  | done (a : α)
  /-- It is told whether everything was sent. -/
  | send (b : List β) (next : Bool → Proc β R α)
  | recv (n : Nat) (next : Option {b : List β // b.length = n} → Proc β R α)
  | host (l : L) (next : R l → Proc β R α)

variable {β L L₁ L₂ α γ : Type} {R : L → Type} {R₁ : L₁ → Type} {R₂ : L₂ → Type}

namespace Proc

def bind (p : Proc β R α) (f : α → Proc β R γ) : Proc β R γ :=
  match p with
  | done a => f a
  | send b next => send b fun ok => (next ok).bind f
  | recv n next => recv n fun b => (next b).bind f
  | host l next => host l fun r => (next r).bind f

instance instMonad : Monad (Proc β R) where
  pure := done
  bind := bind

/-- `pure` is the program that is done. -/
@[simp] lemma pure_eq (a : α) : (pure a : Proc β R α) = done a := rfl

/-- A program that is done goes on with the next. -/
@[simp] lemma done_bind (a : α) (f : α → Proc β R γ) : done a >>= f = f a := rfl

/-- What follows a send follows both its outcomes. -/
@[simp] lemma send_bind (b : List β) (next : Bool → Proc β R α) (f : α → Proc β R γ) :
    send b next >>= f = send b fun ok => next ok >>= f := rfl

/-- What follows a receive follows all its outcomes. -/
@[simp] lemma recv_bind (n : Nat) (next : Option {b : List β // b.length = n} → Proc β R α)
    (f : α → Proc β R γ) : recv n next >>= f = recv n fun b => next b >>= f := rfl

/-- What follows a call follows all its answers. -/
@[simp] lemma host_bind (l : L) (next : R l → Proc β R α) (f : α → Proc β R γ) :
    host l next >>= f = host l fun r => next r >>= f := rfl

/-- Where a program is: it is done, it waits for a number of pieces, or it goes on. -/
inductive Place (α : Type)
  | done (a : α)
  | waits (n : Nat)
  | goes

def place : Proc β R α → Place α
  | done a => .done a
  | recv n _ => .waits n
  | send _ _ | host _ _ => .goes

end Proc

/-! ## What a program has done -/

/-- What a program has done in one step. -/
inductive Act (β : Type) {L : Type} (R : L → Type) : Type
  | sent (b : List β)
  | got (b : List β)
  | host (l : L) (r : R l)

/-- What went out. -/
def Act.out : Act β R → List β
  | sent b => b
  | _ => []

/-- What came in. -/
def Act.into : Act β R → List β
  | got b => b
  | _ => []

/-- A send puts its pieces out. -/
@[simp] lemma Act.out_sent (b : List β) : (sent b : Act β R).out = b := rfl

/-- A receive puts nothing out. -/
@[simp] lemma Act.out_got (b : List β) : (got b : Act β R).out = [] := rfl

/-- A call puts nothing out. -/
@[simp] lemma Act.out_host (l : L) (r : R l) : (host l r : Act β R).out = [] := rfl

/-- A send takes nothing in. -/
@[simp] lemma Act.into_sent (b : List β) : (sent b : Act β R).into = [] := rfl

/-- A receive takes its pieces in. -/
@[simp] lemma Act.into_got (b : List β) : (got b : Act β R).into = b := rfl

/-- A call takes nothing in. -/
@[simp] lemma Act.into_host (l : L) (r : R l) : (host l r : Act β R).into = [] := rfl

def sentBy (t : List (Act β R)) : List β := t.flatMap Act.out

def gotBy (t : List (Act β R)) : List β := t.flatMap Act.into

/-- Nothing was sent at the start. -/
@[simp] lemma sentBy_nil : sentBy ([] : List (Act β R)) = [] := rfl

/-- Nothing was received at the start. -/
@[simp] lemma gotBy_nil : gotBy ([] : List (Act β R)) = [] := rfl

/-- What was sent, event by event. -/
@[simp] lemma sentBy_cons (e : Act β R) (t : List (Act β R)) :
    sentBy (e :: t) = e.out ++ sentBy t := List.flatMap_cons

/-- What was received, event by event. -/
@[simp] lemma gotBy_cons (e : Act β R) (t : List (Act β R)) :
    gotBy (e :: t) = e.into ++ gotBy t := List.flatMap_cons

/-- What was sent in two parts. -/
@[simp] lemma sentBy_append (t u : List (Act β R)) : sentBy (t ++ u) = sentBy t ++ sentBy u :=
  List.flatMap_append

/-- What was received in two parts. -/
@[simp] lemma gotBy_append (t u : List (Act β R)) : gotBy (t ++ u) = gotBy t ++ gotBy u :=
  List.flatMap_append

/-- Every call of the host is one of `A`. -/
def Calls (A : L → Prop) (t : List (Act β R)) : Prop := ∀ l r, .host l r ∈ t → A l

/-- Nothing was sent or received, and every call of the host is one of `A`. -/
def Local (A : L → Prop) (t : List (Act β R)) : Prop := ∀ e ∈ t, ∃ l r, e = .host l r ∧ A l

variable {A B : L → Prop} {t u : List (Act β R)}

/-- No call was made at the start. -/
@[simp] lemma calls_nil : Calls A ([] : List (Act β R)) := fun _ _ h =>
  absurd h List.not_mem_nil

/-- A send is no call. -/
@[simp] lemma calls_sent (b : List β) : Calls A (.sent b :: t) ↔ Calls A t := by
  simp [Calls]

/-- A receive is no call. -/
@[simp] lemma calls_got (b : List β) : Calls A (.got b :: t) ↔ Calls A t := by
  simp [Calls]

/-- The calls, one by one. -/
@[simp] lemma calls_host (l : L) (r : R l) : Calls A (.host l r :: t) ↔ A l ∧ Calls A t := by
  constructor
  · intro h
    exact ⟨h l r List.mem_cons_self, fun l' r' h' => h l' r' (List.mem_cons_of_mem _ h')⟩
  · rintro ⟨hl, ht⟩ l' r' h
    obtain heq | h := List.mem_cons.mp h
    · cases heq
      exact hl
    · exact ht l' r' h

/-- The calls of two parts. -/
@[simp] lemma calls_append : Calls A (t ++ u) ↔ Calls A t ∧ Calls A u := by
  constructor
  · intro h
    exact ⟨fun l r hl => h l r (List.mem_append_left u hl),
      fun l r hl => h l r (List.mem_append_right t hl)⟩
  · rintro ⟨ht, hu⟩ l r h
    exact (List.mem_append.mp h).elim (ht l r) (hu l r)

/-- The calls are of every larger kind. -/
lemma Calls.mono (h : ∀ l, A l → B l) (ht : Calls A t) : Calls B t := fun l r hl => h l (ht l r hl)

/-- Nothing was done at the start. -/
@[simp] lemma local_nil : Local A ([] : List (Act β R)) := fun _ he => absurd he List.not_mem_nil

/-- One call more. -/
lemma local_cons {l : L} {r : R l} (hl : A l) (ht : Local A t) : Local A (.host l r :: t) := by
  intro e he
  obtain rfl | he := List.mem_cons.mp he
  · exact ⟨l, r, rfl, hl⟩
  · exact ht e he

/-- Two parts that only call. -/
lemma Local.append (ht : Local A t) (hu : Local A u) : Local A (t ++ u) := fun e he =>
  (List.mem_append.mp he).elim (ht e) (hu e)

/-- The calls are of every larger kind. -/
lemma Local.mono (h : ∀ l, A l → B l) (ht : Local A t) : Local B t := fun e he =>
  have ⟨l, r, hl, hA⟩ := ht e he
  ⟨l, r, hl, h l hA⟩

/-- What only calls makes calls of its kind. -/
lemma Local.calls (ht : Local A t) : Calls A t := by
  intro l r h
  obtain ⟨l', r', heq, hA⟩ := ht _ h
  cases heq
  exact hA

/-- What only calls sends nothing. -/
lemma Local.sentBy (ht : Local A t) : sentBy t = [] := by
  refine List.flatMap_eq_nil_iff.mpr fun e he => ?_
  obtain ⟨l, r, rfl, -⟩ := ht e he
  rfl

/-- What only calls receives nothing. -/
lemma Local.gotBy (ht : Local A t) : gotBy t = [] := by
  refine List.flatMap_eq_nil_iff.mpr fun e he => ?_
  obtain ⟨l, r, rfl, -⟩ := ht e he
  rfl

namespace Proc

/-- One step: whatever part of it went through is in the event. -/
inductive Step : Proc β R α → Act β R → Proc β R α → Prop
  | send (b : List β) (next : Bool → Proc β R α) : Step (send b next) (.sent b) (next true)
  | sendFail (b : List β) (next : Bool → Proc β R α) (n : Nat) (hn : n < b.length) :
      Step (send b next) (.sent (b.take n)) (next false)
  | recv (n : Nat) (next : Option {b : List β // b.length = n} → Proc β R α) (b : List β)
      (hb : b.length = n) : Step (recv n next) (.got b) (next (some ⟨b, hb⟩))
  | recvFail (n : Nat) (next : Option {b : List β // b.length = n} → Proc β R α) (b : List β)
      (hb : b.length < n) : Step (recv n next) (.got b) (next none)
  | host (l : L) (next : R l → Proc β R α) (r : R l) : Step (host l next) (.host l r) (next r)

/-- What is left of a program after a step. -/
def After (q p : Proc β R α) : Prop := ∃ e, p.Step e q

/-- A program has no endless run. -/
lemma wellFounded_after : WellFounded (After : Proc β R α → Proc β R α → Prop) := by
  refine ⟨fun p => ?_⟩
  induction p with
  | done a =>
      refine ⟨_, fun q ⟨e, h⟩ => ?_⟩
      cases h
  | send b next ih =>
      refine ⟨_, fun q ⟨e, h⟩ => ?_⟩
      cases h <;> exact ih _
  | recv n next ih =>
      refine ⟨_, fun q ⟨e, h⟩ => ?_⟩
      cases h <;> exact ih _
  | host l next ih =>
      refine ⟨_, fun q ⟨e, h⟩ => ?_⟩
      cases h
      exact ih _

/-- `p.Runs t q`: `q` is what is left of `p` after the events `t`. -/
inductive Runs : Proc β R α → List (Act β R) → Proc β R α → Prop
  | nil (p : Proc β R α) : Runs p [] p
  | cons {p q r : Proc β R α} {e : Act β R} {t : List (Act β R)} :
      Step p e q → Runs q t r → Runs p (e :: t) r

variable {p q r : Proc β R α}

/-- A run goes on by one step. -/
lemma Runs.snoc {e : Act β R} (h : p.Runs t q) (hstep : Step q e r) : p.Runs (t ++ [e]) r := by
  induction h with
  | nil p => exact .cons hstep (.nil _)
  | cons hfirst _ ih => exact .cons hfirst (ih hstep)

/-! ### Properties of everything a program does -/

/-- Everywhere, `P` holds of what the program has done and of the place where it is. -/
def Spec (p : Proc β R α) (P : List (Act β R) → Place α → Prop) : Prop :=
  ∀ t q, p.Runs t q → P t q.place

variable {P Q : List (Act β R) → Place α → Prop}

/-- The rule of consequence. -/
lemma Spec.mono (h : p.Spec P) (hPQ : ∀ t c, P t c → Q t c) : p.Spec Q :=
  fun t q ht => hPQ t _ (h t q ht)

/-- Two properties that hold everywhere hold together everywhere. -/
lemma Spec.and (hp : p.Spec P) (hq : p.Spec Q) : p.Spec fun t c => P t c ∧ Q t c :=
  fun t q ht => ⟨hp t q ht, hq t q ht⟩

/-- The rule for a program that is done. -/
lemma Spec.done {a : α} (h : P [] (.done a)) : (Proc.done a : Proc β R α).Spec P := by
  intro t q ht
  cases ht with
  | nil => exact h
  | cons hstep _ => cases hstep

/-- The rule for a send, which sends all or breaks off in the middle. -/
lemma Spec.send {b : List β} {next : Bool → Proc β R α} (h₀ : P [] .goes)
    (hok : (next true).Spec fun t c => P (.sent b :: t) c)
    (hfail : ∀ n < b.length, (next false).Spec fun t c => P (.sent (b.take n) :: t) c) :
    (Proc.send b next).Spec P := by
  intro t q ht
  cases ht with
  | nil => exact h₀
  | cons hstep hrest =>
      cases hstep with
      | send => exact hok _ q hrest
      | sendFail _ _ n hn => exact hfail n hn _ q hrest

/-- The rule for a receive, which gets all or breaks off in the middle. -/
lemma Spec.recv {n : Nat} {next : Option {b : List β // b.length = n} → Proc β R α}
    (h₀ : P [] (.waits n)) (hok : ∀ b, (next (some b)).Spec fun t c => P (.got b.1 :: t) c)
    (hfail : ∀ b : List β, b.length < n → (next none).Spec fun t c => P (.got b :: t) c) :
    (Proc.recv n next).Spec P := by
  intro t q ht
  cases ht with
  | nil => exact h₀
  | cons hstep hrest =>
      cases hstep with
      | recv _ _ b hb => exact hok ⟨b, hb⟩ _ q hrest
      | recvFail _ _ b hb => exact hfail b hb _ q hrest

/-- The rule for a call, whatever the answer. -/
lemma Spec.host {l : L} {next : R l → Proc β R α} (h₀ : P [] .goes)
    (hnext : ∀ r, (next r).Spec fun t c => P (.host l r :: t) c) :
    (Proc.host l next).Spec P := by
  intro t q ht
  cases ht with
  | nil => exact h₀
  | cons hstep hrest =>
      cases hstep with
      | host _ _ r => exact hnext r _ q hrest

/-- A run of two programs in sequence is one of the first, or one of the first to its end and
one of the second. -/
lemma runs_bind {p : Proc β R α} {f : α → Proc β R γ} {s : Proc β R γ} (h : (p >>= f).Runs t s) :
    (∃ q, p.Runs t q ∧ s = q >>= f) ∨
      ∃ a t₁ t₂, t = t₁ ++ t₂ ∧ p.Runs t₁ (.done a) ∧ (f a).Runs t₂ s := by
  induction p generalizing t with
  | done a => exact .inr ⟨a, [], t, rfl, .nil _, h⟩
  | send b next ih =>
      cases h with
      | nil => exact .inl ⟨_, .nil _, rfl⟩
      | cons hstep hrest =>
          cases hstep with
          | send =>
              obtain ⟨q, hq, rfl⟩ | ⟨a, t₁, t₂, rfl, h₁, h₂⟩ := ih true hrest
              · exact .inl ⟨q, .cons (.send b next) hq, rfl⟩
              · exact .inr ⟨a, _, t₂, rfl, .cons (.send b next) h₁, h₂⟩
          | sendFail _ _ n hn =>
              obtain ⟨q, hq, rfl⟩ | ⟨a, t₁, t₂, rfl, h₁, h₂⟩ := ih false hrest
              · exact .inl ⟨q, .cons (.sendFail b next n hn) hq, rfl⟩
              · exact .inr ⟨a, _, t₂, rfl, .cons (.sendFail b next n hn) h₁, h₂⟩
  | recv n next ih =>
      cases h with
      | nil => exact .inl ⟨_, .nil _, rfl⟩
      | cons hstep hrest =>
          cases hstep with
          | recv _ _ b hb =>
              obtain ⟨q, hq, rfl⟩ | ⟨a, t₁, t₂, rfl, h₁, h₂⟩ := ih (some ⟨b, hb⟩) hrest
              · exact .inl ⟨q, .cons (.recv n next b hb) hq, rfl⟩
              · exact .inr ⟨a, _, t₂, rfl, .cons (.recv n next b hb) h₁, h₂⟩
          | recvFail _ _ b hb =>
              obtain ⟨q, hq, rfl⟩ | ⟨a, t₁, t₂, rfl, h₁, h₂⟩ := ih none hrest
              · exact .inl ⟨q, .cons (.recvFail n next b hb) hq, rfl⟩
              · exact .inr ⟨a, _, t₂, rfl, .cons (.recvFail n next b hb) h₁, h₂⟩
  | host l next ih =>
      cases h with
      | nil => exact .inl ⟨_, .nil _, rfl⟩
      | cons hstep hrest =>
          cases hstep with
          | host _ _ r =>
              obtain ⟨q, hq, rfl⟩ | ⟨a, t₁, t₂, rfl, h₁, h₂⟩ := ih r hrest
              · exact .inl ⟨q, .cons (.host l next r) hq, rfl⟩
              · exact .inr ⟨a, _, t₂, rfl, .cons (.host l next r) h₁, h₂⟩

/-- The rule for two programs in sequence: the second goes on from what the first has done. -/
lemma Spec.bind {f : α → Proc β R γ} {Q : List (Act β R) → Place γ → Prop} (hp : p.Spec P)
    (hgoes : ∀ t, P t .goes → Q t .goes) (hwaits : ∀ t n, P t (.waits n) → Q t (.waits n))
    (hdone : ∀ a t, P t (.done a) → (f a).Spec fun u c => Q (t ++ u) c) : (p >>= f).Spec Q := by
  intro t s h
  obtain ⟨q, hq, rfl⟩ | ⟨a, t₁, t₂, rfl, h₁, h₂⟩ := runs_bind h
  · have hP := hp t q hq
    cases q with
    | done a =>
        have hQ : Q (t ++ []) (f a).place := hdone a t hP [] _ (.nil _)
        rwa [List.append_nil] at hQ
    | send b next => exact hgoes t hP
    | recv n next => exact hwaits t n hP
    | host l next => exact hgoes t hP
  · exact hdone a t₁ (hp t₁ _ h₁) t₂ s h₂

/-- A program that only makes calls on its host. -/
def Stays (p : Proc β R α) (A : L → Prop) : Prop :=
  p.Spec fun t c => Local A t ∧ ∀ n, c ≠ .waits n

/-- A program that is done makes no call. -/
lemma Stays.done (a : α) : (Proc.done a : Proc β R α).Stays A := Spec.done ⟨local_nil, nofun⟩

/-- A program that makes one call of the kind and goes on so. -/
lemma Stays.host {l : L} {next : R l → Proc β R α} (hl : A l) (h : ∀ r, (next r).Stays A) :
    (Proc.host l next).Stays A :=
  Spec.host ⟨local_nil, nofun⟩ fun r =>
    (h r).mono fun _ _ ⟨ht, hwaits⟩ => ⟨local_cons hl ht, hwaits⟩

/-- The rule of consequence for programs that only call. -/
lemma Stays.weaken (h : p.Stays A) (hAB : ∀ l, A l → B l) : p.Stays B :=
  h.mono fun _ _ ht => ⟨ht.1.mono hAB, ht.2⟩

/-- One program after the other. -/
lemma Stays.bind {f : α → Proc β R γ} (hp : p.Stays A) (hf : ∀ a, (f a).Stays A) :
    (p >>= f).Stays A :=
  Spec.bind hp (fun _ ht => ⟨ht.1, nofun⟩) (fun _ n ht => absurd rfl (ht.2 n)) fun a _ ht =>
    (hf a).mono fun _ _ hu => ⟨ht.1.append hu.1, hu.2⟩

/-- A program that goes on after calls on its host. -/
lemma Stays.spec_bind {f : α → Proc β R γ} {Q : List (Act β R) → Place γ → Prop}
    (hp : p.Stays A) (hgoes : ∀ t, Local A t → Q t .goes)
    (hdone : ∀ a t, Local A t → (f a).Spec fun u c => Q (t ++ u) c) : (p >>= f).Spec Q :=
  Spec.bind hp (fun t ht => hgoes t ht.1) (fun _ n ht => absurd rfl (ht.2 n))
    fun a t ht => hdone a t ht.1

/-! ### What a program has done when it is done -/

/-- Whenever the program is done, `Q` holds of what it has done and of its result. -/
def Ends (p : Proc β R α) (Q : List (Act β R) → α → Prop) : Prop :=
  ∀ t a, p.Runs t (.done a) → Q t a

variable {Q₁ Q₂ : List (Act β R) → α → Prop}

/-- What a program that only calls has done at its end. -/
lemma Stays.ends (h : p.Stays A) : p.Ends fun t _ => Local A t := fun t _ ht => (h t _ ht).1

/-- The rule of consequence at the end. -/
lemma Ends.mono (h : p.Ends Q₁) (hQ : ∀ t a, Q₁ t a → Q₂ t a) : p.Ends Q₂ :=
  fun t a ht => hQ t a (h t a ht)

/-- A property of the ends holds everywhere of those who are done. -/
lemma Ends.spec (h : p.Ends Q₁) : p.Spec fun t c => ∀ a, c = .done a → Q₁ t a := by
  intro t q ht a ha
  cases q with
  | done a' =>
      cases ha
      exact h t a ht
  | send b next => cases ha
  | recv n next => cases ha
  | host l next => cases ha

/-- The rule for a program that is done, at its end. -/
lemma Ends.done {a : α} (h : Q₁ [] a) : (Proc.done a : Proc β R α).Ends Q₁ := by
  intro t a' ht
  cases ht with
  | nil => exact h
  | cons hstep _ => cases hstep

/-- The rule for a send, at the end. -/
lemma Ends.send {b : List β} {next : Bool → Proc β R α}
    (hok : (next true).Ends fun t a => Q₁ (.sent b :: t) a)
    (hfail : ∀ n < b.length, (next false).Ends fun t a => Q₁ (.sent (b.take n) :: t) a) :
    (Proc.send b next).Ends Q₁ := by
  intro t a ht
  cases ht with
  | cons hstep hrest =>
      cases hstep with
      | send => exact hok _ a hrest
      | sendFail _ _ n hn => exact hfail n hn _ a hrest

/-- The rule for a receive, at the end. -/
lemma Ends.recv {n : Nat} {next : Option {b : List β // b.length = n} → Proc β R α}
    (hok : ∀ b, (next (some b)).Ends fun t a => Q₁ (.got b.1 :: t) a)
    (hfail : ∀ b : List β, b.length < n → (next none).Ends fun t a => Q₁ (.got b :: t) a) :
    (Proc.recv n next).Ends Q₁ := by
  intro t a ht
  cases ht with
  | cons hstep hrest =>
      cases hstep with
      | recv _ _ b hb => exact hok ⟨b, hb⟩ _ a hrest
      | recvFail _ _ b hb => exact hfail b hb _ a hrest

/-- The rule for a call, at the end. -/
lemma Ends.host {l : L} {next : R l → Proc β R α}
    (hnext : ∀ r, (next r).Ends fun t a => Q₁ (.host l r :: t) a) :
    (Proc.host l next).Ends Q₁ := by
  intro t a ht
  cases ht with
  | cons hstep hrest =>
      cases hstep with
      | host _ _ r => exact hnext r _ a hrest

/-- The rule for one program after the other, at the end. -/
lemma Ends.bind {f : α → Proc β R γ} {Q : List (Act β R) → γ → Prop} (hp : p.Ends Q₁)
    (hf : ∀ a t, Q₁ t a → (f a).Ends fun u c => Q (t ++ u) c) : (p >>= f).Ends Q := by
  intro t c ht
  obtain ⟨q, hq, hdone⟩ | ⟨a, t₁, t₂, rfl, h₁, h₂⟩ := runs_bind ht
  · cases q with
    | done a =>
        have hQ : Q (t ++ []) c := hf a t (hp t a hq) [] c (hdone ▸ .nil _)
        rwa [List.append_nil] at hQ
    | send b next => cases hdone
    | recv n next => cases hdone
    | host l next => cases hdone
  · exact hf a t₁ (hp t₁ a h₁) t₂ c h₂

/-! ### Formats -/

/-- A program that sends `w`, or the front of it when it fails, and receives nothing. -/
def Sends (p : Proc β R Bool) (w : List β) : Prop :=
  p.Spec fun t c => sentBy t <+: w ∧ gotBy t = [] ∧ (∀ n, c ≠ .waits n) ∧
    (c = .done true → sentBy t = w)

/-- A program that has nothing to send. -/
lemma Sends.nil : (Proc.done true : Proc β R Bool).Sends [] :=
  Spec.done ⟨List.prefix_rfl, rfl, nofun, fun _ => rfl⟩

/-- A single send. -/
lemma Sends.one (b : List β) : (Proc.send b Proc.done : Proc β R Bool).Sends b :=
  Spec.send ⟨List.nil_prefix, rfl, nofun, nofun⟩
    (.done ⟨by simp, by simp, nofun, fun _ => by simp⟩)
    fun n _ => .done ⟨by simp [List.take_prefix], by simp, nofun, nofun⟩

/-- The second program goes on only when everything was sent. -/
lemma Sends.bind {p q : Proc β R Bool} {f : Bool → Proc β R Bool} {w w' : List β}
    (hp : p.Sends w) (hf : f true = q) (hfail : f false = .done false) (hq : q.Sends w') :
    (p >>= f).Sends (w ++ w') := by
  have hfront : ∀ {v : List β}, v <+: w → v <+: w ++ w' := fun h =>
    h.trans (List.prefix_append w w')
  refine Spec.bind hp (fun t ht => ⟨hfront ht.1, ht.2.1, nofun, nofun⟩)
    (fun t n ht => absurd rfl (ht.2.2.1 n)) fun ok t ⟨hsent, hgot, _, hall⟩ => ?_
  cases ok with
  | false =>
      rw [hfail]
      exact .done ⟨by simpa using hfront hsent, by simpa using hgot, nofun, nofun⟩
  | true =>
      rw [hf]
      refine Spec.mono hq fun u c ⟨hsent', hgot', hgoes, hall'⟩ => ?_
      rw [sentBy_append, gotBy_append, hall rfl, hgot, hgot']
      exact ⟨(List.prefix_append_right_inj w).mpr hsent', rfl, hgoes, fun hc => by rw [hall' hc]⟩

/-- A program that sends `w` or the front of it, and waits only when all of it is sent. -/
def AsksFor (p : Proc β R α) (w : List β) : Prop :=
  p.Spec fun t c => sentBy t <+: w ∧ ∀ n, c = .waits n → sentBy t = w

variable {w w' : List β}

/-- A program that is done waits for nothing. -/
lemma AsksFor.done (a : α) (w : List β) : (Proc.done a : Proc β R α).AsksFor w :=
  Spec.done ⟨List.nil_prefix, nofun⟩

/-- A program that only receives. -/
lemma AsksFor.recv {n : Nat} {next : Option {b : List β // b.length = n} → Proc β R α}
    (h : ∀ b, (next b).AsksFor []) : (Proc.recv n next).AsksFor [] :=
  Spec.recv ⟨List.nil_prefix, fun _ _ => rfl⟩ (fun b => h (some b)) fun _ _ => h none

/-- Nothing is sent by two programs in sequence that send nothing. -/
lemma AsksFor.bind {f : α → Proc β R γ} (hp : p.AsksFor []) (hf : ∀ a, (f a).AsksFor []) :
    (p >>= f).AsksFor [] :=
  Spec.bind hp (fun t ht => ⟨ht.1, nofun⟩) (fun t n ht => ⟨ht.1, fun _ _ => ht.2 n rfl⟩)
    fun a t ht => (hf a).mono fun u c hu => by
      simpa [List.prefix_nil.mp ht.1] using hu

/-- The calls of the host before and after a request. -/
lemma Stays.asksFor_bind {f : α → Proc β R γ} (hp : p.Stays A) (hf : ∀ a, (f a).AsksFor w) :
    (p >>= f).AsksFor w :=
  hp.spec_bind (fun t ht => ⟨by simp [ht.sentBy], nofun⟩) fun a t ht => (hf a).mono fun u c hu => by
    simpa [ht.sentBy] using hu

/-- Calls may follow the waiting. -/
lemma AsksFor.bind_stays {f : α → Proc β R γ} (hp : p.AsksFor w) (hf : ∀ a, (f a).Stays A) :
    (p >>= f).AsksFor w :=
  Spec.bind hp (fun t ht => ⟨ht.1, nofun⟩) (fun t n ht => ⟨ht.1, fun _ _ => ht.2 n rfl⟩)
    fun a t ht => (hf a).mono fun u c hu =>
      ⟨by simpa [hu.1.sentBy] using ht.1, fun n hc => absurd hc (hu.2 n)⟩

/-- A request that is sent piece by piece, by a program that gives up when one cannot be sent. -/
lemma Sends.asksFor_bind {p : Proc β R Bool} {f : Bool → Proc β R α} {a : α} (hp : p.Sends w)
    (hf : (f true).AsksFor w') (hfail : f false = .done a) : (p >>= f).AsksFor (w ++ w') := by
  have hfront : ∀ {v : List β}, v <+: w → v <+: w ++ w' := fun h =>
    h.trans (List.prefix_append w w')
  refine Spec.bind hp (fun t ht => ⟨hfront ht.1, nofun⟩) (fun t n ht => absurd rfl (ht.2.2.1 n))
    fun ok t ht => ?_
  cases ok with
  | false =>
      rw [hfail]
      exact .done ⟨by simpa using hfront ht.1, nofun⟩
  | true =>
      refine Spec.mono hf fun u c hu => ?_
      rw [sentBy_append, ht.2.2.2 rfl]
      exact ⟨(List.prefix_append_right_inj w).mpr hu.1, fun n hc => by rw [hu.2 n hc]⟩

/-- A program that never waits. -/
def Goes (p : Proc β R α) : Prop := p.Spec fun _ c => ∀ n, c ≠ .waits n

/-- A program that is done does not wait. -/
lemma Goes.done (a : α) : (Proc.done a : Proc β R α).Goes := Spec.done nofun

/-- A program that only calls does not wait. -/
lemma Stays.goes (hp : p.Stays A) : p.Goes := hp.mono fun _ _ ht => ht.2

/-- A program that only sends does not wait. -/
lemma Sends.goes {p : Proc β R Bool} (hp : p.Sends w) : p.Goes := hp.mono fun _ _ ht => ht.2.2.1

/-- One program that does not wait after the other. -/
lemma Goes.bind {f : α → Proc β R γ} (hp : p.Goes) (hf : ∀ a, (f a).Goes) : (p >>= f).Goes :=
  Spec.bind hp (fun _ _ => nofun) (fun _ n ht => absurd rfl (ht n)) fun a _ _ => hf a

/-- A program that waits for at most `k` pieces, before it has received any. -/
def WaitsFor (p : Proc β R α) (k : Nat) : Prop :=
  p.Spec fun t c => ∀ n, c = .waits n → gotBy t = [] ∧ n ≤ k

/-- A program that does not wait waits for no more than anything. -/
lemma Goes.waitsFor (hp : p.Goes) (k : Nat) : p.WaitsFor k :=
  hp.mono fun _ _ ht n hc => absurd hc (ht n)

/-- A single receive waits for what it wants. -/
lemma WaitsFor.recv {n : Nat} {next : Option {b : List β // b.length = n} → Proc β R α}
    (h : ∀ b, (next b).Goes) : (Proc.recv n next).WaitsFor n := by
  refine Spec.recv ?_ (fun b => (h (some b)).mono fun _ _ ht m hc => absurd hc (ht m))
    fun _ _ => (h none).mono fun _ _ ht m hc => absurd hc (ht m)
  rintro m ⟨⟩
  exact ⟨rfl, le_rfl⟩

/-- Calls may come before the waiting. -/
lemma Stays.waitsFor_bind {f : α → Proc β R γ} {k : Nat} (hp : p.Stays A)
    (hf : ∀ a, (f a).WaitsFor k) : (p >>= f).WaitsFor k :=
  hp.spec_bind (fun _ _ => nofun) fun a t ht => (hf a).mono fun u c hu n hc => by
    simpa [ht.gotBy] using hu n hc

/-- What does not wait may follow the waiting. -/
lemma WaitsFor.bind_goes {f : α → Proc β R γ} {k : Nat} (hp : p.WaitsFor k)
    (hf : ∀ a, (f a).Goes) : (p >>= f).WaitsFor k :=
  Spec.bind hp (fun _ _ => nofun) (fun t n ht m hc => by
    cases hc
    exact ht n rfl) fun a _ _ => (hf a).mono fun _ _ hu n hc => absurd hc (hu n)

/-! ### What a program does when nothing breaks off -/

/-- One step that goes through, with `ans` for the answers of the host. -/
inductive Does (ans : ∀ l, R l) : Proc β R α → Act β R → Proc β R α → Prop
  | send (b : List β) (next : Bool → Proc β R α) : Does ans (send b next) (.sent b) (next true)
  | recv (n : Nat) (next : Option {b : List β // b.length = n} → Proc β R α) (b : List β)
      (hb : b.length = n) : Does ans (recv n next) (.got b) (next (some ⟨b, hb⟩))
  | host (l : L) (next : R l → Proc β R α) :
      Does ans (host l next) (.host l (ans l)) (next (ans l))

/-- A step without a break is a step. -/
lemma Does.step {ans : ∀ l, R l} {e : Act β R} (h : Does ans p e q) : Step p e q := by
  cases h with
  | send b next => exact .send b next
  | recv n next b hb => exact .recv n next b hb
  | host l next => exact .host l next _

/-- A program that is done does nothing. -/
lemma Does.not_done {ans : ∀ l, R l} {a : α} {e : Act β R} :
    ¬ Does ans (.done a) e q := by
  intro h
  cases h

/-- A receive takes as much as it wants. -/
lemma Does.length_into {ans : ∀ l, R l} {n : Nat}
    {next : Option {b : List β // b.length = n} → Proc β R α} {e : Act β R}
    (h : Does ans (.recv n next) e q) : e.into.length = n := by
  cases h with
  | recv _ _ b hb => exact hb

/-- A program does one thing at a time: what it gets is decided by what is on its way. -/
lemma Does.eq {ans : ∀ l, R l} {p p₁ p₂ : Proc β R α} {e₁ e₂ : Act β R}
    {b rest₁ rest₂ : List β} (h₁ : Does ans p e₁ p₁) (h₂ : Does ans p e₂ p₂)
    (hin₁ : b = e₁.into ++ rest₁) (hin₂ : b = e₂.into ++ rest₂) :
    e₁ = e₂ ∧ p₁ = p₂ ∧ rest₁ = rest₂ := by
  cases h₁ with
  | send b next =>
      cases h₂ with
      | send => exact ⟨rfl, rfl, hin₁.symm.trans hin₂⟩
  | recv n next b₁ hb₁ =>
      cases h₂ with
      | recv _ _ b₂ hb₂ =>
          obtain ⟨hb, hrest⟩ := List.append_inj (hin₁.symm.trans hin₂) (hb₁.trans hb₂.symm)
          obtain rfl : b₁ = b₂ := hb
          exact ⟨rfl, rfl, hrest⟩
  | host l next =>
      cases h₂ with
      | host => exact ⟨rfl, rfl, hin₁.symm.trans hin₂⟩

/-- The program waits for more than is on its way. -/
def Waits (p : Proc β R α) (queue : List β) : Prop :=
  ∃ n next, p = .recv n next ∧ queue.length < n

/-- A program is done, waits, or can do something with what is there. -/
lemma done_or_waits_or_does (ans : ∀ l, R l) (p : Proc β R α) (queue : List β) :
    (∃ a, p = .done a) ∨ p.Waits queue ∨
      ∃ e q rest, Does ans p e q ∧ queue = e.into ++ rest := by
  cases p with
  | done a => exact .inl ⟨a, rfl⟩
  | send b next => exact .inr (.inr ⟨_, _, queue, .send b next, rfl⟩)
  | recv n next =>
      by_cases hlt : queue.length < n
      · exact .inr (.inl ⟨n, next, rfl, hlt⟩)
      · have hb : (queue.take n).length = n := List.length_take_of_le (Nat.not_lt.mp hlt)
        exact .inr (.inr ⟨_, _, queue.drop n, .recv n next _ hb,
          (List.take_append_drop n queue).symm⟩)
  | host l next => exact .inr (.inr ⟨_, _, queue, .host l next, rfl⟩)

/-- `Performs ans p t q`: all of `t` goes through. -/
inductive Performs (ans : ∀ l, R l) : Proc β R α → List (Act β R) → Proc β R α → Prop
  | nil (p : Proc β R α) : Performs ans p [] p
  | cons {p q r : Proc β R α} {e : Act β R} {t : List (Act β R)} :
      Does ans p e q → Performs ans q t r → Performs ans p (e :: t) r

variable {ans : ∀ l, R l}

/-- One part of a run after the other. -/
lemma Performs.trans (h : Performs ans p t q) (h' : Performs ans q u r) :
    Performs ans p (t ++ u) r := by
  induction h with
  | nil p => exact h'
  | cons hfirst _ ih => exact .cons hfirst (ih h')

/-- What is performed can be interrupted. -/
lemma Performs.split (h : Performs ans p (t ++ u) r) :
    ∃ q, Performs ans p t q ∧ Performs ans q u r := by
  induction t generalizing p with
  | nil => exact ⟨p, .nil p, h⟩
  | cons e t ih =>
      cases h with
      | cons hfirst hrest =>
          obtain ⟨q, ht, hu⟩ := ih hrest
          exact ⟨q, .cons hfirst ht, hu⟩

/-- A step of the first program is a step of both. -/
lemma Does.bind {e : Act β R} (h : Does ans p e q) (f : α → Proc β R γ) :
    Does ans (p >>= f) e (q >>= f) := by
  cases h with
  | send b next => exact .send b _
  | recv n next b hb => exact .recv n _ b hb
  | host l next => exact .host l _

/-- A run of the first program is a run of both. -/
lemma Performs.left (h : Performs ans p t q) (f : α → Proc β R γ) :
    Performs ans (p >>= f) t (q >>= f) := by
  induction h with
  | nil p => exact .nil _
  | cons hfirst _ ih => exact .cons (hfirst.bind f) ih

/-- A run of the first program to its end, and then a run of the second. -/
lemma Performs.bind {a : α} {f : α → Proc β R γ} {s : Proc β R γ}
    (h : Performs ans p t (.done a)) (h' : Performs ans (f a) u s) :
    Performs ans (p >>= f) (t ++ u) s :=
  (h.left f).trans h'

end Proc

/-! ## Sessions -/

/-- Two programs, what is on its way between them, and what each has done. -/
structure Session (β : Type) {L₁ L₂ : Type} (R₁ : L₁ → Type) (R₂ : L₂ → Type) (α γ : Type) where
  left : Proc β R₁ α
  right : Proc β R₂ γ
  toRight : List β := []
  toLeft : List β := []
  leftTrace : List (Act β R₁) := []
  rightTrace : List (Act β R₂) := []

namespace Session

/-- A step of one of the two, which takes what it gets from the front of its queue. -/
inductive Step (s : Session β R₁ R₂ α γ) : Session β R₁ R₂ α γ → Prop
  | left {e : Act β R₁} {p : Proc β R₁ α} {rest : List β} :
      Proc.Step s.left e p → s.toLeft = e.into ++ rest →
      Step s { s with left := p, toRight := s.toRight ++ e.out, toLeft := rest,
                      leftTrace := s.leftTrace ++ [e] }
  | right {e : Act β R₂} {q : Proc β R₂ γ} {rest : List β} :
      Proc.Step s.right e q → s.toRight = e.into ++ rest →
      Step s { s with right := q, toLeft := s.toLeft ++ e.out, toRight := rest,
                      rightTrace := s.rightTrace ++ [e] }

/-- Some order of steps of `p` and `q`, with a new connection between them, leads to `s`. -/
def Reach (p : Proc β R₁ α) (q : Proc β R₂ γ) (s : Session β R₁ R₂ α γ) : Prop :=
  Relation.ReflTransGen Step { left := p, right := q } s

/-- What each program has done is a run of it, and each has received the front of what the other
has sent; the rest is on its way. -/
structure Consistent (p : Proc β R₁ α) (q : Proc β R₂ γ) (s : Session β R₁ R₂ α γ) : Prop where
  left : p.Runs s.leftTrace s.left
  right : q.Runs s.rightTrace s.right
  toRight : sentBy s.leftTrace = gotBy s.rightTrace ++ s.toRight
  toLeft : sentBy s.rightTrace = gotBy s.leftTrace ++ s.toLeft

variable {p : Proc β R₁ α} {q : Proc β R₂ γ} {s s' : Session β R₁ R₂ α γ}

/-- Every step keeps the two sides consistent. -/
lemma Consistent.step (h : Consistent p q s) (hstep : Step s s') : Consistent p q s' := by
  cases hstep with
  | left hp hin =>
      exact ⟨h.left.snoc hp, h.right, by simp [h.toRight], by simp [h.toLeft, hin]⟩
  | right hq hin =>
      exact ⟨h.left, h.right.snoc hq, by simp [h.toRight, hin], by simp [h.toLeft]⟩

/-- In any order of the steps. -/
theorem Reach.consistent (h : Reach p q s) : Consistent p q s := by
  induction h with
  | refl => exact ⟨.nil p, .nil q, rfl, rfl⟩
  | tail _ hstep ih => exact ih.step hstep

/-- Properties of the two programs alone hold in every session of theirs. -/
theorem Reach.spec {P : List (Act β R₁) → Proc.Place α → Prop}
    {Q : List (Act β R₂) → Proc.Place γ → Prop} (h : Reach p q s) (hp : p.Spec P)
    (hq : q.Spec Q) : P s.leftTrace s.left.place ∧ Q s.rightTrace s.right.place ∧
      gotBy s.rightTrace <+: sentBy s.leftTrace ∧ gotBy s.leftTrace <+: sentBy s.rightTrace :=
  have hcon := h.consistent
  ⟨hp _ _ hcon.left, hq _ _ hcon.right, ⟨_, hcon.toRight.symm⟩, ⟨_, hcon.toLeft.symm⟩⟩

/-! ### Sessions in which nothing breaks off -/

section Does

variable (ans₁ : ∀ l, R₁ l) (ans₂ : ∀ l, R₂ l)

/-- A step that goes through, or that finds the end of a connection that the other program has
closed. -/
inductive Does (s : Session β R₁ R₂ α γ) : Session β R₁ R₂ α γ → Prop
  | left {e : Act β R₁} {p : Proc β R₁ α} {rest : List β} :
      Proc.Does ans₁ s.left e p → s.toLeft = e.into ++ rest →
      Does s { s with left := p, toRight := s.toRight ++ e.out, toLeft := rest,
                      leftTrace := s.leftTrace ++ [e] }
  | right {e : Act β R₂} {q : Proc β R₂ γ} {rest : List β} :
      Proc.Does ans₂ s.right e q → s.toRight = e.into ++ rest →
      Does s { s with right := q, toLeft := s.toLeft ++ e.out, toRight := rest,
                      rightTrace := s.rightTrace ++ [e] }
  | leftEnd {n : Nat} {next : Option {b : List β // b.length = n} → Proc β R₁ α} {c : γ} :
      s.left = .recv n next → s.toLeft.length < n → s.right = .done c →
      Does s { s with left := next none, toLeft := [],
                      leftTrace := s.leftTrace ++ [.got s.toLeft] }
  | rightEnd {n : Nat} {next : Option {b : List β // b.length = n} → Proc β R₂ γ} {a : α} :
      s.right = .recv n next → s.toRight.length < n → s.left = .done a →
      Does s { s with right := next none, toRight := [],
                      rightTrace := s.rightTrace ++ [.got s.toRight] }

/-- `n` such steps. -/
inductive Steps : Nat → Session β R₁ R₂ α γ → Session β R₁ R₂ α γ → Prop
  | refl (s : Session β R₁ R₂ α γ) : Steps 0 s s
  | cons {n : Nat} {s s' s'' : Session β R₁ R₂ α γ} :
      Does ans₁ ans₂ s s' → Steps n s' s'' → Steps (n + 1) s s''

/-- Neither program goes on. -/
def AtRest (s : Session β R₁ R₂ α γ) : Prop := ∀ s', ¬ Does ans₁ ans₂ s s'

end Does

variable {ans₁ : ∀ l, R₁ l} {ans₂ : ∀ l, R₂ l} {m n : Nat} {s₁ s₂ f : Session β R₁ R₂ α γ}

/-- When both are done nothing happens any more. -/
lemma atRest_of_done {a : α} {c : γ} (ha : s.left = .done a) (hc : s.right = .done c) :
    s.AtRest ans₁ ans₂ := by
  intro s' h
  cases h with
  | left hp _ =>
      rw [ha] at hp
      exact Proc.Does.not_done hp
  | right hq _ =>
      rw [hc] at hq
      exact Proc.Does.not_done hq
  | leftEnd hp _ _ => cases ha.symm.trans hp
  | rightEnd hq _ _ => cases hc.symm.trans hq

/-- A step of a session without a break is a step of it. -/
lemma Does.toStep (h : Does ans₁ ans₂ s s') : Step s s' := by
  cases h with
  | left hp hin => exact .left hp.step hin
  | right hq hin => exact .right hq.step hin
  | @leftEnd n next c hp hlt hq =>
      have hstep : s.left.Step (.got s.toLeft) (next none) := by
        rw [hp]
        exact .recvFail n next _ hlt
      simpa [Act.out] using Step.left hstep (List.append_nil _).symm
  | @rightEnd n next a hq hlt hp =>
      have hstep : s.right.Step (.got s.toRight) (next none) := by
        rw [hq]
        exact .recvFail n next _ hlt
      simpa [Act.out] using Step.right hstep (List.append_nil _).symm

/-- What is reached without a break is reached. -/
lemma Steps.reach (h : Steps ans₁ ans₂ n s s') : Relation.ReflTransGen Step s s' := by
  induction h with
  | refl s => exact .refl
  | cons hfirst _ ih => exact .head hfirst.toStep ih

/-- One part of a session after the other. -/
lemma Steps.trans {s'' : Session β R₁ R₂ α γ} (h : Steps ans₁ ans₂ m s s')
    (h' : Steps ans₁ ans₂ n s' s'') : Steps ans₁ ans₂ (m + n) s s'' := by
  induction h with
  | refl s => rwa [Nat.zero_add]
  | cons hfirst _ ih =>
      rw [Nat.add_right_comm]
      exact .cons hfirst (ih h')

/-! ### The order of the steps -/

/-- Steps of the two programs do not disturb each other, since each takes from the front of its
queue and adds to the end of the other, and the end of a connection is found only when there is
nothing to come. -/
lemma Does.diamond (h₁ : Does ans₁ ans₂ s s₁) (h₂ : Does ans₁ ans₂ s s₂) :
    s₁ = s₂ ∨ ∃ f, Does ans₁ ans₂ s₁ f ∧ Does ans₁ ans₂ s₂ f := by
  cases h₁ with
  | left hp₁ hin₁ =>
      cases h₂ with
      | left hp₂ hin₂ =>
          obtain ⟨rfl, rfl, rfl⟩ := hp₁.eq hp₂ hin₁ hin₂
          exact .inl rfl
      | right hq₂ hin₂ =>
          refine .inr ⟨_, .right hq₂ ?_, .left hp₁ ?_⟩
          · rw [hin₂, List.append_assoc]
          · rw [hin₁, List.append_assoc]
      | leftEnd hp₂ hlt₂ _ =>
          rw [hp₂] at hp₁
          rw [hin₁, List.length_append, hp₁.length_into] at hlt₂
          omega
      | rightEnd _ _ hp₂ =>
          rw [hp₂] at hp₁
          exact absurd hp₁ Proc.Does.not_done
  | right hq₁ hin₁ =>
      cases h₂ with
      | left hp₂ hin₂ =>
          refine .inr ⟨_, .left hp₂ ?_, .right hq₁ ?_⟩
          · rw [hin₂, List.append_assoc]
          · rw [hin₁, List.append_assoc]
      | right hq₂ hin₂ =>
          obtain ⟨rfl, rfl, rfl⟩ := hq₁.eq hq₂ hin₁ hin₂
          exact .inl rfl
      | leftEnd _ _ hq₂ =>
          rw [hq₂] at hq₁
          exact absurd hq₁ Proc.Does.not_done
      | rightEnd hq₂ hlt₂ _ =>
          rw [hq₂] at hq₁
          rw [hin₁, List.length_append, hq₁.length_into] at hlt₂
          omega
  | leftEnd hp₁ hlt₁ hq₁ =>
      cases h₂ with
      | left hp₂ hin₂ =>
          rw [hp₁] at hp₂
          rw [hin₂, List.length_append, hp₂.length_into] at hlt₁
          omega
      | right hq₂ _ =>
          rw [hq₁] at hq₂
          exact absurd hq₂ Proc.Does.not_done
      | leftEnd hp₂ _ _ =>
          cases hp₁.symm.trans hp₂
          exact .inl rfl
      | rightEnd hq₂ _ _ => cases hq₁.symm.trans hq₂
  | rightEnd hq₁ hlt₁ hp₁ =>
      cases h₂ with
      | left hp₂ _ =>
          rw [hp₁] at hp₂
          exact absurd hp₂ Proc.Does.not_done
      | right hq₂ hin₂ =>
          rw [hq₁] at hq₂
          rw [hin₂, List.length_append, hq₂.length_into] at hlt₁
          omega
      | leftEnd hp₂ _ _ => cases hp₁.symm.trans hp₂
      | rightEnd hq₂ _ _ =>
          cases hq₁.symm.trans hq₂
          exact .inl rfl

/-- Whatever is done first, the rest can be done in one step less. -/
lemma Steps.first (h : Steps ans₁ ans₂ n s f) (hf : f.AtRest ans₁ ans₂)
    (hdoes : Does ans₁ ans₂ s s') : ∃ m, n = m + 1 ∧ Steps ans₁ ans₂ m s' f := by
  induction h generalizing s' with
  | refl s => exact absurd hdoes (hf _)
  | cons hfirst hrest ih =>
      obtain rfl | ⟨d, hd, hd'⟩ := hfirst.diamond hdoes
      · exact ⟨_, rfl, hrest⟩
      · obtain ⟨m, rfl, hm⟩ := ih hf hd
        exact ⟨m + 1, rfl, .cons hd' hm⟩

/-- Where one order of the steps comes to a rest, all of them do, after as many steps. -/
theorem Steps.settles (h : Steps ans₁ ans₂ n s f) (hf : f.AtRest ans₁ ans₂)
    (hm : Steps ans₁ ans₂ m s s') : m ≤ n ∧ Steps ans₁ ans₂ (n - m) s' f := by
  induction hm generalizing n with
  | refl s => exact ⟨Nat.zero_le n, h⟩
  | cons hfirst _ ih =>
      obtain ⟨k, rfl, hk⟩ := h.first hf hfirst
      obtain ⟨hle, hrest⟩ := ih hk
      exact ⟨Nat.succ_le_succ hle, by rwa [Nat.add_sub_add_right]⟩

/-! ### Coming to a rest -/

/-- Every step brings one of the two programs nearer to its end. -/
lemma Does.gameAdd (h : Does ans₁ ans₂ s s') :
    Prod.GameAdd Proc.After Proc.After (s'.left, s'.right) (s.left, s.right) := by
  cases h with
  | left hp _ => exact .fst ⟨_, hp.step⟩
  | right hq _ => exact .snd ⟨_, hq.step⟩
  | @leftEnd n next c hp hlt _ =>
      refine .fst ⟨.got s.toLeft, ?_⟩
      rw [hp]
      exact .recvFail n next _ hlt
  | @rightEnd n next a hq hlt _ =>
      refine .snd ⟨.got s.toRight, ?_⟩
      rw [hq]
      exact .recvFail n next _ hlt

/-- Every session comes to a rest. -/
theorem comes_to_rest (ans₁ : ∀ l, R₁ l) (ans₂ : ∀ l, R₂ l) (s : Session β R₁ R₂ α γ) :
    ∃ n f, Steps ans₁ ans₂ n s f ∧ f.AtRest ans₁ ans₂ := by
  have hwf : WellFounded fun s' s : Session β R₁ R₂ α γ =>
      Prod.GameAdd Proc.After Proc.After (s'.left, s'.right) (s.left, s.right) :=
    InvImage.wf (fun s : Session β R₁ R₂ α γ => (s.left, s.right))
      (Proc.wellFounded_after.prod_gameAdd Proc.wellFounded_after)
  induction s using hwf.induction with
  | h s ih =>
      by_cases hrest : s.AtRest ans₁ ans₂
      · exact ⟨0, s, .refl s, hrest⟩
      · obtain ⟨s', hdoes⟩ : ∃ s', Does ans₁ ans₂ s s' := by
          simpa [AtRest] using hrest
        obtain ⟨n, f, hsteps, hf⟩ := ih s' hdoes.gameAdd
        exact ⟨n + 1, f, .cons hdoes hsteps, hf⟩

/-- At rest the left program is done or waits. -/
lemma AtRest.left (h : s.AtRest ans₁ ans₂) :
    (∃ a, s.left = .done a) ∨ s.left.Waits s.toLeft := by
  obtain hdone | hwaits | ⟨e, p, rest, hp, hin⟩ := s.left.done_or_waits_or_does ans₁ s.toLeft
  · exact .inl hdone
  · exact .inr hwaits
  · exact absurd (.left hp hin) (h _)

/-- At rest the right program is done or waits. -/
lemma AtRest.right (h : s.AtRest ans₁ ans₂) :
    (∃ c, s.right = .done c) ∨ s.right.Waits s.toRight := by
  obtain hdone | hwaits | ⟨e, q, rest, hq, hin⟩ := s.right.done_or_waits_or_does ans₂ s.toRight
  · exact .inl hdone
  · exact .inr hwaits
  · exact absurd (.right hq hin) (h _)

/-- A program whose peer is done does not wait for it. -/
theorem AtRest.done_or_waits (h : s.AtRest ans₁ ans₂) :
    (∃ a c, s.left = .done a ∧ s.right = .done c) ∨
      s.left.Waits s.toLeft ∧ s.right.Waits s.toRight := by
  obtain ⟨a, ha⟩ | hleft := h.left
  · obtain ⟨c, hc⟩ | hright := h.right
    · exact .inl ⟨a, c, ha, hc⟩
    · obtain ⟨n, next, hq, hlt⟩ := hright
      exact absurd (.rightEnd hq hlt ha) (h _)
  · obtain ⟨c, hc⟩ | hright := h.right
    · obtain ⟨n, next, hp, hlt⟩ := hleft
      exact absurd (.leftEnd hp hlt hc) (h _)
    · exact .inr ⟨hleft, hright⟩

/-- Two programs that never wait for each other come to an end, always to the same one, whatever
the order of their steps. -/
theorem ends {p : Proc β R₁ α} {q : Proc β R₂ γ}
    (h : ∀ s, Reach p q s → ¬ (s.left.Waits s.toLeft ∧ s.right.Waits s.toRight))
    (ans₁ : ∀ l, R₁ l) (ans₂ : ∀ l, R₂ l) :
    ∃ n f, (∃ a c, f.left = .done a ∧ f.right = .done c) ∧
      ∀ m s, Steps ans₁ ans₂ m { left := p, right := q } s →
        m ≤ n ∧ Steps ans₁ ans₂ (n - m) s f := by
  obtain ⟨n, f, hsteps, hf⟩ := comes_to_rest ans₁ ans₂ { left := p, right := q }
  have hdone := hf.done_or_waits.resolve_right (h f hsteps.reach)
  exact ⟨n, f, hdone, fun m s hm => hsteps.settles hf hm⟩

/-! ### One side at a time -/

/-- The left program goes on as far as it comes with what is on its way. -/
lemma steps_left {t : List (Act β R₁)} {rest : List β}
    (h : Proc.Performs ans₁ s.left t p) (hin : s.toLeft = gotBy t ++ rest) :
    Steps ans₁ ans₂ t.length s { s with left := p, toRight := s.toRight ++ sentBy t,
                                        toLeft := rest, leftTrace := s.leftTrace ++ t } := by
  obtain ⟨p₀, q, toRight, toLeft, leftTrace, rightTrace⟩ := s
  dsimp only at h hin
  subst hin
  induction h generalizing toRight leftTrace with
  | nil p => simpa using Steps.refl _
  | @cons _ _ _ e t hfirst _ ih =>
      have hin : gotBy (e :: t) ++ rest = e.into ++ (gotBy t ++ rest) := by
        rw [gotBy_cons, List.append_assoc]
      refine .cons (.left hfirst hin) ?_
      simpa [List.append_assoc] using ih (toRight ++ e.out) (leftTrace ++ [e])

/-- The right program runs alone, when what it reads is there. -/
lemma steps_right {t : List (Act β R₂)} {rest : List β}
    (h : Proc.Performs ans₂ s.right t q) (hin : s.toRight = gotBy t ++ rest) :
    Steps ans₁ ans₂ t.length s { s with right := q, toLeft := s.toLeft ++ sentBy t,
                                        toRight := rest, rightTrace := s.rightTrace ++ t } := by
  obtain ⟨p, q₀, toRight, toLeft, leftTrace, rightTrace⟩ := s
  dsimp only at h hin
  subst hin
  induction h generalizing toLeft rightTrace with
  | nil q => simpa using Steps.refl _
  | @cons _ _ _ e t hfirst _ ih =>
      have hin : gotBy (e :: t) ++ rest = e.into ++ (gotBy t ++ rest) := by
        rw [gotBy_cons, List.append_assoc]
      refine .cons (.right hfirst hin) ?_
      simpa [List.append_assoc] using ih (toLeft ++ e.out) (rightTrace ++ [e])

/-- One side asks, the other answers. -/
lemma exchange {p p' : Proc β R₁ α} {q : Proc β R₂ γ} {a : α} {c : γ}
    {t₁ t₂ : List (Act β R₁)} {u : List (Act β R₂)} (hask : Proc.Performs ans₁ p t₁ p')
    (hserve : Proc.Performs ans₂ q u (.done c)) (htake : Proc.Performs ans₁ p' t₂ (.done a))
    (hnone : gotBy t₁ = []) (hreq : gotBy u = sentBy t₁) (hrep : gotBy t₂ = sentBy u) :
    ∃ n, Steps ans₁ ans₂ n { left := p, right := q }
      { left := .done a, right := .done c, toRight := sentBy t₂, leftTrace := t₁ ++ t₂,
        rightTrace := u } := by
  have h₁ : Steps ans₁ ans₂ t₁.length { left := p, right := q }
      { left := p', right := q, toRight := sentBy t₁, leftTrace := t₁ } :=
    steps_left hask (hnone.symm ▸ rfl)
  have h₂ : Steps ans₁ ans₂ u.length
      { left := p', right := q, toRight := sentBy t₁, leftTrace := t₁ }
      { left := p', right := .done c, toLeft := sentBy u, leftTrace := t₁, rightTrace := u } :=
    steps_right hserve (by rw [hreq, List.append_nil])
  have h₃ : Steps ans₁ ans₂ t₂.length
      { left := p', right := .done c, toLeft := sentBy u, leftTrace := t₁, rightTrace := u }
      { left := .done a, right := .done c, toRight := sentBy t₂, leftTrace := t₁ ++ t₂,
        rightTrace := u } :=
    steps_left htake (by rw [hrep, List.append_nil])
  exact ⟨_, (h₁.trans h₂).trans h₃⟩

end Session

end Usbip.Core
