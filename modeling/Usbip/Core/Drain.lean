import Usbip.Core.Log

/-!
# A worker that drains two queues in turn

A sending thread that serves two queues sends everything it finds on the first, then everything
it finds on the second, and starts over; both queues grow under it at any moment.  `Drain` is
that worker: `turn` is the queue it is at, and `sent` what it has taken so far, in order.

The questions asked of such a worker are about an item `a` of the first queue and an item `b` of
the second that belong together (`R a b`).

* `Drain.Ordered R`: no `a` is sent after a `b` it belongs to.
* `Drain.Covered R`: no `b` is sent before an `a` it belongs to has been sent.

Both survive every step of the worker.  Whether they survive a push is where the race is: `b` may
be pushed while the worker is already at the second queue and `a` still waits on the first.  The
hypotheses of the four push theorems say exactly that this does not happen.
-/

namespace Usbip.Core

/-- The queue the worker is at. -/
inductive Turn
  | first
  | second
  deriving DecidableEq

/-- The two queues, the queue the worker is at, and what it has taken from them. -/
structure Drain (α β : Type*) where
  first : List α := []
  second : List β := []
  turn : Turn := .first
  sent : List (α ⊕ β) := []

namespace Drain

variable {α β : Type*}

/-- Queue an item on the first queue. -/
def pushFirst (a : α) (d : Drain α β) : Drain α β :=
  { d with first := d.first ++ [a] }

/-- Queue an item on the second queue. -/
def pushSecond (b : β) (d : Drain α β) : Drain α β :=
  { d with second := d.second ++ [b] }

/-- One step of the worker: take the head of the queue it is at, or turn to the other queue. -/
def advance (d : Drain α β) : Drain α β :=
  match d.turn with
  | .first =>
      match d.first with
      | a :: rest => { d with first := rest, sent := d.sent ++ [.inl a] }
      | [] => { d with turn := .second }
  | .second =>
      match d.second with
      | b :: rest => { d with second := rest, sent := d.sent ++ [.inr b] }
      | [] => { d with turn := .first }

/-- Everything that was ever queued. -/
def items (d : Drain α β) : List (α ⊕ β) :=
  d.sent ++ (d.first.map .inl ++ d.second.map .inr)

/-- A new item on the first queue. -/
lemma perm_items_pushFirst (a : α) (d : Drain α β) :
    (d.pushFirst a).items.Perm (d.items ++ [.inl a]) := by
  simp only [items, pushFirst, List.map_append, List.map_cons, List.map_nil, List.append_assoc]
  refine List.Perm.append_left _ (List.Perm.append_left _ ?_)
  exact List.perm_append_comm

/-- A new item on the second queue. -/
lemma perm_items_pushSecond (b : β) (d : Drain α β) :
    (d.pushSecond b).items.Perm (d.items ++ [.inr b]) := by
  simp [items, pushSecond]

/-- The worker takes and turns, but loses and adds nothing. -/
lemma perm_items_advance (d : Drain α β) : d.advance.items.Perm d.items := by
  obtain ⟨first, second, turn, sent⟩ := d
  match turn, first, second with
  | .first, a :: rest, second => simp [items, advance]
  | .first, [], second => simp [items, advance]
  | .second, first, b :: rest =>
      simp only [items, advance, List.map_cons, List.append_assoc, List.singleton_append]
      exact List.Perm.append_left _ List.perm_middle.symm
  | .second, first, [] => simp [items, advance]

variable {R R' : α → β → Prop} {d : Drain α β}

/-- What was taken stays taken. -/
lemma mem_sent_advance {x : α ⊕ β} (hx : x ∈ d.sent) : x ∈ d.advance.sent := by
  obtain ⟨first, second, turn, sent⟩ := d
  match turn, first, second with
  | .first, a :: rest, second => exact List.mem_append_left _ hx
  | .first, [], second => exact hx
  | .second, first, b :: rest => exact List.mem_append_left _ hx
  | .second, first, [] => exact hx

/-! ## No first item after its second item -/

/-- What was taken is in order, and what waits will not break the order. -/
structure Ordered (R : α → β → Prop) (d : Drain α β) : Prop where
  sent_order : Justified (fun pre x => ∀ a, x = .inl a → ∀ b, .inr b ∈ pre → ¬ R a b) d.sent
  first_sent : ∀ a ∈ d.first, ∀ b, .inr b ∈ d.sent → ¬ R a b
  turn_second : d.turn = .second → ∀ a ∈ d.first, ∀ b ∈ d.second, ¬ R a b

/-- Nothing is out of order at the start. -/
lemma ordered_empty : Ordered R ({} : Drain α β) := by
  refine ⟨justified_nil _, by simp, by simp⟩

/-- An item may be put on the first queue while nothing on the second must follow it. -/
theorem Ordered.pushFirst (h : d.Ordered R) {a : α}
    (ha : ∀ b, (b ∈ d.second ∨ .inr b ∈ d.sent) → ¬ R a b) : (d.pushFirst a).Ordered R := by
  refine ⟨h.sent_order, ?_, ?_⟩
  · intro x hx b hb
    rcases List.mem_append.mp hx with hx | hx
    · exact h.first_sent x hx b hb
    · rw [List.mem_singleton.mp hx]
      exact ha b (Or.inr hb)
  · intro hturn x hx b hb
    rcases List.mem_append.mp hx with hx | hx
    · exact h.turn_second hturn x hx b hb
    · rw [List.mem_singleton.mp hx]
      exact ha b (Or.inl hb)

/-- An item may be put on the second queue while the first is being drained, or holds nothing it
must follow. -/
theorem Ordered.pushSecond (h : d.Ordered R) {b : β}
    (hb : d.turn = .second → ∀ a ∈ d.first, ¬ R a b) : (d.pushSecond b).Ordered R := by
  refine ⟨h.sent_order, h.first_sent, ?_⟩
  intro hturn a ha x hx
  rcases List.mem_append.mp hx with hx | hx
  · exact h.turn_second hturn a ha x hx
  · rw [List.mem_singleton.mp hx]
    exact hb hturn a ha

/-- Draining keeps the order. -/
theorem Ordered.advance (h : d.Ordered R) : d.advance.Ordered R := by
  obtain ⟨first, second, turn, sent⟩ := d
  match turn, first, second with
  | .first, a :: rest, second =>
      refine ⟨justified_snoc.mpr ⟨h.sent_order, ?_⟩, ?_, by simp [Drain.advance]⟩
      · rintro x ⟨⟩ b hb
        exact h.first_sent a List.mem_cons_self b hb
      · intro x hx b hb
        have hb : .inr b ∈ sent := by simpa [Drain.advance] using hb
        exact h.first_sent x (List.mem_cons_of_mem a hx) b hb
  | .first, [], second =>
      exact ⟨h.sent_order, h.first_sent, by simp [Drain.advance]⟩
  | .second, first, b :: rest =>
      refine ⟨justified_snoc.mpr ⟨h.sent_order, by simp⟩, ?_, ?_⟩
      · intro x hx c hc
        rcases List.mem_append.mp hc with hc | hc
        · exact h.first_sent x hx c hc
        · obtain rfl : c = b := by simpa using hc
          exact h.turn_second rfl x hx c List.mem_cons_self
      · intro hturn x hx c hc
        exact h.turn_second hturn x hx c (List.mem_cons_of_mem b hc)
  | .second, first, [] =>
      exact ⟨h.sent_order, h.first_sent, by simp [Drain.advance]⟩

/-- A worker that stops for good counts as one at the first queue. -/
theorem Ordered.stop (h : d.Ordered R) : { d with turn := .first }.Ordered R :=
  ⟨h.sent_order, h.first_sent, by simp⟩

/-- Only the second items that were ever queued matter. -/
theorem Ordered.congr (h : d.Ordered R) (hR : ∀ a b, .inr b ∈ d.items → R' a b → R a b) :
    d.Ordered R' := by
  refine ⟨h.sent_order.imp ?_, ?_, ?_⟩
  · rintro pre x ⟨post, hpost⟩ hJ a hx b hb hab
    have hmem : .inr b ∈ d.items := by simp [items, hpost, hb]
    exact hJ a hx b hb (hR a b hmem hab)
  · intro a ha b hb hab
    have hmem : .inr b ∈ d.items := by simp [items, hb]
    exact h.first_sent a ha b hb (hR a b hmem hab)
  · intro ht a ha b hb hab
    have hmem : .inr b ∈ d.items := by simp [items, hb]
    exact h.turn_second ht a ha b hb (hR a b hmem hab)

/-- The order of the items taken, read off the log. -/
theorem Ordered.not_after (h : d.Ordered R) {pre post : List (α ⊕ β)} {a : α} {b : β}
    (hsent : d.sent = pre ++ .inl a :: post) (hR : R a b) : .inr b ∉ pre :=
  fun hb => h.sent_order pre _ post hsent a rfl b hb hR

/-! ## No second item before its first items -/

/-- Whatever a second item needs has been taken before it, or still waits on the first queue
while the worker has yet to come back to the second. -/
structure Covered (R : α → β → Prop) (d : Drain α β) : Prop where
  sent_covered : Justified (fun pre x => ∀ b, x = .inr b → ∀ a, R a b → .inl a ∈ pre) d.sent
  second_covered : ∀ b ∈ d.second, ∀ a, R a b → a ∈ d.first ∨ .inl a ∈ d.sent
  turn_second : d.turn = .second → ∀ b ∈ d.second, ∀ a, R a b → .inl a ∈ d.sent

/-- Everything is covered at the start. -/
lemma covered_empty : Covered R ({} : Drain α β) := by
  refine ⟨justified_nil _, by simp, by simp⟩

/-- Another item on the first queue covers no less. -/
theorem Covered.pushFirst (h : d.Covered R) (a : α) : (d.pushFirst a).Covered R := by
  refine ⟨h.sent_covered, ?_, h.turn_second⟩
  intro b hb x hx
  rcases h.second_covered b hb x hx with hx | hx
  · exact Or.inl (List.mem_append_left _ hx)
  · exact Or.inr hx

/-- An item may be put on the second queue behind what it must follow. -/
theorem Covered.pushSecond (h : d.Covered R) {b : β}
    (hb : ∀ a, R a b → a ∈ d.first ∨ .inl a ∈ d.sent)
    (hturn : d.turn = .second → ∀ a, R a b → .inl a ∈ d.sent) : (d.pushSecond b).Covered R := by
  refine ⟨h.sent_covered, ?_, ?_⟩
  · intro x hx a ha
    rcases List.mem_append.mp hx with hx | hx
    · exact h.second_covered x hx a ha
    · rw [List.mem_singleton.mp hx] at ha
      exact hb a ha
  · intro ht x hx a ha
    rcases List.mem_append.mp hx with hx | hx
    · exact h.turn_second ht x hx a ha
    · rw [List.mem_singleton.mp hx] at ha
      exact hturn ht a ha

/-- Draining keeps everything covered. -/
theorem Covered.advance (h : d.Covered R) : d.advance.Covered R := by
  obtain ⟨first, second, turn, sent⟩ := d
  match turn, first, second with
  | .first, a :: rest, second =>
      refine ⟨justified_snoc.mpr ⟨h.sent_covered, by simp⟩, ?_, by simp [Drain.advance]⟩
      intro b hb x hx
      rcases h.second_covered b hb x hx with hx | hx
      · rcases List.mem_cons.mp hx with rfl | hx
        · exact Or.inr (by simp [Drain.advance])
        · exact Or.inl hx
      · exact Or.inr (List.mem_append_left _ hx)
  | .first, [], second =>
      refine ⟨h.sent_covered, h.second_covered, ?_⟩
      intro _ b hb x hx
      -- the first queue has just been found empty
      rcases h.second_covered b hb x hx with hx | hx
      · cases hx
      · exact hx
  | .second, first, b :: rest =>
      have hold : ∀ c ∈ b :: rest, ∀ a, R a c → .inl a ∈ sent := h.turn_second rfl
      refine ⟨justified_snoc.mpr ⟨h.sent_covered, ?_⟩, ?_, ?_⟩
      · rintro c ⟨⟩ a ha
        exact hold b List.mem_cons_self a ha
      · intro c hc a ha
        exact Or.inr (List.mem_append_left _ (hold c (List.mem_cons_of_mem b hc) a ha))
      · intro _ c hc a ha
        exact List.mem_append_left _ (hold c (List.mem_cons_of_mem b hc) a ha)
  | .second, first, [] =>
      exact ⟨h.sent_covered, h.second_covered, by simp [Drain.advance]⟩

/-- Beginning again with the first queue keeps everything covered. -/
theorem Covered.stop (h : d.Covered R) : { d with turn := .first }.Covered R :=
  ⟨h.sent_covered, h.second_covered, by simp⟩

/-- Only the pairs with an item of the second queue matter. -/
theorem Covered.congr (h : d.Covered R) (hR : ∀ a b, .inr b ∈ d.items → R' a b → R a b) :
    d.Covered R' := by
  refine ⟨h.sent_covered.imp ?_, ?_, ?_⟩
  · rintro pre x ⟨post, hpost⟩ hJ b rfl a hab
    have hmem : .inr b ∈ d.items := by simp [items, hpost]
    exact hJ b rfl a (hR a b hmem hab)
  · intro b hb a hab
    have hmem : .inr b ∈ d.items := by simp [items, hb]
    exact h.second_covered b hb a (hR a b hmem hab)
  · intro ht b hb a hab
    have hmem : .inr b ∈ d.items := by simp [items, hb]
    exact h.turn_second ht b hb a (hR a b hmem hab)

/-- What a second item needs was taken before it, read off the log. -/
theorem Covered.mem_before (h : d.Covered R) {pre post : List (α ⊕ β)} {a : α} {b : β}
    (hsent : d.sent = pre ++ .inr b :: post) (hR : R a b) : .inl a ∈ pre :=
  h.sent_covered pre _ post hsent b rfl a hR

end Drain

end Usbip.Core
