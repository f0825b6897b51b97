import NullMiddleware.Proofs.Switchboard.Unchained

/-!
Triggers that handlers forward.

A handler may trigger one more latch, while its own is held. If that is always an older one, with a
smaller number, a trigger goes down a path of latches, each with its listener, and ends: at a
handler that forwards nothing or panics, or at a latch that nobody attends. A path is read off the
board before the trigger, without holding latches or counting nested calls.
-/

namespace NullMiddleware

/-- The handler when it has been called some more times. -/
def Handler.called (h : Handler) (times : Nat) : Handler := { h with calls := h.calls + times }

@[simp] lemma Handler.called_zero (h : Handler) : h.called 0 = h := rfl

lemma Handler.called_called (h : Handler) (i j : Nat) :
    (h.called i).called j = h.called (i + j) := by
  simp only [Handler.called, Nat.add_assoc]

namespace Switchboard

variable {b b' : Switchboard} {n m : Nat}

/-- The listener has a handler, which triggers only latches that are older than latch `n`. -/
def PointsBelow (b : Switchboard) (n : Nat) (a : Listener) : Prop :=
  ∃ h ∈ b.handlers[a.handler]?, ∀ m ∈ h.forward, m < n

instance (b : Switchboard) (n : Nat) (a : Listener) : Decidable (b.PointsBelow n a) :=
  inferInstanceAs (Decidable (∃ h ∈ b.handlers[a.handler]?, ∀ m ∈ h.forward, m < n))

/-- Whoever attends a latch triggers only latches that are older. -/
def Descends (b : Switchboard) : Prop :=
  ∀ n < b.latches.size, ∀ a ∈ (b.latch n).listener, b.PointsBelow n a

instance (b : Switchboard) : Decidable b.Descends :=
  inferInstanceAs
    (Decidable (∀ n < b.latches.size, ∀ a ∈ (b.latch n).listener, b.PointsBelow n a))

/-! ### Paths -/

/-- A latch on a path, with its listener and the listener's handler. -/
structure Stop where
  latch : Nat
  listener : Listener
  handler : Handler

/-- What the handler records. -/
def Stop.call (s : Stop) : Call := ⟨s.handler.label, s.listener.token, 1⟩

/-- The latch, the listener and the handler are found together. -/
structure Serves (b : Switchboard) (s : Stop) : Prop where
  listener : (b.latch s.latch).listener = some s.listener
  handler : b.handlers[s.listener.handler]? = some s.handler

/-- Where a path ends. -/
inductive Arrival
  /-- At a handler that forwards nothing. -/
  | heard
  /-- At a handler that panics. -/
  | panicked (label : String)
  /-- At a latch that nobody attends. -/
  | waiting (latch : Nat)

namespace Arrival

def ending : Arrival → Ending
  | panicked label => .panicked label
  | heard | waiting _ => .returned

/-- The latch where the trigger stays. -/
def latch? : Arrival → Option Nat
  | waiting k => some k
  | heard | panicked _ => none

/-- The board with the trigger where it stays. -/
def leave (arrival : Arrival) (b : Switchboard) : Switchboard :=
  match arrival with
  | waiting k =>
    b.setLatch k { b.latch k with pending := (b.latch k).pending + 1, unread := true }
  | heard | panicked _ => b

end Arrival

/-- The path of a trigger of latch `n`. -/
inductive Path (b : Switchboard) : Nat → List Stop → Arrival → Prop
  | unattended {n : Nat} (nobody : (b.latch n).listener = none) : Path b n [] (.waiting n)
  | panics {s : Stop} (there : b.Serves s) (loud : s.handler.calls + 1 = s.handler.panicOn) :
    Path b s.latch [s] (.panicked s.handler.label)
  | last {s : Stop} (there : b.Serves s) (calm : s.handler.calls + 1 ≠ s.handler.panicOn)
    (ends : s.handler.forward = none) : Path b s.latch [s] .heard
  | onward {s : Stop} {m : Nat} {stops : List Stop} {arrival : Arrival} (there : b.Serves s)
    (calm : s.handler.calls + 1 ≠ s.handler.panicOn) (forwards : s.handler.forward = some m)
    (rest : Path b m stops arrival) : Path b s.latch (s :: stops) arrival

/-- The latches of a path, from the one that is triggered to the last. -/
def route (stops : List Stop) (arrival : Arrival) : List Nat :=
  stops.map (·.latch) ++ arrival.latch?.toList

variable {s : Stop} {stops : List Stop} {arrival : Arrival}

lemma Path.head (h : b.Path n stops arrival) : (route stops arrival).head? = some n := by
  cases h <;> rfl

lemma Path.serves (h : b.Path n stops arrival) : ∀ s ∈ stops, b.Serves s := by
  induction h with
  | unattended nobody => simp
  | panics there loud => simpa using there
  | last there calm ends => simpa using there
  | onward there calm forwards rest ih => simpa using ⟨there, ih⟩

lemma Path.nobody (h : b.Path n stops arrival) :
    ∀ k ∈ arrival.latch?, (b.latch k).listener = none := by
  induction h with
  | unattended nobody => simpa [Arrival.latch?] using nobody
  | panics there loud => simp [Arrival.latch?]
  | last there calm ends => simp [Arrival.latch?]
  | onward there calm forwards rest ih => exact ih

/-- A path is the same on any board that has the same at its stops and at its end. -/
lemma Path.congr (h : b.Path n stops arrival) (serves : ∀ s ∈ stops, b'.Serves s)
    (unattended : ∀ k ∈ arrival.latch?, (b'.latch k).listener = none) :
    b'.Path n stops arrival := by
  induction h with
  | unattended nobody => exact .unattended (unattended _ rfl)
  | panics there loud => exact .panics (serves _ List.mem_cons_self) loud
  | last there calm ends => exact .last (serves _ List.mem_cons_self) calm ends
  | onward there calm forwards rest ih =>
    have hrest := ih (fun s hs => serves s (List.mem_cons_of_mem _ hs)) unattended
    exact .onward (serves _ List.mem_cons_self) calm forwards hrest

/-! ### Paths that go down -/

lemma Descends.forward_lt (older : b.Descends) (there : b.Serves s)
    (hs : s.latch < b.latches.size) (forwards : s.handler.forward = some m) : m < s.latch := by
  obtain ⟨h, hh, hbelow⟩ := older s.latch hs s.listener there.listener
  obtain rfl : s.handler = h := Option.some.inj (there.handler.symm.trans hh)
  exact hbelow m forwards

lemma Descends.exists_path (older : b.Descends) (hn : n < b.latches.size) :
    ∃ stops arrival, b.Path n stops arrival := by
  induction n using Nat.strongRecOn with
  | ind n ih =>
    rcases hl : (b.latch n).listener with _ | a
    · exact ⟨[], .waiting n, .unattended hl⟩
    · obtain ⟨h, hh, -⟩ := older n hn a hl
      let s : Stop := ⟨n, a, h⟩
      have there : b.Serves s := ⟨hl, hh⟩
      by_cases loud : h.calls + 1 = h.panicOn
      · exact ⟨[s], .panicked h.label, .panics there loud⟩
      · rcases hforward : h.forward with _ | m
        · exact ⟨[s], .heard, .last there loud hforward⟩
        · have hm : m < n := older.forward_lt there hn hforward
          obtain ⟨stops, arrival, rest⟩ := ih m hm (Nat.lt_trans hm hn)
          exact ⟨s :: stops, arrival, .onward there loud hforward rest⟩

lemma Descends.route_le (older : b.Descends) (h : b.Path n stops arrival)
    (hn : n < b.latches.size) : ∀ k ∈ route stops arrival, k ≤ n := by
  induction h with
  | unattended nobody => simp [route, Arrival.latch?]
  | panics there loud => simp [route, Arrival.latch?]
  | last there calm ends => simp [route, Arrival.latch?]
  | onward there calm forwards rest ih =>
    have hm := older.forward_lt there hn forwards
    have hrest := ih (Nat.lt_trans hm hn)
    intro k hk
    rw [route, List.map_cons, List.cons_append, List.mem_cons] at hk
    rcases hk with rfl | hk
    · exact Nat.le_refl _
    · exact Nat.le_trans (hrest k hk) (Nat.le_of_lt hm)

/-- Each latch of a path is older than the one before it, so none comes twice. -/
lemma Descends.route_sorted (older : b.Descends) (h : b.Path n stops arrival)
    (hn : n < b.latches.size) : (route stops arrival).Pairwise (· > ·) := by
  induction h with
  | unattended nobody => simp [route, Arrival.latch?]
  | panics there loud => simp [route, Arrival.latch?]
  | last there calm ends => simp [route, Arrival.latch?]
  | onward there calm forwards rest ih =>
    have hm := older.forward_lt there hn forwards
    have hm' := Nat.lt_trans hm hn
    rw [route, List.map_cons, List.cons_append]
    refine List.pairwise_cons.mpr ⟨?_, ih hm'⟩
    intro k hk
    exact Nat.lt_of_le_of_lt (older.route_le rest hm' k hk) hm

/-- A handler that forwards to latch `m` serves no latch of a path from there. -/
lemma Descends.handler_ne (older : b.Descends) (h : b.Path m stops arrival)
    (hm : m < b.latches.size) {k : Nat} {handler : Handler} (hk : b.handlers[k]? = some handler)
    (forwards : handler.forward = some m) : ∀ s ∈ stops, s.listener.handler ≠ k := by
  intro s hs heq
  have there := h.serves s hs
  have hle : s.latch ≤ m :=
    older.route_le h hm _ (List.mem_append_left _ (List.mem_map_of_mem hs))
  obtain rfl : s.handler = handler := by
    rw [← heq] at hk
    exact Option.some.inj (there.handler.symm.trans hk)
  have hlt := older.forward_lt there (Nat.lt_of_le_of_lt hle hm) forwards
  omega

lemma Descends.handlers_nodup (older : b.Descends) (h : b.Path n stops arrival)
    (hn : n < b.latches.size) : (stops.map (·.listener.handler)).Nodup := by
  induction h with
  | unattended nobody => simp
  | panics there loud => simp
  | last there calm ends => simp
  | onward there calm forwards rest ih =>
    have hm := Nat.lt_trans (older.forward_lt there hn forwards) hn
    rw [List.map_cons, List.nodup_cons]
    refine ⟨?_, ih hm⟩
    intro hmem
    obtain ⟨s, hs, heq⟩ := List.mem_map.mp hmem
    exact older.handler_ne rest hm there.handler forwards s hs heq

/-! ### What a trigger does -/

lemma setLatch_eq_self {l : Latch Listener} (h : b.latch n = l) : b.setLatch n l = b := by
  subst h
  have hlatches : b.latches.setIfInBounds n (b.latch n) = b.latches := by
    ext k h₁ h₂
    · simp
    · rw [Array.getElem_setIfInBounds]
      split
      · next heq =>
        subst heq
        simp [latch, h₂]
      · rfl
  rw [setLatch, hlatches]

/-- The board when a listener's handler has heard a call. -/
def hear (b : Switchboard) (a : Listener) (h : Handler) (count : Nat) : Switchboard :=
  { b with
    handlers := b.handlers.setIfInBounds a.handler (h.called 1)
    record := b.record.push ⟨h.label, a.token, count⟩ }

variable {a : Listener} {h : Handler} {count : Nat}

lemma latches_hear (b : Switchboard) (a : Listener) (h : Handler) (count : Nat) :
    (b.hear a h count).latches = b.latches := rfl

lemma latch_hear (b : Switchboard) (a : Listener) (h : Handler) (count k : Nat) :
    (b.hear a h count).latch k = b.latch k := rfl

lemma record_hear (b : Switchboard) (a : Listener) (h : Handler) (count : Nat) :
    (b.hear a h count).record.toList = b.record.toList ++ [⟨h.label, a.token, count⟩] := by
  simp [hear]

lemma handlers_hear (hh : b.handlers[a.handler]? = some h) (k : Nat) :
    (b.hear a h count).handlers[k]? =
      b.handlers[k]?.map (·.called (if a.handler = k then 1 else 0)) := by
  by_cases hk : a.handler = k
  · subst hk
    obtain ⟨hsize, -⟩ := Array.getElem?_eq_some_iff.mp hh
    rw [hh, hear, Array.getElem?_setIfInBounds_self_of_lt hsize]
    simp
  · simp [hear, hk]

/-- A call is passed on to a latch, if there is one, which is triggered by `fire`. -/
def pass (fire : Nat → Switchboard → Ending × Switchboard) (forward : Option Nat)
    (b : Switchboard) : Ending × Switchboard :=
  match forward with
  | none => (.returned, b)
  | some m => fire m b

lemma call_eq (hh : b.handlers[a.handler]? = some h)
    (fire : Nat → Switchboard → Ending × Switchboard) (count : Nat) :
    call fire a count b =
      if h.calls + 1 = h.panicOn then (.panicked h.label, b.hear a h count)
      else pass fire h.forward (b.hear a h count) := by
  simp only [call, hh]
  rfl

/-- What comes of a trigger that goes this path: each handler hears one call with one trigger, in
the order of the path, and no latch changes but the one where the trigger stays. -/
structure Delivers (b : Switchboard) (stops : List Stop) (arrival : Arrival)
    (result : Ending × Switchboard) : Prop where
  ending : result.1 = arrival.ending
  latches : result.2.latches = (arrival.leave b).latches
  record : result.2.record.toList = b.record.toList ++ stops.map Stop.call
  handlers : ∀ k : Nat, result.2.handlers[k]? =
    b.handlers[k]?.map (·.called (stops.countP (·.listener.handler = k)))

lemma latches_leave (h : b'.latches = b.latches) (arrival : Arrival) :
    (arrival.leave b').latches = (arrival.leave b).latches := by
  cases arrival with
  | waiting k => rw [Arrival.leave, Arrival.leave, latches_setLatch, latches_setLatch, h,
      latch_congr h]
  | heard => exact h
  | panicked label => exact h

lemma latch_leave {k : Nat} (h : k ∉ arrival.latch?) : (arrival.leave b).latch k = b.latch k := by
  cases arrival with
  | waiting j =>
    have hne : k ≠ j := fun heq => h (by rw [heq]; rfl)
    exact latch_setLatch_of_ne hne _
  | heard => rfl
  | panicked label => rfl

variable {result : Ending × Switchboard}

lemma delivers_nil (b : Switchboard) (arrival : Arrival) :
    b.Delivers [] arrival (arrival.ending, arrival.leave b) := by
  refine ⟨rfl, rfl, ?_, ?_⟩
  · cases arrival <;> simp [Arrival.leave, setLatch]
  · intro k
    cases arrival <;> simp [Arrival.leave, setLatch]

lemma Delivers.cons (there : b.Serves s)
    (h : (b.hear s.listener s.handler 1).Delivers stops arrival result) :
    b.Delivers (s :: stops) arrival result := by
  refine ⟨h.ending, ?_, ?_, ?_⟩
  · rw [h.latches]
    exact latches_leave (latches_hear ..) arrival
  · rw [h.record, record_hear, List.append_assoc]
    rfl
  · intro k
    rw [h.handlers, handlers_hear there.handler, Option.map_map, List.countP_cons, Nat.add_comm]
    simp only [Function.comp_def, Handler.called_called, decide_eq_true_eq]

lemma triggerHolding_eq (there : b.Serves s) {held : List Nat} (free : s.latch ∉ held)
    (fuel : Nat) :
    triggerHolding (fuel + 1) held s.latch b =
      match call (triggerHolding fuel (s.latch :: held)) s.listener 1 b with
      | (.returned, after) => (.returned, after.setLatch s.latch (b.latch s.latch))
      | stopped => stopped := by
  have hstep : (b.latch s.latch).trigger =
      { calls := [(s.listener, 1)], during := b.latch s.latch } := by
    simp only [Latch.trigger, there.listener]
  rw [triggerHolding, if_neg free, hstep, perform, setLatch_eq_self rfl]
  simp only [deliver]
  rcases call (triggerHolding fuel (s.latch :: held)) s.listener 1 b with ⟨_ | label | k, after⟩ <;>
    rfl

/-- If the handler forwards the call and its latch is still the same afterwards, the outcome is that
of the latch that it triggers. -/
lemma triggerHolding_onward (there : b.Serves s) {held : List Nat} (free : s.latch ∉ held)
    (calm : s.handler.calls + 1 ≠ s.handler.panicOn) (forwards : s.handler.forward = some m)
    (fuel : Nat)
    (stays : (triggerHolding fuel (s.latch :: held) m (b.hear s.listener s.handler 1)).2.latch
      s.latch = b.latch s.latch) :
    triggerHolding (fuel + 1) held s.latch b =
      triggerHolding fuel (s.latch :: held) m (b.hear s.listener s.handler 1) := by
  rw [triggerHolding_eq there free, call_eq there.handler, if_neg calm, forwards, pass]
  rcases hresult : triggerHolding fuel (s.latch :: held) m (b.hear s.listener s.handler 1) with
    ⟨_ | label | k, after⟩
  · rw [hresult] at stays
    simp only [setLatch_eq_self stays]
  · rfl
  · rfl

/-- A trigger takes its path, if there is fuel for it and no held latch is on it. -/
lemma Path.delivers (path : b.Path n stops arrival)
    (sorted : (route stops arrival).Pairwise (· > ·))
    (nodup : (stops.map (·.listener.handler)).Nodup) {fuel : Nat} {held : List Nat}
    (enough : n < fuel) (free : ∀ k ∈ held, n < k) :
    b.Delivers stops arrival (triggerHolding fuel held n b) := by
  -- each nested call has one unit of fuel less, and goes to an older latch
  induction fuel generalizing b n stops arrival held with
  | zero => omega
  | succ fuel ih =>
    have hfree : n ∉ held := fun hmem => Nat.lt_irrefl n (free n hmem)
    cases path with
    | unattended nobody =>
      have hstep : (b.latch n).trigger = { during :=
          { b.latch n with pending := (b.latch n).pending + 1, unread := true } } := by
        simp only [Latch.trigger, nobody]
      rw [triggerHolding, if_neg hfree, hstep, perform]
      simp only [deliver, setLatch_setLatch]
      exact delivers_nil b (.waiting n)
    | @panics s there loud =>
      rw [triggerHolding_eq there hfree, call_eq there.handler, if_pos loud]
      exact .cons there (delivers_nil _ (.panicked _))
    | @last s there calm ends =>
      rw [triggerHolding_eq there hfree, call_eq there.handler, if_neg calm, ends]
      simp only [pass]
      rw [setLatch_eq_self (latch_hear ..)]
      exact .cons there (delivers_nil _ .heard)
    | @onward s m stops _ there calm forwards rest =>
      obtain ⟨hbelow, hsorted⟩ := List.pairwise_cons.mp sorted
      rw [List.map_cons, List.nodup_cons] at nodup
      have hm : m < s.latch := hbelow m (List.mem_of_mem_head? rest.head)
      have hrest : (b.hear s.listener s.handler 1).Path m stops arrival := by
        refine rest.congr ?_ rest.nobody
        intro t ht
        have hserves := rest.serves t ht
        have hne : s.listener.handler ≠ t.listener.handler :=
          fun heq => nodup.1 (heq ▸ List.mem_map_of_mem ht)
        refine ⟨hserves.listener, ?_⟩
        rw [handlers_hear there.handler, hserves.handler, if_neg hne]
        rfl
      have hheld : ∀ k ∈ s.latch :: held, m < k := by
        intro k hk
        rcases List.mem_cons.mp hk with rfl | hk
        · exact hm
        · exact Nat.lt_trans hm (free k hk)
      have hdelivers := ih hrest hsorted nodup.2 (by omega) hheld
      have hstays : s.latch ∉ arrival.latch? := fun hmem =>
        Nat.lt_irrefl _ (hbelow _ (List.mem_append_right _ (Option.mem_toList.mpr hmem)))
      have hlatch := latch_congr hdelivers.latches s.latch
      rw [latch_leave hstays, latch_hear] at hlatch
      rw [triggerHolding_onward there hfree calm forwards fuel hlatch]
      exact .cons there hdelivers

end Switchboard
end NullMiddleware
