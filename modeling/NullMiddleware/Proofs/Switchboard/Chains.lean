import NullMiddleware.Proofs.Switchboard.Path

/-!
Chains of latches.

Where handlers trigger only latches that are older than their own, every operation comes to an end,
and no latch is entered while it is held. A trigger takes its path. The replay of a backlog, to a
listener that triggers a latch, is as many triggers of that latch as there are calls, one after the
other: the board on which only these triggers are made is followed beside the other.
-/

namespace NullMiddleware

namespace Latch

variable {L : Type}

/-- The number of calls that hand over the backlog. -/
def rounds (l : Latch L) : Nat :=
  match l.mode with
  | .coalesced => 1
  | .perEvent => l.pending.toNat

/-- The number of triggers that each of them carries. -/
def share (l : Latch L) : Nat :=
  match l.mode with
  | .coalesced => l.pending.toNat
  | .perEvent => 1

lemma install_calls (l : Latch L) (a : L) (backlog : l.pending ≠ 0) :
    (l.install a true).calls = List.replicate l.rounds (a, l.share) := by
  have hpos : l.pending.toNat ≠ 0 := fun hzero => backlog (UInt64.toNat_inj.mp hzero)
  cases hmode : l.mode <;> simp [install, replay, rounds, share, hmode, hpos]

lemma exists_install_calls (l : Latch L) (a : L) (replayPrevious : Bool) :
    ∃ times count, (l.install a replayPrevious).calls = List.replicate times (a, count) := by
  by_cases hnone : replayPrevious = true ∧ l.pending ≠ 0
  · obtain ⟨rfl, backlog⟩ := hnone
    exact ⟨_, _, l.install_calls a backlog⟩
  · refine ⟨0, 0, ?_⟩
    cases replayPrevious with
    | false => rfl
    | true =>
      have hzero : l.pending = 0 := by simpa using hnone
      cases hmode : l.mode <;> simp [install, replay, hmode, hzero]

end Latch

namespace Switchboard

open Latch (Operation)

variable {b b' b'' below : Switchboard} {n m : Nat} {a : Listener} {h : Handler} {count : Nat}

/-! ### What never changes by itself -/

/-- The latches have the same listeners, and the handlers are the same. -/
structure SameWiring (b b' : Switchboard) : Prop where
  size : b'.latches.size = b.latches.size
  listener : ∀ k, (b'.latch k).listener = (b.latch k).listener
  handlers : SameHandlers b b'

lemma SameWiring.refl (b : Switchboard) : SameWiring b b := ⟨rfl, fun _ => rfl, .refl b⟩

lemma SameWiring.trans (h : SameWiring b b') (h' : SameWiring b' b'') : SameWiring b b'' :=
  ⟨h'.size.trans h.size, fun k => (h'.listener k).trans (h.listener k),
    h.handlers.trans h'.handlers⟩

lemma SameHandlers.pointsBelow (h : SameHandlers b b') (ha : b.PointsBelow n a) :
    b'.PointsBelow n a := by
  obtain ⟨handler, hhandler, hbelow⟩ := ha
  have hsame := h a.handler
  rw [hhandler, Option.map_some, Option.map_eq_some_iff] at hsame
  obtain ⟨handler', hhandler', heq⟩ := hsame
  have hforward := congrArg Handler.forward heq
  change handler'.forward = handler.forward at hforward
  exact ⟨handler', hhandler', hforward ▸ hbelow⟩

lemma Descends.of_listeners (older : b.Descends) (handlers : SameHandlers b b')
    (size : b'.latches.size = b.latches.size)
    (listeners : ∀ k, ∀ a ∈ (b'.latch k).listener,
      (b.latch k).listener = some a ∨ b.PointsBelow k a) : b'.Descends := by
  intro k hk a ha
  refine handlers.pointsBelow ?_
  rcases listeners k a ha with hold | hnew
  · exact older k (size ▸ hk) a hold
  · exact hnew

lemma Descends.setLatch (older : b.Descends) {l : Latch Listener}
    (same : ∀ a ∈ l.listener, (b.latch n).listener = some a) : (b.setLatch n l).Descends := by
  refine older.of_listeners (.refl b) (size_setLatch n l) ?_
  intro k a ha
  by_cases hk : k = n
  · subst hk
    by_cases hsize : k < b.latches.size
    · rw [latch_setLatch hsize] at ha
      exact .inl (same a ha)
    · have hold : b.setLatch k l = b := by simp [Switchboard.setLatch, hsize, Array.setIfInBounds]
      exact .inl (hold ▸ ha)
  · exact .inl (latch_setLatch_of_ne hk l ▸ ha)

lemma SameWiring.descends (h : SameWiring b b') (older : b.Descends) : b'.Descends :=
  older.of_listeners h.handlers h.size fun k _ ha => .inl ((h.listener k).symm.trans ha)

lemma size_leave (b : Switchboard) (arrival : Arrival) :
    (arrival.leave b).latches.size = b.latches.size := by
  cases arrival with
  | waiting k => exact size_setLatch k _
  | heard | panicked label => rfl

lemma listener_leave (b : Switchboard) (arrival : Arrival) (k : Nat) :
    ((arrival.leave b).latch k).listener = (b.latch k).listener := by
  by_cases hk : k ∈ arrival.latch?
  · cases arrival with
    | waiting j =>
      obtain rfl : j = k := Option.some.inj hk
      by_cases hsize : j < b.latches.size
      · rw [Arrival.leave, latch_setLatch hsize]
      · simp [Arrival.leave, setLatch, hsize, Array.setIfInBounds]
    | heard | panicked label => rfl
  · rw [latch_leave hk]

variable {stops : List Stop} {arrival : Arrival} {result : Ending × Switchboard}

lemma Delivers.sameWiring (h : b.Delivers stops arrival result) : SameWiring b result.2 := by
  refine ⟨?_, ?_, ?_⟩
  · rw [h.latches, size_leave]
  · intro k
    rw [latch_congr h.latches, listener_leave]
  · intro k
    rw [h.handlers, Option.map_map]
    rfl

/-! ### Triggers -/

/-- A trigger takes its path whatever is held, as long as that is newer. -/
lemma Descends.delivers (older : b.Descends) (hn : n < b.latches.size)
    (path : b.Path n stops arrival) : b.Delivers stops arrival (b.trigger n) :=
  path.delivers (older.route_sorted path hn) (older.handlers_nodup path hn)
    (Nat.lt_succ_of_lt hn) (fun _ hk => absurd hk List.not_mem_nil)

lemma Arrival.ending_ne_blocked (arrival : Arrival) (k : Nat) : arrival.ending ≠ .blocked k := by
  cases arrival <;> simp [Arrival.ending]

lemma Descends.passed (older : b.Descends) {forward : Option Nat}
    (hm : ∀ m ∈ forward, m < b.latches.size) :
    SameWiring b (pass trigger forward b).2 ∧ ∀ k, (pass trigger forward b).1 ≠ .blocked k := by
  cases forward with
  | none => exact ⟨.refl b, fun k => by simp [Switchboard.pass]⟩
  | some m =>
    have hsize := hm m rfl
    obtain ⟨stops, arrival, path⟩ := older.exists_path hsize
    have hdelivers := older.delivers hsize path
    refine ⟨hdelivers.sameWiring, ?_⟩
    intro k
    rw [Switchboard.pass, hdelivers.ending]
    exact arrival.ending_ne_blocked k

/-! ### Calls in a row -/

/-- A handler hears the same call this many times, and passes each on before it hears the next one.
The boards are those that its triggers alone make, and the calls are all that are heard. -/
inductive Relays (own : Call) :
    Handler → Nat → Switchboard → Ending → List Call → Switchboard → Prop
  | finished {h : Handler} {b : Switchboard} : Relays own h 0 b .returned [] b
  | panics {h : Handler} {times : Nat} {b : Switchboard} (loud : h.calls + 1 = h.panicOn) :
    Relays own h (times + 1) b (.panicked h.label) [own] b
  | panicsBelow {h : Handler} {times : Nat} {b b' : Switchboard} {calls : List Call}
    {label : String} (calm : h.calls + 1 ≠ h.panicOn)
    (passed : pass trigger h.forward b = (.panicked label, b'))
    (new : b'.record.toList = b.record.toList ++ calls) :
    Relays own h (times + 1) b (.panicked label) (own :: calls) b'
  | next {h : Handler} {times : Nat} {b b' b'' : Switchboard} {ending : Ending}
    {calls later : List Call} (calm : h.calls + 1 ≠ h.panicOn)
    (passed : pass trigger h.forward b = (.returned, b'))
    (new : b'.record.toList = b.record.toList ++ calls)
    (rest : Relays own (h.called 1) times b' ending later b'') :
    Relays own h (times + 1) b ending (own :: calls ++ later) b''

variable {own : Call} {times : Nat} {ending : Ending} {calls : List Call}

lemma Relays.sameWiring (r : Relays own h times b ending calls b') (older : b.Descends)
    (hm : ∀ m ∈ h.forward, m < b.latches.size) : SameWiring b b' ∧ ∀ k, ending ≠ .blocked k := by
  induction r with
  | finished => exact ⟨.refl _, by simp⟩
  | panics loud => exact ⟨.refl _, by simp⟩
  | panicsBelow calm passed new =>
    obtain ⟨hwiring, -⟩ := older.passed hm
    rw [passed] at hwiring
    exact ⟨hwiring, by simp⟩
  | next calm passed new rest ih =>
    obtain ⟨hwiring, -⟩ := older.passed hm
    rw [passed] at hwiring
    obtain ⟨hrest, hending⟩ := ih (hwiring.descends older) (by rw [hwiring.size]; exact hm)
    exact ⟨hwiring.trans hrest, hending⟩

/-- What is below is as some triggers in a row leave it. These are as many as there are calls,
unless there is a panic; the trigger that panics leaves the latches as they were. -/
lemma Relays.completed (r : Relays own h times b ending calls b') (older : b.Descends)
    (forwards : h.forward = some m) (hm : m < b.latches.size) :
    ∃ done ≤ times, (b.triggerTimes m done).1 = .returned ∧
      b'.latches = (b.triggerTimes m done).2.latches ∧
      (ending = .returned ↔ done = times) ∧
      (ending = .returned → b' = (b.triggerTimes m done).2) := by
  induction r with
  | finished => exact ⟨0, Nat.le_refl _, rfl, rfl, by simp, fun _ => rfl⟩
  | panics loud => exact ⟨0, Nat.zero_le _, rfl, rfl, by simp, by simp⟩
  | panicsBelow calm passed new =>
    refine ⟨0, Nat.zero_le _, rfl, ?_, by simp, by simp⟩
    -- a panic is the end of a path, where no trigger stays
    obtain ⟨stops, arrival, path⟩ := older.exists_path hm
    have hdelivers := older.delivers hm path
    rw [forwards, pass] at passed
    rw [passed] at hdelivers
    have hlatches := hdelivers.latches
    have hending := hdelivers.ending
    cases arrival with
    | panicked label => exact hlatches
    | heard | waiting k => simp [Arrival.ending] at hending
  | @next _ times b b₁ _ _ _ _ calm passed new rest ih =>
    have hsize : ∀ k ∈ some m, k < b.latches.size := by simpa using hm
    obtain ⟨hwiring, -⟩ := older.passed hsize
    rw [forwards] at passed
    rw [passed] at hwiring
    obtain ⟨done, hdone, hreturned, hlatches, hending, hlast⟩ :=
      ih (hwiring.descends older) forwards (hwiring.size ▸ hm)
    have hstep : b.triggerTimes m (done + 1) = b₁.triggerTimes m done := by
      rw [pass] at passed
      rw [triggerTimes, passed]
    refine ⟨done + 1, Nat.succ_le_succ hdone, ?_, ?_, ?_, ?_⟩
    · rw [hstep, hreturned]
    · rw [hstep, hlatches]
    · rw [hending]
      omega
    · intro hends
      rw [hstep, hlast hends]

/-- The board is like the one below, but for latch `n`, which is held, and the listener's handler,
which has had other calls. -/
structure Beside (n : Nat) (a : Listener) (h : Handler) (below b : Switchboard) : Prop where
  size : b.latches.size = below.latches.size
  latch : ∀ k ≠ n, b.latch k = below.latch k
  handler : b.handlers[a.handler]? = some h
  handlers : ∀ k ≠ a.handler, b.handlers[k]? = below.handlers[k]?
  same : SameHandlers below b

lemma Beside.hear (s : Beside n a h below b) (count : Nat) :
    Beside n a (h.called 1) below (b.hear a h count) := by
  refine ⟨s.size, s.latch, ?_, ?_, ?_⟩
  · rw [handlers_hear s.handler, s.handler, if_pos rfl, Option.map_some]
  · intro k hk
    rw [handlers_hear s.handler, if_neg hk.symm, s.handlers k hk]
    simp
  · intro k
    rw [handlers_hear s.handler, Option.map_map]
    exact s.same k

/-- The trigger that the listener's handler makes is the same on both boards. -/
lemma Beside.triggered (s : Beside n a h below b) (older : below.Descends)
    (hn : n < below.latches.size) (forwards : h.forward = some m) (hm : m < n) {fuel : Nat}
    (enough : n ≤ fuel) :
    let r := triggerHolding fuel [n] m b
    let r' := below.trigger m
    r.1 = r'.1 ∧ Beside n a h r'.2 r.2 ∧ r.2.latch n = b.latch n ∧
      ∃ calls, r.2.record.toList = b.record.toList ++ calls ∧
        r'.2.record.toList = below.record.toList ++ calls := by
  intro r r'
  have hsize : m < below.latches.size := Nat.lt_trans hm hn
  obtain ⟨stops, arrival, path⟩ := older.exists_path hsize
  have hle := older.route_le path hsize
  obtain ⟨k, hk, hkin⟩ := s.same.exists_handler s.handler
  have hforward : k.forward = some m := (congrArg Handler.forward hkin).trans forwards
  have hne := older.handler_ne path hsize hk hforward
  have hstops : ∀ t ∈ stops, t.latch ≠ n := by
    intro t ht
    have hlatch := hle _ (List.mem_append_left _ (List.mem_map_of_mem ht))
    omega
  have hends : ∀ j ∈ arrival.latch?, j ≠ n := by
    intro j hj
    have hlatch := hle _ (List.mem_append_right _ (Option.mem_toList.mpr hj))
    omega
  -- the path avoids latch `n` and the handler, so it is there on this board too
  have hpath : b.Path m stops arrival := by
    refine path.congr ?_ ?_
    · intro t ht
      have hserves := path.serves t ht
      exact ⟨by rw [s.latch _ (hstops t ht), hserves.listener],
        by rw [s.handlers _ (hne t ht), hserves.handler]⟩
    · intro j hj
      rw [s.latch j (hends j hj)]
      exact path.nobody j hj
  have hbelow := older.delivers hsize path
  have habove : b.Delivers stops arrival r :=
    hpath.delivers (older.route_sorted path hsize) (older.handlers_nodup path hsize)
      (Nat.lt_of_lt_of_le hm enough) (by simpa using hm)
  have hnone : stops.countP (·.listener.handler = a.handler) = 0 := by
    simpa [List.countP_eq_zero] using hne
  refine ⟨habove.ending.trans hbelow.ending.symm, ⟨?_, ?_, ?_, ?_, ?_⟩, ?_, stops.map Stop.call,
    habove.record, hbelow.record⟩
  · rw [habove.sameWiring.size, hbelow.sameWiring.size, s.size]
  · intro j hj
    rw [latch_congr habove.latches, latch_congr hbelow.latches]
    by_cases hstay : j ∈ arrival.latch?
    · cases arrival with
      | waiting i =>
        obtain rfl : i = j := Option.some.inj hstay
        have hi : i < below.latches.size :=
          Nat.lt_of_le_of_lt (hle _ (by simp [route, Arrival.latch?])) hsize
        rw [Arrival.leave, Arrival.leave, latch_setLatch hi, latch_setLatch (s.size ▸ hi),
          s.latch i hj]
      | heard | panicked label => exact s.latch j hj
    · rw [latch_leave hstay, latch_leave hstay, s.latch j hj]
  · rw [habove.handlers, s.handler, hnone]
    rfl
  · intro j hj
    rw [habove.handlers, hbelow.handlers, s.handlers j hj]
  · intro j
    rw [habove.handlers, hbelow.handlers, Option.map_map, Option.map_map]
    exact s.same j
  · rw [latch_congr habove.latches, latch_leave (fun hstay => hends n hstay rfl)]

lemma Beside.passed (s : Beside n a h below b) (older : below.Descends)
    (hn : n < below.latches.size) (points : ∀ m ∈ h.forward, m < n) {fuel : Nat}
    (enough : n ≤ fuel) :
    ∃ ending b' below' calls, pass (triggerHolding fuel [n]) h.forward b = (ending, b') ∧
      pass trigger h.forward below = (ending, below') ∧ Beside n a h below' b' ∧
      b'.latch n = b.latch n ∧ b'.record.toList = b.record.toList ++ calls ∧
      below'.record.toList = below.record.toList ++ calls := by
  rcases hforward : h.forward with _ | m
  · exact ⟨.returned, b, below, [], rfl, rfl, s, rfl, by simp, by simp⟩
  · obtain ⟨hending, hbeside, hlatch, calls, hcalls, hnew⟩ :=
      s.triggered older hn hforward (points m hforward) enough
    exact ⟨_, _, (below.trigger m).2, calls, rfl, Prod.ext hending.symm rfl, hbeside, hlatch,
      hcalls, hnew⟩

/-- Calls in a row are relayed, and nothing else happens. -/
lemma Beside.delivered (s : Beside n a h below b) (older : below.Descends)
    (hn : n < below.latches.size) (points : ∀ m ∈ h.forward, m < n) {fuel : Nat}
    (enough : n ≤ fuel) (count times : Nat) :
    let r := deliver (triggerHolding fuel [n]) (List.replicate times (a, count)) b
    ∃ calls below', Relays ⟨h.label, a.token, count⟩ h times below r.1 calls below' ∧
      r.2.record.toList = b.record.toList ++ calls ∧ r.2.latch n = b.latch n ∧
      ∃ h', Beside n a h' below' r.2 := by
  -- each call leaves two boards that are beside each other again, with one call less to come
  induction times generalizing h below b with
  | zero => exact ⟨[], below, .finished, by simp [deliver], rfl, h, s⟩
  | succ times ih =>
    intro r
    by_cases loud : h.calls + 1 = h.panicOn
    · have hcall : call (triggerHolding fuel [n]) a count b =
          (.panicked h.label, b.hear a h count) := by
        rw [call_eq s.handler, if_pos loud]
      have hr : r = (.panicked h.label, b.hear a h count) := by
        simp only [r, List.replicate_succ, deliver, hcall]
      rw [hr]
      exact ⟨_, below, .panics loud, record_hear .., latch_hear .., _, s.hear count⟩
    · have hsize : ∀ m ∈ h.forward, m < below.latches.size :=
        fun m hm => Nat.lt_trans (points m hm) hn
      obtain ⟨hwiring, hnever⟩ := older.passed hsize
      obtain ⟨ending, b₁, below₁, calls, hpass, hpass', hbeside, hlatch, hcalls, hnew⟩ :=
        (s.hear count).passed older hn points enough
      change pass (triggerHolding fuel [n]) h.forward (b.hear a h count) = _ at hpass
      change pass trigger h.forward below = _ at hpass'
      rw [record_hear, List.append_assoc] at hcalls
      rw [latch_hear] at hlatch
      rw [hpass'] at hwiring hnever
      have hcall : call (triggerHolding fuel [n]) a count b = (ending, b₁) := by
        rw [call_eq s.handler, if_neg loud, hpass]
      cases ending with
      | returned =>
        obtain ⟨later, below₂, hrest, hlog, hsame, h', hlast⟩ :=
          ih hbeside (hwiring.descends older) (hwiring.size ▸ hn) points
        have hr : r = deliver (triggerHolding fuel [n]) (List.replicate times (a, count)) b₁ := by
          simp only [r, List.replicate_succ, deliver, hcall]
        rw [hr]
        refine ⟨_, below₂, .next loud hpass' hnew hrest, ?_, hsame.trans hlatch, h', hlast⟩
        rw [hlog, hcalls]
        simp
      | panicked label =>
        have hr : r = (.panicked label, b₁) := by
          simp only [r, List.replicate_succ, deliver, hcall]
        rw [hr]
        exact ⟨_, below₁, .panicsBelow loud hpass' hnew, hcalls, hlatch, _, hbeside⟩
      | blocked k => exact absurd rfl (hnever k)

/-! ### Registrations -/

/-- What a registration on latch `n` leaves: the listener attends it, if the registration returns,
and otherwise it has lost its backlog. The other latches are as they are below. -/
structure Installs (n : Nat) (a : Listener) (b : Switchboard) (ending : Ending) (calls : List Call)
    (below after : Switchboard) : Prop where
  record : after.record.toList = b.record.toList ++ calls
  latch : after.latch n =
    if ending = .returned then { mode := (b.latch n).mode, listener := some a }
    else { b.latch n with pending := 0, unread := false }
  others : ∀ k ≠ n, after.latch k = below.latch k
  size : after.latches.size = below.latches.size
  handlers : ∀ k ≠ a.handler, after.handlers[k]? = below.handlers[k]?
  same : SameHandlers below after

lemma register_eq (b : Switchboard) (n : Nat) (listener : Option Listener)
    (replayPrevious : Bool) :
    let step := (b.latch n).register listener replayPrevious
    let made := deliver (triggerHolding b.fuel [n]) step.calls (b.setLatch n step.during)
    (b.register n listener replayPrevious).1 = made.1 ∧
      (b.register n listener replayPrevious).2.2 =
        if made.1 = .returned then made.2.setLatch n step.after else made.2 := by
  intro step made
  rcases hmade : made with ⟨_ | label | k, after⟩ <;>
    simp only [made] at hmade <;> simp [register, perform, hmade, step]

lemma Descends.installs (older : b.Descends) (hn : n < b.latches.size)
    (ha : b.handlers[a.handler]? = some h) (points : ∀ m ∈ h.forward, m < n)
    {replayPrevious : Bool} {times : Nat}
    (hcalls : ((b.latch n).install a replayPrevious).calls = List.replicate times (a, count)) :
    let r := b.register n (some a) replayPrevious
    ∃ calls below, Relays ⟨h.label, a.token, count⟩ h times b r.1 calls below ∧
      Installs n a b r.1 calls below r.2.2 := by
  intro r
  let step := (b.latch n).install a replayPrevious
  -- while the calls run, the latch is drained and held, and all else is as on the board itself
  have hstart : Beside n a h b (b.setLatch n step.during) :=
    ⟨size_setLatch n _, fun k hk => latch_setLatch_of_ne hk _, ha, fun _ _ => rfl, .refl b⟩
  have enough : n ≤ b.fuel := Nat.le_succ_of_le (Nat.le_of_lt hn)
  obtain ⟨calls, below, hrelays, hrecord, hlatch, h', hbeside⟩ :=
    hstart.delivered older hn points enough count times
  obtain ⟨hending, hafter⟩ := b.register_eq n (some a) replayPrevious
  simp only [Latch.register, hcalls] at hending hafter
  rw [latch_setLatch hn] at hlatch
  have hwiring := (hrelays.sameWiring older fun m hm => Nat.lt_trans (points m hm) hn).1
  have hsize : n < below.latches.size := hwiring.size ▸ hn
  refine ⟨calls, below, hending ▸ hrelays, ?_⟩
  rw [hending, hafter]
  change (deliver (triggerHolding b.fuel [n]) (List.replicate times (a, count))
    (b.setLatch n step.during)).2.record.toList = b.record.toList ++ calls at hrecord
  generalize deliver (triggerHolding b.fuel [n]) (List.replicate times (a, count))
    (b.setLatch n step.during) = made at *
  by_cases hreturned : made.1 = .returned
  · rw [if_pos hreturned]
    refine ⟨hrecord, ?_, ?_, ?_, hbeside.handlers, hbeside.same⟩
    · rw [if_pos hreturned, latch_setLatch (hbeside.size ▸ hsize)]
      rfl
    · intro k hk
      rw [latch_setLatch_of_ne hk, hbeside.latch k hk]
    · rw [size_setLatch, hbeside.size]
  · rw [if_neg hreturned]
    refine ⟨hrecord, ?_, hbeside.latch, hbeside.size, hbeside.handlers, hbeside.same⟩
    rw [if_neg hreturned]
    exact hlatch

/-! ### Runs -/

/-- An operation on one of the latches. -/
def operateOn (b : Switchboard) (c : Nat × Operation Listener) :
    (Ending × Latch.Report Call) × Switchboard :=
  operate c.1 b c.2

/-- The latch is there, and a listener that comes triggers only latches that are older. -/
def Permits (b : Switchboard) (c : Nat × Operation Listener) : Prop :=
  c.1 < b.latches.size ∧
    match c.2 with
    | .register (some a) _ => b.PointsBelow c.1 a
    | .register none _ | .trigger | .poll => True

instance (b : Switchboard) (c : Nat × Operation Listener) : Decidable (b.Permits c) :=
  match c with
  | (_, .register (some _) _) | (_, .register none _) | (_, .trigger) | (_, .poll) =>
    inferInstanceAs (Decidable (_ ∧ _))

/-- No such operation is blocked, and the next one finds the board as it should be. -/
lemma Descends.operated (older : b.Descends) {c : Nat × Operation Listener} (hc : b.Permits c) :
    (b.operateOn c).2.Descends ∧ ∀ k, (b.operateOn c).1.1 ≠ .blocked k := by
  obtain ⟨n, op⟩ := c
  obtain ⟨hn, hop⟩ := hc
  cases op with
  | trigger =>
    obtain ⟨stops, arrival, path⟩ := older.exists_path hn
    have hdelivers := older.delivers hn path
    refine ⟨hdelivers.sameWiring.descends older, ?_⟩
    intro k
    change (b.trigger n).1 ≠ _
    rw [hdelivers.ending]
    exact arrival.ending_ne_blocked k
  | poll =>
    refine ⟨?_, fun k => by simp [operateOn, operate]⟩
    change (b.setLatch n (b.latch n).poll.2).Descends
    exact older.setLatch fun a ha => ha
  | register listener replayPrevious =>
    obtain ⟨hending, hafter⟩ := b.register_eq n listener replayPrevious
    change (b.register n listener replayPrevious).2.2.Descends ∧
      ∀ k, (b.register n listener replayPrevious).1 ≠ .blocked k
    cases listener with
    | none =>
      rw [hending, hafter]
      simp only [Latch.register, Latch.clear, deliver, if_true, setLatch_setLatch]
      exact ⟨older.setLatch (by simp), fun k => by simp⟩
    | some a =>
      obtain ⟨h, hh, points⟩ := hop
      obtain ⟨times, count, hcalls⟩ := (b.latch n).exists_install_calls a replayPrevious
      obtain ⟨calls, below, hrelays, hinstalls⟩ := older.installs hn hh points hcalls
      obtain ⟨hwiring, hnever⟩ :=
        hrelays.sameWiring older fun m hm => Nat.lt_trans (points m hm) hn
      refine ⟨?_, hnever⟩
      refine older.of_listeners (hwiring.handlers.trans hinstalls.same)
        (hinstalls.size.trans hwiring.size) ?_
      intro k a' ha'
      by_cases hk : k = n
      · subst hk
        rw [hinstalls.latch] at ha'
        split at ha'
        · obtain rfl : a = a' := Option.some.inj ha'
          exact .inr ⟨h, hh, points⟩
        · exact .inl ha'
      · rw [hinstalls.others k hk, hwiring.listener] at ha'
        exact .inl ha'

lemma Descends.run (older : b.Descends) {cs : List (Nat × Operation Listener)}
    (permitted : Run.Suits operateOn Permits b cs) :
    (Run.final operateOn b cs).Descends ∧
      ∀ o ∈ Run.outcomes operateOn b cs, ∀ k, o.1 ≠ .blocked k := by
  induction cs generalizing b with
  | nil => exact ⟨older, by simp⟩
  | cons c rest ih =>
    obtain ⟨hc, hrest⟩ := permitted
    obtain ⟨hnext, hnever⟩ := older.operated hc
    obtain ⟨hfinal, hlater⟩ := ih hnext hrest
    refine ⟨hfinal, ?_⟩
    rw [Run.outcomes_cons]
    exact List.forall_mem_cons.mpr ⟨hnever, hlater⟩

/-- **Forwarded triggers arrive.** Take latches whose listeners trigger only latches that are older,
after any operations that keep to this. No operation enters a latch that is held. A trigger goes
down a path of ever older latches: each of their handlers hears one call, in the order of the path,
and nothing else changes but the latch where the trigger stays, if it ends at one that nobody
attends. If a handler panics, all latches are as before. The replay of a backlog, to a listener that
triggers a latch, leaves the latches below as that many triggers of it leave them, each of which is
over before the next call; if there is a panic, as those triggers leave them that were over. -/
theorem forwarded_triggers_arrive (b : Switchboard) (older : b.Descends)
    (past : List (Nat × Operation Listener)) (permitted : Run.Suits operateOn Permits b past) :
    let now := Run.final operateOn b past
    (∀ o ∈ Run.outcomes operateOn b past, ∀ k, o.1 ≠ .blocked k) ∧
    (∀ n < now.latches.size, ∃ stops arrival, now.Path n stops arrival ∧
      (route stops arrival).head? = some n ∧ (route stops arrival).Pairwise (· > ·) ∧
      now.Delivers stops arrival (now.trigger n) ∧
      ∀ label, (now.trigger n).1 = .panicked label → (now.trigger n).2.latches = now.latches) ∧
    ∀ n a h m, n < now.latches.size → now.handlers[a.handler]? = some h → h.forward = some m →
      m < n → (now.latch n).pending ≠ 0 →
      let l := now.latch n
      let r := now.register n (some a) true
      ∃ calls below, Relays ⟨h.label, a.token, l.share⟩ h l.rounds now r.1 calls below ∧
        Installs n a now r.1 calls below r.2.2 ∧
        ∃ done ≤ l.rounds, (now.triggerTimes m done).1 = .returned ∧
          below.latches = (now.triggerTimes m done).2.latches ∧
          (r.1 = .returned ↔ done = l.rounds) ∧
          (r.1 = .returned → below = (now.triggerTimes m done).2) := by
  intro now
  obtain ⟨hnow, hnever⟩ := older.run permitted
  refine ⟨hnever, ?_, ?_⟩
  · intro n hn
    obtain ⟨stops, arrival, path⟩ := hnow.exists_path hn
    have hdelivers := hnow.delivers hn path
    refine ⟨stops, arrival, path, path.head, hnow.route_sorted path hn, hdelivers, ?_⟩
    intro label hpanicked
    rw [hdelivers.ending] at hpanicked
    rw [hdelivers.latches]
    cases arrival with
    | panicked label' => rfl
    | heard | waiting k => cases hpanicked
  · intro n a h m hn hh forwards hm backlog l r
    have points : ∀ k ∈ h.forward, k < n := by simpa [forwards] using hm
    obtain ⟨calls, below, hrelays, hinstalls⟩ :=
      hnow.installs hn hh points (l.install_calls a backlog)
    exact ⟨calls, below, hrelays, hinstalls,
      hrelays.completed hnow forwards (Nat.lt_trans hm hn)⟩

/-- Latch 2 triggers latch 1, which triggers latch 0, which nobody attends. Three triggers wait on
latch 3 for a listener that triggers latch 2; at the third one the handler of latch 1 panics. -/
theorem third_replay_is_cut_off :
    let b : Switchboard :=
      { latches := #[.new .perEvent, .new .coalesced, .new .perEvent, .new .perEvent]
        handlers := #[{ label := "a", forward := some 0, panicOn := 3 },
          { label := "b", forward := some 1 }, { label := "c", forward := some 2 }] }
    let past : List (Nat × Operation Listener) :=
      [(1, .register (some ⟨0, some 10⟩) true), (2, .register (some ⟨1, some 20⟩) false),
        (3, .trigger), (3, .trigger), (3, .trigger)]
    let now := Run.final operateOn b past
    let r := now.register 3 (some ⟨2, some 30⟩) true
    let round : List Call := [⟨"c", some 30, 1⟩, ⟨"b", some 20, 1⟩, ⟨"a", some 10, 1⟩]
    b.Descends ∧ Run.Suits operateOn Permits b past ∧
      (∃ stops arrival, now.Path 2 stops arrival ∧
        stops.map Stop.call = [⟨"b", some 20, 1⟩, ⟨"a", some 10, 1⟩]) ∧
      ((now.trigger 2).2.latch 0).pending = 1 ∧
      r.1 = .panicked "a" ∧ r.2.2.record.toList = round ++ round ++ round ∧
      ∃ done < 3, (now.triggerTimes 2 done).1 = .returned ∧
        r.2.2.latch 0 = (now.triggerTimes 2 done).2.latch 0 := by
  intro b past
  have older : b.Descends := by decide +kernel
  have permitted : Run.Suits operateOn Permits b past := by decide +kernel
  obtain ⟨-, htriggers, hreplays⟩ := forwarded_triggers_arrive b older past permitted
  refine ⟨older, permitted, ?_, by decide +kernel, by decide +kernel, by decide +kernel, ?_⟩
  · obtain ⟨stops, arrival, path, -, -, hdelivers, -⟩ := htriggers 2 (by decide +kernel)
    have hcalls : ((Run.final operateOn b past).trigger 2).2.record.toList =
        [⟨"b", some 20, 1⟩, ⟨"a", some 10, 1⟩] := by decide +kernel
    have hnone : (Run.final operateOn b past).record.toList = [] := by decide +kernel
    have hrecord := hdelivers.record
    rw [hcalls, hnone] at hrecord
    exact ⟨stops, arrival, path, hrecord.symm⟩
  · have hrounds : ((Run.final operateOn b past).latch 3).rounds = 3 := by decide +kernel
    have hpanicked : ((Run.final operateOn b past).register 3 (some ⟨2, some 30⟩) true).1 =
        .panicked "a" := by decide +kernel
    obtain ⟨calls, below, -, hinstalls, done, hdone, hreturned, hlatches, hending, -⟩ :=
      hreplays 3 ⟨2, some 30⟩ { label := "c", forward := some 2 } 2 (by decide +kernel)
        (by decide +kernel) rfl (by decide) (by decide +kernel)
    rw [hpanicked, hrounds] at hending
    rw [hrounds] at hdone
    have hbroken : done ≠ 3 := fun hall => by simpa using hending.mpr hall
    refine ⟨done, Nat.lt_of_le_of_ne hdone hbroken, hreturned, ?_⟩
    exact (hinstalls.others 0 (by decide)).trans (latch_congr hlatches 0)

end Switchboard
end NullMiddleware
