import NullMiddleware.Boundary
import NullMiddleware.Proofs.GuardCondition
import NullMiddleware.Proofs.Run

/-!
The C boundary refines direct use.

A request from C asks for a use of one guard condition, unless a pointer that it needs is null; it
has the effect of that use, and otherwise none. Behind the boundary all guard conditions are on one
board.
-/

namespace NullMiddleware

/-! ### Requests -/

namespace Boundary

open GuardCondition (Action Attachment Direct Solo Twin Use)

/-- A call from C. A pointer that may be null is an option; of a function, and of the place for an
answer, it only matters whether it is null. -/
inductive Request
  | create (out : Option Nat)
  | trigger (handle : Option Nat)
  | poll (handle : Option Nat) (place : Bool)
  | listen (handle : Option Nat) (function : Bool) (userData : Option String)
  | destroy (handle : Option Nat)

namespace Request

/-- A pointer that the request needs is null. -/
def Lacking : Request → Prop
  | create out => out = none
  | trigger handle | listen handle _ _ | destroy handle => handle = none
  | poll handle place => handle = none ∨ place = false

/-- What the request asks for. -/
def use? : Request → Option Use
  | create out => out.map .create
  | trigger handle => handle.map (.act · .trigger)
  | poll handle place => if place then handle.map (.act · .poll) else none
  | listen handle function userData =>
    handle.map (.act · (.listen (if function then userData else none)))
  | destroy handle => handle.map .drop

lemma use?_eq_none_iff (r : Request) : r.use? = none ↔ r.Lacking := by
  cases r with
  | poll handle place => cases place <;> simp [use?, Lacking]
  | _ => simp [use?, Lacking]

/-- The handle that the request is about. -/
def handle? : Request → Option Nat
  | create _ => none
  | trigger handle | poll handle _ | listen handle _ _ | destroy handle => handle

end Request

/-- The request is about null or about a live handle. -/
def Live (x : Boundary) (r : Request) : Prop :=
  ∀ k ∈ r.handle?, (x.handles.get? k).isSome

instance (x : Boundary) (r : Request) : Decidable (x.Live r) :=
  inferInstanceAs (Decidable (∀ k ∈ r.handle?, _))

def serve (x : Boundary) : Request → (Status × Effect) × Boundary
  | .create out =>
    let (status, after) := x.create out
    let drawn := (after.guard? out).map (·.id)
    ((status, { calls := x.board.callsSince after.board, drawn }), after)
  | .trigger handle =>
    let (status, ending, after) := x.trigger handle
    ((status, { ending, calls := x.board.callsSince after.board }), after)
  | .poll handle place =>
    let (status, written, after) := x.poll handle place
    ((status, { calls := x.board.callsSince after.board, written }), after)
  | .listen handle function userData =>
    let (status, ending, line, after) := x.listen handle function userData
    ((status, { ending, calls := x.board.callsSince after.board, line }), after)
  | .destroy handle =>
    let (status, after) := x.destroy handle
    ((status, { calls := x.board.callsSince after.board }), after)

/-- The effect of a request, if it is not refused. -/
def accepted (outcome : Status × Effect) : Option Effect :=
  if outcome.1 = .ok then some outcome.2 else none

lemma serve_lacking (x : Boundary) {r : Request} (lacking : r.Lacking) :
    x.serve r = ((.invalidArgument, {}), x) := by
  cases r with
  | create out =>
    obtain rfl : out = none := lacking
    simp [serve, create, guard?]
  | trigger handle =>
    obtain rfl : handle = none := lacking
    simp [serve, trigger, guard?]
  | poll handle place =>
    have hpoll : x.poll handle place = (.invalidArgument, none, x) := by
      rcases lacking with rfl | rfl
      · cases place <;> rfl
      · rfl
    simp [serve, hpoll]
  | listen handle function userData =>
    obtain rfl : handle = none := lacking
    simp [serve, listen, guard?]
  | destroy handle =>
    obtain rfl : handle = none := lacking
    simp [serve, destroy]

variable {x : Boundary} {d : Direct} {b : Switchboard} {g : GuardCondition}

lemma serve_act {r : Request} {k : Nat} {a : Action} (hr : r.use? = some (.act k a))
    (hg : x.handles.get? k = some g) :
    x.serve r = ((.ok, (a.carryOut g.latch x.board).1),
      { x with board := (a.carryOut g.latch x.board).2 }) := by
  have hguard : x.guard? (some k) = some g := hg
  cases r with
  | create out => simp [Request.use?] at hr
  | trigger handle =>
    obtain ⟨_, rfl, huse⟩ := Option.map_eq_some_iff.mp hr
    cases huse
    simp only [serve, trigger, hguard]
    rfl
  | poll handle place =>
    rcases place with _ | _
    · cases hr
    obtain ⟨_, rfl, huse⟩ := Option.map_eq_some_iff.mp hr
    cases huse
    simp only [serve, poll, hguard]
    rfl
  | listen handle function userData =>
    obtain ⟨_, rfl, huse⟩ := Option.map_eq_some_iff.mp hr
    cases huse
    simp only [serve, listen, hguard]
    rcases function with _ | _
    · rfl
    · rcases userData with _ | label <;> rfl
  | destroy handle => simp [Request.use?] at hr

/-! ### Guard conditions behind the boundary and in direct use -/

/-- What is live behind the boundary has its twin in direct use, and a latch of its own. -/
structure Mirrors (x : Boundary) (d : Direct) : Prop where
  ids : x.ids = d.ids
  quiet : x.board.Quiet
  twins : ∀ k g, x.handles.get? k = some g → ∃ s, d.guards.get? k = some s ∧ Twin x.board g s
  apart : ∀ k j g g', x.handles.get? k = some g → x.handles.get? j = some g' →
    g.latch = g'.latch → k = j

namespace Mirrors

lemma fresh (ids : Sequence) (quiet : b.Quiet) :
    Mirrors ⟨ids, b, .empty⟩ ⟨ids, .empty⟩ where
  ids := rfl
  quiet := quiet
  twins := fun _ _ h => by cases h
  apart := fun _ _ _ _ h => by cases h

lemma create (h : Mirrors x d) (k : Nat) :
    (x.serve (.create (some k))).1 = (.ok, (d.perform .listener (.create k)).1) ∧
      Mirrors (x.serve (.create (some k))).2 (d.perform .listener (.create k)).2 := by
  let g : GuardCondition := { id := x.ids.next, latch := x.board.latches.size }
  have hserve : x.serve (.create (some k)) = ((.ok, { drawn := some x.ids.next }),
      { ids := x.ids.draw.2
        board := (x.board.addLatch .coalesced).2
        handles := x.handles.put k g }) := by
    simp [serve, Boundary.create, guard?, Registry.get?_put, GuardCondition.create,
      Switchboard.addLatch, Switchboard.callsSince, g, Sequence.draw]
  have hperform : d.perform .listener (.create k) = ({ drawn := some x.ids.next },
      { ids := x.ids.draw.2, guards := d.guards.put k (Solo.create x.ids.next) }) := by
    rw [h.ids]
    rfl
  have hquiet : (x.board.addLatch .coalesced).2.Quiet := h.quiet
  have hlive : ∀ j g', (x.handles.put k g).get? j = some g' →
      (j = k ∧ g' = g) ∨ (j ≠ k ∧ x.handles.get? j = some g') := by
    intro j g' hg'
    rw [Registry.get?_put] at hg'
    split_ifs at hg' with hj
    · exact .inl ⟨hj, (Option.some.inj hg').symm⟩
    · exact .inr ⟨hj, hg'⟩
  rw [hserve, hperform]
  refine ⟨rfl, rfl, hquiet, ?_, ?_⟩
  · intro j g' hg'
    rw [Registry.get?_put]
    obtain ⟨rfl, rfl⟩ | ⟨hj, hold⟩ := hlive j g' hg'
    · have hempty : (Solo.create x.ids.next).board.Quiet := fun _ _ hh => by cases hh
      exact ⟨_, if_pos rfl, hempty, _, Switchboard.plays_addLatch _, Switchboard.plays_addLatch _⟩
    · obtain ⟨s', hs', hsolo, l, hboard, halone⟩ := h.twins j g' hold
      exact ⟨s', by rw [if_neg hj, hs'], hsolo, l, hboard.addLatch _, halone⟩
  · -- The latches of the others are on the board already, the new one comes after them.
    have hbelow : ∀ j g', x.handles.get? j = some g' → g'.latch < x.board.latches.size := by
      intro j g' hold
      obtain ⟨_, -, htwin⟩ := h.twins j g' hold
      exact htwin.present
    intro i j g₁ g₂ h₁ h₂ hlatch
    obtain ⟨rfl, rfl⟩ | ⟨-, hold₁⟩ := hlive i g₁ h₁ <;>
      obtain ⟨rfl, rfl⟩ | ⟨-, hold₂⟩ := hlive j g₂ h₂
    · rfl
    · exact absurd (hbelow j g₂ hold₂) (hlatch ▸ Nat.lt_irrefl _)
    · exact absurd (hbelow i g₁ hold₁) (hlatch ▸ Nat.lt_irrefl _)
    · exact h.apart i j g₁ g₂ hold₁ hold₂ hlatch

lemma destroy (h : Mirrors x d) (k : Nat) :
    (x.serve (.destroy (some k))).1 = (.ok, (d.perform .listener (.drop k)).1) ∧
      Mirrors (x.serve (.destroy (some k))).2 (d.perform .listener (.drop k)).2 := by
  have hserve : x.serve (.destroy (some k)) =
      ((.ok, {}), { x with handles := x.handles.erase k }) := by
    simp [serve, Boundary.destroy]
  have hlive : ∀ j g, (x.handles.erase k).get? j = some g →
      j ≠ k ∧ x.handles.get? j = some g := by
    intro j g hg
    rw [Registry.get?_erase] at hg
    split_ifs at hg with hj
    exact ⟨hj, hg⟩
  rw [hserve]
  refine ⟨rfl, h.ids, h.quiet, ?_, ?_⟩
  · intro j g hg
    obtain ⟨hj, hold⟩ := hlive j g hg
    obtain ⟨s, hs, htwin⟩ := h.twins j g hold
    exact ⟨s, by rw [Direct.perform, Registry.get?_erase, if_neg hj, hs], htwin⟩
  · intro i j g g' hg hg' hlatch
    exact h.apart i j g g' (hlive i g hg).2 (hlive j g' hg').2 hlatch

lemma act (h : Mirrors x d) {k : Nat} (hg : x.handles.get? k = some g) (a : Action) :
    (a.carryOut g.latch x.board).1 = (d.perform .listener (.act k a)).1 ∧
      (a.carryOut g.latch x.board).1.ending = .returned ∧
      Mirrors { x with board := (a.carryOut g.latch x.board).2 }
        (d.perform .listener (.act k a)).2 := by
  obtain ⟨s, hs, htwin⟩ := h.twins k g hg
  obtain ⟨heffect, hending, hafter⟩ := htwin.act h.quiet a
  have hperform : d.perform .listener (.act k a) =
      ((s.perform .listener a).1,
        { d with guards := d.guards.put k (s.perform .listener a).2 }) := by
    simp only [Direct.perform, hs]
  rw [hperform]
  refine ⟨heffect, hending, h.ids, a.quiet_carryOut h.quiet htwin.present, ?_, h.apart⟩
  intro j g' hg'
  rw [Registry.get?_put]
  by_cases hj : j = k
  · obtain rfl : g' = g := by
      subst hj
      exact Option.some.inj (hg'.symm.trans hg)
    exact ⟨_, if_pos hj, hafter⟩
  · obtain ⟨s', hs', hquiet, l, hboard, halone⟩ := h.twins j g' hg'
    have hne : g'.latch ≠ g.latch := fun heq => hj (h.apart j k g' g hg' hg heq)
    refine ⟨s', ?_, hquiet, l, a.plays_carryOut h.quiet hboard htwin.present hne, halone⟩
    rw [if_neg hj, hs']

/-- A request that lacks nothing has the effect of the use that it asks for. -/
lemma step (h : Mirrors x d) {r : Request} (live : x.Live r) {u : Use} (hr : r.use? = some u) :
    (x.serve r).1 = (.ok, (d.perform .listener u).1) ∧
      (x.serve r).1.2.ending = .returned ∧
      Mirrors (x.serve r).2 (d.perform .listener u).2 := by
  cases u with
  | create k =>
    obtain rfl : r = .create (some k) := by
      cases r <;> grind [Request.use?, Option.map_eq_some_iff]
    obtain ⟨houtcome, hafter⟩ := h.create k
    exact ⟨houtcome, by rw [houtcome]; rfl, hafter⟩
  | act k a =>
    have hhandle : r.handle? = some k := by
      cases r <;> grind [Request.use?, Request.handle?, Option.map_eq_some_iff]
    obtain ⟨g, hg⟩ := Option.isSome_iff_exists.mp (live k hhandle)
    obtain ⟨heffect, hending, hafter⟩ := h.act hg a
    rw [serve_act hr hg]
    exact ⟨by rw [heffect], hending, hafter⟩
  | drop k =>
    obtain rfl : r = .destroy (some k) := by
      cases r <;> grind [Request.use?, Option.map_eq_some_iff]
    obtain ⟨houtcome, hafter⟩ := h.destroy k
    exact ⟨houtcome, by rw [houtcome]; rfl, hafter⟩

lemma run (h : Mirrors x d) {rs : List Request} (live : Run.Suits serve Live x rs) :
    (Run.outcomes serve x rs).filterMap accepted =
        Run.outcomes (Direct.perform .listener) d (rs.filterMap Request.use?) ∧
      Mirrors (Run.final serve x rs)
        (Run.final (Direct.perform .listener) d (rs.filterMap Request.use?)) := by
  induction rs generalizing x d with
  | nil => exact ⟨rfl, h⟩
  | cons r rest ih =>
    obtain ⟨hlive, hrest⟩ := live
    rw [Run.outcomes_cons, Run.final_cons]
    cases hr : r.use? with
    | none =>
      -- Refused: both sides stay as they are.
      have hserve := x.serve_lacking (r.use?_eq_none_iff.mp hr)
      rw [hserve] at hrest
      rw [hserve, List.filterMap_cons_none hr]
      exact ih h hrest
    | some u =>
      obtain ⟨houtcome, -, hafter⟩ := h.step hlive hr
      obtain ⟨hoks, hfinal⟩ := ih hafter hrest
      rw [List.filterMap_cons_some hr, Run.outcomes_cons, Run.final_cons]
      refine ⟨?_, hfinal⟩
      rw [← hoks, houtcome]
      rfl

end Mirrors

/-- **The C boundary refines direct use.** A request is refused for a null pointer where one is
needed, and then nothing is done: no id is drawn, no flag is flipped, no backlog is consumed,
nobody is called. All other requests are accepted, and their effects are those of the uses that
they ask for, made of guard conditions that stand alone, in whichever way callbacks are
installed there. -/
theorem requests_refine_direct_use (ids : Sequence) (b : Switchboard) (quiet : b.Quiet)
    (requests : List Request)
    (live : Run.Suits serve Live ⟨ids, b, .empty⟩ requests) :
    let outcomes := Run.outcomes serve ⟨ids, b, .empty⟩ requests
    let uses := requests.filterMap Request.use?
    let direct := Run.outcomes (Direct.perform .listener) ⟨ids, .empty⟩ uses
    (∀ u r v, requests = u ++ r :: v →
        let before := Run.final serve ⟨ids, b, .empty⟩ u
        ((before.serve r).1.1 = .invalidArgument ↔ r.Lacking) ∧
        (r.Lacking → before.serve r = ((.invalidArgument, {}), before)) ∧
        (¬ r.Lacking → (before.serve r).1.1 = .ok ∧ (before.serve r).1.2.ending = .returned)) ∧
      outcomes.filterMap accepted = direct ∧
      direct = Run.outcomes (Direct.perform .callback) ⟨ids, .empty⟩ uses ∧
      (Run.final serve ⟨ids, b, .empty⟩ requests).ids =
        (Run.final (Direct.perform .listener) ⟨ids, .empty⟩ uses).ids := by
  intro outcomes uses direct
  have hfresh := Mirrors.fresh ids quiet
  obtain ⟨heffects, hfinal⟩ := hfresh.run live
  refine ⟨?_, heffects, ?_, hfinal.ids⟩
  · rintro u r v rfl before
    obtain ⟨hbefore, hlive, -⟩ := (Run.suits_append _ _ _ _ _).mp live
    have hmirrors : Mirrors before _ := (hfresh.run hbefore).2
    have hok : ¬ r.Lacking →
        (before.serve r).1.1 = .ok ∧ (before.serve r).1.2.ending = .returned := by
      intro lacking
      rw [← r.use?_eq_none_iff] at lacking
      obtain ⟨use, huse⟩ := Option.ne_none_iff_exists'.mp lacking
      obtain ⟨houtcome, hending, -⟩ := hmirrors.step hlive huse
      exact ⟨by rw [houtcome], hending⟩
    refine ⟨⟨?_, fun lacking => by rw [before.serve_lacking lacking]⟩, before.serve_lacking, hok⟩
    intro hrefused
    by_contra lacking
    rw [(hok lacking).1] at hrefused
    cases hrefused
  · simp only [direct, Attachment.listener_eq_callback]

/-- Null pointers among the requests for two guard conditions: a backlog outlives a refused poll and
goes to a callback, polls alternate, a callback without user data is none. -/
theorem requests_with_null_pointers :
    let requests : List Request :=
      [.create none, .create (some 0), .create (some 1), .trigger (some 0), .trigger (some 0),
        .poll (some 0) false, .trigger none, .listen (some 0) true (some "total"),
        .trigger (some 0), .trigger (some 1), .poll none true, .poll (some 1) true,
        .poll (some 1) true, .listen none true (some "total"), .listen (some 0) true none,
        .trigger (some 0), .poll (some 0) true, .destroy none, .destroy (some 0)]
    Run.Suits serve Live ⟨.startingAt 7, {}, .empty⟩ requests ∧
      Run.outcomes (Direct.perform .callback) ⟨.startingAt 7, .empty⟩
          (requests.filterMap Request.use?) =
        [{ drawn := some 7 }, { drawn := some 8 }, {}, {}, { calls := [⟨"total", none, 2⟩] },
          { calls := [⟨"total", none, 1⟩] }, {}, { written := some true },
          { written := some false }, { line := some .listenerCleared }, {},
          { written := some true }, {}] := by
  intro requests
  have quiet : ({} : Switchboard).Quiet := fun _ _ h => by cases h
  have live : Run.Suits serve Live ⟨.startingAt 7, {}, .empty⟩ requests := by decide +kernel
  obtain ⟨-, heffects, hways, -⟩ :=
    requests_refine_direct_use (.startingAt 7) {} quiet requests live
  refine ⟨live, ?_⟩
  rw [← hways, ← heffects]
  decide +kernel

end Boundary
end NullMiddleware
