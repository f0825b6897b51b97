import NullMiddleware.Event
import NullMiddleware.Proofs.Boundary
import NullMiddleware.Proofs.Middleware.Ids

/-!
The ids of a whole process.

A process has contexts and nodes, status events, and guard conditions that it makes through the C
boundary; these draw from the sequences that contexts use if they are given no others. A ledger
says, by the calls that were accepted, how many entities of each kind got an id from which
sequences. The ids of a kind have no gaps: the next id is always the one after the last that was
given out, whatever was refused in between.
-/

namespace NullMiddleware

structure Process where
  middleware : Middleware
  /-- The latches of status events and of guard conditions, and their handlers. -/
  board : Switchboard := {}
  /-- The guard conditions behind the handles of C. -/
  handles : Registry GuardCondition := .empty

namespace Process

open Middleware (Consistent Draws Performed Sources)

inductive Call
  | own (call : Middleware.Call)
  | request (r : Boundary.Request)
  | createEvent (endpoint : Side) (kind : EventKind)
  /-- An operation on a latch, whatever object it belongs to. -/
  | operate (latch : Nat) (op : Latch.Operation Listener)

/-- What callers from C have to do with. -/
def boundary (p : Process) : Boundary where
  ids := (p.middleware.sequencesOf Middleware.processWide).guardConditions
  board := p.board
  handles := p.handles

def withBoundary (p : Process) (x : Boundary) : Process :=
  let own := p.middleware.sequencesOf Middleware.processWide
  { middleware := { p.middleware with
      sequences := p.middleware.sequences.put Middleware.processWide
        (own.set .guardConditions x.ids) }
    board := x.board
    handles := x.handles }

structure Outcome where
  accepted : Bool
  /-- The id of what was created. -/
  id : Option UInt64 := none
  after : Process

/-- What comes of a call, if it can be made. -/
def perform (p : Process) : Call → Option Outcome
  | .own call =>
    match p.middleware.step call with
    | (none, _) => none
    | (some e, m) =>
      some { accepted := e.result.isOk, id := e.id?, after := { p with middleware := m } }
  | .request r =>
    if p.boundary.Live r then
      let ((status, effect), x) := p.boundary.serve r
      some { accepted := status = .ok, id := effect.drawn, after := p.withBoundary x }
    else none
  | .createEvent endpoint kind =>
    match kind.checkSide endpoint with
    | .error _ => some { accepted := false, after := p }
    | .ok _ =>
      some { accepted := true, after := { p with board := (p.board.addLatch .perEvent).2 } }
  | .operate n op =>
    some { accepted := true, after := { p with board := (Switchboard.operate n p.board op).2 } }

/-- A call that was made. -/
structure Event extends Outcome where
  call : Call
  before : Process

def step (p : Process) (call : Call) : Option Event × Process :=
  match p.perform call with
  | none => (none, p)
  | some outcome => (some { toOutcome := outcome, call, before := p }, outcome.after)

/-- Before the first call, with sequences of any kind to draw from. -/
def fresh (sequences : Registry Numbering) : Process := { middleware := .fresh sequences }

/-- The next id of sequences `q` for a kind of entity. -/
def nextId (p : Process) (q : Nat) (kind : EntityKind) : UInt64 := p.middleware.nextId q kind

/-- The kind of entity that a call creates. -/
def Call.kind? : Call → Option EntityKind
  | .own call => call.kind?
  | .request (.create _) => some .guardConditions
  | _ => none

/-- The creations that are accepted. -/
def Accepts (p : Process) : Call → Prop
  | .own call => p.middleware.Accepts call
  | .request r => ¬ r.Lacking
  | _ => True

/-! ### The ledger -/

structure Ledger where
  sources : Sources := {}
  /-- The kinds of the entities that were created, with the sequences that their ids are from. -/
  created : List (Nat × EntityKind) := []

namespace Ledger

/-- The sequences and the kind of the id that an accepted call draws. -/
def origin? (l : Ledger) : Call → Option (Nat × EntityKind)
  | .own call => l.sources.origin? call
  | .request (.create _) => some (Middleware.processWide, .guardConditions)
  | _ => none

/-- The same for a call that was made. -/
def drawn? (l : Ledger) (e : Event) : Option (Nat × EntityKind) :=
  if e.accepted then l.origin? e.call else none

def next (l : Ledger) (e : Event) : Ledger where
  sources := match e.call, e.accepted with
    | .own call, true => l.sources.next call
    | _, _ => l.sources
  created := l.created ++ (l.drawn? e).toList

def along (l : Ledger) (es : List Event) : Ledger := es.foldl next l

/-- The number of entities of a kind that got an id from sequences `q`. -/
def count (l : Ledger) (q : Nat) (kind : EntityKind) : Nat := l.created.count (q, kind)

lemma along_concat (l : Ledger) (es : List Event) (e : Event) :
    l.along (es ++ [e]) = (l.along es).next e := by
  simp [along]

lemma kind_of_drawn (l : Ledger) {e : Event} {q : Nat} {kind : EntityKind}
    (h : l.drawn? e = some (q, kind)) : e.call.kind? = some kind := by
  unfold drawn? at h
  split_ifs at h
  rcases hcall : e.call with call | r | _ | _ <;> rw [hcall] at h
  · simp only [origin?, Sources.origin?, Option.bind_eq_bind, Option.pure_def,
      Option.bind_eq_some_iff, Option.some.injEq, Prod.mk.injEq] at h
    obtain ⟨_, -, _, hkind, -, rfl⟩ := h
    exact hkind
  · rcases r with _ | _ | _ | _ | _ <;> cases h
    rfl
  · cases h
  · cases h

lemma count_next (l : Ledger) (e : Event) (q : Nat) (kind : EntityKind) :
    (l.next e).count q kind =
      l.count q kind + if l.drawn? e = some (q, kind) then 1 else 0 := by
  unfold count next
  rw [List.count_append]
  rcases l.drawn? e with _ | o
  · simp
  · by_cases ho : o = (q, kind) <;> simp [ho]

end Ledger

/-! ### One call -/

variable {p : Process} {l : Ledger}

lemma nextId_withBoundary (p : Process) (x : Boundary) (q : Nat) (kind : EntityKind) :
    (p.withBoundary x).nextId q kind =
      if some (Middleware.processWide, EntityKind.guardConditions) = some (q, kind)
      then x.ids.next else p.nextId q kind := by
  simp only [nextId, Middleware.nextId, withBoundary, Middleware.sequencesOf, Registry.get?_put,
    Option.some.injEq, Prod.mk.injEq]
  by_cases hq : q = Middleware.processWide
  · subst hq
    rw [if_pos rfl, Option.getD_some, Numbering.get_set]
    by_cases hkind : kind = .guardConditions
    · simp [hkind]
    · simp [hkind, Ne.symm hkind]
  · simp [hq, Ne.symm hq]

lemma ids_serve (x : Boundary) (r : Boundary.Request) (other : ∀ k, r ≠ .create (some k)) :
    (x.serve r).2.ids = x.ids := by
  cases r with
  | create out =>
    rcases out with _ | k
    · rfl
    · exact absurd rfl (other k)
  | trigger handle =>
    rcases hg : x.guard? handle with _ | g <;> simp [Boundary.serve, Boundary.trigger, hg]
  | poll handle place =>
    rcases hg : x.guard? handle with _ | g <;> cases place <;>
      simp [Boundary.serve, Boundary.poll, hg]
  | listen handle function userData =>
    rcases hg : x.guard? handle with _ | g <;> simp [Boundary.serve, Boundary.listen, hg]
  | destroy handle => cases handle <;> rfl

/-- What the ledger knows of a process. -/
structure Tracks (start : Process) (l : Ledger) (p : Process) : Prop where
  consistent : ∃ h, Consistent h p.middleware
  sources : l.sources.Fits p.middleware
  ids : ∀ q kind, p.nextId q kind = start.nextId q kind + UInt64.ofNat (l.count q kind)

lemma tracks_fresh (sequences : Registry Numbering) :
    Tracks (fresh sequences) {} (fresh sequences) where
  consistent := ⟨{}, Middleware.consistent_fresh sequences⟩
  sources := .fresh sequences
  ids := fun _ _ => (UInt64.add_zero _).symm

/-- What a call does, as far as ids are concerned. -/
structure Event.Regular (l : Ledger) (e : Event) : Prop where
  consistent : ∃ h, Consistent h e.after.middleware
  sources : (l.next e).sources.Fits e.after.middleware
  draws : Draws e.before.middleware (l.drawn? e) e.id e.after.middleware
  counted : (l.drawn? e).isSome ↔ e.accepted ∧ e.call.kind?.isSome
  accepted : e.call.kind?.isSome → (e.accepted ↔ e.before.Accepts e.call)

variable {start : Process}

lemma Tracks.next {e : Event} (h : Tracks start l e.before) (he : e.Regular l) :
    Tracks start (l.next e) e.after := by
  refine ⟨he.consistent, he.sources, ?_⟩
  intro q kind
  have hbefore := h.ids q kind
  have hafter := he.draws.1 q kind
  unfold nextId at hbefore ⊢
  rw [hafter, hbefore, Ledger.count_next, UInt64.add_assoc]
  by_cases hdrawn : l.drawn? e = some (q, kind)
  · simp [hdrawn, UInt64.ofNat_add]
  · simp [hdrawn]

lemma Tracks.own (h : Tracks start l p) {call : Middleware.Call} {outcome : Outcome}
    (hp : p.perform (.own call) = some outcome) :
    Event.Regular l { toOutcome := outcome, call := .own call, before := p } := by
  obtain ⟨hist, hm⟩ := h.consistent
  simp only [perform, Middleware.step] at hp
  rcases heffect : p.middleware.perform call with _ | effect
  · simp [heffect] at hp
  · simp only [heffect, Option.some.injEq] at hp
    subst hp
    have hperformed := Middleware.performed hm heffect
    have hfits := h.sources.performed hperformed
    have horigin := h.sources.isSome_origin? hperformed
    refine ⟨⟨_, (Middleware.perform_accounted hm heffect).state⟩, ?_,
      h.sources.draws hperformed, ?_, hperformed.isOk_iff⟩
    · rcases hok : effect.result.isOk <;> simpa [Ledger.next, hok] using hfits
    · rcases effect.result.isOk <;> simp [Ledger.drawn?, Ledger.origin?, Call.kind?, horigin]

lemma serve_create (x : Boundary) (k : Nat) :
    (x.serve (.create (some k))).1.1 = .ok ∧
      (x.serve (.create (some k))).1.2.drawn = some x.ids.next ∧
      (x.serve (.create (some k))).2.ids = x.ids.draw.2 := by
  simp [Boundary.serve, Boundary.create, Boundary.guard?, Registry.get?_put,
    GuardCondition.create, Switchboard.addLatch, Sequence.draw]

lemma nextId_withBoundary_of_ids {x : Boundary} (hids : x.ids = p.boundary.ids) (q : Nat)
    (kind : EntityKind) : (p.withBoundary x).nextId q kind = p.nextId q kind := by
  rw [nextId_withBoundary, hids]
  split_ifs with hsame
  · cases hsame
    rfl
  · rfl

lemma Tracks.request (h : Tracks start l p) {r : Boundary.Request} {outcome : Outcome}
    (hp : p.perform (.request r) = some outcome) :
    Event.Regular l { toOutcome := outcome, call := .request r, before := p } := by
  obtain ⟨hist, hm⟩ := h.consistent
  simp only [perform] at hp
  split_ifs at hp
  simp only [Option.some.injEq] at hp
  subst hp
  have hconsistent : ∃ h, Consistent h (p.withBoundary (p.boundary.serve r).2).middleware :=
    ⟨hist, hm.nodes, hm.contexts⟩
  have hfits : l.sources.Fits (p.withBoundary (p.boundary.serve r).2).middleware :=
    ⟨h.sources.contexts, h.sources.nodes⟩
  by_cases lacking : r.Lacking
  · have hserve := p.boundary.serve_lacking lacking
    have hstill := p.nextId_withBoundary_of_ids (x := (p.boundary.serve r).2) (by rw [hserve])
    refine ⟨hconsistent, hfits, ?_, by simp [Ledger.drawn?, hserve], ?_⟩
    · simpa [Ledger.drawn?, hserve] using Middleware.draws_none hstill _
    · exact fun _ => iff_of_false (by simp [hserve]) (not_not_intro lacking)
  · have hids := ids_serve p.boundary r
    -- of the requests that are accepted only a creation draws
    cases r with
    | create out =>
      obtain ⟨k, rfl⟩ := Option.ne_none_iff_exists'.mp lacking
      obtain ⟨hstatus, hid, hids⟩ := serve_create p.boundary k
      refine ⟨hconsistent, hfits, ?_, by simp [Ledger.drawn?, Ledger.origin?, hstatus, Call.kind?],
        fun _ => iff_of_true (by simp [hstatus]) lacking⟩
      simp only [Ledger.drawn?, Ledger.origin?, hstatus, hid, decide_true, if_true]
      refine ⟨?_, by rintro q kind ⟨⟩; rfl⟩
      intro q kind
      have hafter := p.nextId_withBoundary (p.boundary.serve (.create (some k))).2 q kind
      unfold nextId at hafter
      rw [hafter, hids]
      split_ifs with hsame
      · cases hsame
        rfl
      · rw [UInt64.add_zero]
    | _ =>
      refine ⟨hconsistent, hfits, ?_, ?_, by simp [Call.kind?]⟩
      · simpa [Ledger.drawn?, Ledger.origin?] using
          Middleware.draws_none (p.nextId_withBoundary_of_ids (hids (by simp))) _
      · simp [Ledger.drawn?, Ledger.origin?, Call.kind?]

lemma Tracks.aside (h : Tracks start l p) {e : Event} (before : e.before = p)
    (after : e.after.middleware = p.middleware) (origin : l.origin? e.call = none)
    (kind : e.call.kind? = none) (foreign : ∀ call, e.call ≠ .own call) : e.Regular l := by
  have hsources : (l.next e).sources = l.sources := by
    unfold Ledger.next
    rcases hcall : e.call with call | _ | _ | _
    · exact absurd hcall (foreign call)
    all_goals rfl
  have hdrawn : l.drawn? e = none := by simp [Ledger.drawn?, origin]
  refine ⟨?_, ?_, ?_, by simp [hdrawn, kind], by simp [kind]⟩
  · rw [after]
    exact h.consistent
  · rw [after, hsources]
    exact h.sources
  · rw [hdrawn, before]
    exact Middleware.draws_none (Middleware.nextId_congr (by rw [after])) _

/-- Every call draws an id if it creates something, and otherwise none. -/
lemma Tracks.regular (h : Tracks start l p) {call : Call} {outcome : Outcome}
    (hp : p.perform call = some outcome) :
    Event.Regular l { toOutcome := outcome, call, before := p } := by
  cases call with
  | own call => exact h.own hp
  | request r => exact h.request hp
  | createEvent endpoint kind =>
    rcases hside : kind.checkSide endpoint with cause | _
    all_goals
      simp only [perform, hside, Option.some.injEq] at hp
      subst hp
      exact h.aside rfl rfl rfl rfl (by rintro _ ⟨⟩)
  | operate n op =>
    cases hp
    exact h.aside rfl rfl rfl rfl (by rintro _ ⟨⟩)

/-! ### Runs -/

lemma run_regular (sequences : Registry Numbering) (calls : List Call) :
    (∀ u e v, Run.events step (fresh sequences) calls = u ++ e :: v →
        Tracks (fresh sequences) (Ledger.along {} u) e.before ∧
          e.Regular (Ledger.along {} u)) ∧
      Tracks (fresh sequences) (Ledger.along {} (Run.events step (fresh sequences) calls))
        (Run.final step (fresh sequences) calls) := by
  have hstart : Tracks (fresh sequences) (Ledger.along {} []) (fresh sequences) :=
    tracks_fresh sequences
  refine Run.keeps_looking_back
    (P := fun past p => Tracks (fresh sequences) (Ledger.along {} past) p)
    (Q := fun past e => Tracks (fresh sequences) (Ledger.along {} past) e.before ∧
      e.Regular (Ledger.along {} past)) ?_ hstart calls
  intro past p call h
  unfold step
  rcases hp : p.perform call with _ | outcome
  · simpa using h
  · have hregular := h.regular hp
    refine ⟨?_, ?_⟩
    · rintro e ⟨⟩
      exact ⟨h, hregular⟩
    · rw [Option.toList_some, Ledger.along_concat]
      exact Tracks.next h hregular

/-- **Ids have no gaps.** Of the entities of a kind that draw from the same sequences, whatever
contexts and nodes they belong to, the one that is created after `k` others gets the id `k` after
the first, and moves its own sequence on by one. Nothing else moves a sequence: a creation that is
refused does not, and no other call does. Creations are refused for their names, and nodes for a
shutdown; endpoints of a live node for their names only, whatever has become of its context. -/
theorem ids_have_no_gaps (sequences : Registry Numbering) (calls : List Call) :
    let start := fresh sequences
    let es := Run.events step start calls
    let last := Run.final step start calls
    (∀ u e v, es = u ++ e :: v →
      let l := Ledger.along {} u
      ((l.drawn? e).isSome ↔ e.accepted ∧ e.call.kind?.isSome) ∧
        (∀ q kind, l.drawn? e = some (q, kind) → e.call.kind? = some kind ∧
          e.id = some (start.nextId q kind + UInt64.ofNat (l.count q kind))) ∧
        (∀ q kind, e.after.nextId q kind =
          e.before.nextId q kind + if l.drawn? e = some (q, kind) then 1 else 0) ∧
        (e.call.kind?.isSome → (e.accepted ↔ e.before.Accepts e.call))) ∧
      ∀ n node, last.middleware.nodes.get? n = some node → ∀ role name qos,
        ∃ e, (last.step (.own (.createEndpoint n role name qos))).1 = some e ∧
          (e.accepted ↔ role.Accepts name qos) := by
  intro start es last
  obtain ⟨hevents, hlast⟩ := run_regular sequences calls
  refine ⟨?_, ?_⟩
  · intro u e v hes l
    obtain ⟨htracks, hregular⟩ := hevents u e v hes
    refine ⟨hregular.counted, ?_, hregular.draws.1, hregular.accepted⟩
    intro q kind hdrawn
    refine ⟨l.kind_of_drawn hdrawn, ?_⟩
    rw [hregular.draws.2 q kind hdrawn]
    exact congrArg some (htracks.ids q kind)
  · intro n node hn role name qos
    have hmade : last.perform (.own (.createEndpoint n role name qos)) ≠ none := by
      simp [perform, Middleware.step, Middleware.perform, hn]
    obtain ⟨outcome, houtcome⟩ := Option.ne_none_iff_exists'.mp hmade
    exact ⟨_, by rw [step, houtcome], (hlast.regular houtcome).accepted rfl⟩

/-- Two contexts share sequences that start with the largest id. The third publisher has id one:
the refused publishers and nodes before it draw none, nor do the status event, the subscription,
the guard conditions of C, and the end of its context. -/
theorem ids_of_a_mixed_run :
    let sequences : Registry Numbering :=
      Registry.empty.put 7 (.startingAt fun _ => 18446744073709551615)
    let o : ContextOptions := { enclave := some "/" }
    let calls : List Call :=
      [.own (.init 1 o 7), .own (.init 2 o 7), .own (.createNode 1 10 "a" "/"),
        .own (.createNode 1 11 "" "/"), .own (.createNode 2 20 "b" "/x"),
        .own (.createEndpoint 10 .publisher "/t" {}), .own (.createEndpoint 20 .publisher "t" {}),
        .createEvent .publisher .livelinessLost, .request (.create none),
        .request (.create (some 0)),
        .own (.createEndpoint 20 .publisher "t" { avoidNamespaceConventions := true }),
        .own (.createEndpoint 20 .subscription "/t" {}), .own (.shutdown 1), .own (.finish 1),
        .own (.createEndpoint 10 .publisher "/u" {})]
    let es := Run.events step (fresh sequences) calls
    ∃ e v, es = es.take 14 ++ e :: v ∧
      (Ledger.along {} (es.take 14)).drawn? e = some (7, .publishers) ∧ e.id = some 1 := by
  intro sequences o calls es
  have hlookup : (es[14]?).bind (Ledger.along {} (es.take 14)).drawn? = some (7, .publishers) := by
    decide +kernel
  have hcount : (Ledger.along {} (es.take 14)).count 7 .publishers = 2 := by decide +kernel
  have hfirst : (fresh sequences).nextId 7 .publishers = 18446744073709551615 := rfl
  obtain ⟨e, he, hdrawn⟩ := Option.bind_eq_some_iff.mp hlookup
  have hes := Run.eq_take_cons_drop he
  obtain ⟨hcalls, -⟩ := ids_have_no_gaps sequences calls
  obtain ⟨-, hid, -, -⟩ := hcalls _ _ _ hes
  refine ⟨e, es.drop 15, hes, hdrawn, ?_⟩
  rw [(hid 7 .publishers hdrawn).2, hcount, hfirst]
  rfl

end Process
end NullMiddleware
