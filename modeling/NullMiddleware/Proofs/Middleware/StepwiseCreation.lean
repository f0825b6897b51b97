import Mathlib.Algebra.BigOperators.Group.Finset.Basic
import Mathlib.Data.Fintype.BigOperators
import NullMiddleware.Proofs.Middleware.Phases

/-!
Nodes that are created step by step, by threads that share the contexts of a process.

A thread that wants a node looks whether the context is shut down, has the names checked, attaches
the node to the context, and enters it with an id. These are steps of their own: in between, other
threads take theirs, and may create and drop nodes or shut the context down. To drop a node or to
shut a context down takes one step; contexts stay.
-/

namespace NullMiddleware

/-- What is asked for when a node is created. -/
structure StepwiseCreation.Plan where
  context : Nat
  name : String
  scope : String
  deriving DecidableEq

namespace StepwiseCreation

/-- How far a thread is with a node. -/
inductive Stage
  | idle
  | called (plan : Plan)
  /-- The context was not shut down when the thread looked. -/
  | seen (plan : Plan)
  /-- The names are accepted. -/
  | named (plan : Plan)
  /-- The node is attached to its context and has no id yet. -/
  | attached (plan : Plan)

inductive Move
  | call (plan : Plan)
  /-- The call under way goes one step further; if it enters a node, this gets number `n`. -/
  | proceed (n : Nat)
  | dropNode (n : Nat)
  | shutdown (c : Nat)

/-- What a step comes to. -/
inductive Deed
  | called (plan : Plan)
  | seen (plan : Plan)
  | named (plan : Plan)
  | attached (plan : Plan)
  /-- The call returns node `n`. -/
  | entered (plan : Plan) (n : Nat)
  /-- The call returns an error. -/
  | refused (plan : Plan) (cause : Failure)
  /-- Node `n` of context `c` is released. -/
  | dropped (n c : Nat)
  | shutDown (c : Nat)
  deriving DecidableEq

structure Stride where
  deed : Deed
  stage : Stage
  after : Middleware
  lines : List LogLine := []

end StepwiseCreation

namespace Middleware

open StepwiseCreation

def look (m : Middleware) (c : Nat) : Except Failure Unit :=
  match m.context? c with
  | none => .error .contextShutDown
  | some context => if context.isShutDown then .error .contextShutDown else .ok ()

/-- The next step of a thread, if it can make the move. -/
def stride (m : Middleware) : Stage → Move → Option Stride
  | .idle, .call p =>
    match m.context? p.context with
    | none => none
    | some _ => some { deed := .called p, stage := .called p, after := m }
  | .called p, .proceed _ =>
    match m.look p.context with
    | .error cause => some { deed := .refused p cause, stage := .idle, after := m }
    | .ok _ => some { deed := .seen p, stage := .seen p, after := m }
  | .seen p, .proceed _ =>
    match Node.checkName p.name p.scope with
    | .error cause => some { deed := .refused p cause, stage := .idle, after := m }
    | .ok _ => some { deed := .named p, stage := .named p, after := m }
  | .named p, .proceed _ =>
    let effect := m.attachNode p.context
    match effect.result with
    | .error cause => some ⟨.refused p cause, .idle, effect.state, effect.lines⟩
    | .ok _ => some ⟨.attached p, .attached p, effect.state, effect.lines⟩
  | .attached p, .proceed n =>
    match m.nodes.get? n with
    | some _ => none
    | none =>
      let effect := m.enterNode p.context n p.name p.scope
      some ⟨.entered p n, .idle, effect.state, effect.lines⟩
  | .idle, .dropNode n =>
    match m.nodes.get? n with
    | none => none
    | some node =>
      let effect := m.detachNode n
      some ⟨.dropped n node.context, .idle, effect.state, effect.lines⟩
  | .idle, .shutdown c =>
    match m.context? c with
    | none => none
    | some _ =>
      let effect := m.shutdown c
      some ⟨.shutDown c, .idle, effect.state, effect.lines⟩
  | _, _ => none

def nodesIn (m : Middleware) (c : Nat) : Nat := ((m.contexts.get? c).map Context.nodeCount).getD 0

end Middleware

/-- A middleware, and how far each of the threads that share it is with the node it creates. Nodes
are dropped in one step. -/
structure StepwiseCreation (T : Type) where
  middleware : Middleware
  stage : T → StepwiseCreation.Stage := fun _ => .idle

namespace StepwiseCreation

variable {T : Type}

/-- A step that was made. -/
structure Event (T : Type) where
  thread : T
  deed : Deed
  before : Middleware
  after : Middleware
  lines : List LogLine

def step [DecidableEq T] (w : StepwiseCreation T) (turn : T × Move) :
    Option (Event T) × StepwiseCreation T :=
  match w.middleware.stride (w.stage turn.1) turn.2 with
  | none => (none, w)
  | some s =>
    (some ⟨turn.1, s.deed, w.middleware, s.after, s.lines⟩,
      { middleware := s.after, stage := Function.update w.stage turn.1 s.stage })

/-! ### A thread alone -/

lemma admitNode_eq_look (m : Middleware) (c : Nat) (name scope : String) :
    m.admitNode c name scope = m.look c >>= fun _ => Node.checkName name scope := by
  unfold Middleware.admitNode Middleware.look
  rcases m.context? c with _ | context
  · rfl
  · rcases hdown : context.isShutDown <;> simp [hdown] <;> rfl

lemma nodes_attachNode (m : Middleware) (c : Nat) : (m.attachNode c).state.nodes = m.nodes := by
  unfold Middleware.attachNode
  rcases m.context? c with _ | context
  · rfl
  · dsimp only
    rcases context.attach with ⟨cause | _, _⟩ <;> rfl

def returned (p : Plan) (n : Nat) : Except Failure Unit → Deed
  | .ok _ => .entered p n
  | .error cause => .refused p cause

variable [DecidableEq T]

lemma step_stride {m : Middleware} {stage : T → Stage} {i : T} {now : Stage} {move : Move}
    {s : Stride} (h : m.stride now move = some s) :
    step ⟨m, Function.update stage i now⟩ (i, move) =
      (some ⟨i, s.deed, m, s.after, s.lines⟩, ⟨s.after, Function.update stage i s.stage⟩) := by
  simp only [step, Function.update_self, h, Function.update_idem]

lemma step_idle (m : Middleware) (stage : T → Stage) (i : T) (n : Nat) :
    step ⟨m, Function.update stage i .idle⟩ (i, .proceed n) =
      (none, ⟨m, Function.update stage i .idle⟩) := by
  simp only [step, Function.update_self, Middleware.stride]

/-- A whole call for a node; the moves after its end are not made. -/
def wholeCall (i : T) (p : Plan) (n : Nat) : List (T × Move) :=
  (i, .call p) :: List.replicate 4 (i, .proceed n)

/-- The steps of a call come to the same as the call: they leave the same middleware, write the same
lines, and return the same. -/
def AsOneCall (w : StepwiseCreation T) (i : T) (p : Plan) (n : Nat) : Prop :=
  let effect := w.middleware.createNode p.context n p.name p.scope
  let es := Run.events step w (wholeCall i p n)
  Run.final step w (wholeCall i p n) = { w with middleware := effect.state } ∧
    es.flatMap (·.lines) = effect.lines ∧
    es.getLast?.map (·.deed) = some (returned p n effect.result)

/-- If nobody comes in between, the steps of a call are as one. -/
lemma asOneCall {w : StepwiseCreation T} {i : T} (free : w.stage i = .idle) {p : Plan}
    (there : (w.middleware.context? p.context).isSome) {n : Nat}
    (unused : w.middleware.nodes.get? n = none) : AsOneCall w i p n := by
  obtain ⟨m, stage⟩ := w
  obtain ⟨context, hc⟩ := Option.isSome_iff_exists.mp there
  have hstage : Function.update stage i .idle = stage := Function.update_eq_self_iff.mpr free.symm
  have hcalled : m.stride .idle (.call p) = some ⟨.called p, .called p, m, []⟩ := by
    simp only [Middleware.stride, hc]
  have hadmit := admitNode_eq_look m p.context p.name p.scope
  rw [← hstage]
  simp only [AsOneCall, wholeCall, List.replicate, Run.events_cons, Run.final_cons,
    step_stride hcalled]
  rcases hlook : m.look p.context with cause | _
  · have hlooked : m.stride (.called p) (.proceed n) = some ⟨.refused p cause, .idle, m, []⟩ := by
      simp only [Middleware.stride, hlook]
    rw [hlook] at hadmit
    simp [step_stride hlooked, step_idle, Middleware.createNode_refused hadmit, returned]
  have hlooked : m.stride (.called p) (.proceed n) = some ⟨.seen p, .seen p, m, []⟩ := by
    simp only [Middleware.stride, hlook]
  rw [hlook] at hadmit
  simp only [step_stride hlooked]
  rcases hname : Node.checkName p.name p.scope with cause | _
  · have hnamed : m.stride (.seen p) (.proceed n) = some ⟨.refused p cause, .idle, m, []⟩ := by
      simp only [Middleware.stride, hname]
    have hrefused : m.admitNode p.context p.name p.scope = .error cause := hadmit.trans hname
    simp [step_stride hnamed, step_idle, Middleware.createNode_refused hrefused, returned]
  have hnamed : m.stride (.seen p) (.proceed n) = some ⟨.named p, .named p, m, []⟩ := by
    simp only [Middleware.stride, hname]
  have hadmitted : m.admitNode p.context p.name p.scope = .ok () := hadmit.trans hname
  simp only [step_stride hnamed]
  rcases hattach : m.attachNode p.context with ⟨cause | _, after, lines⟩
  · have hattached : m.stride (.named p) (.proceed n) =
        some ⟨.refused p cause, .idle, after, lines⟩ := by
      simp only [Middleware.stride, hattach]
    simp [step_stride hattached, step_idle, Middleware.createNode, hadmitted, hattach, returned]
  · have hattached : m.stride (.named p) (.proceed n) =
        some ⟨.attached p, .attached p, after, lines⟩ := by
      simp only [Middleware.stride, hattach]
    have hnodes : after.nodes.get? n = none := by
      have hsame := nodes_attachNode m p.context
      rw [hattach] at hsame
      rw [hsame, unused]
    have hentered : after.stride (.attached p) (.proceed n) =
        some ⟨.entered p n, .idle, (after.enterNode p.context n p.name p.scope).state,
          (after.enterNode p.context n p.name p.scope).lines⟩ := by
      simp only [Middleware.stride, hnodes]
    simp [step_stride hattached, step_stride hentered, Middleware.createNode, hadmitted, hattach,
      returned]

/-! ### The books -/

def Stage.plan? : Stage → Option Plan
  | .idle => none
  | .called p | .seen p | .named p | .attached p => some p

/-- The registrations with context `c` that the thread has not made a node of yet. -/
def Stage.pending (c : Nat) : Stage → Nat
  | .attached p => if p.context = c then 1 else 0
  | _ => 0

def load (live : List Middleware.Resident) (pending : Nat → Nat) (c : Nat) : Nat :=
  live.countP (fun r => r.context = c) + pending c

/-- Each registration with a context is that of a node or of a thread that is about to enter one. -/
structure Booked (live : List Middleware.Resident) (m : Middleware) (pending : Nat → Nat) :
    Prop where
  nodes : Middleware.Enrolled live m.nodes
  homes : ∀ r ∈ live, ∃ context, m.contexts.get? r.context = some context
  counts : ∀ c context, m.contexts.get? c = some context →
    context.Shelters (load live pending c)

variable {live : List Middleware.Resident} {m : Middleware} {pending : Nat → Nat}

lemma load_pos {r : Middleware.Resident} (hr : r ∈ live) (pending : Nat → Nat) :
    0 < load live pending r.context :=
  Nat.add_pos_left (List.countP_pos_iff.mpr ⟨r, hr, by simp⟩) _

lemma Booked.home (hb : Booked live m pending) {n : Nat} {node : Node}
    (hn : m.nodes.get? n = some node) : ∃ r ∈ live, r.node = n ∧ node.context = r.context ∧
      ∃ context, m.contexts.get? r.context = some context ∧
        context.Shelters (load live pending r.context) := by
  obtain ⟨r, hr, hrn⟩ := hb.nodes.known n node hn
  obtain ⟨node', hnode', hcontext⟩ := hb.nodes.registered r hr
  obtain ⟨context, hc⟩ := hb.homes r hr
  rw [hrn, hn] at hnode'
  cases hnode'
  exact ⟨r, hr, hrn, hcontext, context, hc, hb.counts _ _ hc⟩

lemma Booked.home_shelters (hb : Booked live m pending) {n : Nat} {node : Node}
    (hn : m.nodes.get? n = some node) : ∃ k context,
      m.contexts.get? node.context = some context ∧ context.Shelters (k + 1) := by
  obtain ⟨r, hr, -, hnode, context, hc, hshelters⟩ := hb.home hn
  obtain ⟨k, hload⟩ := Nat.exists_eq_add_one.mpr (load_pos hr pending)
  exact ⟨k, context, hnode ▸ hc, hload ▸ hshelters⟩

lemma Booked.load_eq (hb : Booked live m pending) {c k : Nat} {context : Context}
    (hc : m.contexts.get? c = some context) (shelters : context.Shelters k) :
    load live pending c = k := (hb.counts c context hc).count.symm.trans shelters.count

/-! ### What a step comes to -/

inductive Strode (m : Middleware) : Stage → Stride → Prop
  | called {p : Plan} {context : Context} (there : m.context? p.context = some context) :
    Strode m .idle ⟨.called p, .called p, m, []⟩
  | tooLate {p : Plan} {context : Context} (there : m.context? p.context = some context)
    (down : context.isShutDown) :
    Strode m (.called p) ⟨.refused p .contextShutDown, .idle, m, []⟩
  | seen {p : Plan} : Strode m (.called p) ⟨.seen p, .seen p, m, []⟩
  | misnamed {p : Plan} {cause : Failure}
    (refused : Node.checkName p.name p.scope = .error cause) :
    Strode m (.seen p) ⟨.refused p cause, .idle, m, []⟩
  | named {p : Plan} : Strode m (.seen p) ⟨.named p, .named p, m, []⟩
  | overtaken {p : Plan} {context : Context} (there : m.context? p.context = some context)
    (down : context.isShutDown) :
    Strode m (.named p) ⟨.refused p .contextShutDown, .idle, m, []⟩
  | attached {p : Plan} {k : Nat} {context : Context}
    (there : m.context? p.context = some context) (up : context.isShutDown = false)
    (shelters : context.Shelters k) :
    Strode m (.named p)
      ⟨.attached p, .attached p,
        { m with contexts := m.contexts.put p.context (context.withNodes (k + 1)) },
        if k = 0 then context.arrival else []⟩
  | entered {p : Plan} {n : Nat} {context : Context}
    (there : m.context? p.context = some context) (unused : m.nodes.get? n = none) :
    Strode m (.attached p)
      ⟨.entered p n, .idle,
        { (m.draw context.sequences .guardConditions).2 with
          nodes := m.nodes.put n (m.newNode p.context context p.name p.scope) },
        [.nodeCreated p.name p.scope]⟩
  | dropped {n k : Nat} {node : Node} {context : Context} (there : m.nodes.get? n = some node)
    (home : m.contexts.get? node.context = some context) (shelters : context.Shelters (k + 1)) :
    Strode m .idle
      ⟨.dropped n node.context, .idle,
        { m with
          contexts := m.contexts.set node.context
            (if k = 0 ∧ context.held = false then none else some (context.withNodes k))
          nodes := m.nodes.erase n },
        if k = 0 then context.departure else []⟩
  | shutDown {c : Nat} {context : Context} (there : m.context? c = some context) :
    Strode m .idle
      ⟨.shutDown c, .idle, { m with contexts := m.contexts.put c context.shutdown.1 },
        [.contextShutDown context.instanceId]⟩

lemma look_eq {c : Nat} {context : Context} (h : m.context? c = some context) :
    m.look c = if context.isShutDown then .error .contextShutDown else .ok () := by
  simp only [Middleware.look, h]

lemma attachNode_down {c : Nat} {context : Context} (h : m.context? c = some context)
    (down : context.isShutDown) : m.attachNode c = ⟨.error .contextShutDown, m, []⟩ := by
  have hl : context.shared.lifecycle.shutDown = true := down
  simp only [Middleware.attachNode, h, Context.attach, Shared.join, Lifecycle.acquire, hl, if_true]

lemma attachNode_up {c k : Nat} {context : Context} (h : m.context? c = some context)
    (up : context.isShutDown = false) (hk : context.Shelters k) :
    m.attachNode c =
      ⟨.ok (), { m with contexts := m.contexts.put c (context.withNodes (k + 1)) },
        if k = 0 then context.arrival else []⟩ := by
  simp only [Middleware.attachNode, h, hk.attach up, Middleware.setContext, Registry.set]

lemma enterNode_eq {c n : Nat} {context : Context} (h : m.context? c = some context)
    (name scope : String) :
    m.enterNode c n name scope =
      ⟨(), { (m.draw context.sequences .guardConditions).2 with
          nodes := m.nodes.put n (m.newNode c context name scope) },
        [.nodeCreated name scope]⟩ := by
  simp only [Middleware.enterNode, (Middleware.context?_eq_some_iff.mp h).1]
  rfl

lemma detachNode_eq {n k : Nat} {node : Node} {context : Context}
    (hn : m.nodes.get? n = some node) (hc : m.contexts.get? node.context = some context)
    (hk : context.Shelters (k + 1)) :
    m.detachNode n =
      ⟨(),
        { m with
          contexts := m.contexts.set node.context
            (if k = 0 ∧ context.held = false then none else some (context.withNodes k))
          nodes := m.nodes.erase n },
        if k = 0 then context.departure else []⟩ := by
  simp only [Middleware.detachNode, hn, hc, hk.detach, Middleware.setContext]

/-- Every step that can be made comes to one of its outcomes. -/
theorem strode (hb : Booked live m pending) {stage : Stage}
    (there : ∀ p, stage.plan? = some p → m.phase p.context ≠ .absent) {move : Move} {s : Stride}
    (hs : m.stride stage move = some s) : Strode m stage s := by
  -- a call under way only goes on with `proceed`, so each of the later stages has one move
  cases stage with
  | idle =>
    cases move with
    | call p =>
      rcases hc : m.context? p.context with _ | context
      · simp [Middleware.stride, hc] at hs
      · simp only [Middleware.stride, hc, Option.some.injEq] at hs
        exact hs ▸ .called hc
    | proceed n => simp [Middleware.stride] at hs
    | dropNode n =>
      rcases hn : m.nodes.get? n with _ | node
      · simp [Middleware.stride, hn] at hs
      · obtain ⟨k, context, hc, hk⟩ := hb.home_shelters hn
        simp only [Middleware.stride, hn, detachNode_eq hn hc hk, Option.some.injEq] at hs
        exact hs ▸ .dropped hn hc hk
    | shutdown c =>
      rcases hc : m.context? c with _ | context
      · simp [Middleware.stride, hc] at hs
      · simp only [Middleware.stride, hc, Middleware.shutdown_eq hc, Option.some.injEq] at hs
        exact hs ▸ .shutDown hc
  | called p =>
    obtain ⟨context, hc⟩ := Middleware.exists_of_phase (there p rfl)
    cases move with
    | proceed n =>
      rcases hdown : context.isShutDown
      · simp only [Middleware.stride, look_eq hc, hdown, Bool.false_eq_true, if_false,
          Option.some.injEq] at hs
        exact hs ▸ .seen
      · simp only [Middleware.stride, look_eq hc, hdown, if_true, Option.some.injEq] at hs
        exact hs ▸ .tooLate hc hdown
    | _ => simp [Middleware.stride] at hs
  | seen p =>
    cases move with
    | proceed n =>
      rcases hname : Node.checkName p.name p.scope with cause | _
      · simp only [Middleware.stride, hname, Option.some.injEq] at hs
        exact hs ▸ .misnamed hname
      · simp only [Middleware.stride, hname, Option.some.injEq] at hs
        exact hs ▸ .named
    | _ => simp [Middleware.stride] at hs
  | named p =>
    obtain ⟨context, hc⟩ := Middleware.exists_of_phase (there p rfl)
    cases move with
    | proceed n =>
      rcases hdown : context.isShutDown
      · have hk := hb.counts _ _ (Middleware.context?_eq_some_iff.mp hc).1
        simp only [Middleware.stride, attachNode_up hc hdown hk, Option.some.injEq] at hs
        exact hs ▸ .attached hc hdown hk
      · simp only [Middleware.stride, attachNode_down hc hdown, Option.some.injEq] at hs
        exact hs ▸ .overtaken hc hdown
    | _ => simp [Middleware.stride] at hs
  | attached p =>
    obtain ⟨context, hc⟩ := Middleware.exists_of_phase (there p rfl)
    cases move with
    | proceed n =>
      rcases hn : m.nodes.get? n with _ | node
      · simp only [Middleware.stride, hn, enterNode_eq hc, Option.some.injEq] at hs
        exact hs ▸ .entered hc hn
      · simp [Middleware.stride, hn] at hs
    | _ => simp [Middleware.stride] at hs

end StepwiseCreation
end NullMiddleware
