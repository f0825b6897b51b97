import NullMiddleware.Proofs.Middleware.Refusals
import NullMiddleware.Proofs.Middleware.Ids

/-!
What contexts have to do with each other.

A call is on one context, or on a node of one context. It finds there what it would find if there
were no other contexts, and leaves all others as they are. Contexts that draw from the same
sequences take ids by turns, and that is all that is seen of one in another.
-/

namespace NullMiddleware

def LogLine.renumber (f : UInt64 → UInt64) : LogLine → LogLine
  | endpointCreated role id name => endpointCreated role (f id) name
  | line => line

def Node.renumber (f : UInt64 → UInt64) (n : Node) : Node := { n with graphGuard := f n.graphGuard }

namespace Middleware

def homeOf (m : Middleware) : Call → Option Nat
  | .init c _ _ | .createNode c _ _ _ | .shutdown c | .finish c | .letGo c
  | .createGuardCondition c => some c
  | .dropNode n | .createEndpoint n _ _ _ => (m.nodes.get? n).map (·.context)
  | .createLoneGuard _ => none

/-- The sequences that a call draws from if it is accepted. -/
def sourceOf (m : Middleware) : Call → Option Nat
  | .createNode c _ _ _ | .createGuardCondition c => (m.contexts.get? c).map (·.sequences)
  | .createEndpoint n _ _ _ => (m.nodes.get? n).map (·.sequences)
  | .createLoneGuard q => some q
  | _ => none

def Event.home? (e : Event) : Option Nat := e.before.homeOf e.call

def Event.source? (e : Event) : Option Nat :=
  if e.result.isOk then e.before.sourceOf e.call else none

/-- What has a gid. -/
def Call.side? : Call → Option Side
  | .createEndpoint _ .publisher _ _ => some .publisher
  | .createEndpoint _ .subscription _ _ => some .subscription
  | _ => none

/-- What is seen of a call: whether it is accepted or why not, what it writes, and the id and the
gid of what it creates. -/
structure Sight where
  call : Call
  result : Except Failure Unit
  lines : List LogLine
  id : Option UInt64
  gid : Option Gid

/-- What is seen of a call, with another id in the place of each id. -/
def Event.seen (f : UInt64 → UInt64) (e : Event) : Sight where
  call := e.call
  result := e.result.map fun _ => ()
  lines := e.lines.map (·.renumber f)
  id := e.id?.map f
  gid := e.call.side?.bind fun side => (e.id?.map f).map (.ofEndpoint side)

/-! ### Calls on other contexts -/

variable {f : UInt64 → UInt64} {Q : Nat → Prop} {a : Nat} {m m' : Middleware} {call : Call}
  {effect : Effect Answer}

/-- Context `a` and its nodes are as they were. -/
structure Spares (a : Nat) (m after : Middleware) : Prop where
  context : after.contexts.get? a = m.contexts.get? a
  nodes : ∀ n, (after.nodes.get? n).filter (·.context = a) =
    (m.nodes.get? n).filter (·.context = a)

lemma Spares.setContext {c : Nat} (other : c ≠ a) (x : Option Context) :
    Spares a m { m with contexts := m.contexts.set c x } := by
  refine ⟨?_, fun _ => rfl⟩
  rw [Registry.get?_set, if_neg other.symm]

lemma Spares.createNode {c n : Nat} {context : Context} {node : Node} (other : c ≠ a)
    (unused : m.nodes.get? n = none) (home : node.context = c) (sequences : Registry Numbering) :
    Spares a m
      { sequences, contexts := m.contexts.put c context, nodes := m.nodes.put n node } := by
  refine ⟨?_, ?_⟩
  · rw [Registry.get?_put, if_neg other.symm]
  · intro j
    rw [Registry.get?_put]
    by_cases hj : j = n
    · rw [if_pos hj, hj, unused, Option.filter_some, if_neg (by simpa [home] using other)]
      rfl
    · rw [if_neg hj]

lemma Spares.dropNode {n : Nat} {node : Node} (there : m.nodes.get? n = some node)
    (other : node.context ≠ a) (x : Option Context) :
    Spares a m
      { m with contexts := m.contexts.set node.context x, nodes := m.nodes.erase n } := by
  refine ⟨?_, ?_⟩
  · rw [Registry.get?_set, if_neg other.symm]
  · intro j
    rw [Registry.get?_erase]
    by_cases hj : j = n
    · rw [if_pos hj, hj, there, Option.filter_some, if_neg (by simpa using other)]
      rfl
    · rw [if_neg hj]

lemma Performed.spares (hp : Performed m call effect) (other : m.homeOf call ≠ some a) :
    Spares a m effect.state := by
  cases hp with
  | @initialized c q o context =>
    exact .setContext (by simpa [homeOf] using other) (some context)
  | @created c n k name scope context there shelters unused =>
    have hne : c ≠ a := by simpa [homeOf] using other
    exact .createNode hne unused rfl _
  | dropped there => exact .dropNode there (by simpa [homeOf, there] using other) _
  | @shutDown c context => exact .setContext (by simpa [homeOf] using other) (some _)
  | finished | letGo => exact .setContext (by simpa [homeOf] using other) _
  | endpoint | guard | loneGuard => exact ⟨rfl, fun _ => rfl⟩
  | uninitialized | uncreated | unfinished | unacceptable => exact ⟨rfl, fun _ => rfl⟩

lemma nextId_of_drawn {r q : Nat} {kind : EntityKind}
    (drawn : m'.sequences = (m.draw r kind).2.sequences) (other : r ≠ q) (j : EntityKind) :
    m'.nextId q j = m.nextId q j := by
  rw [nextId_congr drawn, nextId_draw, if_neg (by simp [other]), UInt64.add_zero]

lemma Performed.nextId_eq (hp : Performed m call effect) {q : Nat}
    (other : effect.result.isOk → m.sourceOf call ≠ some q) (kind : EntityKind) :
    effect.state.nextId q kind = m.nextId q kind := by
  cases hp with
  | created there =>
    refine nextId_of_drawn rfl ?_ kind
    simpa [sourceOf, (context?_eq_some_iff.mp there).1] using other rfl
  | endpoint there =>
    refine nextId_of_drawn rfl ?_ kind
    simpa [sourceOf, there] using other rfl
  | guard there =>
    refine nextId_of_drawn rfl ?_ kind
    simpa [sourceOf, (context?_eq_some_iff.mp there).1] using other rfl
  | loneGuard r =>
    refine nextId_of_drawn rfl ?_ kind
    simpa [sourceOf] using other rfl
  | initialized | dropped | shutDown | finished | letGo => exact nextId_congr rfl q kind
  | uninitialized | uncreated | unfinished | unacceptable => rfl

/-! ### A context by itself -/

lemma Performed.perform (hp : Performed m call effect) : m.perform call = some effect := by
  cases hp with
  | initialized unused done =>
    simp only [Middleware.perform, unused, init, done]
    rfl
  | @uninitialized c q o cause unused refused =>
    have hinit : Context.init o q = (.error cause, []) := by simp only [Context.init, refused]
    simp only [Middleware.perform, unused, init, hinit]
    rfl
  | created there shelters unused admitted =>
    simp only [Middleware.perform, there, unused, createNode_eq there shelters admitted]
    rfl
  | uncreated there unused refused =>
    simp only [Middleware.perform, there, unused, createNode_refused refused]
    rfl
  | dropped there home shelters =>
    simp only [Middleware.perform, there, dropNode_eq there home shelters]
  | shutDown there => simp only [Middleware.perform, there, shutdown_eq there]
  | finished there shelters down =>
    simp only [Middleware.perform, there, finish_eq there shelters down]
    rfl
  | unfinished there up =>
    simp only [Middleware.perform, there, finish_refused there up]
    rfl
  | letGo there shelters => simp only [Middleware.perform, there, letGo_eq there shelters]
  | endpoint there accepted =>
    simp only [Middleware.perform, there, createEndpoint, accepted]
    rfl
  | unacceptable there refused =>
    simp only [Middleware.perform, there, createEndpoint, refused]
    rfl
  | guard there =>
    simp only [Middleware.perform, there]
    rfl
  | loneGuard q => rfl

/-- The second middleware is the first one without any contexts but `a`. Ids may differ, but `f`
makes those from the sequences in `Q` the same. -/
structure Alone (f : UInt64 → UInt64) (Q : Nat → Prop) (a : Nat) (m m' : Middleware) : Prop where
  context : m'.contexts.get? a = m.contexts.get? a
  nodes : ∀ n, (m'.nodes.get? n).map (·.renumber f) =
    ((m.nodes.get? n).filter (·.context = a)).map (·.renumber f)
  ids : ∀ q kind, Q q → f (m'.nextId q kind) = f (m.nextId q kind)

namespace Alone

lemma fresh (sequences : Registry Numbering) :
    Alone f Q a (fresh sequences) (fresh sequences) :=
  ⟨rfl, fun _ => rfl, fun _ _ _ => rfl⟩

/-- What other contexts do goes unnoticed. -/
lemma spares (h : Alone f Q a m m') {after : Middleware} (hspares : Spares a m after)
    (ids : ∀ q kind, Q q → f (after.nextId q kind) = f (m.nextId q kind)) :
    Alone f Q a after m' := by
  refine ⟨h.context.trans hspares.context.symm, ?_, ?_⟩
  · intro n
    rw [hspares.nodes, h.nodes]
  · intro q kind hq
    rw [ids q kind hq, h.ids q kind hq]

lemma context? (h : Alone f Q a m m') : m'.context? a = m.context? a := by
  rw [Middleware.context?, Middleware.context?, h.context]

lemma admitNode (h : Alone f Q a m m') (name scope : String) :
    m'.admitNode a name scope = m.admitNode a name scope := by
  rw [Middleware.admitNode, Middleware.admitNode, h.context?]

lemma unused (h : Alone f Q a m m') {n : Nat} (hn : m.nodes.get? n = none) :
    m'.nodes.get? n = none := by
  have hsame := h.nodes n
  rw [hn] at hsame
  exact Option.map_eq_none_iff.mp hsame

lemma exists_node (h : Alone f Q a m m') {n : Nat} {node : Node} (hn : m.nodes.get? n = some node)
    (home : node.context = a) :
    ∃ id, m'.nodes.get? n = some { node with graphGuard := id } := by
  have hsame := h.nodes n
  rw [hn, Option.filter_some, if_pos (by simpa using home)] at hsame
  obtain ⟨node', hnode', hrenumbered⟩ := Option.map_eq_some_iff.mp hsame
  have heq : node' = { node with graphGuard := node'.graphGuard } :=
    congrArg (fun x : Node => { x with graphGuard := node'.graphGuard }) hrenumbered
  exact ⟨node'.graphGuard, hnode'.trans (congrArg some heq)⟩

lemma setContext (h : Alone f Q a m m') (x : Option Context) :
    Alone f Q a { m with contexts := m.contexts.set a x }
      { m' with contexts := m'.contexts.set a x } := by
  refine ⟨?_, h.nodes, h.ids⟩
  rw [Registry.get?_set, Registry.get?_set, if_pos rfl, if_pos rfl]

lemma putNode (h : Alone f Q a m m') (n : Nat) {node node' : Node} (home : node.context = a)
    (same : node'.renumber f = node.renumber f) :
    Alone f Q a { m with nodes := m.nodes.put n node }
      { m' with nodes := m'.nodes.put n node' } := by
  refine ⟨h.context, ?_, h.ids⟩
  intro j
  rw [Registry.get?_put, Registry.get?_put]
  by_cases hj : j = n
  · rw [if_pos hj, if_pos hj, Option.filter_some, if_pos (by simpa using home), Option.map_some,
      Option.map_some, same]
  · rw [if_neg hj, if_neg hj, h.nodes]

lemma eraseNode (h : Alone f Q a m m') (n : Nat) :
    Alone f Q a { m with nodes := m.nodes.erase n } { m' with nodes := m'.nodes.erase n } := by
  refine ⟨h.context, ?_, h.ids⟩
  intro j
  rw [Registry.get?_erase, Registry.get?_erase]
  by_cases hj : j = n
  · rw [if_pos hj, if_pos hj]
    rfl
  · rw [if_neg hj, if_neg hj, h.nodes]

lemma draw (h : Alone f Q a m m') (succ : ∀ x y, f x = f y → f (x + 1) = f (y + 1)) (q : Nat)
    (kind : EntityKind) : Alone f Q a (m.draw q kind).2 (m'.draw q kind).2 := by
  refine ⟨h.context, h.nodes, ?_⟩
  intro r j hr
  rw [nextId_draw, nextId_draw]
  by_cases hq : some (q, kind) = some (r, j)
  · rw [if_pos hq]
    exact succ _ _ (h.ids r j hr)
  · rw [if_neg hq, UInt64.add_zero, UInt64.add_zero]
    exact h.ids r j hr

end Alone

lemma Event.seen_eq {e e' : Event} (call : e'.call = e.call)
    (result : (e'.result.map fun _ => ()) = e.result.map fun _ => ())
    (lines : e'.lines.map (·.renumber f) = e.lines.map (·.renumber f))
    (id : e'.id?.map f = e.id?.map f) : e'.seen f = e.seen f := by
  simp only [seen, call, result, lines, id]

/-- A call on the context does the same when the context is by itself. -/
lemma Alone.own (h : Alone f Q a m m') (succ : ∀ x y, f x = f y → f (x + 1) = f (y + 1))
    (hp : Performed m call effect) (home : m.homeOf call = some a)
    (source : effect.result.isOk → ∀ q, m.sourceOf call = some q → Q q) :
    ∃ effect' : Effect Answer, Performed m' call effect' ∧
      (Event.mk call m' effect'.result effect'.lines effect'.state).seen f =
        (Event.mk call m effect.result effect.lines effect.state).seen f ∧
      Alone f Q a effect.state effect'.state := by
  -- the same outcome is there for the context by itself; only a drawn id needs an argument
  cases hp with
  | @initialized c q o context lines unused done =>
    obtain rfl : c = a := by simpa [homeOf] using home
    exact ⟨_, .initialized (h.context.trans unused) done, rfl, h.setContext (some context)⟩
  | @uninitialized c q o cause unused refused =>
    obtain rfl : c = a := by simpa [homeOf] using home
    exact ⟨_, .uninitialized (h.context.trans unused) refused, rfl, h⟩
  | @created c n k name scope context there shelters unused admitted =>
    obtain rfl : c = a := by simpa [homeOf] using home
    have hq : Q context.sequences :=
      source rfl _ (by simp [sourceOf, (context?_eq_some_iff.mp there).1])
    have hnode : (m'.newNode c context name scope).renumber f =
        (m.newNode c context name scope).renumber f := by
      simp only [Node.renumber, newNode]
      exact congrArg _ (h.ids context.sequences .guardConditions hq)
    refine ⟨_, .created (h.context?.trans there) shelters (h.unused unused)
      ((h.admitNode name scope).trans admitted), ?_, ?_⟩
    · refine Event.seen_eq rfl rfl rfl ?_
      simp only [Event.id?, Registry.get?_put, if_true, Option.map_some]
      exact congrArg some (congrArg Node.graphGuard hnode)
    · exact ((h.draw succ context.sequences .guardConditions).setContext
        (some (context.withNodes (k + 1)))).putNode n rfl hnode
  | @uncreated c n name scope context cause there unused refused =>
    obtain rfl : c = a := by simpa [homeOf] using home
    exact ⟨_, .uncreated (h.context?.trans there) (h.unused unused)
      ((h.admitNode name scope).trans refused), rfl, h⟩
  | @dropped n k node context there hcontext shelters =>
    obtain rfl : node.context = a := by simpa [homeOf, there] using home
    obtain ⟨id, hnode⟩ := h.exists_node there rfl
    exact ⟨_, .dropped hnode (h.context.trans hcontext) shelters, rfl,
      (h.setContext _).eraseNode n⟩
  | @shutDown c context there =>
    obtain rfl : c = a := by simpa [homeOf] using home
    exact ⟨_, .shutDown (h.context?.trans there), rfl, h.setContext (some _)⟩
  | @finished c k context there shelters down =>
    obtain rfl : c = a := by simpa [homeOf] using home
    exact ⟨_, .finished (h.context?.trans there) shelters down, rfl, h.setContext _⟩
  | @unfinished c context there up =>
    obtain rfl : c = a := by simpa [homeOf] using home
    exact ⟨_, .unfinished (h.context?.trans there) up, rfl, h⟩
  | @letGo c k context there shelters =>
    obtain rfl : c = a := by simpa [homeOf] using home
    exact ⟨_, .letGo (h.context?.trans there) shelters, rfl, h.setContext _⟩
  | @endpoint n node role name qos there accepted =>
    obtain rfl : node.context = a := by simpa [homeOf, there] using home
    obtain ⟨id, hnode⟩ := h.exists_node there rfl
    have hq : Q node.sequences := source rfl _ (by simp [sourceOf, there])
    have hid : f (m'.nextId node.sequences role.kind) = f (m.nextId node.sequences role.kind) :=
      h.ids node.sequences role.kind hq
    refine ⟨_, .endpoint hnode accepted, ?_, h.draw succ _ _⟩
    refine Event.seen_eq rfl rfl ?_ (congrArg some hid)
    exact congrArg (fun id => [LogLine.endpointCreated role id name]) hid
  | @unacceptable n node role name qos cause there refused =>
    obtain rfl : node.context = a := by simpa [homeOf, there] using home
    obtain ⟨id, hnode⟩ := h.exists_node there rfl
    exact ⟨_, .unacceptable hnode refused, rfl, h⟩
  | @guard c context there =>
    obtain rfl : c = a := by simpa [homeOf] using home
    have hq : Q context.sequences :=
      source rfl _ (by simp [sourceOf, (context?_eq_some_iff.mp there).1])
    refine ⟨_, .guard (h.context?.trans there), ?_, h.draw succ _ _⟩
    refine Event.seen_eq rfl rfl rfl ?_
    exact congrArg some (h.ids context.sequences .guardConditions hq)
  | loneGuard q => simp [homeOf] at home

lemma Alone.nodeDomain (h : Alone f Q a m m') (n : Nat) :
    (m'.nodes.get? n).map m'.nodeDomain =
      ((m.nodes.get? n).filter (·.context = a)).map m.nodeDomain := by
  have hrenumbered : ∀ x : Option Node,
      (x.map (·.renumber f)).map m'.nodeDomain = x.map m'.nodeDomain := by
    intro x
    rw [Option.map_map]
    rfl
  rw [← hrenumbered, h.nodes, hrenumbered]
  refine Option.map_congr ?_
  intro node hnode
  have home : node.context = a := of_decide_eq_true (Option.filter_eq_some_iff.mp hnode).2
  rw [Middleware.nodeDomain, Middleware.nodeDomain, home, h.context]

/-! ### Runs -/

/-- A call on the context draws from sequences in `Q` only, and other calls are not seen to draw
from these. -/
structure Event.Fair (f : UInt64 → UInt64) (Q : Nat → Prop) (a : Nat) (e : Event) : Prop where
  own : e.home? = some a → ∀ q, e.source? = some q → Q q
  other : e.home? ≠ some a → ∀ q kind, Q q → f (e.after.nextId q kind) = f (e.before.nextId q kind)

/-- A context by itself is seen to do what it does among others. -/
lemma run_alone (succ : ∀ x y, f x = f y → f (x + 1) = f (y + 1)) {sequences : Registry Numbering}
    {calls : List Call} (fair : ∀ e ∈ Run.events step (Middleware.fresh sequences) calls,
      e.Fair f Q a) :
    let start := Middleware.fresh sequences
    let own := (Run.events step start calls).filter (·.home? = some a)
    (Run.events step start (own.map (·.call))).map (·.seen f) = own.map (·.seen f) ∧
      Alone f Q a (Run.final step start calls) (Run.final step start (own.map (·.call))) := by
  intro start own
  let R : Middleware → Middleware → Prop := fun m m' => (∃ h, Consistent h m) ∧ Alone f Q a m m'
  have hstart : R start start := ⟨⟨{}, consistent_fresh sequences⟩, .fresh sequences⟩
  have hunmade : ∀ m m' call, R m m' → (step m call).1 = none → R (step m call).2 m' := by
    rintro m m' call hm hnone
    rwa [step_unmade hnone]
  -- a call on another context is left out, and one on this context is made again
  have hother : ∀ m m' call (e : Event), R m m' → (step m call).1 = some e → e.Fair f Q a →
      decide (e.home? = some a) = false → R (step m call).2 m' := by
    rintro m m' call e ⟨hm, halone⟩ he fair hhome
    obtain ⟨rfl, rfl, hafter, hperformed⟩ := step_performed hm he
    have away : e.home? ≠ some a := of_decide_eq_false hhome
    refine ⟨step_consistent hm e.call, ?_⟩
    rw [← hafter]
    exact halone.spares (hperformed.spares away) (fair.other away)
  have hown : ∀ m m' call (e : Event), R m m' → (step m call).1 = some e → e.Fair f Q a →
      decide (e.home? = some a) = true → ∃ e' : Event, (step m' e.call).1 = some e' ∧
        e'.seen f = e.seen f ∧ R (step m call).2 (step m' e.call).2 := by
    rintro m m' call e ⟨hm, halone⟩ he fair hhome
    obtain ⟨rfl, rfl, hafter, hperformed⟩ := step_performed hm he
    have home : e.home? = some a := of_decide_eq_true hhome
    have source : e.result.isOk → ∀ q, e.before.sourceOf e.call = some q → Q q := by
      intro accepted q hq
      exact fair.own home q (by rw [Event.source?, if_pos accepted, hq])
    obtain ⟨effect, hperformed', hseen, hnext⟩ := halone.own succ hperformed home source
    have hstep : step m' e.call =
        (some ⟨e.call, m', effect.result, effect.lines, effect.state⟩, effect.state) := by
      simp only [step, hperformed'.perform]
    rw [hstep]
    refine ⟨_, rfl, hseen, step_consistent hm e.call, ?_⟩
    rw [← hafter]
    exact hnext
  obtain ⟨hseen, -, halone⟩ := Run.events_part hunmade hother hown hstart fair
  exact ⟨hseen, halone⟩

/-- **Contexts keep to themselves.** Let there be any calls on any number of contexts and on their
nodes, and take those on one context out of them. Made by themselves they have the same answers and
write the same lines, and at any time leave the context and the domains of its nodes the same; only
the ids may be others. If the context draws from sequences that nobody else draws from, the ids and
the gids are the same too. -/
theorem contexts_keep_to_themselves (sequences : Registry Numbering) (calls : List Call) (a : Nat) :
    let start := fresh sequences
    let es := Run.events step start calls
    let own := es.filter (·.home? = some a)
    let alone := Run.events step start (own.map (·.call))
    let m := Run.final step start calls
    let m' := Run.final step start (own.map (·.call))
    alone.map (·.seen fun _ => 0) = own.map (·.seen fun _ => 0) ∧
      m'.contexts.get? a = m.contexts.get? a ∧
      (∀ n, (m'.nodes.get? n).map m'.nodeDomain =
        ((m.nodes.get? n).filter (·.context = a)).map m.nodeDomain) ∧
      ((∀ e ∈ es, ∀ e' ∈ es, e.home? = some a → e'.home? ≠ some a →
          ∀ q, e.source? = some q → e'.source? ≠ some q) →
        alone.map (·.seen id) = own.map (·.seen id) ∧
          ∀ n, m'.nodes.get? n = (m.nodes.get? n).filter (·.context = a)) := by
  intro start es own alone m m'
  -- Where all ids look alike, it does not matter who draws from which sequences.
  have hblank : ∀ e ∈ es, e.Fair (fun _ => 0) (fun _ => True) a :=
    fun _ _ => ⟨fun _ _ _ => trivial, fun _ _ _ _ => rfl⟩
  obtain ⟨hseen, halone⟩ := run_alone (fun _ _ _ => rfl) hblank
  refine ⟨hseen, halone.context, halone.nodeDomain, ?_⟩
  intro apart
  -- The sequences that the context ever draws from; by `apart`, nobody else does.
  let Q : Nat → Prop := fun q => ∃ e ∈ es, e.home? = some a ∧ e.source? = some q
  have hfair : ∀ e ∈ es, e.Fair id Q a := by
    intro e he
    refine ⟨fun home q hq => ⟨e, he, home, hq⟩, ?_⟩
    rintro away q kind ⟨own, hown, home, hq⟩
    have hperformed := events_performed sequences calls e he
    refine hperformed.nextId_eq (q := q) ?_ kind
    intro accepted hsource
    exact apart own hown e he home away q hq (by rw [Event.source?, if_pos accepted, hsource])
  obtain ⟨hids, hexact⟩ := run_alone (fun _ _ h => congrArg (· + 1) h) hfair
  have hidentity : ∀ x : Option Node, x.map (·.renumber id) = x := fun _ => Option.map_id'
  refine ⟨hids, ?_⟩
  intro n
  have hnodes := hexact.nodes n
  rwa [hidentity, hidentity] at hnodes

/-- Two contexts live side by side, and the nodes of the first one outlive it. If both draw from
sequences 0, the first one has other ids than by itself. If the second one draws from sequences 1,
the first one has the same. -/
theorem contexts_side_by_side :
    let calls : Nat → List Call := fun q =>
      [.init 1 { enclave := some "/" } 0, .init 2 { enclave := some "/" } q,
        .createNode 2 20 "b" "/", .createNode 1 10 "a" "/",
        .createEndpoint 20 .publisher "/t" {}, .createEndpoint 10 .publisher "/t" {},
        .shutdown 2, .createNode 2 21 "c" "/", .createNode 1 11 "c" "/", .letGo 1,
        .dropNode 20, .finish 2, .dropNode 10, .dropNode 11]
    let start := fresh .empty
    let es := fun q => Run.events step start (calls q)
    let own := fun q => (es q).filter (·.home? = some 1)
    let alone := fun q => Run.events step start ((own q).map (·.call))
    (own 0).map (·.id?) = [none, some 1, some 1, some 2, none, none, none] ∧
      (alone 0).map (·.id?) = [none, some 0, some 0, some 1, none, none, none] ∧
      (alone 0).map (·.seen fun _ => 0) = (own 0).map (·.seen fun _ => 0) ∧
      (∀ e ∈ es 1, ∀ e' ∈ es 1, e.home? = some 1 → e'.home? ≠ some 1 →
        ∀ q, e.source? = some q → e'.source? ≠ some q) ∧
      (alone 1).map (·.seen id) = (own 1).map (·.seen id) := by
  intro calls start es own alone
  obtain ⟨hseen, -⟩ := contexts_keep_to_themselves .empty (calls 0) 1
  obtain ⟨-, -, -, hapart⟩ := contexts_keep_to_themselves .empty (calls 1) 1
  have hown : ∀ e ∈ es 1, e.home? = some 1 → e.source?.all (· = 0) := by decide +kernel
  have hothers : ∀ e ∈ es 1, e.home? ≠ some 1 → e.source?.all (· = 1) := by decide +kernel
  have apart : ∀ e ∈ es 1, ∀ e' ∈ es 1, e.home? = some 1 → e'.home? ≠ some 1 →
      ∀ q, e.source? = some q → e'.source? ≠ some q := by
    intro e he e' he' home away q hq hq'
    have hzero := hown e he home
    have hone := hothers e' he' away
    rw [hq, Option.all_some, decide_eq_true_eq] at hzero
    rw [hq', Option.all_some, decide_eq_true_eq, hzero] at hone
    exact absurd hone Nat.zero_ne_one
  exact ⟨by decide +kernel, by decide +kernel, hseen, apart, (hapart apart).1⟩

end Middleware
end NullMiddleware
