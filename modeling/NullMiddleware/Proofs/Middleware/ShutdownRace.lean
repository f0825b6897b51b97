import NullMiddleware.Proofs.Middleware.StepwiseCreation

/-!
Threads that create and drop nodes race one that shuts the context down.

A thread may have seen the context alive and lose the race all the same: the context is looked at
again when the node is attached. Whoever comes too late is refused like one who sees the shutdown
at once, and leaves no trace.
-/

namespace NullMiddleware.StepwiseCreation

open Middleware (Enrolled Resident)

variable {live : List Resident} {m : Middleware} {pending : Nat → Nat} {stage : Stage} {s : Stride}

/-! ### The books stay in order -/

lemma Booked.change (hb : Booked live m pending) {live' : List Resident} {m' : Middleware}
    {pending' : Nat → Nat} {c : Nat} {x : Option Context}
    (contexts : m'.contexts = m.contexts.set c x) (nodes : Enrolled live' m'.nodes)
    (stay : ∀ r ∈ live', r ∈ live) (here : ∀ r ∈ live', r.context = c → x ≠ none)
    (others : ∀ d, d ≠ c → load live' pending' d = load live pending d)
    (this : ∀ y, x = some y → y.Shelters (load live' pending' c)) : Booked live' m' pending' := by
  refine ⟨nodes, ?_, ?_⟩
  · intro r hr
    rw [contexts, Registry.get?_set]
    by_cases hrc : r.context = c
    · rw [if_pos hrc]
      exact Option.ne_none_iff_exists'.mp (here r hr hrc)
    · rw [if_neg hrc]
      exact hb.homes r (stay r hr)
  · intro d y hy
    rw [contexts, Registry.get?_set] at hy
    by_cases hd : d = c
    · rw [if_pos hd] at hy
      exact hd ▸ this y hy
    · rw [if_neg hd] at hy
      rw [others d hd]
      exact hb.counts d y hy

/-- The books stay in order if what the threads have pending is kept up to date. -/
lemma Strode.booked (hs : Strode m stage s) (hb : Booked live m pending) {pending' : Nat → Nat}
    (hp : ∀ c, pending' c + stage.pending c = pending c + s.stage.pending c) :
    ∃ live', Booked live' s.after pending' := by
  cases hs with
  | called | tooLate | seen | misnamed | named | overtaken =>
    obtain rfl : pending' = pending := funext hp
    exact ⟨live, hb⟩
  | @attached p k context there up shelters =>
    have hbefore := hb.load_eq (Middleware.context?_eq_some_iff.mp there).1 shelters
    have hload : load live pending' p.context = k + 1 := by
      have hpc := hp p.context
      rw [load] at hbefore
      simp only [Stage.pending, if_true] at hpc
      rw [load]
      omega
    refine ⟨live, hb.change (x := some (context.withNodes (k + 1))) rfl hb.nodes (fun _ hr => hr)
      (by simp) ?_ ?_⟩
    · intro d hd
      have hpd := hp d
      simp only [Stage.pending, if_neg (Ne.symm hd)] at hpd
      rw [load, load]
      omega
    · rintro _ ⟨⟩
      rw [hload]
      exact shelters.withNodes _
  | @entered p n context there unused =>
    have hget := (Middleware.context?_eq_some_iff.mp there).1
    refine ⟨live ++ [⟨n, p.context, none⟩], hb.nodes.append unused rfl, ?_, ?_⟩
    · intro r hr
      rcases List.mem_append.mp hr with hr | hr
      · exact hb.homes r hr
      · rw [List.mem_singleton.mp hr]
        exact ⟨context, hget⟩
    · intro c x hx
      -- the registration is counted for the node now, and not for the thread any more
      have hsame : load (live ++ [⟨n, p.context, none⟩]) pending' c = load live pending c := by
        have hpc := hp c
        simp only [Stage.pending] at hpc
        rw [load, load, List.countP_append, List.countP_singleton]
        simp only [decide_eq_true_eq]
        omega
      exact hsame ▸ hb.counts c x hx
  | @dropped n k node context there home shelters =>
    obtain ⟨r, hr, rfl, hnode, -⟩ := hb.home there
    obtain rfl : pending' = pending := funext hp
    have hload : ∀ c, load live pending' c =
        load (live.filter fun s => s.node ≠ r.node) pending' c +
          if r.context = c then 1 else 0 := by
      intro c
      rw [load, load, Middleware.countP_filter_node hb.nodes.distinct hr c]
      omega
    have hleft : load (live.filter fun s => s.node ≠ r.node) pending' r.context = k := by
      have hbefore := hb.load_eq home shelters
      have hhere := hload r.context
      rw [hnode] at hbefore
      rw [if_pos rfl] at hhere
      omega
    refine ⟨_, hb.change rfl (hb.nodes.erase r.node) (fun _ hs => List.mem_of_mem_filter hs)
      ?_ ?_ ?_⟩
    · intro s hs hsc
      -- the context of a node that stays keeps a registration
      have hpos := load_pos hs pending'
      rw [hsc, hnode, hleft] at hpos
      rw [if_neg (by omega)]
      simp
    · intro d hd
      rw [hload d, if_neg (by rw [← hnode]; exact Ne.symm hd), Nat.add_zero]
    · intro y hy
      by_cases hgone : k = 0 ∧ context.held = false
      · simp [hgone] at hy
      · rw [if_neg hgone, Option.some_inj] at hy
        rw [hnode, hleft, ← hy]
        exact shelters.withNodes k
  | @shutDown c context there =>
    have hshelters := hb.counts _ _ (Middleware.context?_eq_some_iff.mp there).1
    obtain rfl : pending' = pending := funext hp
    refine ⟨live, hb.change (x := some context.shutdown.1) rfl hb.nodes (fun _ hr => hr) (by simp)
      (fun _ _ => rfl) ?_⟩
    rintro _ ⟨⟩
    exact hshelters.shutdown

/-! ### What a step does to a context -/

lemma Strode.phase (hs : Strode m stage s) (c : Nat) :
    s.after.phase c = .shutDown ∧ s.deed = .shutDown c ∨
      s.after.phase c = m.phase c ∧ s.deed ≠ .shutDown c := by
  cases hs with
  | called | tooLate | seen | misnamed | named | overtaken => exact .inr ⟨rfl, by simp⟩
  | attached there =>
    have hget := (Middleware.context?_eq_some_iff.mp there).1
    exact .inr ⟨Middleware.phase_withNodes hget (p := False) False.elim rfl c, by simp⟩
  | entered => exact .inr ⟨Middleware.phase_congr rfl c, by simp⟩
  | dropped there home => exact .inr ⟨Middleware.phase_withNodes home And.right rfl c, by simp⟩
  | @shutDown d context there =>
    by_cases hcd : c = d
    · subst hcd
      exact .inl ⟨Middleware.phase_shutdown there rfl, rfl⟩
    · refine .inr ⟨Middleware.phase_of_set_other (x := some context.shutdown.1) rfl hcd, ?_⟩
      simpa using Ne.symm hcd

lemma Strode.stays (hs : Strode m stage s) {c : Nat} (h : m.phase c ≠ .absent) :
    s.after.phase c ≠ .absent := by
  rcases hs.phase c with ⟨hdown, -⟩ | ⟨hsame, -⟩
  · simp [hdown]
  · rwa [hsame]

def Deed.attaches (c : Nat) : Deed → Bool
  | .attached p => p.context = c
  | _ => false

def Deed.releases (c : Nat) : Deed → Bool
  | .dropped _ d => d = c
  | _ => false

lemma nodesIn_of_set {m' : Middleware} {d : Nat} {x : Option Context}
    (h : m'.contexts = m.contexts.set d x) (c : Nat) :
    m'.nodesIn c = if c = d then (x.map Context.nodeCount).getD 0 else m.nodesIn c := by
  unfold Middleware.nodesIn
  rw [h, Registry.get?_set]
  split <;> rfl

lemma Strode.nodesIn (hs : Strode m stage s) (c : Nat) :
    s.after.nodesIn c + (s.deed.releases c).toNat = m.nodesIn c + (s.deed.attaches c).toNat := by
  cases hs with
  | called | tooLate | seen | misnamed | named | overtaken | entered => rfl
  | @attached p k context there up shelters =>
    have hget := (Middleware.context?_eq_some_iff.mp there).1
    rw [nodesIn_of_set (x := some (context.withNodes (k + 1))) rfl]
    by_cases hc : c = p.context
    · subst hc
      simp [Deed.releases, Deed.attaches, Middleware.nodesIn, hget, shelters.nodeCount,
        (shelters.withNodes (k + 1)).nodeCount]
    · simp [Deed.releases, Deed.attaches, hc, Ne.symm hc]
  | @dropped n k node context there home shelters =>
    rw [nodesIn_of_set rfl]
    by_cases hc : c = node.context
    · subst hc
      by_cases hgone : k = 0 ∧ context.held = false
      · simp [Deed.releases, Deed.attaches, Middleware.nodesIn, home, shelters.nodeCount, hgone]
      · simp [Deed.releases, Deed.attaches, Middleware.nodesIn, home, shelters.nodeCount, hgone,
          (shelters.withNodes k).nodeCount]
    · simp [Deed.releases, Deed.attaches, hc, Ne.symm hc]
  | @shutDown d context there =>
    have hget := (Middleware.context?_eq_some_iff.mp there).1
    rw [nodesIn_of_set (x := some context.shutdown.1) rfl]
    by_cases hc : c = d
    · subst hc
      rw [if_pos rfl, Middleware.nodesIn, hget]
      rfl
    · rw [if_neg hc]
      rfl

/-! ### What threads have behind them -/

variable {T : Type}

/-- Thread `i` has called for a node, and has left no trace since. -/
def Underway (past : List (Event T)) (i : T) (p : Plan) : Prop :=
  ∃ u a v, past = u ++ a :: v ∧ a.thread = i ∧ a.deed = .called p ∧
    ∀ o ∈ a :: v, o.thread = i → o.after = o.before ∧ o.lines = []

/-- The last thing that thread `i` has done is to attach a node, when its context was not shut down
yet. -/
def Attached (past : List (Event T)) (i : T) (p : Plan) : Prop :=
  ∃ u a v, past = u ++ a :: v ∧ a.thread = i ∧ a.deed = .attached p ∧
    a.before.phase p.context = .initialized ∧ (∀ o ∈ u, o.deed ≠ .shutDown p.context) ∧
    ∀ o ∈ v, o.thread ≠ i

variable {past : List (Event T)} {i : T} {p : Plan} {e : Event T}

lemma Underway.next (h : Underway past i p)
    (he : e.thread = i → e.after = e.before ∧ e.lines = []) : Underway (past ++ [e]) i p := by
  obtain ⟨u, a, v, rfl, hthread, hdeed, hquiet⟩ := h
  refine ⟨u, a, v ++ [e], by simp, hthread, hdeed, ?_⟩
  intro o ho
  rw [← List.cons_append] at ho
  rcases List.mem_append.mp ho with ho | ho
  · exact hquiet o ho
  · exact List.mem_singleton.mp ho ▸ he

lemma Attached.next (h : Attached past i p) (he : e.thread ≠ i) :
    Attached (past ++ [e]) i p := by
  obtain ⟨u, a, v, rfl, hthread, hdeed, hphase, hearly, hlast⟩ := h
  refine ⟨u, a, v ++ [e], by simp, hthread, hdeed, hphase, hearly, ?_⟩
  intro o ho
  rcases List.mem_append.mp ho with ho | ho
  · exact hlast o ho
  · exact List.mem_singleton.mp ho ▸ he

/-- What a thread at some stage has behind it. -/
def Trail (past : List (Event T)) (i : T) : Stage → Prop
  | .idle => True
  | .called p | .seen p | .named p => Underway past i p
  | .attached p => Attached past i p

lemma Trail.next (h : Trail past i stage) (he : e.thread ≠ i) :
    Trail (past ++ [e]) i stage := by
  cases stage with
  | idle => trivial
  | called p | seen p | named p => exact Underway.next h fun hi => absurd hi he
  | attached p => exact Attached.next h he

def Plan.Proper (p : Plan) : Prop := p.name ≠ "" ∧ ∃ rest, p.scope = "/" ++ rest

/-- What can be said of a step, by the steps before it. -/
structure Event.Regular (past : List (Event T)) (e : Event T) : Prop where
  /-- No node is attached after a shutdown, whatever the thread has seen. -/
  attached : ∀ p, e.deed = .attached p → e.before.phase p.context = .initialized ∧
    ∀ o ∈ past, o.deed ≠ .shutDown p.context
  /-- A call that returns a node has attached it before any shutdown. -/
  entered : ∀ p n, e.deed = .entered p n → Attached past e.thread p
  /-- A call that is refused leaves no trace. If there is nothing wrong with the names, the reason
  is that the context is shut down. -/
  refused : ∀ p cause, e.deed = .refused p cause → Underway (past ++ [e]) e.thread p ∧
    (p.Proper → cause = .contextShutDown ∧ e.before.phase p.context = .shutDown)

lemma regular_of_other (attached : ∀ p, e.deed ≠ .attached p)
    (entered : ∀ p n, e.deed ≠ .entered p n) (refused : ∀ p cause, e.deed ≠ .refused p cause) :
    e.Regular past where
  attached := fun p h => absurd h (attached p)
  entered := fun p n h => absurd h (entered p n)
  refused := fun p cause h => absurd h (refused p cause)

lemma regular_of_refused {cause : Failure} (deed : e.deed = .refused p cause)
    (underway : Underway (past ++ [e]) e.thread p)
    (reason : p.Proper → cause = .contextShutDown ∧ e.before.phase p.context = .shutDown) :
    e.Regular past := by
  refine ⟨by simp [deed], by simp [deed], ?_⟩
  intro p' cause' h
  rw [deed, Deed.refused.injEq] at h
  obtain ⟨rfl, rfl⟩ := h
  exact ⟨underway, reason⟩

/-- A thread knows what it has behind it, and adds to it with each step. -/
lemma Strode.trail (hs : Strode m stage s) (h : Trail past i stage)
    (shut : ∀ o ∈ past, ∀ c, o.deed = .shutDown c → m.phase c = .shutDown) :
    Event.Regular past ⟨i, s.deed, m, s.after, s.lines⟩ ∧
      Trail (past ++ [⟨i, s.deed, m, s.after, s.lines⟩]) i s.stage := by
  have hquiet : ∀ {p : Plan} (deed : Deed), Underway past i p →
      Underway (past ++ [⟨i, deed, m, m, []⟩]) i p := fun _ hp => hp.next fun _ => ⟨rfl, rfl⟩
  cases hs with
  | @called p context there =>
    refine ⟨regular_of_other (by simp) (by simp) (by simp), past, _, [], rfl, rfl, rfl, ?_⟩
    intro o ho _
    rw [List.mem_singleton.mp ho]
    exact ⟨rfl, rfl⟩
  | tooLate there down | overtaken there down =>
    refine ⟨regular_of_refused rfl (hquiet _ h) fun _ => ⟨rfl, ?_⟩, trivial⟩
    rw [Middleware.phase_of_some there, if_pos down]
  | misnamed refused =>
    refine ⟨regular_of_refused rfl (hquiet _ h) ?_, trivial⟩
    intro proper
    rw [(Node.checkName_eq_ok_iff _ _).mpr proper] at refused
    cases refused
  | seen | named => exact ⟨regular_of_other (by simp) (by simp) (by simp), hquiet _ h⟩
  | @attached p k context there up shelters =>
    have hphase : m.phase p.context = .initialized := by
      rw [Middleware.phase_of_some there, up]
      rfl
    -- had there been a shutdown, the context would be shut down still
    have hearly : ∀ o ∈ past, o.deed ≠ .shutDown p.context := by
      intro o ho hdeed
      have hdown := shut o ho _ hdeed
      rw [hphase] at hdown
      cases hdown
    refine ⟨⟨?_, by simp, by simp⟩, past, _, [], rfl, rfl, rfl, hphase, hearly, by simp⟩
    rintro _ ⟨⟩
    exact ⟨hphase, hearly⟩
  | entered =>
    refine ⟨⟨by simp, ?_, by simp⟩, trivial⟩
    rintro _ _ ⟨⟩
    exact h
  | dropped | shutDown => exact ⟨regular_of_other (by simp) (by simp) (by simp), trivial⟩

lemma Strode.plan (hs : Strode m stage s)
    (h : ∀ p, stage.plan? = some p → m.phase p.context ≠ .absent) :
    ∀ p, s.stage.plan? = some p → s.after.phase p.context ≠ .absent := by
  intro p hp
  refine hs.stays ?_
  cases hs with
  | called there =>
    cases hp
    exact Middleware.phase_ne_absent there
  | seen | named | attached => exact h p hp
  | tooLate | misnamed | overtaken | entered | dropped | shutDown => cases hp

/-! ### Runs -/

variable [Fintype T]

/-- The registrations that threads have not made nodes of yet. -/
def halfway (stage : T → Stage) (c : Nat) : Nat := ∑ i, (stage i).pending c

/-- What holds of threads and of what they have done, from the start on. -/
structure Reached (start : Middleware) (past : List (Event T)) (w : StepwiseCreation T) : Prop where
  books : ∃ live, Booked live w.middleware (halfway w.stage)
  plans : ∀ i p, (w.stage i).plan? = some p → w.middleware.phase p.context ≠ .absent
  shut : ∀ o ∈ past, ∀ c, o.deed = .shutDown c → w.middleware.phase c = .shutDown
  trails : ∀ i, Trail past i (w.stage i)
  counts : ∀ c, w.middleware.nodesIn c + past.countP (·.deed.releases c) =
    start.nodesIn c + past.countP (·.deed.attaches c)

lemma reached_start {h : Middleware.History} (hm : Middleware.Consistent h m) :
    Reached (T := T) m [] { middleware := m } := by
  refine ⟨⟨h.live, hm.nodes, ?_, ?_⟩, by simp [Stage.plan?], by simp, fun _ => trivial,
    fun _ => rfl⟩
  · intro r hr
    obtain ⟨context, hc, -⟩ := hm.contexts.sheltered r hr
    exact ⟨context, hc⟩
  · intro c context hc
    have hload : load h.live (halfway fun _ : T => .idle) c = h.nodesOf c := by
      simp [load, halfway, Stage.pending, Middleware.History.nodesOf]
    exact hload ▸ (hm.contexts.counts c context hc).1

variable [DecidableEq T]

lemma halfway_update (stage : T → Stage) (i : T) (next : Stage) (c : Nat) :
    halfway (Function.update stage i next) c + (stage i).pending c =
      halfway stage c + next.pending c := by
  have hupdate : (fun j => (Function.update stage i next j).pending c) =
      Function.update (fun j => (stage j).pending c) i (next.pending c) :=
    Function.comp_update (Stage.pending c) stage i next
  unfold halfway
  rw [hupdate, Finset.sum_update_of_mem (Finset.mem_univ i),
    ← Finset.add_sum_erase Finset.univ (fun j => (stage j).pending c) (Finset.mem_univ i),
    Finset.sdiff_singleton_eq_erase]
  omega

variable {start : Middleware} {w : StepwiseCreation T}

lemma Reached.stride (h : Reached start past w) {move : Move}
    (hstride : w.middleware.stride (w.stage i) move = some s) :
    Event.Regular past ⟨i, s.deed, w.middleware, s.after, s.lines⟩ ∧
      Reached start (past ++ [⟨i, s.deed, w.middleware, s.after, s.lines⟩])
        ⟨s.after, Function.update w.stage i s.stage⟩ := by
  obtain ⟨live, hb⟩ := h.books
  have hs := strode hb (h.plans i) hstride
  obtain ⟨hregular, htrail⟩ := hs.trail (h.trails i) h.shut
  -- plans and trails are those of thread `i` and of all others, for whom nothing has changed
  refine ⟨hregular, hs.booked hb (halfway_update w.stage i s.stage), ?_, ?_, ?_, ?_⟩
  · exact (Function.forall_update_iff w.stage fun _ stage => ∀ p, stage.plan? = some p →
      s.after.phase p.context ≠ .absent).mpr
        ⟨hs.plan (h.plans i), fun j _ p hp => hs.stays (h.plans j p hp)⟩
  · intro o ho c hdeed
    rcases hs.phase c with ⟨hdown, -⟩ | ⟨hsame, hother⟩
    · exact hdown
    · rcases List.mem_append.mp ho with ho | ho
      · rw [hsame]
        exact h.shut o ho c hdeed
      · rw [List.mem_singleton.mp ho] at hdeed
        exact absurd hdeed hother
  · exact (Function.forall_update_iff w.stage (Trail _)).mpr
      ⟨htrail, fun j hj => (h.trails j).next (Ne.symm hj)⟩
  · intro c
    have hbefore := h.counts c
    have hstep := hs.nodesIn c
    rw [List.countP_append, List.countP_append, List.countP_singleton, List.countP_singleton]
    simp only [Bool.toNat, Bool.cond_eq_ite] at hstep ⊢
    omega

lemma Reached.step (h : Reached start past w) (turn : T × Move) :
    (∀ e ∈ (w.step turn).1, e.Regular past) ∧
      Reached start (past ++ (w.step turn).1.toList) (w.step turn).2 := by
  unfold StepwiseCreation.step
  rcases hstride : w.middleware.stride (w.stage turn.1) turn.2 with _ | s
  · simpa using h
  · obtain ⟨hregular, hreached⟩ := h.stride hstride
    refine ⟨?_, hreached⟩
    rintro _ ⟨⟩
    exact hregular

/-- A call under way never gets stuck. -/
lemma stride_proceed (busy : stage ≠ .idle) {n : Nat} (unused : m.nodes.get? n = none) :
    (m.stride stage (.proceed n)).isSome := by
  cases stage with
  | idle => exact absurd rfl busy
  | called p => rcases hlook : m.look p.context with _ | _ <;> simp [Middleware.stride, hlook]
  | seen p =>
    rcases hname : Node.checkName p.name p.scope with _ | _ <;> simp [Middleware.stride, hname]
  | named p =>
    rcases hattach : (m.attachNode p.context).result with _ | _ <;>
      simp [Middleware.stride, hattach]
  | attached p => simp [Middleware.stride, unused]

/-- **No node slips past a shutdown.** Threads that share the contexts of a process create nodes
step by step, drop them, and shut contexts down, in any order. A node that is returned was attached
before its context was shut down, even if the thread had seen the context alive. Calls under proper
names are refused for a shutdown only, and those that are refused leave no trace. A context always
counts the nodes that were attached to it and are not released. A call under way can always go on,
and with nobody in between its steps are as one. -/
theorem no_node_slips_past_shutdown (sequences : Registry Numbering) (calls : List Middleware.Call)
    (turns : List (T × Move)) :
    let start := Run.final Middleware.step (Middleware.fresh sequences) calls
    let es := Run.events step { middleware := start } turns
    let last := Run.final step { middleware := start } turns
    (∀ past e later, es = past ++ e :: later → e.Regular past) ∧
      (∀ c, last.middleware.nodesIn c + es.countP (·.deed.releases c) =
        start.nodesIn c + es.countP (·.deed.attaches c)) ∧
      (∀ i n, last.stage i ≠ .idle → last.middleware.nodes.get? n = none →
        (last.step (i, .proceed n)).1.isSome) ∧
      ∀ i p n, last.stage i = .idle → (last.middleware.context? p.context).isSome →
        last.middleware.nodes.get? n = none → AsOneCall last i p n := by
  intro start es last
  obtain ⟨hm, -⟩ := Middleware.run_consistent (Middleware.consistent_fresh sequences) calls
  obtain ⟨hevents, hlast⟩ := Run.keeps_looking_back
    (P := fun past w => Reached start past w) (Q := fun past e => Event.Regular past e)
    (fun past w turn h => h.step turn) (reached_start (T := T) hm) turns
  refine ⟨hevents, hlast.counts, ?_, fun _ _ _ free there unused => asOneCall free there unused⟩
  intro i n busy unused
  obtain ⟨s, hs⟩ := Option.isSome_iff_exists.mp (stride_proceed busy unused)
  simp only [StepwiseCreation.step, hs, Option.isSome_some]

/-- Two threads have seen a context alive when a third one shuts it down. The one that has attached
its node gets it, the other one is refused. -/
theorem one_of_two_is_overtaken :
    let calls : List Middleware.Call := [.init 1 { enclave := some "/" } 0]
    let a : Plan := ⟨1, "a", "/"⟩
    let b : Plan := ⟨1, "b", "/"⟩
    let turns : List (Fin 3 × Move) :=
      [(0, .call a), (1, .call b), (0, .proceed 10), (1, .proceed 11), (0, .proceed 10),
        (1, .proceed 11), (1, .proceed 11), (2, .shutdown 1), (0, .proceed 10), (1, .proceed 11)]
    let start := Run.final Middleware.step (Middleware.fresh .empty) calls
    let es := Run.events step { middleware := start } turns
    let last := Run.final step { middleware := start } turns
    (∃ e, es[8]? = some e ∧ e.deed = .refused a .contextShutDown ∧
        Underway (es.take 8 ++ [e]) 0 a) ∧
      (∃ e, es[9]? = some e ∧ e.deed = .entered b 11 ∧ Attached (es.take 9) 1 b) ∧
      last.middleware.nodesIn 1 = 1 := by
  intro calls a b turns start es last
  have hfirst : (es[8]?).map (fun e => (e.thread, e.deed)) =
      some (0, .refused a .contextShutDown) := by decide +kernel
  have hsecond : (es[9]?).map (fun e => (e.thread, e.deed)) = some (1, .entered b 11) := by
    decide +kernel
  obtain ⟨hevents, hcounts, -⟩ := no_node_slips_past_shutdown .empty calls turns
  obtain ⟨e, he, hdeed⟩ := Option.map_eq_some_iff.mp hfirst
  obtain ⟨e', he', hdeed'⟩ := Option.map_eq_some_iff.mp hsecond
  obtain ⟨hthread, hdeed⟩ := Prod.mk.inj hdeed
  obtain ⟨hthread', hdeed'⟩ := Prod.mk.inj hdeed'
  have hregular := hevents _ _ _ (Run.eq_take_cons_drop he)
  have hregular' := hevents _ _ _ (Run.eq_take_cons_drop he')
  have hcount := hcounts 1
  have hreleased : es.countP (·.deed.releases 1) = 0 := by decide +kernel
  have hattached : es.countP (·.deed.attaches 1) = 1 := by decide +kernel
  have hnone : start.nodesIn 1 = 0 := by decide +kernel
  refine ⟨⟨e, he, hdeed, hthread ▸ (hregular.refused _ _ hdeed).1⟩,
    ⟨e', he', hdeed', hthread' ▸ hregular'.entered _ _ hdeed'⟩, ?_⟩
  rw [hreleased, hattached, hnone, Nat.add_zero] at hcount
  exact hcount

end NullMiddleware.StepwiseCreation
