import NullMiddleware.Proofs.Middleware.Run

/-!
The nodes of contexts, by the history of a process.

A node is alive from its creation until it is dropped, whatever becomes of its context. The
history says which nodes are alive; each context counts its own, and keeps its participant for
them.
-/

namespace NullMiddleware

/-- The lifecycle complains: of a registration that is not there any more, or of one that is left
over. -/
def LogLine.isComplaint : LogLine → Bool
  | .releaseFailed _ | .dependentsLeft _ => true
  | _ => false

namespace Middleware

/-! ### The history -/

/-- A live node, its context, and the options that the context was initialized with. -/
structure Resident where
  node : Nat
  context : Nat
  options : Option ContextOptions

structure History where
  /-- The options of the last context of each number. -/
  options : Registry ContextOptions := .empty
  live : List Resident := []

namespace History

def next (h : History) (call : Call) (result : Answer) : History :=
  match call, result with
  | .init c options _, .ok _ => { h with options := h.options.put c options }
  | .createNode c n _ _, .ok _ => { h with live := h.live ++ [⟨n, c, h.options.get? c⟩] }
  | .dropNode n, .ok _ => { h with live := h.live.filter fun r => r.node ≠ n }
  | _, _ => h

def along (h : History) (es : List Event) : History :=
  es.foldl (fun h e => h.next e.call e.result) h

def nodesOf (h : History) (c : Nat) : Nat := h.live.countP fun r => r.context = c

end History

variable {h : History}

lemma nodesOf_pos {r : Resident} (hr : r ∈ h.live) : 0 < h.nodesOf r.context :=
  List.countP_pos_iff.mpr ⟨r, hr, by simp⟩

lemma nodesOf_append (h : History) (r : Resident) (c : Nat) :
    History.nodesOf { h with live := h.live ++ [r] } c =
      h.nodesOf c + if r.context = c then 1 else 0 := by
  unfold History.nodesOf
  rw [List.countP_append, List.countP_singleton]
  simp

/-- A number that is used once is taken off the count of its own context. -/
lemma countP_filter_node {live : List Resident} (distinct : (live.map (·.node)).Nodup)
    {r : Resident} (hr : r ∈ live) (c : Nat) :
    live.countP (fun s => s.context = c) =
      (live.filter fun s => s.node ≠ r.node).countP (fun s => s.context = c) +
        if r.context = c then 1 else 0 := by
  -- once the number is met, it does not come again
  induction live with
  | nil => simp at hr
  | cons s rest ih =>
    rw [List.map_cons, List.nodup_cons] at distinct
    obtain ⟨hfresh, hrest⟩ := distinct
    rcases List.mem_cons.mp hr with rfl | hmem
    · have hkeep : rest.filter (fun s => s.node ≠ r.node) = rest := by
        refine List.filter_eq_self.mpr ?_
        intro s hs
        have hne : s.node ≠ r.node := by
          intro heq
          exact hfresh (heq ▸ List.mem_map_of_mem hs)
        simpa using hne
      rw [List.filter_cons_of_neg (by simp), hkeep, List.countP_cons]
      simp
    · have hne : s.node ≠ r.node := by
        intro heq
        exact hfresh (heq ▸ List.mem_map_of_mem hmem)
      rw [List.filter_cons_of_pos (by simpa using hne), List.countP_cons, List.countP_cons,
        ih hrest hmem]
      omega

/-! ### The nodes that are there -/

structure Enrolled (live : List Resident) (nodes : Registry Node) : Prop where
  distinct : (live.map (·.node)).Nodup
  registered : ∀ r ∈ live, ∃ node, nodes.get? r.node = some node ∧ node.context = r.context
  known : ∀ n node, nodes.get? n = some node → ∃ r ∈ live, r.node = n

namespace Enrolled

variable {live : List Resident} {nodes : Registry Node}

lemma append (hn : Enrolled live nodes) {r : Resident} (unused : nodes.get? r.node = none)
    {node : Node} (hnode : node.context = r.context) :
    Enrolled (live ++ [r]) (nodes.put r.node node) := by
  have hfresh : ∀ s ∈ live, s.node ≠ r.node := by
    intro s hs heq
    obtain ⟨x, hx, -⟩ := hn.registered s hs
    rw [heq, unused] at hx
    simp at hx
  refine ⟨?_, ?_, ?_⟩
  · rw [List.map_append, List.nodup_append]
    refine ⟨hn.distinct, by simp, ?_⟩
    intro a ha b hb
    obtain ⟨s, hs, rfl⟩ := List.mem_map.mp ha
    rw [List.mem_singleton.mp hb]
    exact hfresh s hs
  · intro s hs
    rcases List.mem_append.mp hs with hs | hs
    · obtain ⟨x, hx, hxc⟩ := hn.registered s hs
      exact ⟨x, by rw [Registry.get?_put, if_neg (hfresh s hs), hx], hxc⟩
    · rw [List.mem_singleton.mp hs]
      exact ⟨node, by rw [Registry.get?_put, if_pos rfl], hnode⟩
  · intro n x hx
    rw [Registry.get?_put] at hx
    by_cases hn' : n = r.node
    · exact ⟨r, List.mem_append_right _ (List.mem_singleton.mpr rfl), hn'.symm⟩
    · rw [if_neg hn'] at hx
      obtain ⟨s, hs, hsn⟩ := hn.known n x hx
      exact ⟨s, List.mem_append_left _ hs, hsn⟩

lemma erase (hn : Enrolled live nodes) (n : Nat) :
    Enrolled (live.filter fun r => r.node ≠ n) (nodes.erase n) := by
  refine ⟨hn.distinct.sublist (List.filter_sublist.map _), ?_, ?_⟩
  · intro r hr
    obtain ⟨hr, hne⟩ := List.mem_filter.mp hr
    obtain ⟨x, hx, hxc⟩ := hn.registered r hr
    exact ⟨x, by rw [Registry.get?_erase, if_neg (of_decide_eq_true hne), hx], hxc⟩
  · intro n' x hx
    rw [Registry.get?_erase] at hx
    by_cases hn' : n' = n
    · simp [hn'] at hx
    · rw [if_neg hn'] at hx
      obtain ⟨r, hr, hrn⟩ := hn.known n' x hx
      refine ⟨r, List.mem_filter.mpr ⟨hr, ?_⟩, hrn⟩
      rw [hrn]
      exact decide_eq_true hn'

end Enrolled

/-! ### The contexts that shelter them -/

structure Housed (h : History) (contexts : Registry Context) : Prop where
  sheltered : ∀ r ∈ h.live, ∃ context, contexts.get? r.context = some context ∧
    r.options = some context.options
  counts : ∀ c context, contexts.get? c = some context →
    context.Shelters (h.nodesOf c) ∧ h.options.get? c = some context.options

namespace Housed

variable {contexts : Registry Context}

/-- One context changes, goes or comes, with the part of the history that is about it. -/
lemma change (hc : Housed h contexts) {h' : History} {c : Nat} {context' : Option Context}
    (others : ∀ d, d ≠ c → h'.nodesOf d = h.nodesOf d ∧ h'.options.get? d = h.options.get? d)
    (stay : ∀ r ∈ h'.live, r.context ≠ c → r ∈ h.live)
    (here : ∀ r ∈ h'.live, r.context = c → ∃ x, context' = some x ∧ r.options = some x.options)
    (this : ∀ x, context' = some x →
      x.Shelters (h'.nodesOf c) ∧ h'.options.get? c = some x.options) :
    Housed h' (contexts.set c context') := by
  refine ⟨?_, ?_⟩
  · intro r hr
    rw [Registry.get?_set]
    by_cases hrc : r.context = c
    · rw [if_pos hrc]
      exact here r hr hrc
    · rw [if_neg hrc]
      exact hc.sheltered r (stay r hr hrc)
  · intro d x hx
    rw [Registry.get?_set] at hx
    by_cases hdc : d = c
    · rw [if_pos hdc] at hx
      rw [hdc]
      exact this x hx
    · rw [if_neg hdc] at hx
      obtain ⟨hnodes, hoptions⟩ := others d hdc
      rw [hnodes, hoptions]
      exact hc.counts d x hx

/-- A context may change as it likes, if it has as many nodes as before; and it may go if it has
none. -/
lemma setContext (hc : Housed h contexts) {c : Nat} {context : Context}
    (hget : contexts.get? c = some context) (context' : Option Context)
    (same : ∀ x, context' = some x → x.Shelters (h.nodesOf c) ∧ x.options = context.options)
    (gone : context' = none → h.nodesOf c = 0) : Housed h (contexts.set c context') := by
  refine hc.change (fun _ _ => ⟨rfl, rfl⟩) (fun _ hr _ => hr) ?_ ?_
  · intro r hr hrc
    have hpos := nodesOf_pos hr
    obtain ⟨x, hx, hoptions⟩ := hc.sheltered r hr
    rw [hrc] at hpos hx
    rw [hget, Option.some_inj] at hx
    rcases hcontext : context' with _ | y
    · have hzero := gone hcontext
      omega
    · exact ⟨y, rfl, by rw [hoptions, (same y hcontext).2, hx]⟩
  · intro x hx
    obtain ⟨hshelters, hoptions⟩ := same x hx
    exact ⟨hshelters, hoptions ▸ (hc.counts c context hget).2⟩

lemma letGo (hc : Housed h contexts) {c : Nat} {context : Context}
    (hget : contexts.get? c = some context) :
    Housed h (contexts.set c (if h.nodesOf c = 0 then none
      else some ({ context with held := false }.withNodes (h.nodesOf c)))) := by
  have hshelters := (hc.counts c context hget).1
  refine hc.setContext hget _ ?_ ?_
  · intro x hx
    by_cases hzero : h.nodesOf c = 0
    · simp [hzero] at hx
    · rw [if_neg hzero, Option.some.injEq] at hx
      subst hx
      exact ⟨⟨hshelters.participant, rfl, rfl, rfl⟩, rfl⟩
  · intro hnone
    by_contra hmore
    simp [hmore] at hnone

lemma init (hc : Housed h contexts) {c q : Nat} {context : Context} {o : ContextOptions}
    {lines : List LogLine} (unused : contexts.get? c = none)
    (hinit : Context.init o q = (.ok context, lines)) :
    Housed { h with options := h.options.put c o } (contexts.set c (some context)) := by
  obtain ⟨hshelters, -, hoptions, -⟩ := Context.shelters_init hinit
  have hnobody : ∀ r ∈ h.live, r.context ≠ c := by
    intro r hr heq
    obtain ⟨x, hx, -⟩ := hc.sheltered r hr
    rw [heq, unused] at hx
    simp at hx
  have hzero : h.nodesOf c = 0 :=
    List.countP_eq_zero.mpr fun r hr heq => hnobody r hr (of_decide_eq_true heq)
  refine hc.change ?_ (fun _ hr _ => hr) ?_ ?_
  · intro d hd
    exact ⟨rfl, by rw [Registry.get?_put, if_neg hd]⟩
  · intro r hr hrc
    exact absurd hrc (hnobody r hr)
  · intro x hx
    cases hx
    refine ⟨?_, by rw [Registry.get?_put, if_pos rfl, hoptions]⟩
    unfold History.nodesOf at hzero ⊢
    rw [hzero]
    exact hshelters

lemma createNode (hc : Housed h contexts) {c : Nat} {context : Context}
    (hget : contexts.get? c = some context) (n : Nat) :
    Housed { h with live := h.live ++ [⟨n, c, h.options.get? c⟩] }
      (contexts.set c (some (context.withNodes (h.nodesOf c + 1)))) := by
  obtain ⟨hshelters, hoptions⟩ := hc.counts c context hget
  refine hc.change ?_ ?_ ?_ ?_
  · intro d hd
    rw [nodesOf_append, if_neg (Ne.symm hd)]
    exact ⟨rfl, rfl⟩
  · intro r hr hrc
    rcases List.mem_append.mp hr with hr | hr
    · exact hr
    · rw [List.mem_singleton.mp hr] at hrc
      exact absurd rfl hrc
  · intro r hr hrc
    refine ⟨_, rfl, ?_⟩
    rcases List.mem_append.mp hr with hr | hr
    · obtain ⟨x, hx, hxo⟩ := hc.sheltered r hr
      rw [hrc, hget, Option.some_inj] at hx
      rw [hxo, ← hx]
      rfl
    · rw [List.mem_singleton.mp hr]
      exact hoptions
  · intro x hx
    cases hx
    rw [nodesOf_append, if_pos rfl]
    exact ⟨hshelters.withNodes _, hoptions⟩

lemma dropNode (hc : Housed h contexts) (distinct : (h.live.map (·.node)).Nodup) {r : Resident}
    (hr : r ∈ h.live) {k : Nat} {context : Context}
    (hget : contexts.get? r.context = some context) (hk : h.nodesOf r.context = k + 1) :
    Housed { h with live := h.live.filter fun s => s.node ≠ r.node }
      (contexts.set r.context
        (if k = 0 ∧ context.held = false then none else some (context.withNodes k))) := by
  obtain ⟨hshelters, hoptions⟩ := hc.counts r.context context hget
  have hcount : ∀ d, h.nodesOf d =
      History.nodesOf { h with live := h.live.filter fun s => s.node ≠ r.node } d +
        if r.context = d then 1 else 0 :=
    fun d => countP_filter_node distinct hr d
  have hleft := hcount r.context
  rw [if_pos rfl, hk, Nat.add_right_cancel_iff] at hleft
  refine hc.change ?_ (fun s hs _ => List.mem_of_mem_filter hs) ?_ ?_
  · intro d hd
    have hd' := hcount d
    rw [if_neg (Ne.symm hd)] at hd'
    exact ⟨hd'.symm, rfl⟩
  · intro s hs hsc
    -- the context of a node that stays keeps a node
    have hpos := nodesOf_pos (h := { h with live := h.live.filter fun s => s.node ≠ r.node }) hs
    rw [hsc, ← hleft] at hpos
    have hmore : ¬ (k = 0 ∧ context.held = false) := by omega
    obtain ⟨x, hx, hxo⟩ := hc.sheltered s (List.mem_of_mem_filter hs)
    rw [hsc, hget, Option.some_inj] at hx
    refine ⟨context.withNodes k, by rw [if_neg hmore], ?_⟩
    rw [hxo, ← hx]
    rfl
  · intro x hx
    by_cases hgone : k = 0 ∧ context.held = false
    · simp [hgone] at hx
    · rw [if_neg hgone, Option.some_inj] at hx
      rw [← hleft, ← hx]
      exact ⟨hshelters.withNodes k, hoptions⟩

end Housed

/-! ### Calls and runs -/

structure Consistent (h : History) (m : Middleware) : Prop where
  nodes : Enrolled h.live m.nodes
  contexts : Housed h m.contexts

variable {m : Middleware}

lemma consistent_fresh (sequences : Registry Numbering) : Consistent {} (fresh sequences) :=
  ⟨⟨List.nodup_nil, by simp, by simp [fresh]⟩, ⟨by simp, by simp [fresh]⟩⟩

lemma Consistent.home (hm : Consistent h m) {n : Nat} {node : Node}
    (hn : m.nodes.get? n = some node) : ∃ r ∈ h.live, r.node = n ∧ ∃ context,
      m.contexts.get? r.context = some context ∧ node.context = r.context ∧
      context.Shelters (h.nodesOf r.context) := by
  obtain ⟨r, hr, hrn⟩ := hm.nodes.known n node hn
  obtain ⟨node', hnode', hcontext⟩ := hm.nodes.registered r hr
  obtain ⟨context, hc, -⟩ := hm.contexts.sheltered r hr
  rw [hrn, hn] at hnode'
  cases hnode'
  exact ⟨r, hr, hrn, context, hc, hcontext, (hm.contexts.counts _ _ hc).1⟩

/-- The state after a call is as the history says then, and nobody complains. -/
structure Effect.Accounted (h : History) (call : Call) (e : Effect Answer) : Prop where
  state : Consistent (h.next call e.result) e.state
  calm : ∀ line ∈ e.lines, ¬ line.isComplaint

lemma init_calm (o : ContextOptions) (q : Nat) :
    ∀ line ∈ (Context.init o q).2, ¬ line.isComplaint := by
  unfold Context.init
  rcases o.participant with cause | p
  · simp
  · simp [LogLine.isComplaint]

lemma init_accounted (hm : Consistent h m) {c : Nat} (unused : m.contexts.get? c = none)
    (o : ContextOptions) (q : Nat) : (m.init c o q).silent.Accounted h (.init c o q) := by
  have hcalm := init_calm o q
  unfold init Effect.silent
  rcases hinit : Context.init o q with ⟨cause | context, lines⟩
  · rw [hinit] at hcalm
    exact ⟨hm, hcalm⟩
  · rw [hinit] at hcalm
    exact ⟨⟨hm.nodes, hm.contexts.init unused hinit⟩, hcalm⟩

lemma createNode_accounted (hm : Consistent h m) {c n : Nat} {context : Context}
    (hc : m.context? c = some context) (unused : m.nodes.get? n = none) (name scope : String) :
    (m.createNode c n name scope).silent.Accounted h (.createNode c n name scope) := by
  rcases hadmit : m.admitNode c name scope with cause | _
  · rw [createNode_refused hadmit]
    exact ⟨hm, by simp [Effect.silent]⟩
  · have hget := (context?_eq_some_iff.mp hc).1
    rw [createNode_eq hc (hm.contexts.counts c context hget).1 hadmit]
    refine ⟨⟨hm.nodes.append unused rfl, hm.contexts.createNode hget n⟩, ?_⟩
    by_cases hzero : h.nodesOf c = 0
    · simp [Effect.silent, hzero, Context.arrival, LogLine.isComplaint]
    · simp [Effect.silent, hzero, LogLine.isComplaint]

lemma dropNode_accounted (hm : Consistent h m) {n : Nat} {node : Node}
    (hn : m.nodes.get? n = some node) :
    Effect.Accounted h (.dropNode n) ⟨.ok none, (m.dropNode n).state, (m.dropNode n).lines⟩ := by
  obtain ⟨r, hr, rfl, context, hc, hnode, hshelters⟩ := hm.home hn
  obtain ⟨k, hk⟩ := Nat.exists_eq_add_one.mpr (nodesOf_pos hr)
  rw [hk] at hshelters
  rw [dropNode_eq hn (hnode ▸ hc) hshelters, hnode]
  refine ⟨⟨hm.nodes.erase r.node, hm.contexts.dropNode hm.nodes.distinct hr hc hk⟩, ?_⟩
  by_cases hzero : k = 0
  · simp [hzero, Context.departure, LogLine.isComplaint]
  · simp [hzero, LogLine.isComplaint]

lemma shutdown_accounted (hm : Consistent h m) {c : Nat} {context : Context}
    (hc : m.context? c = some context) :
    Effect.Accounted h (.shutdown c) ⟨.ok none, (m.shutdown c).state, (m.shutdown c).lines⟩ := by
  have hget := (context?_eq_some_iff.mp hc).1
  have hshelters := (hm.contexts.counts c context hget).1.shutdown
  rw [shutdown_eq hc]
  refine ⟨⟨hm.nodes, hm.contexts.setContext hget (some context.shutdown.1) ?_ (by simp)⟩, ?_⟩
  · intro x hx
    cases hx
    exact ⟨hshelters, rfl⟩
  · simp [LogLine.isComplaint]

lemma finish_lines (hm : Consistent h m) {c : Nat} {context : Context}
    (hc : m.context? c = some context) (done : (m.finish c).result.isOk) :
    (m.finish c).lines =
      (if h.nodesOf c = 0 then [] else [.nodesLeft (h.nodesOf c)]) ++
        [.contextFinished context.instanceId] := by
  have hget := (context?_eq_some_iff.mp hc).1
  rcases hdown : context.isShutDown
  · rw [finish_refused hc hdown] at done
    simp [Except.isOk, Except.toBool] at done
  · rw [finish_eq hc (hm.contexts.counts c context hget).1 hdown]

lemma finish_accounted (hm : Consistent h m) {c : Nat} {context : Context}
    (hc : m.context? c = some context) : (m.finish c).silent.Accounted h (.finish c) := by
  have hget := (context?_eq_some_iff.mp hc).1
  rcases hdown : context.isShutDown
  · rw [finish_refused hc hdown]
    exact ⟨hm, by simp [Effect.silent]⟩
  · rw [finish_eq hc (hm.contexts.counts c context hget).1 hdown]
    refine ⟨⟨hm.nodes, hm.contexts.letGo hget⟩, ?_⟩
    by_cases hzero : h.nodesOf c = 0
    · simp [Effect.silent, hzero, LogLine.isComplaint]
    · simp [Effect.silent, hzero, LogLine.isComplaint]

lemma letGo_accounted (hm : Consistent h m) {c : Nat} {context : Context}
    (hc : m.context? c = some context) :
    Effect.Accounted h (.letGo c) ⟨.ok none, (m.letGo c).state, (m.letGo c).lines⟩ := by
  have hget := (context?_eq_some_iff.mp hc).1
  rw [letGo_eq hc (hm.contexts.counts c context hget).1]
  exact ⟨⟨hm.nodes, hm.contexts.letGo hget⟩, by simp⟩

lemma createEndpoint_accounted (hm : Consistent h m) (n : Nat) (node : Node) (role : Role)
    (name : String) (qos : QosProfile) :
    Effect.Accounted h (.createEndpoint n role name qos)
      ⟨(m.createEndpoint node role name qos).result.map some,
        (m.createEndpoint node role name qos).state,
        (m.createEndpoint node role name qos).lines⟩ := by
  unfold createEndpoint
  rcases role.checkName name qos with cause | _
  · exact ⟨hm, by simp⟩
  · exact ⟨⟨hm.nodes, hm.contexts⟩, by simp [LogLine.isComplaint]⟩

/-- Every call that can be made is accounted for, whatever it answers. -/
lemma perform_accounted (hm : Consistent h m) {call : Call} {effect : Effect Answer}
    (hp : m.perform call = some effect) : effect.Accounted h call := by
  unfold perform at hp
  cases call with
  | init c o q =>
    rcases hc : m.contexts.get? c with _ | context
    · simp only [hc, Option.some.injEq] at hp
      exact hp ▸ init_accounted hm hc o q
    · simp [hc] at hp
  | createNode c n name scope =>
    rcases hc : m.context? c with _ | context
    · simp [hc] at hp
    · rcases hn : m.nodes.get? n with _ | node
      · simp only [hc, hn, Option.some.injEq] at hp
        exact hp ▸ createNode_accounted hm hc hn name scope
      · simp [hc, hn] at hp
  | dropNode n =>
    rcases hn : m.nodes.get? n with _ | node
    · simp [hn] at hp
    · simp only [hn, Option.some.injEq] at hp
      exact hp ▸ dropNode_accounted hm hn
  | shutdown c =>
    rcases hc : m.context? c with _ | context
    · simp [hc] at hp
    · simp only [hc, Option.some.injEq] at hp
      exact hp ▸ shutdown_accounted hm hc
  | finish c =>
    rcases hc : m.context? c with _ | context
    · simp [hc] at hp
    · simp only [hc, Option.some.injEq] at hp
      exact hp ▸ finish_accounted hm hc
  | letGo c =>
    rcases hc : m.context? c with _ | context
    · simp [hc] at hp
    · simp only [hc, Option.some.injEq] at hp
      exact hp ▸ letGo_accounted hm hc
  | createEndpoint n role name qos =>
    rcases hn : m.nodes.get? n with _ | node
    · simp [hn] at hp
    · simp only [hn, Option.some.injEq] at hp
      exact hp ▸ createEndpoint_accounted hm n node role name qos
  | createGuardCondition c =>
    rcases hc : m.context? c with _ | context
    · simp [hc] at hp
    · simp only [hc, Option.some.injEq] at hp
      exact hp ▸ ⟨⟨hm.nodes, hm.contexts⟩, by simp⟩
  | createLoneGuard q =>
    simp only [Option.some.injEq] at hp
    exact hp ▸ ⟨⟨hm.nodes, hm.contexts⟩, by simp⟩

lemma run_consistent (hm : Consistent h m) (calls : List Call) :
    Consistent (h.along (Run.events step m calls)) (Run.final step m calls) ∧
      ∀ e ∈ Run.events step m calls, ∀ line ∈ e.lines, ¬ line.isComplaint := by
  induction calls generalizing h m with
  | nil => exact ⟨hm, by simp⟩
  | cons call rest ih =>
    rw [Run.events_cons, Run.final_cons]
    unfold step
    rcases hp : m.perform call with _ | effect
    · exact ih hm
    · obtain ⟨hnext, hcalm⟩ := perform_accounted hm hp
      obtain ⟨hlast, hrest⟩ := ih hnext
      refine ⟨hlast, ?_⟩
      intro e he
      rcases List.mem_cons.mp he with rfl | hmem
      · exact hcalm
      · exact hrest e hmem

lemma Consistent.domain (hm : Consistent h m) {r : Resident} (hr : r ∈ h.live) :
    ∃ node context options, m.nodes.get? r.node = some node ∧
      m.contexts.get? r.context = some context ∧ r.options = some options ∧
      ContextOptions.resolveDomain options.domain = .ok context.domain ∧
      m.nodeDomain node = some context.domain := by
  obtain ⟨node, hn, hnode⟩ := hm.nodes.registered r hr
  obtain ⟨context, hc, hoptions⟩ := hm.contexts.sheltered r hr
  have hshelters := (hm.contexts.counts r.context context hc).1
  refine ⟨node, context, context.options, hn, hc, hoptions, hshelters.domain, ?_⟩
  unfold nodeDomain
  rw [hnode, hc, Option.bind_some]
  exact hshelters.participantDomain (nodesOf_pos hr)

/-- **Nodes are accounted for.** After any calls, the nodes that were created and not dropped are
there. Each context counts its own, and has its participant for them. They stay in the domain that
their context was initialized for, also when the context is shut down or its user has let it go. Who
finishes a context hears of its nodes. No registration is lost or left over. -/
theorem nodes_are_accounted_for (sequences : Registry Numbering) (calls : List Call) :
    let es := Run.events step (fresh sequences) calls
    let m := Run.final step (fresh sequences) calls
    let h := History.along {} es
    (∀ n, (m.nodes.get? n).isSome ↔ ∃ r ∈ h.live, r.node = n) ∧
      (∀ c context, m.contexts.get? c = some context →
        context.nodeCount = h.nodesOf c ∧ (context.hasParticipant ↔ 0 < h.nodesOf c)) ∧
      (∀ r ∈ h.live, ∃ node context options, m.nodes.get? r.node = some node ∧
        m.contexts.get? r.context = some context ∧ r.options = some options ∧
        ContextOptions.resolveDomain options.domain = .ok context.domain ∧
        m.nodeDomain node = some context.domain) ∧
      (∀ c context, m.context? c = some context → (m.finish c).result.isOk →
        (m.finish c).lines = (if h.nodesOf c = 0 then [] else [.nodesLeft (h.nodesOf c)]) ++
          [.contextFinished context.instanceId]) ∧
      ∀ e ∈ es, ∀ line ∈ e.lines, ¬ line.isComplaint := by
  intro es m h
  obtain ⟨hm, hcalm⟩ := run_consistent (consistent_fresh sequences) calls
  refine ⟨?_, ?_, fun r hr => hm.domain hr, fun c context => finish_lines hm, hcalm⟩
  · intro n
    constructor
    · intro hsome
      obtain ⟨node, hn⟩ := Option.isSome_iff_exists.mp hsome
      exact hm.nodes.known n node hn
    · rintro ⟨r, hr, rfl⟩
      obtain ⟨node, hn, -⟩ := hm.nodes.registered r hr
      exact Option.isSome_iff_exists.mpr ⟨node, hn⟩
  · intro c context hc
    have hshelters := (hm.contexts.counts c context hc).1
    exact ⟨hshelters.nodeCount, hshelters.hasParticipant⟩

/-- Two nodes of a context are alive when it is finished, and one of another that was let go. -/
theorem nodes_of_two_contexts :
    let calls : List Call :=
      [.init 1 { instanceId := 5, domain := 7, enclave := some "/" } 0,
        .init 2 { enclave := some "/" } 0, .createNode 1 10 "a" "/", .createNode 2 20 "b" "/",
        .createNode 1 11 "c" "/", .dropNode 10, .createNode 1 10 "d" "/", .createNode 1 12 "" "/",
        .letGo 2, .shutdown 1]
    let m := Run.final step (fresh .empty) calls
    (∃ context, m.contexts.get? 1 = some context ∧ context.nodeCount = 2) ∧
      (∃ node, m.nodes.get? 20 = some node ∧ m.nodeDomain node = some 0) ∧
      (m.finish 1).lines = [.nodesLeft 2, .contextFinished 5] := by
  intro calls m
  obtain ⟨-, hcounts, -, hfinish, -⟩ := nodes_are_accounted_for .empty calls
  have hcount : (History.along {} (Run.events step (fresh .empty) calls)).nodesOf 1 = 2 := by
    decide +kernel
  have hcontext : (m.context? 1).map (·.instanceId) = some 5 := by decide +kernel
  have hdomain : (m.nodes.get? 20).map m.nodeDomain = some (some 0) := by decide +kernel
  have hdone : (m.finish 1).result.isOk := by decide +kernel
  obtain ⟨context, hc, hid⟩ := Option.map_eq_some_iff.mp hcontext
  obtain ⟨node, hn, hnode⟩ := Option.map_eq_some_iff.mp hdomain
  have hget := (context?_eq_some_iff.mp hc).1
  refine ⟨⟨context, hget, (hcounts 1 context hget).1.trans hcount⟩, ⟨node, hn, hnode⟩, ?_⟩
  rw [hfinish 1 context hc hdone, hcount, hid]
  rfl

end Middleware
end NullMiddleware
