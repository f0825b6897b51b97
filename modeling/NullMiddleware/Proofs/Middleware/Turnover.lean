import NullMiddleware.Proofs.Middleware.Refusals

/-!
Which calls bring a participant, and which take it away.

The node that finds no other in its context brings the participant, before anything is said of the
node. The node that leaves no other takes it away, after all is said. No other call does either.
-/

namespace NullMiddleware

def LogLine.opens : LogLine → Bool
  | .participantCreated _ _ _ => true
  | _ => false

def LogLine.closes : LogLine → Bool
  | .participantDestroyed _ => true
  | _ => false

namespace Middleware

/-- A call says that a participant begins if and only if it gives a context a node that has none
before. -/
structure Opens (before : History) (call : Call) (result : Answer) (lines : List LogLine) :
    Prop where
  iff : (∃ line ∈ lines, line.opens) ↔ ∃ c n name scope,
    call = .createNode c n name scope ∧ result.isOk ∧ before.nodesOf c = 0
  lines : ∀ c n name scope, call = .createNode c n name scope → result.isOk →
    before.nodesOf c = 0 → ∃ o p, before.options.get? c = some o ∧ o.participant = .ok p ∧
      lines = [.participantCreated p.domain p.enclave p.localhostOnly, .resourceCreated,
        .nodeCreated name scope]

/-- A call says that a participant ends if and only if it takes the last node of a context away. -/
structure Closes (before after : History) (call : Call) (lines : List LogLine) : Prop where
  iff : (∃ line ∈ lines, line.closes) ↔ ∃ r ∈ before.live,
    call = .dropNode r.node ∧ after.nodesOf r.context = 0
  lines : ∀ r ∈ before.live, call = .dropNode r.node → after.nodesOf r.context = 0 →
    ∃ o p name, r.options = some o ∧ o.participant = .ok p ∧
      lines = [.nodeDestroyed name, .participantDestroyed p.domain, .resourceDestroyed]

/-- What the lines of a call have to do with participants. The history says which nodes are alive
before the call and after it. -/
structure Turnover (before after : History) (call : Call) (result : Answer)
    (lines : List LogLine) : Prop where
  opens : Opens before call result lines
  closes : Closes before after call lines

variable {h h' : History} {m : Middleware} {call : Call} {result : Answer}
  {lines : List LogLine}

lemma opens_of_silent
    (others : ∀ c n name scope, call = .createNode c n name scope → result.isOk →
      h.nodesOf c ≠ 0)
    (silent : ∀ line ∈ lines, line.opens = false) : Opens h call result lines := by
  refine ⟨⟨?_, ?_⟩, ?_⟩
  · rintro ⟨line, hline, hopens⟩
    rw [silent line hline] at hopens
    cases hopens
  · rintro ⟨c, n, name, scope, hcall, hok, hnone⟩
    exact absurd hnone (others c n name scope hcall hok)
  · intro c n name scope hcall hok hnone
    exact absurd hnone (others c n name scope hcall hok)

lemma closes_of_silent
    (others : ∀ r ∈ h.live, call = .dropNode r.node → h'.nodesOf r.context ≠ 0)
    (silent : ∀ line ∈ lines, line.closes = false) : Closes h h' call lines := by
  refine ⟨⟨?_, ?_⟩, ?_⟩
  · rintro ⟨line, hline, hcloses⟩
    rw [silent line hline] at hcloses
    cases hcloses
  · rintro ⟨r, hr, hcall, hnone⟩
    exact absurd hnone (others r hr hcall)
  · intro r hr hcall hnone
    exact absurd hnone (others r hr hcall)

lemma turnover_of_other
    (creates : ∀ c n name scope, call = .createNode c n name scope → ¬ result.isOk)
    (drops : ∀ n, call ≠ .dropNode n)
    (silent : ∀ line ∈ lines, line.opens = false ∧ line.closes = false) :
    Turnover h h' call result lines :=
  ⟨opens_of_silent (fun c n name scope hcall hok => absurd hok (creates c n name scope hcall))
      fun line hline => (silent line hline).1,
    closes_of_silent (fun _ _ hcall => absurd hcall (drops _))
      fun line hline => (silent line hline).2⟩

lemma turnover_created (hm : Consistent h m) {c n k : Nat} {name scope : String}
    {context : Context} (there : m.context? c = some context) (shelters : context.Shelters k) :
    Turnover h h' (.createNode c n name scope) (.ok none)
      ((if k = 0 then context.arrival else []) ++ [.nodeCreated name scope]) := by
  obtain ⟨hshelters, hoptions⟩ :=
    hm.contexts.counts c context (context?_eq_some_iff.mp there).1
  obtain rfl : h.nodesOf c = k := hshelters.nodeCount.symm.trans shelters.nodeCount
  refine ⟨?_, closes_of_silent (by simp) ?_⟩
  · by_cases hzero : h.nodesOf c = 0
    · rw [if_pos hzero]
      refine ⟨⟨fun _ => ⟨c, n, name, scope, rfl, rfl, hzero⟩, ?_⟩, ?_⟩
      · exact fun _ => ⟨_, List.mem_cons_self, rfl⟩
      · rintro _ _ _ _ ⟨⟩ _ _
        exact ⟨context.options, _, hoptions, shelters.participant, rfl⟩
    · rw [if_neg hzero, List.nil_append]
      refine opens_of_silent ?_ (by simp [LogLine.opens])
      rintro _ _ _ _ ⟨⟩ _
      exact hzero
  · by_cases hzero : h.nodesOf c = 0 <;> simp [hzero, Context.arrival, LogLine.closes]

lemma turnover_dropped (hm : Consistent h m) {n k : Nat} {node : Node} {context : Context}
    (there : m.nodes.get? n = some node) (home : m.contexts.get? node.context = some context)
    (shelters : context.Shelters (k + 1)) :
    Turnover h (h.next (.dropNode n) (.ok none)) (.dropNode n) (.ok none)
      (.nodeDestroyed node.qualifiedName :: (if k = 0 then context.departure else [])) := by
  -- the node is in one context, whatever the history calls it
  have hown : ∀ r ∈ h.live, r.node = n →
      (h.next (.dropNode n) (.ok none)).nodesOf r.context = k ∧
        r.options = some context.options := by
    rintro r hr rfl
    obtain ⟨node', hnode', hcontext⟩ := hm.nodes.registered r hr
    obtain ⟨context', hc', hoptions⟩ := hm.contexts.sheltered r hr
    rw [there, Option.some_inj] at hnode'
    subst hnode'
    rw [← hcontext, home, Option.some_inj] at hc'
    subst hc'
    have hbefore : h.nodesOf r.context = k + 1 :=
      hcontext ▸ (hm.contexts.counts _ _ home).1.nodeCount.symm.trans shelters.nodeCount
    have hcount := countP_filter_node hm.nodes.distinct hr r.context
    rw [if_pos rfl] at hcount
    refine ⟨?_, hoptions⟩
    simp only [History.next, History.nodesOf] at hbefore ⊢
    omega
  refine ⟨opens_of_silent (by simp) ?_, ?_⟩
  · by_cases hzero : k = 0 <;> simp [hzero, Context.departure, LogLine.opens]
  · by_cases hzero : k = 0
    · rw [if_pos hzero]
      refine ⟨⟨fun _ => ?_, ?_⟩, ?_⟩
      · obtain ⟨r, hr, hrn⟩ := hm.nodes.known n node there
        exact ⟨r, hr, by rw [hrn], (hown r hr hrn).1.trans hzero⟩
      · exact fun _ => ⟨_, List.mem_cons_of_mem _ List.mem_cons_self, rfl⟩
      · intro r hr hcall _
        exact ⟨_, _, _, (hown r hr (Call.dropNode.inj hcall).symm).2, shelters.participant, rfl⟩
    · rw [if_neg hzero]
      refine closes_of_silent ?_ (by simp [LogLine.closes])
      intro r hr hcall hnone
      exact hzero ((hown r hr (Call.dropNode.inj hcall).symm).1.symm.trans hnone)

lemma init_silent {o : ContextOptions} {q : Nat} {context : Context}
    (done : Context.init o q = (.ok context, lines)) :
    ∀ line ∈ lines, line.opens = false ∧ line.closes = false := by
  unfold Context.init at done
  rcases hp : o.participant with cause | p
  · simp [hp] at done
  · simp only [hp, Prod.mk.injEq] at done
    rw [← done.2]
    simp [LogLine.opens, LogLine.closes]

/-- What a call has to do with participants. -/
lemma Performed.turnover (hm : Consistent h m) {effect : Effect Answer}
    (hp : Performed m call effect) :
    Turnover h (h.next call effect.result) call effect.result effect.lines := by
  cases hp with
  | created there shelters => exact turnover_created hm there shelters
  | dropped there home shelters => exact turnover_dropped hm there home shelters
  | initialized _ done => exact turnover_of_other (by simp) (by simp) (init_silent done)
  | uncreated =>
    exact turnover_of_other (by simp [Except.isOk, Except.toBool]) (by simp) (by simp)
  | @finished c k =>
    refine turnover_of_other (by simp) (by simp) ?_
    by_cases hk : k = 0 <;> simp [hk, LogLine.opens, LogLine.closes]
  | shutDown | endpoint =>
    exact turnover_of_other (by simp) (by simp) (by simp [LogLine.opens, LogLine.closes])
  | uninitialized | unfinished | letGo | unacceptable | guard | loneGuard =>
    exact turnover_of_other (by simp) (by simp) (by simp)

/-! ### A run -/

lemma along_concat (h : History) (past : List Event) (e : Event) :
    h.along (past ++ [e]) = (h.along past).next e.call e.result := by
  simp [History.along]

/-- In a run, calls bring and take away participants as the history before them says. -/
theorem run_turnover (sequences : Registry Numbering) (calls : List Call) :
    ∀ past e later, Run.events step (fresh sequences) calls = past ++ e :: later →
      Turnover (.along {} past) (.along {} (past ++ [e])) e.call e.result e.lines := by
  have hstart : Consistent (.along {} []) (fresh sequences) := consistent_fresh sequences
  refine (Run.keeps_looking_back (P := fun past m => Consistent (.along {} past) m)
    (Q := fun past e =>
      Turnover (.along {} past) (.along {} (past ++ [e])) e.call e.result e.lines)
    ?_ hstart calls).1
  intro past m call hm
  unfold step
  rcases hp : m.perform call with _ | effect
  · simpa using hm
  · refine ⟨?_, ?_⟩
    · rintro _ ⟨⟩
      rw [along_concat]
      exact (performed hm hp).turnover hm
    · rw [Option.toList_some, along_concat]
      exact (perform_accounted hm hp).state

end Middleware
end NullMiddleware
