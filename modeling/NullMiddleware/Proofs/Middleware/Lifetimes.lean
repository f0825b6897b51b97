import Mathlib.Algebra.Order.BigOperators.Group.Finset
import NullMiddleware.Proofs.Middleware.Chronicle
import NullMiddleware.Proofs.Middleware.StepwiseLifetime
import NullMiddleware.Proofs.Middleware.Turnover

/-!
The log as a history of the participant.

Whatever threads do with the nodes of a context, and with the context itself, the log tells one
lifetime of the participant after another, and each node is created and destroyed within one of
them. If calls are made one after another, a lifetime begins with the node that finds no other, and
ends with the node that leaves none.
-/

namespace NullMiddleware

structure Context.Lends (context : Context) (p : Participant) : Prop where
  domain : p.domain = context.domain
  enclave : context.options.enclave = some p.enclave
  localhostOnly : p.localhostOnly = context.options.localhostOnly

lemma Context.Shelters.lends {context : Context} {k : Nat} (h : context.Shelters k) :
    context.Lends context.shared.lifecycle.factory := by
  have hp := h.participant
  unfold ContextOptions.participant at hp
  rcases henclave : context.options.enclave with _ | enclave
  · simp [henclave] at hp
  · rw [henclave] at hp
    rcases hd : ContextOptions.resolveDomain context.options.domain with cause | domain
    · simp [hd, Except.map] at hp
    · simp only [hd, Except.map, Except.ok.injEq] at hp
      refine ⟨rfl, ?_, ?_⟩
      · rw [henclave, ← hp]
      · rw [← hp]

namespace StepwiseLifetime

open Chronicle (Note Story opening closing)
open StepwiseCreation (Plan Stage Stride Strode Booked halfway load)

variable {T : Type}

/-! ### What is told of a context -/

def Deed.context : Deed → Nat
  | .strode (.called q) | .strode (.seen q) | .strode (.named q) | .strode (.attached q)
  | .strode (.entered q _) | .strode (.refused q _) => q.context
  | .strode (.dropped _ c) | .strode (.shutDown c) | .announced _ c | .finished c | .letGo c => c

def Deed.node? : Deed → Option Nat
  | .strode (.entered _ n) | .announced n _ => some n
  | _ => none

/-- What a step tells of context `c`. -/
def notes (c : Nat) (deed : Deed) (lines : List LogLine) : List Note :=
  if deed.context = c then lines.filterMap (Note.ofLine? deed.node?) else []

/-- What a run tells of context `c`. -/
def story (c : Nat) (es : List (Event T)) : List Note := es.flatMap fun e => notes c e.deed e.lines

lemma story_concat (c : Nat) (past : List (Event T)) (e : Event T) :
    story c (past ++ [e]) = story c past ++ notes c e.deed e.lines := by
  simp [story]

/-- The node is there, and nobody is about to drop it. -/
def Present (w : StepwiseLifetime T) (c n : Nat) : Prop :=
  (∃ node, w.middleware.nodes.get? n = some node ∧ node.context = c) ∧
    ∀ j, w.task j ≠ .dropping n

/-- What was told of context `c` is a story of participants with these settings. There is a
participant if the context counts nodes, and the nodes that were told of and have not gone are
present. -/
def Told (c : Nat) (p : Participant) (log : List Note) (w : StepwiseLifetime T) : Prop :=
  ∃ there, Story p log there ∧ (there.isSome ↔ 0 < w.middleware.nodesIn c) ∧
    ∀ inside ∈ there, ∀ n, inside n ↔ w.Present c n

variable {c : Nat} {p : Participant} {log : List Note} {w w' : StepwiseLifetime T} {i : T}

lemma told_start {m : Middleware} {context : Context} (there : m.contexts.get? c = some context)
    (empty : context.nodeCount = 0) (p : Participant) :
    Told (T := T) c p [] { middleware := m } := by
  have hzero : m.nodesIn c = 0 := by
    rw [Middleware.nodesIn, there]
    exact empty
  exact ⟨none, Story.nil p, by simp [hzero], by simp⟩

lemma Told.quiet (h : Told c p log w) {told : List Note} (silent : told = [])
    (count : 0 < w'.middleware.nodesIn c ↔ 0 < w.middleware.nodesIn c)
    (present : ∀ n, w'.Present c n ↔ w.Present c n) : Told c p (log ++ told) w' := by
  obtain ⟨there, hstory, hsome, hinside⟩ := h
  rw [silent, List.append_nil]
  refine ⟨there, hstory, hsome.trans count.symm, ?_⟩
  intro inside hmem n
  rw [present, hinside inside hmem n]

lemma Told.opened (h : Told c p log w) (before : w.middleware.nodesIn c = 0)
    (after : 0 < w'.middleware.nodesIn c) (nobody : ∀ n, ¬ w'.Present c n) :
    Told c p (log ++ [opening p]) w' := by
  obtain ⟨_ | inside, hstory, hsome, -⟩ := h
  · refine ⟨some fun _ => false, hstory.opened, by simp [after], ?_⟩
    rintro _ ⟨⟩ n
    simp [nobody n]
  · simp [before] at hsome

lemma Told.inside (h : Told c p log w) (pos : 0 < w.middleware.nodesIn c) :
    ∃ inside : Nat → Bool, Story p log (some inside) ∧ ∀ n, inside n ↔ w.Present c n := by
  obtain ⟨there, hstory, hsome, hinside⟩ := h
  obtain ⟨inside, rfl⟩ := Option.isSome_iff_exists.mp (hsome.mpr pos)
  exact ⟨inside, hstory, hinside inside rfl⟩

lemma Told.created (h : Told c p log w) (before : 0 < w.middleware.nodesIn c)
    (after : 0 < w'.middleware.nodesIn c) {n : Nat} (absent : ¬ w.Present c n)
    (present : ∀ j, w'.Present c j ↔ j = n ∨ w.Present c j) :
    Told c p (log ++ [.created n]) w' := by
  obtain ⟨inside, hstory, hinside⟩ := h.inside before
  have hn : inside n = false := by
    rw [← hinside n] at absent
    exact Bool.eq_false_iff.mpr absent
  refine ⟨some (Function.update inside n true), hstory.created hn, by simp [after], ?_⟩
  rintro _ ⟨⟩ j
  rw [present, ← hinside]
  by_cases hj : j = n <;> simp [hj]

lemma Told.destroyed (h : Told c p log w) (before : 0 < w.middleware.nodesIn c)
    (after : 0 < w'.middleware.nodesIn c) {n : Nat} (there : w.Present c n)
    (present : ∀ j, w'.Present c j ↔ j ≠ n ∧ w.Present c j) :
    Told c p (log ++ [.destroyed n]) w' := by
  obtain ⟨inside, hstory, hinside⟩ := h.inside before
  have hn : inside n := (hinside n).mpr there
  refine ⟨some (Function.update inside n false), hstory.destroyed hn, by simp [after], ?_⟩
  rintro _ ⟨⟩ j
  rw [present, ← hinside]
  by_cases hj : j = n <;> simp [hj]

lemma Told.closed (h : Told c p log w) (before : 0 < w.middleware.nodesIn c)
    (after : w'.middleware.nodesIn c = 0) (nobody : ∀ n, ¬ w.Present c n) :
    Told c p (log ++ [closing p]) w' := by
  obtain ⟨inside, hstory, hinside⟩ := h.inside before
  have hempty : ∀ n, inside n = false := by
    intro n
    refine Bool.eq_false_iff.mpr ?_
    intro hn
    exact nobody n ((hinside n).mp hn)
  exact ⟨none, hstory.closed hempty, by simp [after], by simp⟩

lemma notes_eq_nil (deed : Deed) {lines : List LogLine}
    (h : ∀ line ∈ lines, ∀ n, Note.ofLine? n line = none) : notes c deed lines = [] := by
  unfold notes
  split
  · exact List.filterMap_eq_nil_iff.mpr fun line hline => h line hline _
  · rfl

lemma Aside.untold {lines : List LogLine} (h : Aside lines) :
    ∀ line ∈ lines, ∀ n, Note.ofLine? n line = none := by
  intro line hline n
  obtain ⟨k, rfl⟩ | ⟨id, rfl⟩ := h line hline <;> rfl

section

variable [DecidableEq T]

lemma free_next (w : StepwiseLifetime T) (i : T) (g : Progress) (n : Nat) :
    (∀ j, (w.next i g).task j ≠ .dropping n) ↔
      g.task ≠ .dropping n ∧ ∀ j, j ≠ i → w.task j ≠ .dropping n :=
  Function.forall_update_iff w.task fun _ task => task ≠ .dropping n

lemma free_iff (w : StepwiseLifetime T) (i : T) (n : Nat) :
    (∀ j, w.task j ≠ .dropping n) ↔
      w.task i ≠ .dropping n ∧ ∀ j, j ≠ i → w.task j ≠ .dropping n := by
  have hsame := Function.forall_update_iff w.task (a := i) (b := w.task i)
    fun _ task => task ≠ .dropping n
  rwa [Function.update_eq_self] at hsame

lemma present_next {stage stage' : Stage} (task : w.task i = .creating stage) {g : Progress}
    (after : g.task = .creating stage') (n : Nat) :
    (w.next i g).Present c n ↔
      (∃ node, g.after.nodes.get? n = some node ∧ node.context = c) ∧
        ∀ j, w.task j ≠ .dropping n := by
  unfold Present
  rw [free_next, free_iff w i, task, after]
  simp [next]

lemma Told.still (h : Told c p log w) {stage stage' : Stage} (task : w.task i = .creating stage)
    {g : Progress} (after : g.task = .creating stage') (nodes : g.after.nodes = w.middleware.nodes)
    (count : g.after.nodesIn c = w.middleware.nodesIn c)
    (silent : notes c g.deed g.lines = []) :
    Told c p (log ++ notes c g.deed g.lines) (w.next i g) := by
  refine h.quiet silent ?_ ?_
  · rw [next, count]
  · intro n
    rw [present_next task after, nodes]
    rfl

end

/-! ### A step -/

variable [Fintype T]

lemma nodesIn_pos (sound : Sound c p w) {n : Nat} {node : Node}
    (hn : w.middleware.nodes.get? n = some node) (hc : node.context = c) :
    0 < w.middleware.nodesIn c := by
  obtain ⟨live, hb⟩ := sound.books
  obtain ⟨k, context, hcontext, hshelters⟩ := hb.home_shelters hn
  rw [← hc, Middleware.nodesIn, hcontext, Option.map_some, Option.getD_some, hshelters.nodeCount]
  exact Nat.succ_pos k

lemma nodesIn_pos_of_attached (sound : Sound c p w) {q : Plan}
    (task : w.task i = .creating (.attached q)) {context : Context}
    (there : w.middleware.context? q.context = some context) :
    0 < w.middleware.nodesIn q.context := by
  obtain ⟨live, hb⟩ := sound.books
  have hget := (Middleware.context?_eq_some_iff.mp there).1
  have hpending : (w.stages i).pending q.context = 1 := by
    rw [stages_eq task]
    simp [Task.stage, Stage.pending]
  have hle : (w.stages i).pending q.context ≤ halfway w.stages q.context :=
    Finset.single_le_sum (f := fun j => (w.stages j).pending q.context)
      (fun _ _ => Nat.zero_le _) (Finset.mem_univ i)
  rw [Middleware.nodesIn, hget, Option.map_some, Option.getD_some,
    (hb.counts _ _ hget).nodeCount, load]
  omega

/-- Who drops the last node finds no other. -/
lemma absent_of_last (sound : Sound c p w) {n : Nat} (task : w.task i = .dropping n)
    {node : Node} (hn : w.middleware.nodes.get? n = some node) (hc : node.context = c)
    (last : w.middleware.nodesIn c = 1) (j : Nat) : ¬ w.Present c j := by
  rintro ⟨⟨node', hj, hc'⟩, hfree⟩
  have hne : j ≠ n := by
    rintro rfl
    exact hfree i task
  obtain ⟨live, hb⟩ := sound.books
  obtain ⟨r, hr, rfl, hnode, context, hcontext, hshelters⟩ := hb.home hn
  obtain ⟨r', hr', rfl, hnode', -⟩ := hb.home hj
  obtain rfl : r.context = c := hnode.symm.trans hc
  rw [Middleware.nodesIn, hcontext, Option.map_some, Option.getD_some,
    hshelters.nodeCount, load,
    Middleware.countP_filter_node hb.nodes.distinct hr, if_pos rfl] at last
  -- the other node would be counted too
  have hother : 0 < (live.filter fun s => s.node ≠ r.node).countP
      fun s => s.context = r.context :=
    List.countP_pos_iff.mpr ⟨r', List.mem_filter.mpr ⟨hr', by simpa using hne⟩,
      by simp [← hnode', hc']⟩
  omega

variable [DecidableEq T]

lemma Told.attached (h : Told c p log w) (sound : Sound c p w) {q : Plan}
    (task : w.task i = .creating (.named q)) {k : Nat} {context : Context}
    (there : w.middleware.context? q.context = some context) (up : context.isShutDown = false)
    (shelters : context.Shelters k) :
    let m := { w.middleware with
      contexts := w.middleware.contexts.put q.context (context.withNodes (k + 1)) }
    let lines := if k = 0 then context.arrival else []
    Told c p (log ++ notes c (.strode (.attached q)) lines)
      (w.next i (.ofStride ⟨.attached q, .attached q, m, lines⟩)) := by
  intro m lines
  have hget := (Middleware.context?_eq_some_iff.mp there).1
  have hcount := (Strode.attached there up shelters).nodesIn c
  by_cases hc : q.context = c
  · subst hc
    have hbefore : w.middleware.nodesIn q.context = k := by
      rw [Middleware.nodesIn, hget]
      exact shelters.nodeCount
    have hafter : m.nodesIn q.context = k + 1 := by
      simpa [StepwiseCreation.Deed.releases, StepwiseCreation.Deed.attaches, hbefore] using hcount
    have hown : notes q.context (.strode (.attached q)) lines =
        lines.filterMap (Note.ofLine? none) := if_pos rfl
    by_cases hk : k = 0
    · -- the first node that is attached brings the participant with it, and is not told of yet
      have hopening : notes q.context (.strode (.attached q)) lines = [opening p] := by
        rw [hown]
        simp [lines, hk, Context.arrival, Note.ofLine?, opening, sound.settings context hget]
      rw [hopening]
      refine h.opened (hbefore.trans hk) ?_ ?_
      · rw [next, Progress.ofStride, hafter]
        exact Nat.succ_pos k
      · rintro n ⟨⟨node, hn, hnode⟩, -⟩
        have hpos := nodesIn_pos sound hn hnode
        omega
    · have hsilent : notes q.context (.strode (.attached q)) lines = [] := by
        rw [hown]
        simp [lines, hk]
      refine h.quiet hsilent ?_ fun n => ?_
      · rw [next, Progress.ofStride, hafter, hbefore]
        omega
      · rw [present_next task rfl]
        rfl
  · have hsame : m.nodesIn c = w.middleware.nodesIn c := by
      simpa [StepwiseCreation.Deed.releases, StepwiseCreation.Deed.attaches, hc] using hcount
    exact h.still (g := .ofStride ⟨.attached q, .attached q, m, lines⟩) task rfl rfl hsame
      (if_neg hc)

lemma Told.entered (h : Told c p log w) (sound : Sound c p w) {q : Plan}
    (task : w.task i = .creating (.attached q)) {n : Nat} {context : Context}
    (there : w.middleware.context? q.context = some context)
    (unused : w.middleware.nodes.get? n = none) :
    let m := { (w.middleware.draw context.sequences .guardConditions).2 with
      nodes := w.middleware.nodes.put n
        (w.middleware.newNode q.context context q.name q.scope) }
    let lines := [.nodeCreated q.name q.scope]
    Told c p (log ++ notes c (.strode (.entered q n)) lines)
      (w.next i (.ofStride ⟨.entered q n, .idle, m, lines⟩)) := by
  intro m lines
  have hcount : m.nodesIn c = w.middleware.nodesIn c := (Strode.entered there unused).nodesIn c
  have habsent : ¬ w.Present c n := by
    rintro ⟨⟨node, hn, -⟩, -⟩
    rw [unused] at hn
    cases hn
  have hfree : ∀ j, w.task j ≠ .dropping n := by
    intro j hj
    have hsome := (sound.leaving j n hj).1
    rw [unused] at hsome
    cases hsome
  have hpresent : ∀ j, (w.next i (.ofStride ⟨.entered q n, .idle, m, lines⟩)).Present c j ↔
      (j = n ∧ q.context = c) ∨ w.Present c j := by
    intro j
    rw [present_next task rfl, Progress.ofStride, Registry.get?_put]
    by_cases hj : j = n
    · subst hj
      simp [hfree, habsent, Middleware.newNode]
    · rw [if_neg hj]
      simp [hj, Present]
  by_cases hc : q.context = c
  · subst hc
    -- the thread's own registration has kept the participant there
    have hpos := nodesIn_pos_of_attached sound task there
    have hcreated : notes q.context (.strode (.entered q n)) lines = [.created n] := if_pos rfl
    rw [hcreated]
    refine h.created hpos ?_ habsent ?_
    · rw [next, Progress.ofStride, hcount]
      exact hpos
    · intro j
      rw [hpresent, and_iff_left rfl]
  · refine h.quiet (if_neg hc) ?_ ?_
    · rw [next, Progress.ofStride, hcount]
    · intro j
      rw [hpresent]
      simp [hc]

lemma Told.announced (h : Told c p log w) (sound : Sound c p w)
    (task : w.task i = .creating .idle) {n : Nat} {node : Node}
    (there : w.middleware.nodes.get? n = some node) (free : ∀ j, w.task j ≠ .dropping n) :
    let lines := [.nodeDestroyed node.qualifiedName]
    Told c p (log ++ notes c (.announced n node.context) lines)
      (w.next i ⟨.announced n node.context, .dropping n, w.middleware, lines⟩) := by
  intro lines
  have hpresent : ∀ j,
      (w.next i ⟨.announced n node.context, .dropping n, w.middleware, lines⟩).Present c j ↔
        j ≠ n ∧ w.Present c j := by
    intro j
    unfold Present
    rw [free_next, free_iff w i, task]
    simp only [next, ne_eq, Task.dropping.injEq, reduceCtorEq, not_false_eq_true, true_and]
    rw [eq_comm (a := n), and_left_comm]
  by_cases hc : node.context = c
  · have hdestroyed : notes c (.announced n node.context) lines = [.destroyed n] := if_pos hc
    have hpos := nodesIn_pos sound there hc
    rw [hdestroyed]
    refine h.destroyed hpos ?_ ⟨⟨node, there, hc⟩, free⟩ hpresent
    exact hpos
  · refine h.quiet (if_neg hc) Iff.rfl ?_
    intro j
    rw [hpresent, and_iff_right_iff_imp]
    rintro ⟨⟨node', hnode', hc'⟩, -⟩ rfl
    rw [there, Option.some_inj] at hnode'
    exact hc (hnode' ▸ hc')

lemma Told.released (h : Told c p log w) (sound : Sound c p w) {n k : Nat} {node : Node}
    {context : Context} (task : w.task i = .dropping n)
    (there : w.middleware.nodes.get? n = some node)
    (home : w.middleware.contexts.get? node.context = some context)
    (shelters : context.Shelters (k + 1)) :
    let m := { w.middleware with
      contexts := w.middleware.contexts.set node.context
        (if k = 0 ∧ context.held = false then none else some (context.withNodes k))
      nodes := w.middleware.nodes.erase n }
    let lines := if k = 0 then context.departure else []
    Told c p (log ++ notes c (.strode (.dropped n node.context)) lines)
      (w.next i ⟨.strode (.dropped n node.context), .creating .idle, m, lines⟩) := by
  intro m lines
  have hcount := (Strode.dropped there home shelters).nodesIn c
  have hpresent : ∀ j,
      (w.next i ⟨.strode (.dropped n node.context), .creating .idle, m, lines⟩).Present c j ↔
        w.Present c j := by
    intro j
    unfold Present
    rw [free_next, free_iff w i, task]
    by_cases hj : j = n
    · simp [next, m, hj, Registry.get?_erase]
    · simp [next, m, hj, Ne.symm hj, Registry.get?_erase]
  by_cases hc : node.context = c
  · subst hc
    have hbefore : w.middleware.nodesIn node.context = k + 1 := by
      rw [Middleware.nodesIn, home]
      exact shelters.nodeCount
    have hafter : m.nodesIn node.context = k := by
      simpa [StepwiseCreation.Deed.releases, StepwiseCreation.Deed.attaches, hbefore] using hcount
    have hown : notes node.context (.strode (.dropped n node.context)) lines =
        lines.filterMap (Note.ofLine? none) := if_pos rfl
    by_cases hk : k = 0
    · -- no node is left to tell of: the last one has said that it goes
      have hclosing : notes node.context (.strode (.dropped n node.context)) lines =
          [closing p] := by
        rw [hown]
        simp [lines, hk, Context.departure, Context.domain, Note.ofLine?, closing,
          sound.settings context home]
      rw [hclosing]
      refine h.closed ?_ ?_ ?_
      · omega
      · exact hafter.trans hk
      · exact absent_of_last sound task there rfl (by rw [hbefore, hk])
    · have hsilent : notes node.context (.strode (.dropped n node.context)) lines = [] := by
        rw [hown]
        simp [lines, hk]
      refine h.quiet hsilent ?_ hpresent
      rw [next, hafter, hbefore]
      omega
  · have hsame : m.nodesIn c = w.middleware.nodesIn c := by
      simpa [StepwiseCreation.Deed.releases, StepwiseCreation.Deed.attaches, hc] using hcount
    refine h.quiet (if_neg hc) ?_ hpresent
    rw [next, hsame]

lemma nodesIn_letGo {m : Middleware} {d k : Nat} {context : Context}
    (there : m.context? d = some context) (shelters : context.Shelters k) (c : Nat) :
    Middleware.nodesIn
      { m with
        contexts := m.contexts.set d
          (if k = 0 then none else some ({ context with held := false }.withNodes k)) } c =
      m.nodesIn c := by
  rw [StepwiseCreation.nodesIn_of_set rfl]
  by_cases hc : c = d
  · subst hc
    rw [if_pos rfl, Middleware.nodesIn, (Middleware.context?_eq_some_iff.mp there).1,
      Option.map_some, Option.getD_some, shelters.nodeCount]
    by_cases hk : k = 0
    · simp [hk]
    · simp [hk, Context.withNodes, Context.nodeCount]
  · rw [if_neg hc]

/-- What is told stays a story, whatever a thread does. -/
theorem Told.next (h : Told c p log w) (sound : Sound c p w) {g : Progress}
    (hg : Progressed w i g) : Told c p (log ++ notes c g.deed g.lines) (w.next i g) := by
  cases hg with
  | @strode stage s task hs stays =>
    have hcount := hs.nodesIn c
    cases hs with
    | attached there up shelters => exact h.attached sound task there up shelters
    | entered there unused => exact h.entered sound task there unused
    | dropped => exact absurd rfl (stays _ _)
    | shutDown there =>
      refine h.still task rfl rfl hcount (notes_eq_nil _ ?_)
      rintro line hline n
      rw [List.mem_singleton.mp hline]
      rfl
    | called | tooLate | seen | misnamed | named | overtaken =>
      exact h.still task rfl rfl rfl (notes_eq_nil _ nofun)
  | announced task there free => exact h.announced sound task there free
  | released task there home shelters => exact h.released sound task there home shelters
  | letGo task there free shelters aside =>
    exact h.still task rfl rfl (nodesIn_letGo there shelters c)
      (notes_eq_nil _ aside.untold)
  | stayed task => exact h.still task rfl rfl rfl (notes_eq_nil _ nofun)

/-! ### Runs -/

/-- What a run tells of a context is a story. -/
lemma run_told {start : StepwiseLifetime T} (sound : Sound c p start) (told : Told c p [] start)
    (turns : List (T × Move)) :
    Told c p (story c (Run.events step start turns)) (Run.final step start turns) := by
  have hstart : Sound c p start ∧ Told c p (story c ([] : List (Event T))) start := ⟨sound, told⟩
  refine (Run.keeps_looking_back (P := fun past w => Sound c p w ∧ Told c p (story c past) w)
    (Q := fun _ _ => True) ?_ hstart turns).2.2
  rintro past w turn ⟨sound, told⟩
  refine ⟨fun _ _ => trivial, ?_⟩
  rcases sound.toOrderly.step_cases turn with hstay | ⟨g, hg, hstep⟩
  · rw [hstay, Option.toList_none, List.append_nil]
    exact ⟨sound, told⟩
  · rw [hstep, Option.toList_some, story_concat]
    exact ⟨sound.next hg, told.next sound hg⟩

/-- **The log tells of one lifetime after another.** Threads that share the contexts of a process
create nodes step by step, drop them in two, shut contexts down, finish them and let them go, in any
order. For a context that has no nodes at first, such as a new one, the log then tells of one
lifetime of the participant after another. The participant has the settings of the context, each
node is created before it is destroyed, and all nodes of a lifetime are gone before it ends; the
last lifetime lasts for as long as the context counts nodes. No thread gets stuck, and with nobody
in between its steps are as one call. If all calls are made one after another, a lifetime begins
with a node that finds no other and ends with one that leaves none. -/
theorem log_tells_lifetimes (sequences : Registry Numbering) (calls : List Middleware.Call)
    (turns : List (T × Move)) :
    let start := Run.final Middleware.step (Middleware.fresh sequences) calls
    let es := Run.events step { middleware := start } turns
    let last := Run.final step { middleware := start } turns
    (∀ c context, start.contexts.get? c = some context → context.nodeCount = 0 →
        ∃ p, context.Lends p ∧ Told c p (story c es) last) ∧
      (∀ i n, last.task i ≠ .creating .idle → last.middleware.nodes.get? n = none →
        (last.progress i (.proceed n)).isSome) ∧
      (∀ i q n, last.task i = .creating .idle → (last.middleware.context? q.context).isSome →
        last.middleware.nodes.get? n = none →
        AsOne last ((i, .call q) :: List.replicate 4 (i, .proceed n))
          (last.middleware.createNode q.context n q.name q.scope).state
          (last.middleware.createNode q.context n q.name q.scope).lines) ∧
      (∀ i n k, last.task i = .creating .idle → (last.middleware.nodes.get? n).isSome →
        (∀ j, last.task j ≠ .dropping n) →
        AsOne last [(i, .drop n), (i, .proceed k)] (last.middleware.dropNode n).state
          (last.middleware.dropNode n).lines) ∧
      ∀ past e later,
        Run.events Middleware.step (Middleware.fresh sequences) calls = past ++ e :: later →
        Middleware.Turnover (.along {} past) (.along {} (past ++ [e])) e.call e.result e.lines := by
  intro start es last
  obtain ⟨hm, -⟩ := Middleware.run_consistent (Middleware.consistent_fresh sequences) calls
  have horderly : Orderly { middleware := start } := orderly_start (T := T) hm
  refine ⟨?_, fun _ _ busy unused => (horderly.run turns).goes_on busy unused,
    fun _ _ _ free there unused => asOne_created free there unused,
    fun _ _ k free there idle => asOne_dropped free there idle k,
    Middleware.run_turnover sequences calls⟩
  intro c context hc hempty
  have hshelters := (hm.contexts.counts c context hc).1
  have hsettings : ∀ x, start.contexts.get? c = some x →
      x.shared.lifecycle.factory = context.shared.lifecycle.factory := by
    intro x hx
    rw [hc, Option.some_inj] at hx
    rw [hx]
  exact ⟨_, hshelters.lends,
    run_told ⟨horderly, hsettings⟩ (told_start hc hempty _) turns⟩

/-- A node comes and goes, and the participant with it. Then a thread creates a node while another
drops its own, and the context is gone before the last node is. -/
theorem log_of_two_threads :
    let o : ContextOptions := { domain := 42, enclave := some "/robots", localhostOnly := true }
    let calls : List Middleware.Call :=
      [.init 1 o 0, .createNode 1 10 "a" "/", .dropNode 10]
    let a : Plan := ⟨1, "a", "/"⟩
    let b : Plan := ⟨1, "b", "/"⟩
    let turns : List (Fin 2 × Move) :=
      [(0, .call a), (0, .proceed 10), (0, .proceed 10), (0, .proceed 10), (1, .call b),
        (1, .proceed 11), (0, .proceed 10), (1, .proceed 11), (0, .drop 10), (1, .proceed 11),
        (0, .proceed 0), (0, .shutdown 1), (1, .proceed 11), (0, .finish 1), (1, .drop 11),
        (1, .proceed 0)]
    let start := Run.final Middleware.step (Middleware.fresh .empty) calls
    let es := Run.events step { middleware := start } turns
    (∃ p, p.domain = 42 ∧ p.enclave = "/robots" ∧ p.localhostOnly ∧ Story p (story 1 es) none) ∧
      ∃ e, (Run.events Middleware.step (Middleware.fresh .empty) calls)[2]? = some e ∧
        ∃ line ∈ e.lines, line.closes := by
  intro o calls a b turns start es
  obtain ⟨hstory, -, -, -, hturnover⟩ := log_tells_lifetimes .empty calls turns
  refine ⟨?_, ?_⟩
  · have hstart : (start.contexts.get? 1).map (fun x => (x.options, x.domain, x.nodeCount)) =
        some (o, 42, 0) := by decide +kernel
    obtain ⟨context, hc, hcontext⟩ := Option.map_eq_some_iff.mp hstart
    simp only [Prod.mk.injEq] at hcontext
    obtain ⟨hoptions, hdomain, hempty⟩ := hcontext
    obtain ⟨p, hlends, there, htold, hsome, -⟩ := hstory 1 context hc hempty
    have hgone : (Run.final step { middleware := start } turns).middleware.nodesIn 1 = 0 := by
      decide +kernel
    have hnone : there = none := by
      rw [hgone] at hsome
      simpa using hsome
    have henclave := hlends.enclave
    rw [hoptions, Option.some_inj] at henclave
    refine ⟨p, hlends.domain.trans hdomain, henclave.symm, ?_, hnone ▸ htold⟩
    rw [hlends.localhostOnly, hoptions]
  · have hthird : ((Run.events Middleware.step (Middleware.fresh .empty) calls)[2]?).map
        (fun e => (e.call, e.result)) = some (.dropNode 10, .ok none) := by rfl
    obtain ⟨e, he, hevent⟩ := Option.map_eq_some_iff.mp hthird
    obtain ⟨hcall, hresult⟩ := Prod.mk.inj hevent
    refine ⟨e, he, (hturnover _ _ _ (Run.eq_take_cons_drop he)).closes.iff.mpr ?_⟩
    rw [Middleware.along_concat, hcall, hresult]
    have hlive : (Middleware.History.along {} ((Run.events Middleware.step
        (Middleware.fresh .empty) calls).take 2)).live = [⟨10, 1, some o⟩] := by rfl
    have hmem : (⟨10, 1, some o⟩ : Middleware.Resident) ∈ (Middleware.History.along {}
        ((Run.events Middleware.step (Middleware.fresh .empty) calls).take 2)).live := by
      rw [hlive]
      exact List.mem_singleton.mpr rfl
    exact ⟨_, hmem, rfl, by decide +kernel⟩

end StepwiseLifetime
end NullMiddleware
