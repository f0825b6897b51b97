import NullMiddleware.Proofs.Middleware.ShutdownRace

/-!
Nodes that are created step by step, and dropped step by step too.

To creation as in `StepwiseCreation` comes an end that takes two steps: a node that is dropped says
so first and is released then, and other threads may come in between. A node is dropped by one
thread only. Contexts end as well: one may be finished or let go by any thread, once no other thread
is about to create a node in it.
-/

namespace NullMiddleware

inductive StepwiseLifetime.Task
  | creating (stage : StepwiseCreation.Stage)
  /-- The end of node `n` is announced, and the node is not released yet. -/
  | dropping (n : Nat)

/-- A middleware, and what each of the threads that share it is about: it creates a node, or it is
half-way with dropping one. -/
structure StepwiseLifetime (T : Type) where
  middleware : Middleware
  task : T → StepwiseLifetime.Task := fun _ => .creating .idle

namespace StepwiseLifetime

open StepwiseCreation (Plan Stage Stride Strode Booked halfway load)

def Task.stage : Task → Stage
  | creating stage => stage
  | dropping _ => .idle

def Task.drops (n : Nat) : Task → Bool
  | dropping j => j = n
  | creating _ => false

/-- The thread is about to create a node in context `c`. -/
def Task.uses (c : Nat) (task : Task) : Bool := task.stage.plan?.any (·.context = c)

inductive Move
  | call (plan : Plan)
  | drop (n : Nat)
  /-- What is under way goes one step further; if this enters a node, the node gets number `n`. -/
  | proceed (n : Nat)
  | shutdown (c : Nat)
  | finish (c : Nat)
  | letGo (c : Nat)

/-- What a step comes to. -/
inductive Deed
  | strode (deed : StepwiseCreation.Deed)
  /-- Node `n` of context `c` says that it is destroyed. -/
  | announced (n c : Nat)
  | finished (c : Nat)
  | letGo (c : Nat)

structure Progress where
  deed : Deed
  task : Task
  after : Middleware
  lines : List LogLine

def Progress.ofStride (s : Stride) : Progress :=
  ⟨.strode s.deed, .creating s.stage, s.after, s.lines⟩

structure Event (T : Type) where
  thread : T
  deed : Deed
  lines : List LogLine

variable {T : Type}

def stages (w : StepwiseLifetime T) : T → Stage := Task.stage ∘ w.task

def next [DecidableEq T] (w : StepwiseLifetime T) (i : T) (g : Progress) : StepwiseLifetime T :=
  ⟨g.after, Function.update w.task i g.task⟩

lemma stages_eq {w : StepwiseLifetime T} {i : T} {task : Task} (h : w.task i = task) :
    w.stages i = task.stage := by
  rw [stages, Function.comp_apply, h]

lemma stages_next [DecidableEq T] (w : StepwiseLifetime T) (i : T) (g : Progress) :
    (w.next i g).stages = Function.update w.stages i g.task.stage :=
  Function.comp_update Task.stage w.task i g.task

lemma stages_stay [DecidableEq T] {w w' : StepwiseLifetime T} {i : T} (before : w.stages i = .idle)
    (after : w'.stages = Function.update w.stages i .idle) : w'.stages = w.stages := by
  rw [after, Function.update_eq_self_iff, before]

section

variable [Fintype T]

/-- The next step of a thread, if it can make the move. -/
def progress (w : StepwiseLifetime T) (i : T) (move : Move) : Option Progress :=
  match w.task i, move with
  | .creating stage, .call p => (w.middleware.stride stage (.call p)).map .ofStride
  | .creating stage, .shutdown c => (w.middleware.stride stage (.shutdown c)).map .ofStride
  | .creating stage, .proceed n => (w.middleware.stride stage (.proceed n)).map .ofStride
  | .dropping n, .proceed _ => (w.middleware.stride .idle (.dropNode n)).map .ofStride
  | .creating .idle, .drop n =>
    match w.middleware.nodes.get? n with
    | none => none
    | some node =>
      if ∃ j, (w.task j).drops n then none
      else some ⟨.announced n node.context, .dropping n, w.middleware, w.middleware.announceDrop n⟩
  | .creating .idle, .finish c =>
    match w.middleware.context? c with
    | none => none
    | some _ =>
      if ∃ j, (w.task j).uses c then none
      else
        let effect := w.middleware.finish c
        some ⟨.finished c, .creating .idle, effect.state, effect.lines⟩
  | .creating .idle, .letGo c =>
    match w.middleware.context? c with
    | none => none
    | some _ =>
      if ∃ j, (w.task j).uses c then none
      else
        let effect := w.middleware.letGo c
        some ⟨.letGo c, .creating .idle, effect.state, effect.lines⟩
  | _, _ => none

def step [DecidableEq T] (w : StepwiseLifetime T) (turn : T × Move) :
    Option (Event T) × StepwiseLifetime T :=
  match w.progress turn.1 turn.2 with
  | none => (none, w)
  | some g => (some ⟨turn.1, g.deed, g.lines⟩, w.next turn.1 g)

end

/-! ### What a step comes to -/

/-- A context that its user lets go says nothing of participants and nodes. -/
def Aside (lines : List LogLine) : Prop :=
  ∀ line ∈ lines, (∃ k, line = .nodesLeft k) ∨ ∃ id, line = .contextFinished id

inductive Progressed (w : StepwiseLifetime T) (i : T) : Progress → Prop
  | strode {stage : Stage} {s : Stride} (task : w.task i = .creating stage)
    (strode : Strode w.middleware stage s) (stays : ∀ n c, s.deed ≠ .dropped n c) :
    Progressed w i (.ofStride s)
  | announced {n : Nat} {node : Node} (task : w.task i = .creating .idle)
    (there : w.middleware.nodes.get? n = some node) (free : ∀ j, w.task j ≠ .dropping n) :
    Progressed w i
      ⟨.announced n node.context, .dropping n, w.middleware, [.nodeDestroyed node.qualifiedName]⟩
  | released {n k : Nat} {node : Node} {context : Context} (task : w.task i = .dropping n)
    (there : w.middleware.nodes.get? n = some node)
    (home : w.middleware.contexts.get? node.context = some context)
    (shelters : context.Shelters (k + 1)) :
    Progressed w i
      ⟨.strode (.dropped n node.context), .creating .idle,
        { w.middleware with
          contexts := w.middleware.contexts.set node.context
            (if k = 0 ∧ context.held = false then none else some (context.withNodes k))
          nodes := w.middleware.nodes.erase n },
        if k = 0 then context.departure else []⟩
  | letGo {c k : Nat} {context : Context} {deed : Deed} {lines : List LogLine}
    (task : w.task i = .creating .idle) (there : w.middleware.context? c = some context)
    (free : ∀ j p, (w.stages j).plan? = some p → p.context ≠ c) (shelters : context.Shelters k)
    (aside : Aside lines) :
    Progressed w i
      ⟨deed, .creating .idle,
        { w.middleware with
          contexts := w.middleware.contexts.set c
            (if k = 0 then none else some ({ context with held := false }.withNodes k)) }, lines⟩
  | stayed {c : Nat} (task : w.task i = .creating .idle) :
    Progressed w i ⟨.finished c, .creating .idle, w.middleware, []⟩

lemma move_of_dropped {m : Middleware} {stage : Stage} {move : StepwiseCreation.Move} {s : Stride}
    (hs : m.stride stage move = some s) {n c : Nat} (dropped : s.deed = .dropped n c) :
    move = .dropNode n := by
  unfold Middleware.stride at hs
  dsimp only at hs
  split at hs
  case h_6 k =>
    rcases hn : m.nodes.get? k with _ | node
    · simp [hn] at hs
    · simp only [hn, Option.some.injEq] at hs
      rw [← hs] at dropped
      cases dropped
      rfl
  case h_8 => cases hs
  all_goals
    -- a step of another kind, or none
    split at hs <;> cases hs
    all_goals cases dropped

variable {w : StepwiseLifetime T} {i : T}

lemma letGo_progressed {c k : Nat} {context : Context} (task : w.task i = .creating .idle)
    (there : w.middleware.context? c = some context)
    (free : ∀ j p, (w.stages j).plan? = some p → p.context ≠ c)
    (shelters : context.Shelters k) :
    Progressed w i ⟨.letGo c, .creating .idle, (w.middleware.letGo c).state,
      (w.middleware.letGo c).lines⟩ := by
  rw [Middleware.letGo_eq there shelters]
  exact .letGo task there free shelters (by simp [Aside])

lemma finish_progressed {c k : Nat} {context : Context} (task : w.task i = .creating .idle)
    (there : w.middleware.context? c = some context)
    (free : ∀ j p, (w.stages j).plan? = some p → p.context ≠ c)
    (shelters : context.Shelters k) :
    Progressed w i ⟨.finished c, .creating .idle, (w.middleware.finish c).state,
      (w.middleware.finish c).lines⟩ := by
  rcases hdown : context.isShutDown
  · rw [Middleware.finish_refused there hdown]
    exact .stayed task
  · rw [Middleware.finish_eq there shelters hdown]
    refine .letGo task there free shelters ?_
    intro line hline
    by_cases hk : k = 0
    · simp only [hk, if_true, List.nil_append, List.mem_singleton] at hline
      exact .inr ⟨_, hline⟩
    · simp only [if_neg hk, List.singleton_append, List.mem_cons, List.not_mem_nil, or_false]
        at hline
      exact hline.imp (fun h => ⟨_, h⟩) fun h => ⟨_, h⟩

lemma free_of_unused {c : Nat} (unused : ¬ ∃ j, (w.task j).uses c) :
    ∀ j p, (w.stages j).plan? = some p → p.context ≠ c := by
  intro j p hp heq
  refine unused ⟨j, ?_⟩
  have hplan : (w.task j).stage.plan? = some p := hp
  simp [Task.uses, hplan, heq]

variable [Fintype T]

lemma strode_progressed {live : List Middleware.Resident}
    (books : Booked live w.middleware (halfway w.stages)) {stage : Stage}
    (task : w.task i = .creating stage)
    (plans : ∀ p, stage.plan? = some p → w.middleware.phase p.context ≠ .absent)
    {move : StepwiseCreation.Move} (stays : ∀ n, move ≠ .dropNode n) {g : Progress}
    (h : (w.middleware.stride stage move).map Progress.ofStride = some g) :
    Progressed w i g := by
  obtain ⟨s, hs, rfl⟩ := Option.map_eq_some_iff.mp h
  refine .strode task (StepwiseCreation.strode books plans hs) ?_
  intro n c hdeed
  exact stays n (move_of_dropped hs hdeed)

lemma released_progressed {live : List Middleware.Resident}
    (books : Booked live w.middleware (halfway w.stages)) {n : Nat} (task : w.task i = .dropping n)
    {g : Progress} (h : (w.middleware.stride .idle (.dropNode n)).map Progress.ofStride = some g) :
    Progressed w i g := by
  rcases hn : w.middleware.nodes.get? n with _ | node
  · simp [Middleware.stride, hn] at h
  · obtain ⟨k, context, hc, hk⟩ := books.home_shelters hn
    simp only [Middleware.stride, hn, StepwiseCreation.detachNode_eq hn hc hk, Option.map_some,
      Option.some.injEq] at h
    exact h ▸ .released task hn hc hk

/-- Every step that can be made comes to one of its outcomes. -/
theorem progressed {live : List Middleware.Resident}
    (books : Booked live w.middleware (halfway w.stages))
    (plans : ∀ j p, (w.stages j).plan? = some p → w.middleware.phase p.context ≠ .absent)
    {move : Move} {g : Progress} (h : w.progress i move = some g) : Progressed w i g := by
  have shelters : ∀ {c context}, w.middleware.context? c = some context →
      context.Shelters (load live (halfway w.stages) c) := fun hc =>
    books.counts _ _ (Middleware.context?_eq_some_iff.mp hc).1
  have hplans := plans i
  unfold progress at h
  rcases htask : w.task i with stage | n
  · rw [stages_eq htask] at hplans
    rw [htask] at h
    cases move with
    | call p => exact strode_progressed books htask hplans (by simp) h
    | shutdown c => exact strode_progressed books htask hplans (by simp) h
    | proceed n => exact strode_progressed books htask hplans (by simp) h
    | drop n =>
      cases stage with
      | idle =>
        rcases hn : w.middleware.nodes.get? n with _ | node
        · simp [hn] at h
        · by_cases hfree : ∃ j, (w.task j).drops n
          · simp [hn, hfree] at h
          · simp only [hn, if_neg hfree, Middleware.announceDrop, Option.some.injEq] at h
            refine h ▸ .announced htask hn ?_
            intro j hj
            exact hfree ⟨j, by simp [hj, Task.drops]⟩
      | _ => simp at h
    | finish c =>
      cases stage with
      | idle =>
        rcases hc : w.middleware.context? c with _ | context
        · simp [hc] at h
        · by_cases hfree : ∃ j, (w.task j).uses c
          · simp [hc, hfree] at h
          · simp only [hc, if_neg hfree, Option.some.injEq] at h
            exact h ▸ finish_progressed htask hc (free_of_unused hfree) (shelters hc)
      | _ => simp at h
    | letGo c =>
      cases stage with
      | idle =>
        rcases hc : w.middleware.context? c with _ | context
        · simp [hc] at h
        · by_cases hfree : ∃ j, (w.task j).uses c
          · simp [hc, hfree] at h
          · simp only [hc, if_neg hfree, Option.some.injEq] at h
            exact h ▸ letGo_progressed htask hc (free_of_unused hfree) (shelters hc)
      | _ => simp at h
  · rw [htask] at h
    cases move with
    | proceed j => exact released_progressed books htask h
    | _ => simp at h

/-! ### What holds of the threads -/

section

variable {m : Middleware} {stage : Stage} {s : Stride}

lemma factory_of_strode (hs : Strode m stage s) {c : Nat} {x : Context}
    (hx : s.after.contexts.get? c = some x) : ∃ context, m.contexts.get? c = some context ∧
      x.shared.lifecycle.factory = context.shared.lifecycle.factory := by
  have hset : ∀ {d : Nat} {context : Context} {y : Option Context},
      m.contexts.get? d = some context →
      (∀ z, y = some z → z.shared.lifecycle.factory = context.shared.lifecycle.factory) →
      (m.contexts.set d y).get? c = some x → ∃ context, m.contexts.get? c = some context ∧
        x.shared.lifecycle.factory = context.shared.lifecycle.factory := by
    intro d context y hget hsame hy
    rw [Registry.get?_set] at hy
    by_cases hc : c = d
    · rw [if_pos hc] at hy
      exact ⟨context, hc ▸ hget, hsame x hy⟩
    · rw [if_neg hc] at hy
      exact ⟨x, hy, rfl⟩
  cases hs with
  | called | tooLate | seen | misnamed | named | overtaken | entered => exact ⟨x, hx, rfl⟩
  | @attached q k context there =>
    refine hset (y := some (context.withNodes (k + 1)))
      (Middleware.context?_eq_some_iff.mp there).1 ?_ hx
    rintro _ ⟨⟩
    rfl
  | dropped there home =>
    refine hset home ?_ hx
    intro z hz
    split at hz <;> cases hz
    rfl
  | @shutDown d context there =>
    refine hset (y := some context.shutdown.1) (Middleware.context?_eq_some_iff.mp there).1 ?_ hx
    rintro _ ⟨⟩
    rfl

lemma nodes_of_strode (hs : Strode m stage s) (stays : ∀ n c, s.deed ≠ .dropped n c) {n : Nat}
    (hn : (m.nodes.get? n).isSome) : (s.after.nodes.get? n).isSome := by
  cases hs with
  | dropped => exact absurd rfl (stays _ _)
  | @entered q j context there unused =>
    rw [Registry.get?_put]
    split
    · rfl
    · exact hn
  | _ => exact hn

/-- A context may be let go without harm to the books. -/
lemma booked_letGo {live : List Middleware.Resident} {pending : Nat → Nat}
    (hb : Booked live m pending) {c k : Nat} {context : Context}
    (there : m.context? c = some context) (shelters : context.Shelters k) :
    Booked live
      { m with
        contexts := m.contexts.set c
          (if k = 0 then none else some ({ context with held := false }.withNodes k)) }
      pending := by
  have hload := hb.load_eq (Middleware.context?_eq_some_iff.mp there).1 shelters
  refine hb.change rfl hb.nodes (fun _ hr => hr) ?_ (fun _ _ => rfl) ?_
  · intro r hr hrc
    have hpos := StepwiseCreation.load_pos hr pending
    rw [hrc, hload] at hpos
    rw [if_neg (by omega)]
    simp
  · intro y hy
    split at hy <;> cases hy
    rw [hload]
    exact ⟨shelters.participant, rfl, rfl, rfl⟩

end

/-- What holds of the threads at all times. -/
structure Orderly (w : StepwiseLifetime T) : Prop where
  books : ∃ live, Booked live w.middleware (halfway w.stages)
  plans : ∀ i q, (w.stages i).plan? = some q → w.middleware.phase q.context ≠ .absent
  /-- A node that is dropped is still there, and dropped by one thread. -/
  leaving : ∀ i n, w.task i = .dropping n →
    (w.middleware.nodes.get? n).isSome ∧ ∀ j, w.task j = .dropping n → j = i

/-- What holds of the threads, and of a context with these settings. -/
structure Sound (c : Nat) (p : Participant) (w : StepwiseLifetime T) : Prop extends Orderly w where
  settings : ∀ context, w.middleware.contexts.get? c = some context →
    context.shared.lifecycle.factory = p

variable {c : Nat} {p : Participant} {g : Progress}

/-- What a thread has begun it can go on with. -/
lemma Orderly.goes_on (h : Orderly w) (busy : w.task i ≠ .creating .idle) {n : Nat}
    (unused : w.middleware.nodes.get? n = none) : (w.progress i (.proceed n)).isSome := by
  rcases htask : w.task i with stage | k
  · have hbusy : stage ≠ .idle := by
      rintro rfl
      exact busy htask
    simpa only [progress, htask, Option.isSome_map] using
      StepwiseCreation.stride_proceed hbusy unused
  · obtain ⟨node, hnode⟩ := Option.isSome_iff_exists.mp (h.leaving i k htask).1
    simp only [progress, htask, Middleware.stride, hnode, Option.map_some, Option.isSome_some]

lemma Sound.settings_next [DecidableEq T] (h : Sound c p w) (hg : Progressed w i g) :
    ∀ x, (w.next i g).middleware.contexts.get? c = some x →
      x.shared.lifecycle.factory = p := by
  have hstrode : ∀ {stage : Stage} {s : Stride}, Strode w.middleware stage s →
      ∀ x, s.after.contexts.get? c = some x → x.shared.lifecycle.factory = p := by
    intro stage s hs x hx
    obtain ⟨context, hc, hsame⟩ := factory_of_strode hs hx
    exact hsame.trans (h.settings context hc)
  cases hg with
  | strode task hs => exact hstrode hs
  | released task there home shelters => exact hstrode (.dropped there home shelters)
  | announced | stayed => exact h.settings
  | @letGo d k context deed lines task there =>
    intro x hx
    simp only [StepwiseLifetime.next, Registry.get?_set] at hx
    split at hx
    case isTrue hc =>
      split at hx <;> cases hx
      exact h.settings context (hc ▸ (Middleware.context?_eq_some_iff.mp there).1)
    case isFalse => exact h.settings x hx

namespace Orderly

variable [DecidableEq T]

lemma books_strode (h : Orderly w) {stage : Stage} (hi : w.stages i = stage) {s : Stride}
    (hs : Strode w.middleware stage s) :
    ∃ live, Booked live s.after (halfway (Function.update w.stages i s.stage)) := by
  subst hi
  obtain ⟨live, hb⟩ := h.books
  exact hs.booked hb (StepwiseCreation.halfway_update w.stages i s.stage)

lemma plans_strode (h : Orderly w) {stage : Stage} (hi : w.stages i = stage) {s : Stride}
    (hs : Strode w.middleware stage s) :
    ∀ j q, (Function.update w.stages i s.stage j).plan? = some q →
      s.after.phase q.context ≠ .absent := by
  subst hi
  exact (Function.forall_update_iff w.stages fun _ stage => ∀ q, stage.plan? = some q →
    s.after.phase q.context ≠ .absent).mpr
      ⟨hs.plan (h.plans i), fun j _ q hq => hs.stays (h.plans j q hq)⟩

lemma leaving_creating (h : Orderly w) {after : Middleware} {stage : Stage}
    (kept : ∀ j n, j ≠ i → w.task j = .dropping n → (after.nodes.get? n).isSome) :
    ∀ j n, Function.update w.task i (.creating stage) j = .dropping n →
      (after.nodes.get? n).isSome ∧
        ∀ k, Function.update w.task i (.creating stage) k = .dropping n → k = j := by
  have hother : ∀ j n, Function.update w.task i (.creating stage) j = .dropping n →
      j ≠ i ∧ w.task j = .dropping n := by
    intro j n hj
    by_cases hji : j = i
    · subst hji
      simp at hj
    · rw [Function.update_of_ne hji] at hj
      exact ⟨hji, hj⟩
  intro j n hj
  obtain ⟨hji, hj⟩ := hother j n hj
  refine ⟨kept j n hji hj, ?_⟩
  intro k hk
  exact (h.leaving j n hj).2 k (hother k n hk).2

lemma leaving_announced (h : Orderly w) {n : Nat} (there : (w.middleware.nodes.get? n).isSome)
    (free : ∀ j, w.task j ≠ .dropping n) :
    ∀ j n', Function.update w.task i (.dropping n) j = .dropping n' →
      (w.middleware.nodes.get? n').isSome ∧
        ∀ k, Function.update w.task i (.dropping n) k = .dropping n' → k = j := by
  intro j n' hj
  by_cases hji : j = i
  · subst hji
    rw [Function.update_self, Task.dropping.injEq] at hj
    subst hj
    refine ⟨there, ?_⟩
    intro k hk
    by_contra hkj
    rw [Function.update_of_ne hkj] at hk
    exact free k hk
  · rw [Function.update_of_ne hji] at hj
    refine ⟨(h.leaving j n' hj).1, ?_⟩
    intro k hk
    by_cases hki : k = i
    · subst hki
      rw [Function.update_self, Task.dropping.injEq] at hk
      exact absurd (hk ▸ hj) (free j)
    · rw [Function.update_of_ne hki] at hk
      exact (h.leaving j n' hj).2 k hk

theorem next (h : Orderly w) (hg : Progressed w i g) : Orderly (w.next i g) := by
  have hnext := stages_next w i g
  cases hg with
  | @strode stage s task hs stays =>
    have hi := stages_eq task
    refine ⟨hnext ▸ h.books_strode hi hs, hnext ▸ h.plans_strode hi hs, ?_⟩
    exact h.leaving_creating fun j n _ hj => nodes_of_strode hs stays (h.leaving j n hj).1
  | @released n k node context task there home shelters =>
    have hi := stages_eq task
    have hs := Strode.dropped there home shelters
    refine ⟨hnext ▸ h.books_strode hi hs, hnext ▸ h.plans_strode hi hs, ?_⟩
    refine h.leaving_creating ?_
    intro j n' hji hj
    -- nobody else drops the node that goes
    have hne : n' ≠ n := by
      rintro rfl
      exact hji ((h.leaving i n' task).2 j hj)
    change ((w.middleware.nodes.erase n).get? n').isSome
    rw [Registry.get?_erase, if_neg hne]
    exact (h.leaving j n' hj).1
  | announced task there free =>
    have hsame := stages_stay (stages_eq task) hnext
    exact ⟨hsame ▸ h.books, hsame ▸ h.plans,
      h.leaving_announced (Option.isSome_iff_exists.mpr ⟨_, there⟩) free⟩
  | @letGo d k context deed lines task there free shelters aside =>
    have hsame := stages_stay (stages_eq task) hnext
    -- the context goes from its user's hands only, and no thread has plans for it
    obtain ⟨live, hb⟩ := h.books
    refine ⟨⟨live, hsame ▸ booked_letGo hb there shelters⟩, ?_,
      h.leaving_creating fun j n _ hj => (h.leaving j n hj).1⟩
    intro j q hq
    rw [hsame] at hq
    rw [Middleware.phase_of_set_other (m := w.middleware) (x := if k = 0 then none
      else some ({ context with held := false }.withNodes k)) rfl (free j q hq)]
    exact h.plans j q hq
  | stayed task =>
    have hsame := stages_stay (stages_eq task) hnext
    exact ⟨hsame ▸ h.books, hsame ▸ h.plans,
      h.leaving_creating fun j n _ hj => (h.leaving j n hj).1⟩

end Orderly

lemma orderly_start {h : Middleware.History} {m : Middleware} (hm : Middleware.Consistent h m) :
    Orderly (T := T) { middleware := m } :=
  ⟨(StepwiseCreation.reached_start (T := T) hm).books, nofun, nofun⟩

lemma Orderly.step_cases [DecidableEq T] (h : Orderly w) (turn : T × Move) :
    w.step turn = (none, w) ∨ ∃ g, Progressed w turn.1 g ∧
      w.step turn = (some ⟨turn.1, g.deed, g.lines⟩, w.next turn.1 g) := by
  unfold step
  rcases hg : w.progress turn.1 turn.2 with _ | g
  · exact .inl rfl
  · obtain ⟨live, hb⟩ := h.books
    exact .inr ⟨g, progressed hb h.plans hg, rfl⟩

lemma Orderly.run [DecidableEq T] (h : Orderly w) (turns : List (T × Move)) :
    Orderly (Run.final StepwiseLifetime.step w turns) := by
  refine (Run.keeps (P := Orderly) (Q := fun _ => True) ?_ h).2
  intro w turn _ h
  refine ⟨trivial, ?_⟩
  rcases h.step_cases turn with hstay | ⟨g, hg, hstep⟩
  · rw [hstay]
    exact h
  · rw [hstep]
    exact h.next hg

lemma Sound.next [DecidableEq T] (h : Sound c p w) (hg : Progressed w i g) :
    Sound c p (w.next i g) :=
  ⟨h.toOrderly.next hg, h.settings_next hg⟩

/-! ### A thread alone -/

/-- Only creation is looked at: who drops a node does not create one. -/
def creation (w : StepwiseLifetime T) : StepwiseCreation T := ⟨w.middleware, w.stages⟩

def Move.ofCreation : StepwiseCreation.Move → Move
  | .call p => .call p
  | .proceed n => .proceed n
  | .dropNode n => .drop n
  | .shutdown c => .shutdown c

def Event.ofCreation (e : StepwiseCreation.Event T) : Event T := ⟨e.thread, .strode e.deed, e.lines⟩

variable [DecidableEq T]

/-- The steps come to the same as one call: they leave the same middleware, and write the same
lines. -/
structure AsOne (w : StepwiseLifetime T) (turns : List (T × Move)) (after : Middleware)
    (lines : List LogLine) : Prop where
  final : Run.final step w turns = { w with middleware := after }
  lines : (Run.events step w turns).flatMap (·.lines) = lines

/-- A thread that creates a node steps as where drops take one step. -/
lemma step_ofCreation {stage : Stage} (task : w.task i = .creating stage)
    {move : StepwiseCreation.Move} (stays : ∀ n, move ≠ .dropNode n) :
    (w.step (i, .ofCreation move)).1 = (w.creation.step (i, move)).1.map .ofCreation ∧
      (w.step (i, .ofCreation move)).2.creation = (w.creation.step (i, move)).2 ∧
      ∃ stage', (w.step (i, .ofCreation move)).2.task =
        Function.update w.task i (.creating stage') := by
  have hprogress : w.progress i (.ofCreation move) =
      (w.middleware.stride stage move).map .ofStride := by
    cases move with
    | dropNode n => exact absurd rfl (stays n)
    | _ => simp only [progress, task, Move.ofCreation]
  have hstride : w.creation.middleware.stride (w.creation.stage i) move =
      w.middleware.stride stage move := by
    have hstage : w.creation.stage i = stage := stages_eq task
    rw [hstage]
    rfl
  rcases hs : w.middleware.stride stage move with _ | s
  · have hstep : w.step (i, .ofCreation move) = (none, w) := by
      simp only [step, hprogress, hs, Option.map_none]
    have hcreation : w.creation.step (i, move) = (none, w.creation) := by
      simp only [StepwiseCreation.step, hstride, hs]
    rw [hstep, hcreation]
    exact ⟨rfl, rfl, stage, by simp [← task]⟩
  · have hstep : w.step (i, .ofCreation move) =
        (some ⟨i, .strode s.deed, s.lines⟩, w.next i (.ofStride s)) := by
      simp only [step, hprogress, hs, Option.map_some, Progress.ofStride]
    have hcreation : w.creation.step (i, move) =
        (some ⟨i, s.deed, w.middleware, s.after, s.lines⟩,
          ⟨s.after, Function.update w.stages i s.stage⟩) := by
      simp only [StepwiseCreation.step, hstride, hs]
      rfl
    rw [hstep, hcreation]
    refine ⟨rfl, ?_, s.stage, rfl⟩
    rw [creation, stages_next]
    rfl

lemma run_ofCreation {stage : Stage} (task : w.task i = .creating stage)
    {turns : List (T × StepwiseCreation.Move)}
    (own : ∀ turn ∈ turns, turn.1 = i ∧ ∀ n, turn.2 ≠ .dropNode n) :
    let moves := turns.map (Prod.map id Move.ofCreation)
    Run.events step w moves = (Run.events StepwiseCreation.step w.creation turns).map .ofCreation ∧
      (Run.final step w moves).creation = Run.final StepwiseCreation.step w.creation turns ∧
      ∃ stage', (Run.final step w moves).task = Function.update w.task i (.creating stage') := by
  intro moves
  have hstep : ∀ (v : StepwiseCreation T) (w' : StepwiseLifetime T), ∀ turn ∈ turns,
      (w'.creation = v ∧ ∃ stage', w'.task = Function.update w.task i (.creating stage')) →
      (w'.step (turn.map id Move.ofCreation)).1 = (v.step turn).1.map .ofCreation ∧
        (w'.step (turn.map id Move.ofCreation)).2.creation = (v.step turn).2 ∧
        ∃ stage', (w'.step (turn.map id Move.ofCreation)).2.task =
          Function.update w.task i (.creating stage') := by
    rintro _ w' ⟨j, move⟩ hturn ⟨rfl, stage', htask⟩
    obtain ⟨rfl, stays⟩ := own _ hturn
    have hj : w'.task j = .creating stage' := by rw [htask, Function.update_self]
    obtain ⟨hevent, hcreation, stage'', hnext⟩ := step_ofCreation hj stays
    refine ⟨hevent, hcreation, stage'', ?_⟩
    rw [Prod.map_apply, id_eq, hnext, htask, Function.update_idem]
  have hstart : w.creation = w.creation ∧ ∃ stage', w.task =
      Function.update w.task i (.creating stage') :=
    ⟨rfl, stage, by rw [← task, Function.update_eq_self]⟩
  obtain ⟨houtcomes, hrest⟩ := Run.simulates_renamed hstep hstart
  refine ⟨?_, hrest⟩
  rw [Run.events, houtcomes, List.reduceOption_map]
  rfl

lemma asOne_created (free : w.task i = .creating .idle) {q : Plan}
    (there : (w.middleware.context? q.context).isSome) {n : Nat}
    (unused : w.middleware.nodes.get? n = none) :
    AsOne w ((i, .call q) :: List.replicate 4 (i, .proceed n))
      (w.middleware.createNode q.context n q.name q.scope).state
      (w.middleware.createNode q.context n q.name q.scope).lines := by
  have hcall : StepwiseCreation.AsOneCall w.creation i q n :=
    StepwiseCreation.asOneCall (stages_eq free) there unused
  obtain ⟨hfinal, hlines, -⟩ := hcall
  have hown : ∀ turn ∈ StepwiseCreation.wholeCall i q n,
      turn.1 = i ∧ ∀ j, turn.2 ≠ .dropNode j := by
    intro turn hturn
    rcases List.mem_cons.mp hturn with rfl | hturn
    · exact ⟨rfl, nofun⟩
    · rw [List.eq_of_mem_replicate hturn]
      exact ⟨rfl, nofun⟩
  have hmoves : (StepwiseCreation.wholeCall i q n).map (Prod.map id Move.ofCreation) =
      (i, .call q) :: List.replicate 4 (i, .proceed n) := rfl
  obtain ⟨hevents, hcreation, stage, htask⟩ := run_ofCreation free hown
  rw [hmoves] at hevents hcreation htask
  rw [hfinal] at hcreation
  have hidle : stage = .idle := by
    have hi : Task.stage _ = Task.stage _ := congrFun (congrArg StepwiseCreation.stage hcreation) i
    rwa [htask, Function.update_self, free] at hi
  refine ⟨?_, ?_⟩
  · have hmiddleware := congrArg StepwiseCreation.middleware hcreation
    rw [hidle, ← free, Function.update_eq_self] at htask
    exact congrArg₂ StepwiseLifetime.mk hmiddleware htask
  · rw [hevents, List.flatMap_map]
    exact hlines

/-- If nobody comes in between, the two steps that drop a node are as one call. -/
lemma asOne_dropped (free : w.task i = .creating .idle) {n : Nat}
    (there : (w.middleware.nodes.get? n).isSome) (idle : ∀ j, w.task j ≠ .dropping n) (k : Nat) :
    AsOne w [(i, .drop n), (i, .proceed k)] (w.middleware.dropNode n).state
      (w.middleware.dropNode n).lines := by
  obtain ⟨node, hn⟩ := Option.isSome_iff_exists.mp there
  have hnobody : ¬ ∃ j, (w.task j).drops n := by
    rintro ⟨j, hj⟩
    rcases htask : w.task j with stage | n'
    · simp [htask, Task.drops] at hj
    · obtain rfl : n' = n := by simpa [htask, Task.drops] using hj
      exact idle j htask
  have hdrop : w.step (i, .drop n) =
      (some ⟨i, .announced n node.context, w.middleware.announceDrop n⟩,
        ⟨w.middleware, Function.update w.task i (.dropping n)⟩) := by
    simp only [step, progress, free, hn, if_neg hnobody, next]
  have hrelease : StepwiseLifetime.step ⟨w.middleware, Function.update w.task i (.dropping n)⟩
      (i, .proceed k) =
      (some ⟨i, .strode (.dropped n node.context), (w.middleware.detachNode n).lines⟩,
        ⟨(w.middleware.detachNode n).state, w.task⟩) := by
    simp [step, progress, Middleware.stride, hn, Progress.ofStride, next, ← free]
  refine ⟨?_, ?_⟩
  · rw [Run.final_cons, hdrop, Run.final_cons, hrelease]
    rfl
  · simp only [Run.events_cons, hdrop, hrelease]
    simp [Middleware.dropNode]

end StepwiseLifetime
end NullMiddleware
