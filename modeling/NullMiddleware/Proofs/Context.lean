import Mathlib.Tactic.Common
import NullMiddleware.Context

/-!
A context and the nodes that it shelters.

The nodes are registered with the context's lifecycle and own it together with the user. So the
participant is there as long as there are nodes, and whoever leaves last finds nobody registered.
-/

namespace NullMiddleware.Context

/-- The context has `k` nodes. -/
structure Shelters (c : Context) (k : Nat) : Prop where
  participant : c.options.participant = .ok c.shared.lifecycle.factory
  count : c.shared.lifecycle.count = k
  resource : c.shared.lifecycle.resource = if k = 0 then none else some c.shared.lifecycle.factory
  owners : c.shared.owners = k + c.held.toNat

/-- The context with as many nodes as said, all other things being equal. -/
def withNodes (c : Context) (k : Nat) : Context :=
  let factory := c.shared.lifecycle.factory
  { c with shared :=
    { lifecycle :=
        { c.shared.lifecycle with count := k, resource := if k = 0 then none else some factory }
      owners := k + c.held.toNat } }

variable {c : Context} {k : Nat}

lemma Shelters.withNodes (h : c.Shelters k) (j : Nat) : (c.withNodes j).Shelters j :=
  ⟨h.participant, rfl, rfl, rfl⟩

lemma Shelters.nodeCount (h : c.Shelters k) : c.nodeCount = k := h.count

lemma Shelters.hasParticipant (h : c.Shelters k) : c.hasParticipant ↔ 0 < k := by
  unfold Context.hasParticipant
  rw [h.resource]
  by_cases hk : k = 0
  · simp [hk]
  · simp [hk, Nat.pos_of_ne_zero hk]

lemma Shelters.participantDomain (h : c.Shelters k) (hk : 0 < k) :
    c.participantDomain = some c.domain := by
  unfold Context.participantDomain
  rw [h.resource, if_neg (by omega)]
  rfl

/-- The domain is the one that the options ask for. -/
lemma Shelters.domain (h : c.Shelters k) :
    ContextOptions.resolveDomain c.options.domain = .ok c.domain := by
  have hp := h.participant
  unfold ContextOptions.participant at hp
  rcases henclave : c.options.enclave with _ | enclave
  · simp [henclave] at hp
  · rw [henclave] at hp
    rcases hd : ContextOptions.resolveDomain c.options.domain with cause | domain
    · simp [hd, Except.map] at hp
    · simp only [hd, Except.map, Except.ok.injEq] at hp
      rw [Context.domain, ← hp]

/-! ### Operations -/

lemma shelters_init {o : ContextOptions} {q : Nat} {lines : List LogLine}
    (h : init o q = (.ok c, lines)) : c.Shelters 0 ∧ c.held ∧ c.options = o ∧ c.sequences = q := by
  unfold init at h
  rcases hp : o.participant with cause | p
  · simp [hp] at h
  · simp only [hp, Prod.mk.injEq, Except.ok.injEq] at h
    obtain ⟨rfl, -⟩ := h
    exact ⟨⟨hp, rfl, rfl, rfl⟩, rfl, rfl, rfl⟩

lemma Shelters.shutdown (h : c.Shelters k) : c.shutdown.1.Shelters k :=
  ⟨h.participant, h.count, h.resource, h.owners⟩

lemma Shelters.finish (h : c.Shelters k) (down : c.isShutDown) :
    c.finish = .ok ((if k = 0 then [] else [.nodesLeft k]) ++ [.contextFinished c.instanceId]) := by
  unfold Context.finish
  rw [if_pos down, h.nodeCount]

/-- The user's part goes in silence. The context itself goes with it if there are no nodes. -/
lemma Shelters.letGo (h : c.Shelters k) (held : c.held) :
    c.letGo = (if k = 0 then none else some ({ c with held := false }.withNodes k), []) := by
  have howners : c.shared.owners = k + 1 := by rw [h.owners, held]; rfl
  unfold Context.letGo Shared.letGo
  rw [howners]
  by_cases hk : k = 0
  · simp [hk, Lifecycle.finish, h.count, h.resource]
  · have hresource := h.resource
    rw [if_neg hk] at hresource
    have hlifecycle : { c.shared.lifecycle with
        count := k, resource := some c.shared.lifecycle.factory } = c.shared.lifecycle := by
      rw [← h.count, ← hresource]
    simp [hk, Context.withNodes, hlifecycle]

/-- What the first node of a context brings with it. -/
def arrival (c : Context) : List LogLine :=
  [.participantCreated c.shared.lifecycle.factory.domain c.shared.lifecycle.factory.enclave
    c.shared.lifecycle.factory.localhostOnly, .resourceCreated]

lemma Shelters.attach (h : c.Shelters k) (up : c.isShutDown = false) :
    c.attach = (.ok (c.withNodes (k + 1)), if k = 0 then c.arrival else []) := by
  have hresource := h.resource
  have howners := h.owners
  unfold Context.isShutDown at up
  by_cases hk : k = 0
  · simp [Context.attach, Shared.join, Lifecycle.acquire, up, h.count, hk, Participant.factory,
      arrival, Context.withNodes, howners, Nat.add_comm]
  · rw [if_neg hk] at hresource
    simp [Context.attach, Shared.join, Lifecycle.acquire, up, h.count, hk, Context.withNodes,
      howners, hresource, Nat.add_right_comm]

/-- What the last node of a context takes with it. -/
def departure (c : Context) : List LogLine := [.participantDestroyed c.domain, .resourceDestroyed]

/-- A node goes without a complaint. The context goes with the last one if its user has let it
go. -/
lemma Shelters.detach (h : c.Shelters (k + 1)) :
    c.detach = (if k = 0 ∧ c.held = false then none else some (c.withNodes k),
      if k = 0 then c.departure else []) := by
  have hresource := h.resource
  have howners := h.owners
  rw [if_neg (Nat.succ_ne_zero k)] at hresource
  unfold Context.detach Shared.depart Lifecycle.release
  rw [h.count, if_neg (Nat.succ_ne_zero k)]
  by_cases hk : k = 0
  · rcases hheld : c.held
    · simp [hk, hresource, howners, hheld, Shared.letGo, Lifecycle.finish, Participant.factory,
        departure, Context.domain]
    · simp [hk, hresource, howners, hheld, Shared.letGo, Participant.factory, departure,
        Context.domain, Context.withNodes]
  · have hmore : ¬ c.shared.owners ≤ 1 := by omega
    have hleft : c.shared.owners - 1 = k + c.held.toNat := by omega
    simp [hk, hresource, hmore, hleft, Shared.letGo, Context.withNodes]

end NullMiddleware.Context
