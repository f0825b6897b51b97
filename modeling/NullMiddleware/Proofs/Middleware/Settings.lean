import NullMiddleware.Proofs.Config
import NullMiddleware.Proofs.Middleware.Refusals

/-!
From the environment to the participants.

A context is initialized with options, and these may come from the environment. The options decide
whether there is a context at all, and in which domain. All its participants, the first one and
those that come after it, have the settings that the environment gives.
-/

namespace NullMiddleware

namespace ContextOptions

/-- The default domain can be asked for, and every one below the last that 32 bits can hold. -/
def Admissible (domain : UInt64) : Prop := domain = defaultDomain ∨ domain.toNat < 4294967295

variable {domain : UInt64}

lemma resolveDomain_of_admissible (h : Admissible domain) :
    ∃ actual, resolveDomain domain = .ok actual ∧
      actual.toNat = if domain = defaultDomain then 0 else domain.toNat := by
  unfold resolveDomain
  by_cases hdefault : domain = defaultDomain
  · rw [if_pos hdefault, if_pos hdefault]
    exact ⟨0, rfl, rfl⟩
  · have hsmall : domain.toNat < 4294967295 := h.resolve_left hdefault
    have hfits : domain.toNat % 2 ^ 32 = domain.toNat := Nat.mod_eq_of_lt (by omega)
    have hbelow : domain.toNat < UInt32.size - 1 := hsmall
    rw [if_neg hdefault, if_pos hbelow, if_neg hdefault]
    exact ⟨domain.toUInt32, rfl, by rw [UInt64.toNat_toUInt32, hfits]⟩

lemma resolveDomain_of_not_admissible (h : ¬ Admissible domain) :
    resolveDomain domain = .error (.domainOutOfRange domain) := by
  rw [Admissible, not_or] at h
  have hlarge : ¬ domain.toNat < UInt32.size - 1 := h.2
  unfold resolveDomain
  rw [if_neg h.1, if_neg hlarge]

/-! ### Options from the environment -/

variable {env : Environment}

lemma toUInt64_ne_defaultDomain (n : UInt32) : n.toUInt64 ≠ defaultDomain := by
  intro heq
  have hlt := n.toNat_lt
  have htop : n.toNat = 2 ^ 64 - 1 := by rw [← UInt32.toNat_toUInt64, heq]; rfl
  omega

lemma domain_of_asksFor {n : UInt32} (h : env.AsksFor n) :
    (ofEnvironment env).domain = n.toUInt64 := by
  have hdomain := (env.domain_eq_some_iff n).mpr h
  simp only [ofEnvironment, ofConfig, hdomain, Option.map_some, Option.getD_some]

lemma domain_of_asksFor_nothing (h : ∀ n, ¬ env.AsksFor n) :
    (ofEnvironment env).domain = defaultDomain := by
  have hdomain := env.domain_eq_none_iff.mpr h
  simp only [ofEnvironment, ofConfig, hdomain, Option.map_none, Option.getD_none]

/-- An environment can ask for one domain only that no context can have. -/
lemma not_admissible_iff : ¬ Admissible (ofEnvironment env).domain ↔ env.AsksFor 4294967295 := by
  constructor
  · intro hbad
    by_contra hother
    refine hbad ?_
    by_cases hsome : ∃ n, env.AsksFor n
    · obtain ⟨n, hn⟩ := hsome
      have hne : n.toNat ≠ 4294967295 := by
        intro heq
        obtain rfl : n = 4294967295 := UInt32.toNat_inj.mp heq
        exact hother hn
      have hlt := n.toNat_lt
      rw [domain_of_asksFor hn]
      refine .inr ?_
      rw [UInt32.toNat_toUInt64]
      omega
    · exact .inl (domain_of_asksFor_nothing (not_exists.mp hsome))
  · intro hask
    rw [domain_of_asksFor hask]
    rintro (heq | hlt)
    · exact toUInt64_ne_defaultDomain _ heq
    · exact absurd hlt (by decide)

end ContextOptions

/-- The participant has the settings that the environment gives, or the default ones. -/
structure Environment.Describes (env : Environment) (p : Participant) : Prop where
  asked : ∀ n, env.AsksFor n → p.domain = n
  unasked : (∀ n, ¬ env.AsksFor n) → p.domain = 0
  enclave : p.enclave = ((env.text? .enclave).filter (· ≠ "")).getD "/"
  enclaveNonEmpty : p.enclave ≠ ""
  localhostOnly : p.localhostOnly = (env.text? .localhostOnly).any Config.readSwitch

namespace Environment

variable {env : Environment}

lemma enclave_eq (env : Environment) :
    (Config.ofEnvironment env).enclave = ((env.text? .enclave).filter (· ≠ "")).getD "/" := by
  unfold Config.ofEnvironment
  rcases env.text? .enclave with _ | s
  · rfl
  · by_cases hs : s = "" <;> simp [Config.nonEmpty?, hs, Option.filter, defaultEnclave]

lemma localhostOnly_eq (env : Environment) :
    (Config.ofEnvironment env).localhostOnly =
      (env.text? .localhostOnly).any Config.readSwitch := by
  unfold Config.ofEnvironment
  rcases env.text? .localhostOnly with _ | s <;> rfl

lemma enclave_ne_empty (env : Environment) : (Config.ofEnvironment env).enclave ≠ "" := by
  rw [enclave_eq]
  rcases hs : (env.text? .enclave).filter (· ≠ "") with _ | s
  · decide
  · simpa using (Option.filter_eq_some_iff.mp hs).2

lemma describes_of_participant {p : Participant}
    (h : (ContextOptions.ofEnvironment env).participant = .ok p) : env.Describes p := by
  have hparticipant : (ContextOptions.ofEnvironment env).participant =
      (ContextOptions.resolveDomain (ContextOptions.ofEnvironment env).domain).map fun domain =>
        { domain, instanceId := 0, enclave := (Config.ofEnvironment env).enclave,
          localhostOnly := (Config.ofEnvironment env).localhostOnly } := rfl
  rw [hparticipant] at h
  by_cases hgood : ContextOptions.Admissible (ContextOptions.ofEnvironment env).domain
  · obtain ⟨actual, hactual, hvalue⟩ := ContextOptions.resolveDomain_of_admissible hgood
    rw [hactual] at h
    cases h
    refine ⟨?_, ?_, enclave_eq env, enclave_ne_empty env, localhostOnly_eq env⟩
    · intro n hn
      rw [ContextOptions.domain_of_asksFor hn,
        if_neg (ContextOptions.toUInt64_ne_defaultDomain n), UInt32.toNat_toUInt64] at hvalue
      exact UInt32.toNat_inj.mp hvalue
    · intro hnone
      rw [ContextOptions.domain_of_asksFor_nothing hnone, if_pos rfl] at hvalue
      exact UInt32.toNat_inj.mp hvalue
  · rw [ContextOptions.resolveDomain_of_not_admissible hgood] at h
    cases h

end Environment

namespace Middleware

open ContextOptions (Admissible)

/-- How a context is initialized. The enclave is looked at first, and a context that is refused
leaves no trace. -/
structure Decided (m : Middleware) (c : Nat) (o : ContextOptions)
    (e : Effect (Except Failure Unit)) : Prop where
  accepted : e.result.isOk ↔ o.enclave.isSome ∧ Admissible o.domain
  domain : e.result.isOk → ∃ context, e.state.contexts.get? c = some context ∧
    context.options = o ∧
    context.domain.toNat = if o.domain = defaultDomain then 0 else o.domain.toNat
  enclaveMissing : o.enclave = none → e.result = .error .enclaveMissing
  outOfRange : o.enclave.isSome → ¬ Admissible o.domain →
    e.result = .error (.domainOutOfRange o.domain)
  refused : ¬ e.result.isOk → e.state = m ∧ e.lines = []

lemma init_of_participant (m : Middleware) (c : Nat) {o : ContextOptions} {p : Participant}
    (h : o.participant = .ok p) (q : Nat) :
    m.init c o q =
      ⟨.ok (), m.setContext c
          (some { options := o, sequences := q, shared := { lifecycle := { factory := p } } }),
        [.contextInitialized o.instanceId p.domain]⟩ := by
  simp only [init, Context.init, h]

lemma init_refused (m : Middleware) (c : Nat) {o : ContextOptions} {cause : Failure}
    (h : o.participant = .error cause) (q : Nat) : m.init c o q = ⟨.error cause, m, []⟩ := by
  simp only [init, Context.init, h]

lemma init_decided (m : Middleware) (c : Nat) (o : ContextOptions) (q : Nat) :
    Decided m c o (m.init c o q) := by
  rcases henclave : o.enclave with _ | enclave
  · have hp : o.participant = .error .enclaveMissing := by
      simp only [ContextOptions.participant, henclave]
    rw [init_refused m c hp]
    refine ⟨?_, ?_, fun _ => rfl, ?_, fun _ => ⟨rfl, rfl⟩⟩
    · simp [henclave, Except.isOk, Except.toBool]
    · simp [Except.isOk, Except.toBool]
    · simp [henclave]
  · by_cases hgood : Admissible o.domain
    · obtain ⟨actual, hactual, hvalue⟩ := ContextOptions.resolveDomain_of_admissible hgood
      have hp : o.participant = .ok ⟨actual, o.instanceId, enclave, o.localhostOnly⟩ := by
        simp only [ContextOptions.participant, henclave, hactual, Except.map]
      rw [init_of_participant m c hp]
      refine ⟨?_, ?_, ?_, ?_, ?_⟩
      · simp [henclave, hgood, Except.isOk, Except.toBool]
      · intro _
        obtain ⟨context, hcontext⟩ : ∃ context : Context, context =
            { options := o, sequences := q, shared := { lifecycle :=
              { factory := ⟨actual, o.instanceId, enclave, o.localhostOnly⟩ } } } := ⟨_, rfl⟩
        have hget : (m.contexts.set c (some context)).get? c = some context := by
          rw [Registry.get?_set, if_pos rfl]
        rw [← hcontext]
        refine ⟨context, hget, ?_, ?_⟩
        · rw [hcontext]
        · rw [hcontext]
          exact hvalue
      · simp [henclave]
      · intro _ hbad
        exact absurd hgood hbad
      · intro hrefused
        exact absurd rfl hrefused
    · have hp : o.participant = .error (.domainOutOfRange o.domain) := by
        simp only [ContextOptions.participant, henclave,
          ContextOptions.resolveDomain_of_not_admissible hgood, Except.map]
      rw [init_refused m c hp]
      refine ⟨?_, ?_, ?_, fun _ _ => rfl, fun _ => ⟨rfl, rfl⟩⟩
      · simp [hgood, Except.isOk, Except.toBool]
      · simp [Except.isOk, Except.toBool]
      · simp [henclave]

/-- How a context is initialized with options from the environment. -/
structure Follows (env : Environment) (c : Nat) (e : Effect (Except Failure Unit)) : Prop where
  refused : ¬ e.result.isOk ↔ env.AsksFor 4294967295
  reason : ¬ e.result.isOk → ∃ what, e.result = .error (.invalidArgument what)
  domain : e.result.isOk → ∃ context p, e.state.contexts.get? c = some context ∧
    context.domain = p.domain ∧ env.Describes p

lemma init_follows (m : Middleware) (c : Nat) (env : Environment) (q : Nat) :
    Follows env c (m.init c (.ofEnvironment env) q) := by
  have hdecided := init_decided m c (.ofEnvironment env) q
  have hrefused : ¬ (m.init c (.ofEnvironment env) q).result.isOk ↔ env.AsksFor 4294967295 := by
    rw [hdecided.accepted, ← ContextOptions.not_admissible_iff]
    simp [ContextOptions.ofEnvironment, ContextOptions.ofConfig]
  refine ⟨hrefused, ?_, ?_⟩
  · intro hnot
    have hbad := ContextOptions.not_admissible_iff.mpr (hrefused.mp hnot)
    exact ⟨_, hdecided.outOfRange rfl hbad⟩
  · intro hok
    rcases hp : (ContextOptions.ofEnvironment env).participant with cause | p
    · rw [init_refused m c hp] at hok
      cases hok
    · obtain ⟨context, hget, hoptions, -⟩ := hdecided.domain hok
      have hsame : context.domain = p.domain := by
        rw [init_of_participant m c hp, setContext, Registry.get?_set, if_pos rfl] at hget
        cases hget
        rfl
      exact ⟨context, p, hget, hsame, Environment.describes_of_participant hp⟩

/-- A node was created, and a participant came with it. -/
structure Brings (c : Nat) (name scope : String) (p : Participant) (lines : List LogLine)
    (after : Middleware) : Prop where
  lines : lines = [.participantCreated p.domain p.enclave p.localhostOnly, .resourceCreated,
    .nodeCreated name scope]
  present : ∃ context, after.contexts.get? c = some context ∧
    context.shared.lifecycle.resource = some p

/-- A context that has no nodes gets a participant with the next one. -/
lemma Performed.brings {m : Middleware} {c n : Nat} {name scope : String} {effect : Effect Answer}
    (hp : Performed m (.createNode c n name scope) effect) (created : effect.result.isOk)
    {context : Context} (there : m.contexts.get? c = some context)
    (empty : context.nodeCount = 0) :
    ∃ p, context.options.participant = .ok p ∧
      Brings c name scope p effect.lines effect.state := by
  cases hp with
  | @created _ _ k _ _ context' there' shelters =>
    obtain rfl : context' = context :=
      Option.some_inj.mp ((context?_eq_some_iff.mp there').1.symm.trans there)
    obtain rfl : k = 0 := shelters.nodeCount.symm.trans empty
    refine ⟨_, shelters.participant, rfl, context'.withNodes 1, ?_, rfl⟩
    rw [Registry.get?_put, if_pos rfl]
  | uncreated => cases created

/-- **What the environment asks for is what participants get.** The options of a context decide
whether it is initialized, and in which domain. Options from the environment are refused if they ask
for the last domain that 32 bits can hold, and otherwise lead to the domain that is asked for, or to
the default one if none is; no domain that is asked for is mistaken for the default one. With the
first node of such a context, and with the first one after all others have gone, there comes a
participant that has the settings of the environment. -/
theorem environment_reaches_participants (env : Environment) (sequences : Registry Numbering)
    (calls : List Call) :
    (∀ (m : Middleware) c o q, Decided m c o (m.init c o q)) ∧
      (∀ (m : Middleware) c q, Follows env c (m.init c (.ofEnvironment env) q)) ∧
      (∀ n, env.AsksFor n → (ContextOptions.ofEnvironment env).domain ≠ defaultDomain) ∧
      (∀ e ∈ Run.events step (fresh sequences) calls, ∀ c n name scope context,
        e.call = .createNode c n name scope → e.result.isOk →
        e.before.contexts.get? c = some context → context.options = .ofEnvironment env →
        context.nodeCount = 0 → ∃ p, env.Describes p ∧ Brings c name scope p e.lines e.after) ∧
      ∀ c context, (Run.final step (fresh sequences) calls).contexts.get? c = some context →
        context.options = .ofEnvironment env →
        ∀ p, context.shared.lifecycle.resource = some p → env.Describes p := by
  refine ⟨init_decided, fun m c q => init_follows m c env q, ?_, ?_, ?_⟩
  · intro n hn
    rw [ContextOptions.domain_of_asksFor hn]
    exact ContextOptions.toUInt64_ne_defaultDomain n
  · intro e he c n name scope context hcall hok hc hoptions hempty
    have hperformed := events_performed sequences calls e he
    rw [hcall] at hperformed
    obtain ⟨p, hp, hbrings⟩ := hperformed.brings hok hc hempty
    rw [hoptions] at hp
    exact ⟨p, Environment.describes_of_participant hp, hbrings⟩
  · intro c context hc hoptions p hp
    obtain ⟨hm, -⟩ := run_consistent (consistent_fresh sequences) calls
    have hshelters := (hm.contexts.counts c context hc).1
    have hparticipant := hshelters.participant
    rw [hshelters.resource, Option.ite_none_left_eq_some, Option.some_inj] at hp
    rw [hoptions, hp.2] at hparticipant
    exact Environment.describes_of_participant hparticipant

/-- The own variable holds no number, and the common one does. A second participant comes after the
first one has gone. With the greatest number in the own variable there is no context. -/
theorem second_participant_follows_environment :
    let env := Environment.empty.set .domain (.text "7a") |>.set .commonDomain (.text " +042 ")
      |>.set .enclave (.text "/robots") |>.set .localhostOnly (.text "True")
    let calls : List Call :=
      [.init 1 (.ofEnvironment env) 0, .createNode 1 10 "a" "/", .dropNode 10,
        .createNode 1 10 "b" "/"]
    let es := Run.events step (fresh .empty) calls
    (∃ e, es[3]? = some e ∧ e.lines =
        [.participantCreated 42 "/robots" true, .resourceCreated, .nodeCreated "b" "/"]) ∧
      ∀ m : Middleware, ∃ what,
        (m.init 1 (.ofEnvironment (env.set .domain (.text "4294967295"))) 0).result =
          .error (.invalidArgument what) := by
  intro env calls es
  have hask : env.AsksFor 42 := (env.domain_eq_some_iff 42).mp (by decide +kernel)
  have hbad : (env.set .domain (.text "4294967295")).AsksFor 4294967295 :=
    (Environment.domain_eq_some_iff _ _).mp (by decide +kernel)
  refine ⟨?_, ?_⟩
  · obtain ⟨-, -, -, hbrings, -⟩ := environment_reaches_participants env .empty calls
    have hfourth : (es[3]?).map (fun e => (e.call, e.result.isOk,
        (e.before.contexts.get? 1).map fun x => (x.options, x.nodeCount))) =
        some (.createNode 1 10 "b" "/", true, some (.ofEnvironment env, 0)) := by rfl
    obtain ⟨e, he, hevent⟩ := Option.map_eq_some_iff.mp hfourth
    simp only [Prod.mk.injEq] at hevent
    obtain ⟨hcall, hok, hcontext⟩ := hevent
    obtain ⟨context, hc, hoptions⟩ := Option.map_eq_some_iff.mp hcontext
    obtain ⟨hoptions, hempty⟩ := Prod.mk.inj hoptions
    obtain ⟨p, hp, hlines, -⟩ := hbrings e (List.mem_of_getElem? he) 1 10 "b" "/" context hcall hok
      hc hoptions hempty
    refine ⟨e, he, ?_⟩
    rw [hlines, hp.asked 42 hask, hp.enclave, hp.localhostOnly]
    rfl
  · intro m
    obtain ⟨-, hfollows, -⟩ :=
      environment_reaches_participants (env.set .domain (.text "4294967295")) .empty calls
    exact (hfollows m 1 0).reason ((hfollows m 1 0).refused.mpr hbad)

end Middleware
end NullMiddleware
