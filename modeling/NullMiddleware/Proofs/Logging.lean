import NullMiddleware.Logging.Basic
import NullMiddleware.Logging.Filter
import NullMiddleware.Proofs.Environment
import NullMiddleware.Proofs.Run

/-!
Setting up logging, once and again.

The level that a configuration asks for is handed on to the logger by way of the log filter, a
variable that others may have set before. Only a filter that is not there at all is put there, so at
most one configuration can ever do this. A process reads its configuration once, and the first
logger stays: all but the first setup fail, and they say nothing and leave everything as it was.
-/

namespace NullMiddleware

namespace Config

lemma seedLogFilter_logFilter (c : Config) (env : Environment) :
    c.seedLogFilter env .logFilter = (env .logFilter).or (some (.text c.logLevel)) := by
  unfold seedLogFilter
  rcases h : env .logFilter with _ | held
  · simp
  · simp [h]

lemma seedLogFilter_of_ne (c : Config) (env : Environment) {v : Variable} (other : v ≠ .logFilter) :
    c.seedLogFilter env v = env v := by
  unfold seedLogFilter
  rcases env .logFilter with _ | held
  · exact env.set_of_ne _ other
  · rfl

lemma ofEnvironment_congr {env env' : Environment} (h : ∀ v ≠ .logFilter, env v = env' v) :
    ofEnvironment env = ofEnvironment env' := by
  have htext : ∀ v ≠ .logFilter, env.text? v = env'.text? v := by
    intro v hv
    rw [Environment.text?, Environment.text?, h v hv]
  unfold ofEnvironment
  rw [htext .domain (by decide), htext .commonDomain (by decide),
    htext .localhostOnly (by decide), htext .enclave (by decide), htext .logLevel (by decide)]

/-- Some configurations, one after another, give their level to the log filter. -/
def seedAll (cs : List Config) (env : Environment) : Environment :=
  cs.foldl (fun env c => c.seedLogFilter env) env

lemma seedAll_logFilter (cs : List Config) (env : Environment) :
    seedAll cs env .logFilter =
      (env .logFilter).or (cs.head?.map fun c => .text c.logLevel) := by
  induction cs generalizing env with
  | nil => simp [seedAll]
  | cons c rest ih =>
    have hrest : seedAll (c :: rest) env = seedAll rest (c.seedLogFilter env) := rfl
    rw [hrest, ih, seedLogFilter_logFilter, Option.or_assoc, Option.some_or]
    rfl

lemma seedAll_of_ne (cs : List Config) (env : Environment) {v : Variable} (other : v ≠ .logFilter) :
    seedAll cs env v = env v := by
  induction cs generalizing env with
  | nil => rfl
  | cons c rest ih => exact (ih _).trans (c.seedLogFilter_of_ne env other)

lemma summary?_eq (c : Config) :
    c.summary? = if c = {} then none
      else some (.configuration c.domain c.localhostOnly c.enclave c.logLevel) := by
  unfold summary?
  by_cases hc : c = {}
  · rw [if_pos hc, c.isCustom_eq_false_iff.mpr hc]
    rfl
  · rw [if_neg hc, if_pos (by simpa using mt c.isCustom_eq_false_iff.mp hc)]

end Config

namespace Logging

variable {Filter : Type}

/-- One setup as a step of a run: its status and its lines, and the process after it. -/
def setUp (readFilter : Environment → Filter) (p : Logging Filter) (_ : Unit) :
    (Status × List LogLine) × Logging Filter :=
  let (status, lines, p) := p.initLogging readFilter
  ((status, lines), p)

def first (readFilter : Environment → Filter) (env : Environment) : Logging Filter :=
  let c := Config.ofEnvironment env
  let environment := c.seedLogFilter env
  { environment, config := some c, logger := some (readFilter environment) }

variable (readFilter : Environment → Filter)

lemma setUp_fresh (env : Environment) :
    setUp readFilter { environment := env } () =
      ((.ok, (Config.ofEnvironment env).summary?.toList), first readFilter env) := rfl

lemma setUp_first (env : Environment) :
    setUp readFilter (first readFilter env) () = ((.error, []), first readFilter env) := rfl

lemma run_first (env : Environment) (n : Nat) :
    Run.outcomes (setUp readFilter) (first readFilter env) (List.replicate n ()) =
        List.replicate n (.error, []) ∧
      Run.final (setUp readFilter) (first readFilter env) (List.replicate n ()) =
        first readFilter env := by
  induction n with
  | zero => exact ⟨rfl, rfl⟩
  | succ n ih =>
    rw [List.replicate_succ, List.replicate_succ, Run.outcomes_cons, Run.final_cons, setUp_first,
      ih.1, ih.2]
    exact ⟨rfl, rfl⟩

/-- What comes of setting up logging once and `n` times again: only the first setup succeeds, and
only it may say what the configuration is. -/
structure SetUpOnce (env : Environment) (n : Nat) (outcomes : List (Status × List LogLine))
    (last : Logging Filter) : Prop where
  statuses : outcomes.map Prod.fst = .ok :: List.replicate n .error
  told : Config.ofEnvironment env ≠ {} → ∃ line, line.level = .info ∧
    line = .configuration (Config.ofEnvironment env).domain
      (Config.ofEnvironment env).localhostOnly (Config.ofEnvironment env).enclave
      (Config.ofEnvironment env).logLevel ∧
    outcomes.map Prod.snd = [line] :: List.replicate n []
  silent : Config.ofEnvironment env = {} → outcomes.map Prod.snd = List.replicate (n + 1) []
  logFilter : ∃ level, env.Fills .logLevel "info" level ∧
    last.environment .logFilter = some ((env .logFilter).getD (.text level))
  others : ∀ v ≠ .logFilter, last.environment v = env v

lemma setUpOnce (env : Environment) (n : Nat) :
    SetUpOnce env n
      (Run.outcomes (setUp readFilter) { environment := env } (List.replicate (n + 1) ()))
      (Run.final (setUp readFilter) { environment := env } (List.replicate (n + 1) ())) := by
  obtain ⟨houtcomes, hfinal⟩ := run_first readFilter env n
  rw [List.replicate_succ, Run.outcomes_cons, Run.final_cons, setUp_fresh, houtcomes, hfinal,
    Config.summary?_eq]
  refine ⟨by simp, ?_, ?_, ?_, ?_⟩
  · intro hcustom
    exact ⟨_, rfl, rfl, by simp [hcustom]⟩
  · intro hdefault
    simp [hdefault, List.replicate_succ]
  · refine ⟨_, (Environment.configures_ofEnvironment env).logLevel, ?_⟩
    have hseeded := (Config.ofEnvironment env).seedLogFilter_logFilter env
    rcases h : env .logFilter with _ | held
    · rwa [h] at hseeded
    · rwa [h] at hseeded
  · intro v hv
    exact (Config.ofEnvironment env).seedLogFilter_of_ne env hv

/-- **The log filter is set at most once, and never anew.** Whatever it holds stays. Where it is
unset, the first of some configurations sets it, and the others find it set. Nothing else in the
environment changes, and it gives the same configuration as before. In a fresh process, logging is
set up by the first call alone, which tells of the configuration unless that is the default one,
and whatever the logger makes of its filter. -/
theorem log_filter_is_set_once (env : Environment) (cs : List Config) (n : Nat) :
    (Config.seedAll cs env .logFilter =
        (env .logFilter).or (cs.head?.map fun c => .text c.logLevel)) ∧
      (∀ v ≠ .logFilter, Config.seedAll cs env v = env v) ∧
      Config.ofEnvironment (Config.seedAll cs env) = Config.ofEnvironment env ∧
      SetUpOnce env n
        (Run.outcomes (setUp readFilter) { environment := env } (List.replicate (n + 1) ()))
        (Run.final (setUp readFilter) { environment := env } (List.replicate (n + 1) ())) := by
  have hothers : ∀ v ≠ .logFilter, Config.seedAll cs env v = env v :=
    fun v hv => Config.seedAll_of_ne cs env hv
  exact ⟨Config.seedAll_logFilter cs env, hothers, Config.ofEnvironment_congr hothers,
    setUpOnce readFilter env n⟩

/-- The filter is set, to nothing. It stays so, although the environment has a level and a domain
of its own. -/
theorem empty_log_filter_stays :
    let env := Environment.empty.set .logFilter (.text "") |>.set .logLevel (.text "debug")
      |>.set .domain (.text "5")
    let setUps := List.replicate 3 ()
    let es := Run.outcomes (setUp LogFilter.ofEnvironment) { environment := env } setUps
    let last := Run.final (setUp LogFilter.ofEnvironment) { environment := env } setUps
    last.environment .logFilter = some (.text "") ∧
      last.environment .domain = some (.text "5") ∧
      es.map Prod.fst = [.ok, .error, .error] ∧
      es.map Prod.snd = [[.configuration (some 5) false "/" "debug"], [], []] := by
  intro env setUps es last
  obtain ⟨-, -, -, honce⟩ := log_filter_is_set_once LogFilter.ofEnvironment env [] 2
  obtain ⟨level, -, hfilter⟩ := honce.logFilter
  obtain ⟨line, -, rfl, hlines⟩ := honce.told (by decide +kernel)
  refine ⟨hfilter, honce.others .domain (by decide), honce.statuses, hlines.trans ?_⟩
  decide +kernel

end Logging
end NullMiddleware
