import NullMiddleware.Logging.Basic
import NullMiddleware.Logging.Filter
import NullMiddleware.Session.Run
import NullMiddleware.Text.Plain

/-!
A rehearsal of logging: a fresh process installs its logger twice, and then a context lives with
one node, which outlives it, and one guard condition. The logger is one that filters by scope and
level and writes plain lines.
-/

namespace NullMiddleware

/-- The message as the logger writes it. Its further lines are indented; they have no level and no
target, and are no messages. A sequence that is open at the end swallows the line end as well. -/
def LogLine.printed (line : LogLine) : String :=
  String.ofList (Text.firstLine (Text.plain (Text.indent line.message.toList ++ ['\n'])))

namespace Logging

/-- The lines of a log that the logger writes. -/
def written (p : Logging LogFilter) (log : List LogLine) : List LogLine :=
  match p.logger with
  | none => []
  | some f => log.filter f.admits

def verbosity (p : Logging LogFilter) : Verbosity := (p.logger.map LogFilter.verbosity).getD .off

end Logging

namespace Rehearsal

def steps : List Step := [
  { action := .init { enclave := some defaultEnclave, domain := 5 } none, result := "context" },
  { action := .createNode "n" "/ns", subject := "context", result := "node" },
  { action := .createGuardCondition, subject := "context", result := "guard" },
  { action := .installCallback (.own { label := "callback" } none), subject := "guard" },
  { action := .clearCallback, subject := "guard" },
  { action := .shutdown, subject := "context" },
  { action := .finish, subject := "context" },
  { action := .drop, subject := "node" }]

/-- The lines that the steps give to the log. -/
def log : List LogLine :=
  match Session.run steps with
  | .error _ => []
  | .ok (answers, _) =>
    answers.flatMap fun a => a.trace.toList.filterMap fun
      | .logged line => some line
      | _ => none

structure Result where
  first : Status
  second : Status
  process : Logging LogFilter
  /-- What the logger wrote. -/
  lines : List LogLine

def run (env : Environment) : Result :=
  let fresh : Logging LogFilter := { environment := env }
  let (first, early, p) := fresh.initLogging LogFilter.ofEnvironment
  let (second, late, p) := p.initLogging LogFilter.ofEnvironment
  { first, second, process := p, lines := p.written (early ++ late ++ log) }

end Rehearsal
end NullMiddleware
