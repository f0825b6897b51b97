import NullMiddleware.Config

/-!
Logging in one process: the configuration is read and applied once, and the first logger that is
installed stays.

The logger itself is a part that comes from elsewhere. All that is known of it here is that it has
a filter, which it reads from the environment; what a filter lets pass is its own affair.
-/

namespace NullMiddleware

structure Logging (Filter : Type) where
  environment : Environment
  /-- The configuration, once it has been read. -/
  config : Option Config := none
  /-- The filter of the logger, once one is installed. -/
  logger : Option Filter := none

namespace Logging

variable {Filter : Type}

/-- Reads and applies the configuration, unless that was done before. -/
def configure (p : Logging Filter) : Config × Logging Filter :=
  match p.config with
  | some c => (c, p)
  | none =>
    let c := Config.ofEnvironment p.environment
    (c, { p with config := some c, environment := c.seedLogFilter p.environment })

/-- Installs the logger, with the line that it is given first. A second logger is refused. -/
def initLogging (readFilter : Environment → Filter) (p : Logging Filter) :
    Status × List LogLine × Logging Filter :=
  let (c, p) := p.configure
  match p.logger with
  | some _ => (.error, [], p)
  | none => (.ok, c.summary?.toList, { p with logger := some (readFilter p.environment) })

end Logging
end NullMiddleware
