import NullMiddleware.Environment
import NullMiddleware.Log
import NullMiddleware.Text.Blank
import NullMiddleware.Text.Decimal

/-!
The configuration read from the environment.

A domain is a decimal number below `2 ^ 32`, with white space around it and one plus sign before
it allowed; this middleware's own variable comes first, the common one second. The other
variables are taken as they stand, and an empty one counts as unset.
-/

namespace NullMiddleware

def defaultEnclave : String := "/"

def defaultLogLevel : String := "info"

structure Config where
  domain : Option UInt32 := none
  localhostOnly : Bool := false
  enclave : String := defaultEnclave
  logLevel : String := defaultLogLevel
  deriving DecidableEq

namespace Config

def readDomain (s : String) : Option UInt32 :=
  let digits := match Text.trim s.toList with
    | '+' :: rest => rest
    | cs => cs
  (Text.readNat? digits).bind fun n => if n < UInt32.size then some n.toUInt32 else none

/-- `1`, or `true` in any ASCII case, and nothing around it. -/
def readSwitch (s : String) : Bool :=
  s == "1" || s.toList.map Char.toLower == "true".toList

def nonEmpty? (s : String) : Option String := if s.isEmpty then none else some s

def ofEnvironment (env : Environment) : Config where
  domain := ((env.text? .domain).bind readDomain).or ((env.text? .commonDomain).bind readDomain)
  localhostOnly := ((env.text? .localhostOnly).map readSwitch).getD false
  enclave := ((env.text? .enclave).bind nonEmpty?).getD defaultEnclave
  logLevel := ((env.text? .logLevel).bind nonEmpty?).getD defaultLogLevel

/-- Whether any field differs from the default. -/
def isCustom (c : Config) : Bool :=
  c.domain.isSome || c.localhostOnly || c.enclave != defaultEnclave ||
    c.logLevel != defaultLogLevel

/-- Gives the log filter the configured level, unless it is set, to whatever it may be. A level that
holds a NUL character cannot be put into an environment, and the attempt panics; no level that was
read from an environment holds one, and the case is left out. -/
def seedLogFilter (c : Config) (env : Environment) : Environment :=
  match env .logFilter with
  | some _ => env
  | none => env.set .logFilter (.text c.logLevel)

/-- The line that tells of a configuration, where there is something to tell. -/
def summary? (c : Config) : Option LogLine :=
  if c.isCustom then some (.configuration c.domain c.localhostOnly c.enclave c.logLevel)
  else none

def layout (c : Config) : Text.Layout :=
  .record "EnvConfig" [
    ("domain_id", .option (c.domain.map fun n => .nat n.toNat)),
    ("localhost_only", .flag c.localhostOnly),
    ("enclave", .text c.enclave),
    ("log_level", .text c.logLevel)]

end Config
end NullMiddleware
