import NullMiddleware.Environment
import NullMiddleware.Log
import NullMiddleware.Text.Blank

/-!
A filter for a logger: a scope, given by the first part of a target, and the most detailed level
that is written within it. Nothing is written outside the scope. The environment gives it in one
variable.
-/

namespace NullMiddleware

/-- How much is written. -/
inductive Verbosity
  | off
  | upTo (level : Level)
  deriving DecidableEq

namespace Verbosity

def all : List Verbosity :=
  [off, upTo .error, upTo .warn, upTo .info, upTo .debug, upTo .trace]

def name : Verbosity → String
  | off => "OFF"
  | upTo l => l.name

/-- Reads a name in any ASCII case. -/
def read? (s : List Char) : Option Verbosity :=
  all.find? fun v => v.name.toList == s.map Char.toUpper

end Verbosity

/-- A higher rank is more detailed. -/
def Level.rank : Level → Nat
  | error => 1
  | warn => 2
  | info => 3
  | debug => 4
  | trace => 5

def Verbosity.admits (v : Verbosity) (l : Level) : Bool :=
  match v with
  | .off => false
  | .upTo most => l.rank ≤ most.rank

structure LogFilter where
  /-- What a target starts with to be in scope; every target starts with the empty text. -/
  scope : List Char
  verbosity : Verbosity
  deriving DecidableEq

namespace LogFilter

/-- The filter where none is given, or none that can be read. -/
def fallback : LogFilter := ⟨[], .upTo .error⟩

def splitDirective (s : List Char) : List Char × Option (List Char) :=
  match s.dropWhile (· ≠ '=') with
  | [] => (s, none)
  | _ :: rest => (s.takeWhile (· ≠ '='), some rest)

/-- Reads one directive: a level for every target, a scope, or a scope and a level. A scope alone
writes everything. -/
def ofText (s : String) : LogFilter :=
  match splitDirective (Text.trim s.toList) with
  | ([], none) => fallback
  | (word, none) =>
    match Verbosity.read? word with
    | some v => ⟨[], v⟩
    | none => ⟨word, .upTo .trace⟩
  | (scope, some value) =>
    if Text.trim value = [] then ⟨scope, .upTo .trace⟩
    else
      match Verbosity.read? (Text.trim value) with
      | some v => ⟨scope, v⟩
      | none => fallback

/-- The filter that the environment asks for. -/
def ofEnvironment (env : Environment) : LogFilter :=
  ((env.text? .logFilter).map ofText).getD fallback

def admits (f : LogFilter) (line : LogLine) : Bool :=
  f.scope.isPrefixOf line.speaker.target.toList && f.verbosity.admits line.level

end LogFilter
end NullMiddleware
