import NullMiddleware.Log

/-!
The lifecycle of a resource that many dependents share.

The first dependent to register has a factory make the resource, the last one to go has it
destroyed, and after a shutdown nobody can register any more. The lifecycle itself is owned by
handles and by guards; a guard is a registration that is given back when it is dropped.
-/

namespace NullMiddleware

inductive Exit (α : Type)
  | returned (value : α)
  | panicked (text : String)

inductive Creation (R : Type)
  | made (resource : R)
  | failed (cause : Failure)
  | panicked (text : String)

/-- Makes resources of type `R` and destroys them. It has a state of type `F` and writes a trace
of entries of type `E`. -/
structure Factory (F R E : Type) where
  create : F → Creation R × F × List E
  /-- Gives the text of the panic, if the destruction panicked; the resource is gone all the
  same. -/
  destroy : F → R → Option String × F × List E
  /-- What a resource that goes away without being destroyed leaves in the trace. -/
  discard : F → R → F × List E
  /-- A line of the log, as an entry of the trace. -/
  say : LogLine → E

/-- A resource with its dependents, beside the state of its factory. -/
structure Lifecycle (F R : Type) where
  factory : F
  /-- Registered dependents, as a plain number: 2 ^ 64 outstanding registrations, which a machine
  word could not count, are out of reach. -/
  count : Nat := 0
  shutDown : Bool := false
  resource : Option R := none

structure Turn (S E α : Type) where
  exit : Exit α
  state : S
  trace : List E := []

namespace Lifecycle

variable {F R E : Type}

/-- A failed creation counts as a failed allocation, whatever its cause. -/
def allocationFailure : Failure → Failure
  | .badAlloc what => .badAlloc what
  | cause => .badAlloc cause.message

/-- Registers a dependent; the first one has the resource made. -/
def acquire (f : Factory F R E) (l : Lifecycle F R) :
    Turn (Lifecycle F R) E (Except Failure Unit) :=
  if l.shutDown then ⟨.returned (.error .contextShutDown), l, []⟩
  else if l.count = 0 then
    let (creation, factory, trace) := f.create l.factory
    let l := { l with factory }
    match creation with
    | .made resource =>
      ⟨.returned (.ok ()), { l with count := 1, resource := some resource },
        trace ++ [f.say .resourceCreated]⟩
    | .failed cause => ⟨.returned (.error (allocationFailure cause)), l, trace⟩
    | .panicked text => ⟨.panicked text, l, trace⟩
  else ⟨.returned (.ok ()), { l with count := l.count + 1 }, []⟩

/-- Takes a registration back; with the last one the resource is destroyed. -/
def release (f : Factory F R E) (l : Lifecycle F R) :
    Turn (Lifecycle F R) E (Except Failure Unit) :=
  if l.count = 0 then ⟨.returned (.error .unbalancedRelease), l, []⟩
  else
    let l := { l with count := l.count - 1 }
    match l.resource with
    | none => ⟨.returned (.ok ()), l, []⟩
    | some resource =>
      if l.count ≠ 0 then ⟨.returned (.ok ()), l, []⟩
      else
        let (panic, factory, trace) := f.destroy l.factory resource
        let l := { l with factory, resource := none }
        match panic with
        | some text => ⟨.panicked text, l, trace⟩
        | none => ⟨.returned (.ok ()), l, trace ++ [f.say .resourceDestroyed]⟩

def shutdown (l : Lifecycle F R) : Lifecycle F R := { l with shutDown := true }

/-- What the last owner to go leaves in the trace: a complaint if dependents are registered, and
the end of the resource if there is one. -/
def finish (f : Factory F R E) (l : Lifecycle F R) : List E :=
  (if l.count = 0 then [] else [f.say (.dependentsLeft l.count)]) ++
    (l.resource.map fun r => (f.discard l.factory r).2).getD []

def layout (l : Lifecycle F R) : Text.Layout :=
  .record "SharedLifecycle" [
    ("ref_count", .nat l.count),
    ("is_shut_down", .flag l.shutDown),
    ("resource_live", .flag l.resource.isSome)]

end Lifecycle

/-- A lifecycle with the number of its owners. -/
structure Shared (F R : Type) where
  lifecycle : Lifecycle F R
  owners : Nat := 1

namespace Shared

variable {F R E : Type}

/-- Registers a dependent that is an owner too. -/
def join (f : Factory F R E) (s : Shared F R) :
    Turn (Shared F R) E (Except Failure Unit) :=
  let turn := s.lifecycle.acquire f
  let owners := match turn.exit with
    | .returned (.ok _) => s.owners + 1
    | _ => s.owners
  ⟨turn.exit, { lifecycle := turn.state, owners }, turn.trace⟩

/-- An owner goes; nothing is left once the last one has gone. -/
def letGo (f : Factory F R E) (s : Shared F R) : Option (Shared F R) × List E :=
  if s.owners ≤ 1 then (none, s.lifecycle.finish f)
  else (some { s with owners := s.owners - 1 }, [])

/-- A guard goes: its registration is given back, and then it owns nothing any more. -/
def depart (f : Factory F R E) (s : Shared F R) : Turn (Option (Shared F R)) E Unit :=
  let turn := s.lifecycle.release f
  let (exit, complaint) := match turn.exit with
    | .returned (.ok _) => (.returned (), [])
    | .returned (.error cause) => (.returned (), [f.say (.releaseFailed cause)])
    | .panicked text => (.panicked text, [])
  let (shared, farewell) := ({ s with lifecycle := turn.state } : Shared F R).letGo f
  ⟨exit, shared, turn.trace ++ complaint ++ farewell⟩

def guardLayout (s : Shared F R) : Text.Layout :=
  .record "LifecycleGuard" [("lifecycle", s.lifecycle.layout)]

end Shared
end NullMiddleware
