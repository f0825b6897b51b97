import NullMiddleware.Session.Step

/-!
Steps on sequences of ids.
-/

namespace NullMiddleware.Act

/-- The name that stands for the sequences of the whole process. -/
def processWideName : String := "global"

/-- Asks a sequence, and gives the answer and the sequence after it. -/
def askSequence (s : Sequence) : SequenceCall → Reply × Sequence
  | .next => (.id s.draw.1, s.draw.2)
  | .peek => (.id s.next, s)
  | .reset => (.nothing, s.reset)

def sequenceOf (name : String) : Act Sequence := do
  match ← thingOf name with
  | .sequence s => return s
  | _ => throw (.unfit name)

def onSequence (name : String) (f : Sequence → Reply × Sequence) : Act (Exit Reply) := do
  let (reply, s) := f (← sequenceOf name)
  replace (← numberOf name) (.sequence s)
  return .returned reply

/-- The number of named sequences. -/
def sequencesOf (name : String) : Act Nat := do
  if name = processWideName then return Middleware.processWide
  match ← thingOf name with
  | .sequences => numberOf name
  | _ => throw (.unfit name)

def onSequences (name : String) (f : Numbering → Reply × Numbering) :
    Act (Exit Reply) := do
  let q ← sequencesOf name
  let (reply, s) := f ((← get).middleware.sequencesOf q)
  modify fun t => { t with
    middleware := { t.middleware with sequences := t.middleware.sequences.put q s } }
  return .returned reply

def newSequences (start : EntityKind → UInt64) : Act Nat := do
  let q ← fresh
  modify fun t => { t with
    middleware := { t.middleware with
      sequences := t.middleware.sequences.put q (.startingAt start) } }
  return q

end NullMiddleware.Act
