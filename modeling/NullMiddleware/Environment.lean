/-!
The process environment, as far as the middleware reads it: six variables, each unset or holding
bytes that are a text or are not.
-/

namespace NullMiddleware

inductive Variable
  | domain
  | logLevel
  /-- The domain for every middleware, read where this one's own variable gives none. -/
  | commonDomain
  | localhostOnly
  | enclave
  | logFilter
  deriving DecidableEq

namespace Variable

def all : List Variable := [domain, logLevel, commonDomain, localhostOnly, enclave, logFilter]

def name : Variable → String
  | domain => "RMW_STUB_DOMAIN_ID"
  | logLevel => "RMW_STUB_LOG_LEVEL"
  | commonDomain => "ROS_DOMAIN_ID"
  | localhostOnly => "ROS_LOCALHOST_ONLY"
  | enclave => "ROS_SECURITY_ENCLAVE"
  | logFilter => "RUST_LOG"

end Variable

/-- What a variable holds: a text, or bytes that are no UTF-8. -/
inductive Setting
  | text (s : String)
  | bytes (b : ByteArray)

namespace Setting

def ofBytes (b : ByteArray) : Setting :=
  match String.fromUTF8? b with
  | some s => .text s
  | none => .bytes b

def text? : Setting → Option String
  | .text s => some s
  | .bytes _ => none

end Setting

abbrev Environment := Variable → Option Setting

namespace Environment

def empty : Environment := fun _ => none

def set (env : Environment) (v : Variable) (s : Setting) : Environment :=
  fun w => if w = v then some s else env w

/-- The text of a variable. One that is no text counts as unset. -/
def text? (env : Environment) (v : Variable) : Option String :=
  (env v).bind Setting.text?

@[simp] theorem set_self (env : Environment) (v : Variable) (s : Setting) :
    env.set v s v = some s := by
  simp [set]

theorem set_of_ne (env : Environment) {v w : Variable} (s : Setting) (h : w ≠ v) :
    env.set v s w = env w := by
  simp [set, h]

end Environment
end NullMiddleware
