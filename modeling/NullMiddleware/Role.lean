/-!
What a node can own besides its graph guard condition.
-/

namespace NullMiddleware

inductive Role
  | publisher
  | subscription
  | service
  | client
  deriving DecidableEq

def Role.name : Role → String
  | publisher => "publisher"
  | subscription => "subscription"
  | service => "service"
  | client => "client"

end NullMiddleware
