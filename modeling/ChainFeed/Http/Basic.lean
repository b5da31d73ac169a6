/-!
# HTTP exchanges

Nodes and archives are reached by requests that fetch a URL or post a body to one. A server that is
not reached gives no response; a response has a status and a body.
-/

namespace ChainFeed.Http

/-- A request. -/
structure Request where
  url : String
  /-- The body that is posted; a request without one fetches. -/
  body : Option (List UInt8)
  deriving DecidableEq, Repr

/-- A response. -/
structure Response where
  status : Nat
  body : List UInt8
  deriving DecidableEq, Repr

/-- Whether a request was granted. -/
def Response.isSuccess (response : Response) : Bool :=
  200 ≤ response.status && response.status < 300

/-- A way to put requests; a server that is not reached gives none. -/
abbrev Exchange (m : Type → Type) := Request → m (Option Response)

variable {m : Type → Type} [Monad m]

/-- The body of a granted request for a URL. -/
def get? (exchange : Exchange m) (url : String) : m (Option (List UInt8)) := do
  let response ← exchange ⟨url, none⟩
  return (response.filter Response.isSuccess).map Response.body

/-- The words for whatever goes wrong between request and response. -/
def fault : String :=
  "<transport>"

end ChainFeed.Http
