import Gradebook.Json.Printer

namespace Gradebook

/-!
# Requests and responses

What a client asks of the service and what it is answered, as far as either of
them looks at it.
-/

/-- The method of a request. -/
inductive Method
  | get
  | head
  | put
  | options
  | other (name : String)
deriving DecidableEq

namespace Method

/-- The method of a name, which is written in capitals. -/
def ofName (name : String) : Method :=
  if name = "GET" then .get
  else if name = "HEAD" then .head
  else if name = "PUT" then .put
  else if name = "OPTIONS" then .options
  else .other name

/-- The name of a method. -/
def name : Method → String
  | .get => "GET"
  | .head => "HEAD"
  | .put => "PUT"
  | .options => "OPTIONS"
  | .other name => name

end Method

/-- A request. -/
structure Request where
  method : Method
  /-- The path with what may follow it after a question mark. -/
  target : String
  authorization : Option String
  contentType : Option String
  body : String
deriving DecidableEq

/-- A response. -/
structure Response where
  status : Nat
  contentType : Option String
  /-- The methods that the path knows, where the response tells them. -/
  allow : Option String
  body : String
deriving DecidableEq

namespace Response

/-- The origins whose pages may use the service: all. -/
def allowOrigin : String := "*"

/-- A response without content. -/
def bare (status : Nat) : Response := ⟨status, none, none, ""⟩

/-- A response with a message. -/
def plain (status : Nat) (message : String) : Response :=
  ⟨status, some "text/plain; charset=utf-8", none, message⟩

/-- A successful response with a JSON value. -/
def json (value : Json) : Response :=
  ⟨200, some "application/json", none, value.compress⟩

/-- Whether the status reports success. -/
def isSuccess (response : Response) : Bool :=
  200 ≤ response.status && response.status < 300

end Response

end Gradebook
