import Gradebook.Environment

namespace Gradebook

/-!
# Access to the service

A service may be protected by a token, which a request has to bear in its
authorization header.
-/

/-- What a service asks of its clients.  Without a token everyone is let in. -/
structure Access where
  token : Option String

namespace Access

/-- The access to a service that is run in an environment. -/
def ofEnvironment (environment : Environment) : Access :=
  ⟨environment.token?⟩

/-- What precedes the token in the authorization header. -/
def scheme : String := "Bearer "

/-- Whether a header may be read as text at all: visible ASCII, blanks and
tabs. -/
def isReadable (header : String) : Bool :=
  header.toList.all fun c => c = '\t' || (0x20 ≤ c.toNat && c.toNat < 0x7F)

/-- Whether an authorization header, which may be missing, bears the token. -/
def accepts (access : Access) (header : Option String) : Bool :=
  match access.token, header with
  | none, _ => true
  | some _, none => false
  | some token, some header => header = scheme ++ token

/-- As `accepts`, for the header of a request, which counts as missing when it
cannot be read. -/
def admits (access : Access) (header : Option String) : Bool :=
  access.accepts (header.filter isReadable)

end Access

end Gradebook
