import Gradebook.Text.Split

namespace Gradebook

/-!
# Endpoints

The host and port behind a URL.
-/

/-- Where a service listens. -/
structure Endpoint where
  host : String
  port : UInt16
deriving DecidableEq

namespace Endpoint

/-- What a URL begins with.  Other schemes are not supported. -/
def scheme : String := "http://"

/-- The authority of a URL: what stands between its scheme and its path. -/
def authority? (url : String) : Option String :=
  if url.startsWith scheme then
    some (String.ofList ((url.toList.drop scheme.length).takeWhile
      fun c => c ≠ '/' && c ≠ '?' && c ≠ '#'))
  else none

/-- The endpoint that an authority names; the port is 80 unless another one is
given. -/
def ofAuthority? (authority : String) : Option Endpoint :=
  match Text.splitAt ':' authority.toList with
  | [host] => if host.isEmpty then none else some ⟨String.ofList host, 80⟩
  | [host, port] =>
    match (String.ofList port).toNat? with
    | some port =>
      if host.isEmpty || UInt16.size ≤ port then none
      else some ⟨String.ofList host, port.toUInt16⟩
    | none => none
  | _ => none

end Endpoint

end Gradebook
