import Gradebook.Client.Dialogue
import Gradebook.Service.Basic

namespace Gradebook

/-!
# The way to the service

A network carries calls to a service that listens at some address, or at none.
It may be told to answer certain requests itself, in place of the service, and
it remembers every request that arrived.
-/

/-- An answer given in place of the service. -/
structure Fault where
  method : Method
  /-- Whether requests for grading properties are meant, or for the record. -/
  properties : Bool
  status : Nat
  body : String
  /-- How many such requests are let through first. -/
  skip : Nat
  /-- How many are answered after that; without a number all of them. -/
  times : Option Nat
deriving DecidableEq

/-- A service, the way to it, and what has gone along that way. -/
structure Network where
  service : Service
  /-- Where the service listens; nowhere means that no call arrives. -/
  address : Option String
  faults : List Fault
  /-- The requests that arrived, in order. -/
  arrived : List Request

namespace Network

/-! ## Requests -/

/-- A header as it arrives, without blanks around it; one with control
characters cannot be sent. -/
def header? (value : String) : Option String :=
  if value.toList.all fun c => c = '\t' || (0x20 ≤ c.toNat && c.toNat ≠ 0x7F) then
    let isBlank (c : Char) : Bool := c = ' ' || c = '\t'
    some (String.ofList
      ((value.toList.dropWhile isBlank).reverse.dropWhile isBlank).reverse)
  else none

/-- What a URL asks of the service at an address: the part behind the address
and before a fragment. -/
def target? (address url : String) : Option String :=
  let rest := url.toList.drop address.length
  if url.toList.take address.length ≠ address.toList then none
  else
    match rest.takeWhile (· ≠ '#') with
    | [] => some "/"
    | '/' :: more => some (String.ofList ('/' :: more))
    | '?' :: more => some (String.ofList ('/' :: '?' :: more))
    | _ => none

/-- The request that a call becomes, if it can be sent. -/
def request? (address : String) (call : Call) : Option Request := do
  let target ← target? address call.url
  let authorization ← match call.authorization with
    | none => some none
    | some value => (header? value).map some
  return ⟨call.method, target, authorization, call.contentType, call.body⟩

/-! ## Faults -/

/-- Whether a request is one that a fault is about. -/
def Fault.concerns (fault : Fault) (request : Request) : Bool :=
  fault.method = request.method &&
    fault.properties = "/properties".toList.isSuffixOf (Route.path request.target)

/-- Try the faults in order.  One that still lets requests through counts
down. -/
def tryFaults (request : Request) : List Fault → Option Response × List Fault
  | [] => (none, [])
  | fault :: rest =>
    let pass (fault : Fault) : Option Response × List Fault :=
      let (response, rest) := tryFaults request rest
      (response, fault :: rest)
    if !Fault.concerns fault request then pass fault
    else if 0 < fault.skip then pass { fault with skip := fault.skip - 1 }
    else if fault.times = some 0 then pass fault
    else
      let body := if fault.status = 204 || fault.status = 304 then "" else fault.body
      (some ⟨fault.status, none, none, body⟩,
        { fault with times := fault.times.map (· - 1) } :: rest)

/-! ## Exchange -/

/-- Carry a call to the service and the response back. -/
def exchange : Link Network := fun call network =>
  match network.address.bind (request? · call) with
  | none => (none, network)
  | some request =>
    let network := { network with arrived := network.arrived ++ [request] }
    match tryFaults request network.faults with
    | (some response, faults) => (some response, { network with faults })
    | (none, faults) =>
      let (response, service) := network.service.respond request
      (some response, { network with service, faults })

end Network

end Gradebook
