import Gradebook.Client.Network
import Gradebook.Transport.Endpoint
import Gradebook.Transport.Message
import Std.Async.TCP
import Std.Async.DNS

namespace Gradebook

/-!
# Sockets

The only place where the program touches a network: a call is carried over a
connection of its own, and a service answers one connection after the other.
-/

namespace Socket

open Std.Net Std.Async

/-- One side of a connection. -/
abbrev Connection := TCP.Socket.Client

/-- What waits for connections. -/
abbrev Listener := TCP.Socket.Server

/-- How many bytes are received at a time. -/
def portion : UInt64 := 65536

/-- Receive until a message has arrived as a whole or the other side closes. -/
partial def receive (socket : Connection) (bounded : Bool) (received : ByteArray) :
    IO (Option Message) := do
  match ← (socket.recv? portion).block with
  | none => return Message.ofBytes? true bounded received.data.toList
  | some more =>
    let received := received ++ more
    match Message.ofBytes? false bounded received.data.toList with
    | some message => return some message
    | none => receive socket bounded received

/-- Send a message. -/
def send (socket : Connection) (message : Message) : IO Unit :=
  (socket.send ⟨message.encode.toArray⟩).block

/-! ## Calling -/

/-- The socket address of an IP address and a port. -/
def address (port : UInt16) : IPAddr → SocketAddress
  | .v4 addr => .v4 ⟨addr, port⟩
  | .v6 addr => .v6 ⟨addr, port⟩

/-- Connect to the first address of an endpoint that can be reached. -/
def connect (port : UInt16) : List IPAddr → IO Connection
  | [] => throw (IO.userError "no address can be reached")
  | first :: rest => do
    let socket ← TCP.Socket.Client.mk
    try
      (socket.connect (address port first)).block
      return socket
    catch _ => connect port rest

/-- Carry a request to an endpoint. -/
def exchange (authority : String) (endpoint : Endpoint) (request : Request) :
    IO (Option Response) := do
  let addresses ← (DNS.getAddrInfo endpoint.host (toString endpoint.port)).block
  let socket ← connect endpoint.port addresses.toList
  send socket (.ofRequest authority request)
  let message ← receive socket false .empty
  return message.bind Message.response?

/-- Carry a call to where its URL leads.  Whatever goes wrong on the way, there
is no reply then. -/
def call (call : Call) : IO Reply := do
  let found := do
    let authority ← Endpoint.authority? call.url
    let endpoint ← Endpoint.ofAuthority? authority
    let request ← Network.request? (Endpoint.scheme ++ authority) call
    return (authority, endpoint, request)
  match found with
  | none => return none
  | some (authority, endpoint, request) =>
    try exchange authority endpoint request catch _ => return none

/-! ## Serving -/

/-- Answer the request on a connection; the result is the service afterwards. -/
def answer (service : Service) (socket : Connection) : IO Service := do
  match (← receive socket true .empty).bind Message.request? with
  | none =>
    send socket (.ofResponse (.bare 400))
    return service
  | some request =>
    let (response, service) := service.respond request
    send socket (.ofResponse response)
    socket.shutdown.block
    return service

/-- Answer connections for ever. -/
partial def answerAll (server : Listener) (service : Service) : IO Unit := do
  let socket ← server.accept.block
  let service ← try answer service socket catch _ => pure service
  answerAll server service

/-- Run a service on a port of the own machine. -/
def serve (port : UInt16) (service : Service) : IO Unit := do
  let server ← TCP.Socket.Server.mk
  server.bind (address port (.v4 (.ofParts 127 0 0 1)))
  server.listen 128
  answerAll server service

end Socket

end Gradebook
