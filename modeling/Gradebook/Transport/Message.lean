import Gradebook.Client.Status
import Gradebook.Service.Exchange
import Gradebook.Text.Hexadecimal
import Gradebook.Text.Split

namespace Gradebook

/-!
# Messages on a connection

Requests and responses as they travel: a first line, header fields, an empty
line, and the content.  Each connection carries one exchange, so a message may
also end where the connection is closed.
-/

/-- A message: its first line, its header fields, and its content. -/
structure Message where
  start : String
  fields : List (String × String)
  content : List UInt8
deriving DecidableEq

namespace Message

/-! ## Writing -/

/-- What ends a line. -/
def lineEnd : String := "\r\n"

/-- The bytes of a message. -/
def encode (message : Message) : List UInt8 :=
  let fields := message.fields ++ [("content-length", toString message.content.length)]
  let lines := fields.map fun (name, value) => name ++ ": " ++ value ++ lineEnd
  (message.start ++ lineEnd ++ String.join lines ++ lineEnd).toUTF8.data.toList ++
    message.content

/-- The message that asks something of a host. -/
def ofRequest (host : String) (request : Request) : Message where
  start := request.method.name ++ " " ++ request.target ++ " HTTP/1.1"
  fields :=
    [("host", host), ("connection", "close")] ++
      (request.authorization.map (("authorization", ·))).toList ++
      (request.contentType.map (("content-type", ·))).toList
  content := request.body.toUTF8.data.toList

/-- The message of a response. -/
def ofResponse (response : Response) : Message where
  start := "HTTP/1.1 " ++ Status.text response.status
  fields :=
    [("connection", "close"), ("access-control-allow-origin", Response.allowOrigin)] ++
      (response.contentType.map (("content-type", ·))).toList ++
      (response.allow.map (("allow", ·))).toList
  content := response.body.toUTF8.data.toList

/-! ## Reading -/

/-- Split bytes behind the first line end. -/
def splitLine? : List UInt8 → Option (List UInt8 × List UInt8)
  | 13 :: 10 :: rest => some ([], rest)
  | byte :: rest => (splitLine? rest).map fun (line, rest) => (byte :: line, rest)
  | [] => none

/-- The text that bytes encode. -/
def text? (bytes : List UInt8) : Option String :=
  String.fromUTF8? ⟨bytes.toArray⟩

/-- The name and value of a header field.  Names are kept in lower case. -/
def field? (line : List UInt8) : Option (String × String) := do
  let line ← text? line
  match line.toList.dropWhile (· ≠ ':') with
  | ':' :: value =>
    some ((String.ofList (line.toList.takeWhile (· ≠ ':'))).toLower,
      (String.ofList value).trimAscii.toString)
  | _ => none

/-- Read header fields up to the empty line; the fuel bounds their number. -/
def fields? : Nat → List UInt8 → Option (List (String × String) × List UInt8)
  | 0, _ => none
  | fuel + 1, bytes => do
    let (line, rest) ← splitLine? bytes
    if line.isEmpty then return ([], rest)
    let field ← field? line
    let (fields, rest) ← fields? fuel rest
    return (field :: fields, rest)

/-- The number that hexadecimal digits write; there is at least one. -/
def hexadecimal? (digits : List Char) : Option Nat :=
  if digits.isEmpty then none
  else digits.foldlM (fun number digit => (Text.hexDigit? digit).map (16 * number + ·)) 0

/-- Read content that comes in chunks, each behind a line with its length; the
fuel bounds their number. -/
def chunks? : Nat → List UInt8 → Option (List UInt8)
  | 0, _ => none
  | fuel + 1, bytes => do
    let (line, rest) ← splitLine? bytes
    let line ← text? line
    let length ← hexadecimal? (line.toList.takeWhile fun c => c ≠ ';' && c ≠ ' ')
    if length = 0 then return []
    if rest.length < length + 2 then none
    let content ← chunks? fuel (rest.drop (length + 2))
    return rest.take length ++ content

/-- The content of a message with some header fields; there is none while it has
not arrived as a whole. -/
def content? (closed bounded : Bool) (fields : List (String × String)) (bytes : List UInt8) :
    Option (List UInt8) :=
  if fields.lookup "transfer-encoding" = some "chunked" then chunks? (bytes.length + 1) bytes
  else
    match (fields.lookup "content-length").bind String.toNat? with
    | some length => if bytes.length < length then none else some (bytes.take length)
    | none => if bounded then some [] else if closed then some bytes else none

/-- Read the message that has arrived, if it has arrived as a whole.  It may have
ended by a closed connection; a `bounded` message without a length is empty. -/
def ofBytes? (closed bounded : Bool) (bytes : List UInt8) : Option Message := do
  let (line, rest) ← splitLine? bytes
  let start ← text? line
  let (fields, rest) ← fields? (rest.length + 1) rest
  let content ← content? closed bounded fields rest
  return ⟨start, fields, content⟩

/-- The request in a message. -/
def request? (message : Message) : Option Request := do
  let body ← text? message.content
  match Text.splitAt ' ' message.start.toList with
  | [method, target, _] =>
    some ⟨.ofName (String.ofList method), String.ofList target,
      message.fields.lookup "authorization", message.fields.lookup "content-type", body⟩
  | _ => none

/-- The response in a message. -/
def response? (message : Message) : Option Response := do
  let body ← text? message.content
  match Text.splitAt ' ' message.start.toList with
  | _ :: status :: _ =>
    let status ← (String.ofList status).toNat?
    return ⟨status, message.fields.lookup "content-type", message.fields.lookup "allow", body⟩
  | _ => none

end Message

end Gradebook
