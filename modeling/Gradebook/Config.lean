import Gradebook.Client.Basic
import Gradebook.Environment
import Gradebook.Files

namespace Gradebook

/-!
# Configuration

The configuration names the service, the token and the user.  It is kept in a
JSON file; variables of the environment take precedence over the file.
-/

/-- Where the service is, what it is to be told, and who is acting. -/
structure Config where
  baseUrl : String
  apiToken : Option String
  username : Option String
deriving DecidableEq

/-- Why a configuration cannot be loaded or saved. -/
inductive ConfigError
  | unreadable
  | malformed
  | noFolder
  | unwritable
deriving DecidableEq

/-- The message of a failure. -/
def ConfigError.message : ConfigError → String
  | .unreadable => "Failed to read config file"
  | .malformed => "Failed to parse config file"
  | .noFolder => "Failed to create config directory"
  | .unwritable => "Failed to write config file"

namespace Config

/-- The service on the own machine. -/
def defaultUrl : String := "http://localhost:4010/services/grader"

/-- The configuration where none is stated. -/
def default : Config := ⟨defaultUrl, none, none⟩

instance : Inhabited Config := ⟨default⟩

/-- The path of the configuration file below the user's configuration folder. -/
def userPath : String := "grade-ledger/config.json"

/-! ## JSON -/

/-- The fields of a configuration read so far. -/
structure Fields where
  baseUrl : Option String := none
  apiToken : Option (Option String) := none
  username : Option (Option String) := none

/-- Read one member of a configuration. -/
def Fields.read (origin : Json.Origin) (fields : Fields) (name : String)
    (value : Json.Document) : Except Json.ReadError Fields :=
  match name with
  | "base_url" => do
    let baseUrl ← Json.once name fields.baseUrl (Json.stringReader origin value)
    return { fields with baseUrl }
  | "api_token" => do
    let apiToken ←
      Json.once name fields.apiToken (Json.nullable Json.stringReader origin value)
    return { fields with apiToken }
  | "username" => do
    let username ←
      Json.once name fields.username (Json.nullable Json.stringReader origin value)
    return { fields with username }
  | _ => do
    Json.skip value
    return fields

/-- The configuration that the fields make. -/
def Fields.toConfig (fields : Fields) : Except Json.ReadError Config := do
  let baseUrl ← Json.required "base_url" fields.baseUrl
  return ⟨baseUrl, fields.apiToken.getD none, fields.username.getD none⟩

/-- Read a configuration from the list of its fields. -/
def ofElements (elements : Json.Elements) : Except Json.ReadError Config := do
  let (baseUrl, elements) ← elements.nextRequired Json.stringReader 0
    "struct ClientConfig with 3 elements"
  let (apiToken, elements) ← elements.next (Json.nullable Json.stringReader)
  let (username, elements) ← elements.next (Json.nullable Json.stringReader)
  elements.finish
  return ⟨baseUrl, apiToken.getD none, username.getD none⟩

/-- Read a configuration; only the base URL has to be there. -/
def reader : Json.Reader Config :=
  Json.recordReader "ClientConfig"
    (fun origin members ending => do
      let fields ← Json.foldMembers (Fields.read origin) ending {} members
      fields.toConfig)
    ofElements

/-- A configuration with its fields in the order in which they are declared. -/
def toJson (config : Config) : Json :=
  .object [("base_url", .string config.baseUrl),
    ("api_token", .ofOption .string config.apiToken),
    ("username", .ofOption .string config.username)]

/-! ## Files -/

/-- Load a configuration file.  A missing file stands for the default. -/
def loadFrom (files : Files) (path : FilePath) : Except ConfigError Config :=
  match files.find? path with
  | none => .ok default
  | some _ =>
    match files.readText? path with
    | none => .error .unreadable
    | some text => (Json.readText reader text).mapError fun _ => .malformed

/-- Save a configuration, creating the folders on the way to the file. -/
def saveTo (config : Config) (files : Files) (path : FilePath) : Except ConfigError Files :=
  match files.createParents path with
  | none => .error .noFolder
  | some files =>
    match files.write path (.text config.toJson.pretty) with
    | none => .error .unwritable
    | some files => .ok files

/-! ## Environment -/

/-- The user's configuration folder. -/
def userFolder? (environment : Environment) : Option String :=
  (environment.get? "XDG_CONFIG_HOME").filter (·.startsWith "/") <|>
    (environment.get? "HOME").map (· ++ "/.config")

/-- Let the environment take precedence. -/
def withEnvironment (config : Config) (environment : Environment) : Config where
  baseUrl := environment.url?.getD config.baseUrl
  apiToken := environment.token? <|> config.apiToken
  username := environment.username? <|> config.username

/-- The user's configuration: that of the file, or the default where there is no
readable file, under the precedence of the environment.  The files are those of
the user's configuration folder. -/
def load (environment : Environment) (files : Files) : Config :=
  let config := (loadFrom files (.ofText userPath)).toOption.getD default
  config.withEnvironment environment

/-- Save the user's configuration. -/
def save (config : Config) (files : Files) : Except ConfigError Files :=
  config.saveTo files (.ofText userPath)

/-- The client of a configuration. -/
def client (config : Config) : Client :=
  .ofUrl config.baseUrl config.apiToken

/-- The client that the environment alone describes. -/
def environmentClient (environment : Environment) : Client :=
  .ofUrl (environment.url?.getD defaultUrl) environment.token?

end Config

end Gradebook
