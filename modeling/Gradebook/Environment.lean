namespace Gradebook

/-!
# Environment variables
-/

/-- The variables of the environment. -/
structure Environment where
  settings : List (String × String)

/-- The value of a variable, if it is set. -/
def Environment.get? (environment : Environment) (name : String) : Option String :=
  environment.settings.lookup name

/-- The token that the environment states, for a service as for its clients. -/
def Environment.token? (environment : Environment) : Option String :=
  environment.get? "GRADER_API_TOKEN"

/-- The base URL of the service that the environment states. -/
def Environment.url? (environment : Environment) : Option String :=
  environment.get? "GRADER_URL"

/-- The user name that the environment states. -/
def Environment.username? (environment : Environment) : Option String :=
  environment.get? "GRADER_USER"

end Gradebook
