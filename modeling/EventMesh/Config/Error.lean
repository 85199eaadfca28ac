import EventMesh.ErrorCode

/-!
Why a configuration cannot be loaded: a file that cannot be read or understood, or a variable with a
wrong value. None of them is worth another try.
-/

namespace EventMesh

/-- Errors of loading a configuration. -/
inductive ConfigError where
  | unreadable (path reason : String)
  | malformed (path reason : String)
  | invalidVariable (name reason : String)
  deriving DecidableEq

namespace ConfigError

def code : ConfigError → String
  | .unreadable _ _ => "CONFIG_READ_FILE"
  | .malformed _ _ => "CONFIG_PARSE_TOML"
  | .invalidVariable _ _ => "CONFIG_INVALID_ENV_VAR"

def message : ConfigError → String
  | .unreadable path reason => "failed to read config file '" ++ path ++ "': " ++ reason
  | .malformed path reason => "failed to parse config file '" ++ path ++ "': " ++ reason
  | .invalidVariable name reason =>
    "invalid value for environment variable '" ++ name ++ "': " ++ reason

/-- The texts of the chain of causes below an error. -/
def causes : ConfigError → List String
  | .unreadable _ reason | .malformed _ reason => [reason]
  | .invalidVariable _ _ => []

instance : Coded ConfigError where
  code := code
  message := message
  isRecoverable _ := false

end ConfigError

end EventMesh
