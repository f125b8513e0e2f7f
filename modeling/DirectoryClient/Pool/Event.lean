/-!
# What pools report

Pools tell what they do through events. An event is written as a level, a
message, and named numbers.
-/

namespace DirectoryClient.Pool

inductive Level
  | debug
  | info
  | warn
  deriving DecidableEq

def Level.name : Level → String
  | debug => "DEBUG"
  | info => "INFO"
  | warn => "WARN"

/-- An event in words. -/
structure LogLine where
  level : Level
  message : String
  fields : List (String × Nat)

end DirectoryClient.Pool
