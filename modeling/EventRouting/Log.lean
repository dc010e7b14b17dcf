set_option autoImplicit false

namespace EventRouting

inductive LogLevel where
  | debug
  | info
  | warn
deriving DecidableEq, Repr

def LogLevel.name : LogLevel → String
  | debug => "debug"
  | info => "info"
  | warn => "warn"

structure LogEntry where
  level : LogLevel
  message : String
deriving DecidableEq, Repr

abbrev Log := List LogEntry

end EventRouting
