import RequestRouting.Text.Quoted

/-!
# Errors

What can go wrong when routes are registered and requests resolved, and how it is reported.
-/

namespace RequestRouting

/-- Why the constraints of a pattern cannot be used. -/
inductive PatternFault where
  /-- They make no regular expression. -/
  | unreadable
  /-- They make one that takes too much memory. -/
  | tooLarge
  deriving DecidableEq

/-- A failure of the router. -/
inductive RoutingError where
  /-- Two routes matched a path and neither ranks before the other. -/
  | ambiguousMatch (path first second : String)
  /-- A pattern whose constraints cannot be used. -/
  | invalidPattern (pattern : String) (fault : PatternFault)
  /-- A route without a method, while no methods are known. -/
  | noMethods (pattern : String)
  /-- A text that names no method. -/
  | unknownMethod (text : String)
  /-- A text that is no configuration. -/
  | invalidConfig
  deriving DecidableEq

/-- The report of a fault. -/
def PatternFault.message : PatternFault → String
  | unreadable => "regex parse error:"
  | tooLarge => "Compiled regex exceeds size limit of 10485760 bytes."

namespace RoutingError

/-- The report of a failure. -/
def message : RoutingError → String
  | ambiguousMatch path first second =>
    "ambiguous handlers mapped for '" ++ path ++ "': \x7b" ++ Text.quoted first ++ ", "
      ++ Text.quoted second ++ "\x7d"
  | invalidPattern pattern fault =>
    "invalid path pattern: " ++ pattern ++ ": " ++ fault.message
  | noMethods pattern => "no methods to register '" ++ pattern ++ "' for"
  | unknownMethod text => "unknown HTTP method: " ++ text
  | invalidConfig => "invalid router configuration"

end RoutingError
end RequestRouting
