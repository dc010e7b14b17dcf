import EventRouting.Expression
import EventRouting.Grammar

set_option autoImplicit false

namespace EventRouting

inductive Error where
  /-- The text is no rule. -/
  | parse (text : String)
  | ipRange (cause : IpRangeError)
  | domainName (cause : DomainNameError)
  | regexp (cause : RegexpError)
  | grammar (cause : GrammarError)
  | emptyOperands (kind : Junction)
  | configuration (reason : String)
  | notUtf8
  | noSuchFile
  | isDirectory
  | yaml
  | json
deriving DecidableEq, Repr

def Error.message : Error → String
  | parse text => "could not parse rule " ++ Text.quoted text
  | ipRange cause => cause.message
  | domainName cause => cause.message
  | regexp cause => cause.message
  | grammar cause => cause.message
  | emptyOperands kind => kind.name ++ " requires at least one operand"
  | configuration reason => "configuration error: " ++ reason
  | notUtf8 => "IO error: stream did not contain valid UTF-8"
  | noSuchFile => "IO error: No such file or directory (os error 2)"
  | isDirectory => "IO error: Is a directory (os error 21)"
  | yaml => "YAML parsing error"
  | json => "JSON parsing error"

end EventRouting
