import ClusterCerts.Error
import ClusterCerts.Files.Fault
import ClusterCerts.Json.Decode
import ClusterCerts.Request

/-!
# Errors of commands

What ends a command without a report. As for keys and certificates, each cause belongs to one
kind, whose heading starts the message.
-/

namespace ClusterCerts

inductive CommandErrorKind
  | certificate (kind : ErrorKind)
  | request
  | caDirectory
  | format
  | io
deriving DecidableEq, Repr

namespace CommandErrorKind

def heading : CommandErrorKind → String
  | certificate kind => kind.heading
  | request => "invalid request"
  | caDirectory => "CA directory error"
  | format => "format error"
  | io => "IO error"

def describe (k : CommandErrorKind) (detail : String) : String := k.heading ++ ": " ++ detail

def hasSource : CommandErrorKind → Bool
  | certificate _ | io => true
  | request | caDirectory | format => false

end CommandErrorKind

inductive CommandError
  | certificate (cause : Error)
  | document (path : String) (fault : DocumentFault)
  | request (fault : RequestFault)
  | noAuthority (dir : String)
  | authorityPresent (dir : String)
  | io (fault : FileFault)
deriving DecidableEq

namespace CommandError

def kind : CommandError → CommandErrorKind
  | certificate cause => .certificate cause.kind
  | document .. | request _ => .request
  | noAuthority _ | authorityPresent _ => .caDirectory
  | io _ => .io

def detail : CommandError → String
  | certificate cause => cause.detail
  | document path fault => path ++ ": " ++ fault.message
  | request fault => fault.detail
  | noAuthority dir => dir ++ " does not hold ca.crt and ca.key"
  | authorityPresent dir => dir ++ " already holds a CA, use --force to replace it"
  | io fault => fault.detail

def message (e : CommandError) : String := e.kind.describe e.detail

end CommandError
end ClusterCerts
