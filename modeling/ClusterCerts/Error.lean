/-!
# Errors

What can go wrong with keys and certificates, by cause. Each cause belongs to one kind, and
the message is the heading of the kind followed by the words of the cause.
-/

namespace ClusterCerts

inductive ParseFault
  | pem
  | certificate
  | commonName
  | noCommonName
  | caKey
  | caCertificate
deriving DecidableEq, Repr

inductive ValidationFault
  | emptyCommonName
  | emptyCaName
  | zeroValidity
  | validityOutOfRange (days : UInt32)
  | duplicatePod (pod : String)
deriving DecidableEq, Repr

inductive Error
  | generation (detail : String)
  | parse (fault : ParseFault)
  | validation (fault : ValidationFault)
  | san (name : String)
deriving DecidableEq, Repr

inductive ErrorKind
  | generation
  | parse
  | validation
  | san
deriving DecidableEq, Repr

def ErrorKind.heading : ErrorKind → String
  | generation => "certificate generation failed"
  | parse => "certificate parsing failed"
  | validation => "validation failed"
  | san => "SAN error"

def ErrorKind.describe (k : ErrorKind) (detail : String) : String := k.heading ++ ": " ++ detail

def ParseFault.detail : ParseFault → String
  | pem => "failed to decode PEM"
  | certificate => "failed to parse certificate"
  | commonName => "failed to parse CN"
  | noCommonName => "common name not found"
  | caKey => "failed to parse CA key"
  | caCertificate => "failed to parse CA certificate"

def ValidationFault.detail : ValidationFault → String
  | emptyCommonName => "subject common name cannot be empty"
  | emptyCaName => "CA name cannot be empty"
  | zeroValidity => "validity_days must be greater than 0"
  | validityOutOfRange days => "validity of " ++ toString days.toNat ++ " days is out of range"
  | duplicatePod pod => "pod " ++ pod ++ " is listed more than once"

namespace Error

def kind : Error → ErrorKind
  | generation _ => .generation
  | parse _ => .parse
  | validation _ => .validation
  | san _ => .san

def detail : Error → String
  | generation detail => detail
  | parse fault => fault.detail
  | validation fault => fault.detail
  | san name => "invalid DNS name '" ++ name ++ "': Invalid IA5String: '" ++ name ++ "'"

def message (e : Error) : String := e.kind.describe e.detail

end Error

/-- Why the alternative names of a certificate cannot be told. -/
inductive NamesFault
  | envelope (cause : Error)
  | certificate
  | extension
deriving DecidableEq, Repr

end ClusterCerts
