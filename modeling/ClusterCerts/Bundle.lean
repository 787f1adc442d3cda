import ClusterCerts.Order.SortedMap
import ClusterCerts.Text.Bytes

/-!
# Bundles

A certificate with its private key and, where one was made, a key store that holds both.
Diagnostics show the certificate and hide the key and the password.
-/

namespace ClusterCerts

structure PrivateKey where
  pem : Bytes
deriving DecidableEq

structure KeyStore where
  bytes : Bytes
  password : String
deriving DecidableEq

structure Bundle where
  key : PrivateKey
  cert : Bytes
  keyStore : Option KeyStore := none
deriving DecidableEq

abbrev CertificateMap := SortedMap String Bundle

def PrivateKey.inspect (_ : PrivateKey) : String :=
  "PrivateKey \x7b pem: \"[REDACTED]\" \x7d"

def KeyStore.inspect (s : KeyStore) : String :=
  "KeyStore \x7b len: " ++ toString s.bytes.length ++ ", password: \"[REDACTED]\" \x7d"

def Bundle.inspect (b : Bundle) : String :=
  let cert := ", ".intercalate (b.cert.map fun x => toString x.toNat)
  let store := match b.keyStore with
    | none => "None"
    | some s => "Some(" ++ s.inspect ++ ")"
  "CertAndKey \x7b key: " ++ b.key.inspect ++ ", cert: [" ++ cert ++ "], key_store: " ++ store ++
    " \x7d"

end ClusterCerts
