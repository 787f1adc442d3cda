import ClusterCerts.Documents
import ClusterCerts.Proofs.Json.Decoding

/-!
# Secret data as a document

The text of secret data reads back as the same data, whatever characters its entries have.
-/

namespace ClusterCerts.SecretData

theorem inverts_toJson : Decoder.Inverts decoder toJson :=
  Decoder.inverts_string.map Decoder.keyText_escape

theorem ofText_prettyText (data : SecretData) :
    Decoder.ofText decoder data.toJson.prettyText = .ok data := (inverts_toJson.ofText data).2

end ClusterCerts.SecretData
