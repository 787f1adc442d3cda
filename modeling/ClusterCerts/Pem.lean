import ClusterCerts.Text.Base64
import ClusterCerts.Text.Blank
import ClusterCerts.Text.Fields
import ClusterCerts.Text.Search

/-!
# PEM

Binary data as text: base64 in lines of 64 characters between a line that begins and a line
that ends the block. A reader of a certificate takes the lines after the first line that
begins a block, whatever its label, up to the next that ends one.
-/

namespace ClusterCerts.Pem

def dashes : List Char := "-----".toList

def beginMark : List Char := "-----BEGIN ".toList

def endMark : List Char := "-----END ".toList

/-- The joined text of the lines up to the one that ends the block, blanks at line ends left
out. Every line has to be UTF-8. -/
def body? : List Bytes → Option (List Char)
  | [] => none
  | l :: ls => do
    let cs := (← Bytes.toString? l).toList
    if endMark.isPrefixOf cs then return []
    return Text.trimEnd cs ++ (← body? ls)

def firstBody? : List Bytes → Option (List Char)
  | [] => none
  | l :: ls => do
    let cs := (← Bytes.toString? l).toList
    if beginMark.isPrefixOf cs then
      if (Text.around? dashes (cs.drop beginMark.length)).isSome then body? ls else none
    else firstBody? ls

def decode? (bytes : Bytes) : Option Bytes :=
  firstBody? (Text.fields 10 bytes) >>= Base64.decodeJoined?

def linesOf (k : Nat) (cs : List Char) : List Char :=
  match cs with
  | [] => []
  | c :: cs => c :: cs.take k ++ '\n' :: linesOf k (cs.drop k)
termination_by cs.length
decreasing_by simp only [List.length_drop, List.length_cons]; omega

def encodeChars (label : String) (data : Bytes) : List Char :=
  beginMark ++ label.toList ++ dashes ++ '\n' :: linesOf 63 (Base64.encode data) ++
    endMark ++ label.toList ++ dashes ++ ['\n']

def encode (label : String) (data : Bytes) : String := String.ofList (encodeChars label data)

end ClusterCerts.Pem
