import ClusterCerts.Order.SortedSet
import ClusterCerts.Text.Unprintable
import ClusterCerts.Text.GraphemeExtend

/-!
# Quoted text

Text between quotes for log lines and diagnostics. Quotes, backslashes and line controls are
escaped by a letter; a character that combines with its neighbour or shows nothing of its own
is written by its number.
-/

namespace ClusterCerts.Text

def quoteChar (c : Char) : List Char :=
  match c with
  | '\x00' => ['\\', '0']
  | '\t' => ['\\', 't']
  | '\r' => ['\\', 'r']
  | '\n' => ['\\', 'n']
  | '"' => ['\\', '"']
  | '\\' => ['\\', '\\']
  | _ =>
    if isGraphemeExtend c || !isPrintable c then
      "\\u\x7b".toList ++ Nat.toDigits 16 c.toNat ++ "\x7d".toList
    else [c]

def quoted (s : String) : String := String.ofList ('"' :: s.toList.flatMap quoteChar ++ ['"'])

def quotedSet (s : SortedSet String) : String :=
  "\x7b" ++ ", ".intercalate (s.toList.map quoted) ++ "\x7d"

end ClusterCerts.Text
