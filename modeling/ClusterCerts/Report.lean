import ClusterCerts.Json

/-!
# Reports

What a command has to say when it is done, as a table for people or as JSON for scripts.
-/

namespace ClusterCerts

inductive Format
  | table
  | json
deriving DecidableEq, Repr

def Format.name : Format → String
  | table => "table"
  | json => "json"

def Format.ofName? (s : String) : Option Format := [Format.table, .json].find? fun f => f.name = s

structure AuthorityReport where
  name : String
  directory : String
  validityDays : UInt32
  replaced : Option String := none
deriving DecidableEq, Repr

structure PodRow where
  pod : String
  action : String
  reasons : List String
deriving DecidableEq, Repr

structure CycleReport where
  caName : String
  certSecret : String
  keySecret : String
  pods : List PodRow
  writtenTo : Option String := none
deriving DecidableEq, Repr

structure PruneReport where
  removed : List String
  kept : List String
deriving DecidableEq, Repr

inductive Report
  | authority (r : AuthorityReport)
  | cycle (r : CycleReport)
  | prune (r : PruneReport)
deriving DecidableEq, Repr

namespace Report

def column (width : Nat) (s : String) : String :=
  s ++ String.ofList (List.replicate (width - s.length) ' ')

def cut (width : Nat) (s : String) : String :=
  if s.length ≤ width then s
  else if width ≤ 3 then String.ofList (s.toList.take width)
  else String.ofList (s.toList.take (width - 3)) ++ "..."

def rule (c : Char) (width : Nat) : String := String.ofList (List.replicate width c)

def linesText (ls : List String) : String := String.join (ls.map (· ++ "\n"))

end Report

open Report

def AuthorityReport.table (r : AuthorityReport) : String :=
  linesText <|
    ["Cluster CA", rule '═' 34, "Name:           " ++ r.name, "Directory:      " ++ r.directory,
      "Validity:       " ++ toString r.validityDays.toNat ++ " days"] ++
    (r.replaced.map fun name => "Replaced:       kept as " ++ name).toList

namespace CycleReport

def changed (r : CycleReport) : Nat := (r.pods.filter fun p => p.action ≠ "reused").length

def row (pod action reasons : String) : String :=
  column 48 pod ++ "  " ++ column 12 action ++ "  " ++ reasons

def table (r : CycleReport) : String :=
  linesText <|
    if r.pods.isEmpty then ["No nodes to reconcile"]
    else
      ["Signed by " ++ r.caName ++ " (secrets " ++ r.certSecret ++ ", " ++ r.keySecret ++ ")", "",
        row "POD" "ACTION" "REASONS", rule '─' 96] ++
      (r.pods.map fun p => row (cut 48 p.pod) p.action (", ".intercalate p.reasons)) ++
      ["",
        "Total: " ++ toString r.pods.length ++ " pod(s), " ++ toString r.changed ++ " changed"] ++
      (r.writtenTo.map fun path => "Secret data written to " ++ path).toList

end CycleReport

def PruneReport.table (r : PruneReport) : String :=
  linesText <|
    (if r.removed.isEmpty then ["No old CA certificates removed"]
      else "Removed" :: r.removed.map ("  " ++ ·)) ++
    ["", "Kept"] ++ r.kept.map ("  " ++ ·)

namespace Report

def table : Report → String
  | authority r => r.table
  | cycle r => r.table
  | prune r => r.table

def textOrNull (s : Option String) : Json := (s.map Json.ofString).getD .null

def texts (ss : List String) : Json := .array (ss.map .ofString)

def toJson : Report → Json
  | authority r => .record
    [("name", .ofString r.name), ("directory", .ofString r.directory),
      ("validity_days", .ofNat r.validityDays.toNat), ("replaced", textOrNull r.replaced)]
  | cycle r => .record
    [("ca", .record [("name", .ofString r.caName), ("cert_secret", .ofString r.certSecret),
        ("key_secret", .ofString r.keySecret)]),
      ("pods", .array (r.pods.map fun p => .record
        [("pod", .ofString p.pod), ("action", .ofString p.action), ("reasons", texts p.reasons)])),
      ("written_to", textOrNull r.writtenTo)]
  | prune r => .record [("removed", texts r.removed), ("kept", texts r.kept)]

def text (f : Format) (r : Report) : String :=
  match f with
  | .table => r.table
  | .json => r.toJson.prettyText ++ "\n"

end Report
end ClusterCerts
