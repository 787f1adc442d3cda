/-!
# Nodes

A member of the cluster: its pod, its number and its roles. The pod name is the identity
under which its certificate is kept.
-/

namespace ClusterCerts

structure Node where
  podName : String
  nodeId : Int32
  controller : Bool := false
  broker : Bool := true
deriving DecidableEq, Repr

namespace Node

def podNameIn (pool : String) (nodeId : Int32) : String := pool ++ "-" ++ toString nodeId.toInt

def brokerIn (pool : String) (nodeId : Int32) : Node := ⟨podNameIn pool nodeId, nodeId, false, true⟩

def controllerIn (pool : String) (nodeId : Int32) : Node :=
  ⟨podNameIn pool nodeId, nodeId, true, false⟩

def text (n : Node) : String :=
  n.podName ++ " (id: " ++ toString n.nodeId.toInt ++ ", controller: " ++ toString n.controller ++
    ", broker: " ++ toString n.broker ++ ")"

def firstDuplicate? (nodes : List Node) : Option String := go [] nodes
where
  go (seen : List String) : List Node → Option String
    | [] => none
    | n :: ns => if n.podName ∈ seen then some n.podName else go (n.podName :: seen) ns

theorem firstDuplicate?_go_eq_none_iff {seen : List String} {nodes : List Node} :
    firstDuplicate?.go seen nodes = none ↔
      (∀ n ∈ nodes, n.podName ∉ seen) ∧ (nodes.map (·.podName)).Nodup := by
  induction nodes generalizing seen with
  | nil => simp [firstDuplicate?.go]
  | cons n ns ih =>
    rw [firstDuplicate?.go]
    split
    · next h => simp [h]
    · next h =>
      simp only [ih, List.mem_cons, not_or, List.map_cons, List.nodup_cons, List.mem_map]
      grind

theorem firstDuplicate?_eq_none_iff {nodes : List Node} :
    firstDuplicate? nodes = none ↔ (nodes.map (·.podName)).Nodup := by
  simp [firstDuplicate?, firstDuplicate?_go_eq_none_iff]

theorem split_of_firstDuplicate?_go {seen : List String} {nodes : List Node} {pod : String}
    (h : firstDuplicate?.go seen nodes = some pod) :
    ∃ before n after, nodes = before ++ n :: after ∧ n.podName = pod ∧
      (before.map (·.podName)).Nodup ∧ (∀ m ∈ before, m.podName ∉ seen) ∧
      (pod ∈ seen ∨ pod ∈ before.map (·.podName)) := by
  induction nodes generalizing seen with
  | nil => cases h
  | cons m ms ih =>
    rw [firstDuplicate?.go] at h
    split at h
    · next hseen =>
      cases h
      exact ⟨[], m, ms, rfl, rfl, .nil, by simp, .inl hseen⟩
    · next hnew =>
      obtain ⟨before, n, after, rfl, hn, hnodup, hfresh, hagain⟩ := ih h
      simp only [List.mem_cons, not_or] at hfresh
      refine ⟨m :: before, n, after, rfl, hn, ?_, ?_, ?_⟩
      · rw [List.map_cons, List.nodup_cons]
        refine ⟨fun hm => ?_, hnodup⟩
        obtain ⟨x, hx, hname⟩ := List.mem_map.1 hm
        exact (hfresh x hx).1 hname
      · intro x hx
        rcases List.mem_cons.1 hx with rfl | hx
        · exact hnew
        · exact (hfresh x hx).2
      · rw [List.map_cons, List.mem_cons]
        rwa [List.mem_cons, or_assoc, or_left_comm] at hagain

theorem split_of_firstDuplicate? {nodes : List Node} {pod : String}
    (h : firstDuplicate? nodes = some pod) :
    ∃ before n after, nodes = before ++ n :: after ∧ n.podName = pod ∧
      (before.map (·.podName)).Nodup ∧ pod ∈ before.map (·.podName) := by
  obtain ⟨before, n, after, hsplit, hn, hnodup, -, hagain⟩ := split_of_firstDuplicate?_go h
  exact ⟨before, n, after, hsplit, hn, hnodup, hagain.resolve_left List.not_mem_nil⟩

end Node

example : Node.podNameIn "my-cluster-brokers" 3 = "my-cluster-brokers-3" := by decide

end ClusterCerts
