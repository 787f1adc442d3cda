import ClusterCerts.Proofs.Files.Places

/-!
# Files that come, go and change

Where two states of the files agree but at some places, a walk that is possible in one of them is
possible in the other, unless it passes through a link at one of those. If there are files at most
at those places, no walk passes through them at all: a file that is written, that gets another name
or loses its readers leaves every path to lead where it led, and every other file to be read as
before.
-/

namespace ClusterCerts.Files

variable {fs fs' fs'' : Files} {S T : Place → Prop} {p : Place} {path : String} {content : Bytes}

def AtMostFile (fs : Files) (p : Place) : Prop :=
  ∀ node, fs.node? p = some node → ∃ content isPrivate, node = .file content isPrivate

def content? (fs : Files) (p : Place) : Option Bytes :=
  match fs.node? p with
  | some (.file content _) => some content
  | _ => none

theorem atMostFile_of_none (h : fs.node? p = none) : fs.AtMostFile p := by
  intro node hnode
  rw [h] at hnode
  cases hnode

theorem atMostFile_of_file {isPrivate : Bool} (h : fs.node? p = some (.file content isPrivate)) :
    fs.AtMostFile p := by
  intro node hnode
  rw [h] at hnode
  cases hnode
  exact ⟨content, isPrivate, rfl⟩

theorem AtMostFile.not_link (h : fs.AtMostFile p) (target : String) :
    fs.node? p ≠ some (.link target) := by
  intro hlink
  obtain ⟨content, isPrivate, hfile⟩ := h _ hlink
  cases hfile

theorem AtMostFile.isDirectory_eq_false (h : fs.AtMostFile p) : fs.isDirectory p = false := by
  rw [isDirectory, decide_eq_false_iff_not]
  intro hdir
  obtain ⟨content, isPrivate, hfile⟩ := h _ hdir
  cases hfile

theorem AtMostFile.ne_nil (h : fs.AtMostFile p) : p ≠ [] := by
  rintro rfl
  obtain ⟨content, isPrivate, hfile⟩ := h .directory rfl
  cases hfile

theorem AtMostFile.cases (h : fs.AtMostFile p) :
    fs.node? p = none ∨ ∃ content isPrivate, fs.node? p = some (.file content isPrivate) := by
  cases hnode : fs.node? p with
  | none => exact .inl rfl
  | some node =>
    obtain ⟨content, isPrivate, rfl⟩ := h node hnode
    exact .inr ⟨content, isPrivate, rfl⟩

theorem content?_of_file {isPrivate : Bool} (h : fs.node? p = some (.file content isPrivate)) :
    fs.content? p = some content := by
  rw [content?, h]

theorem content?_of_none (h : fs.node? p = none) : fs.content? p = none := by
  rw [content?, h]

theorem content?_congr (h : fs'.node? p = fs.node? p) : fs'.content? p = fs.content? p := by
  rw [content?, content?, h]

theorem content?_of_addsDirectories (h : fs.AddsDirectories fs') (p : Place) :
    fs'.content? p = fs.content? p := by
  rcases h p with hsame | ⟨hnone, hdir⟩
  · exact content?_congr hsame
  · rw [content?, content?, hnone, hdir]

structure AgreesOutside (S : Place → Prop) (fs fs' : Files) : Prop where
  home : fs'.home = fs.home
  same : ∀ p, ¬ S p → fs'.node? p = fs.node? p

namespace AgreesOutside

theorem refl (S : Place → Prop) (fs : Files) : AgreesOutside S fs fs := ⟨rfl, fun _ _ => rfl⟩

theorem symm (h : AgreesOutside S fs fs') : AgreesOutside S fs' fs :=
  ⟨h.home.symm, fun p hp => (h.same p hp).symm⟩

theorem trans (h : AgreesOutside S fs fs') (h' : AgreesOutside S fs' fs'') :
    AgreesOutside S fs fs'' :=
  ⟨h'.home.trans h.home, fun p hp => (h'.same p hp).trans (h.same p hp)⟩

theorem mono (h : AgreesOutside S fs fs') (hST : ∀ p, S p → T p) : AgreesOutside T fs fs' :=
  ⟨h.home, fun p hp => h.same p fun hS => hp (hST p hS)⟩

theorem walk_or_link (h : AgreesOutside S fs fs') (hS : ∀ q, S q → fs.isDirectory q = false)
    {last : Bool} {used : Nat} {place : Place} {names : List String}
    (walk : Walk fs last used place names p) (hp : S p → fs'.AtMostFile p) :
    Walk fs' last used place names p ∨ ∃ d name target u r, S (d ++ [.text name]) ∧
      fs.node? (d ++ [.text name]) = some (.link target) ∧ u < used ∧
      Walk fs last u (route d target).start ((route d target).names ++ r) p := by
  have hdirectory (q : Place) (hq : fs.isDirectory q = true) : fs'.isDirectory q = true := by
    have hsame := h.same q fun hSq => by
      rw [hS q hSq] at hq
      cases hq
    rwa [isDirectory, hsame]
  induction walk with
  | here place => exact .inl (.here place)
  | dot hplace _ ih => exact (ih hp).imp_left (.dot (hdirectory _ hplace))
  | dots hplace _ ih => exact (ih hp).imp_left (.dots (hdirectory _ hplace))
  | @stop place name hplace hname hnode =>
    left
    by_cases hnext : S (place ++ [.text name])
    · exact .last_name hname (hdirectory _ hplace) fun _ => (hp hnext).not_link
    · exact .stop (hdirectory _ hplace) hname (by rwa [h.same _ hnext])
  | @into used place p name names node hplace hname hnode hlink walk ih =>
    by_cases hnext : S (place ++ [.text name])
    · -- no directory is there, so the walk ends
      obtain ⟨rfl, rfl⟩ := walk.eq_of_isDirectory_eq_false (hS _ hnext)
      cases walk
      exact .inl (.last_name hname (hdirectory _ hplace) fun _ => (hp hnext).not_link)
    · exact (ih hp).imp_left
        (.into (hdirectory _ hplace) hname ((h.same _ hnext).trans hnode) hlink)
  | @link used place p name names target hplace hname hnode hmore walk ih =>
    by_cases hnext : S (place ++ [.text name])
    · exact .inr ⟨place, name, target, used, names, hnext, hnode, Nat.lt_succ_self used, walk⟩
    · rcases ih hp with walk' | ⟨d, name, target, u, r, hd, hlink, hu, rest⟩
      · exact .inl (.link (hdirectory _ hplace) hname ((h.same _ hnext).trans hnode) hmore walk')
      · exact .inr ⟨d, name, target, u, r, hd, hlink, by omega, rest⟩

theorem walk (h : AgreesOutside S fs fs') (hS : ∀ q, S q → fs.AtMostFile q) {last : Bool}
    {used : Nat} {place : Place} {names : List String} (walk : Walk fs last used place names p)
    (hp : S p → fs'.AtMostFile p) : Walk fs' last used place names p := by
  rcases h.walk_or_link (fun q hq => (hS q hq).isDirectory_eq_false) walk hp with
    walk' | ⟨d, name, target, -, -, hd, hlink, -⟩
  · exact walk'
  · exact absurd hlink ((hS _ hd).not_link target)

theorem follow (h : AgreesOutside S fs fs') (hS : ∀ q, S q → fs.AtMostFile q) {last : Bool}
    {links : Nat} {place : Place} {names : List String} (hp : S p → fs'.AtMostFile p)
    (hfollow : fs.follow last links place names = .ok p) :
    fs'.follow last links place names = .ok p := by
  obtain ⟨used, hused, walk⟩ := walk_of_follow hfollow
  exact (h.walk hS walk hp).follow hused

theorem locate (h : AgreesOutside S fs fs') (hS : ∀ q, S q → fs.AtMostFile q) {last : Bool}
    (hp : S p → fs'.AtMostFile p) (hlocate : fs.locate last path = .ok p) :
    fs'.locate last path = .ok p := by
  obtain ⟨hnul, hempty, hfollow⟩ := locate_eq_ok_iff.1 hlocate
  refine locate_eq_ok_iff.2 ⟨hnul, hempty, ?_⟩
  rw [h.home]
  exact h.follow hS hp hfollow

end AgreesOutside

/-- A path that leads to another place than those, and to it whatever stands at those. -/
structure LeadsPast (fs : Files) (S : Place → Prop) (path : String) (p : Place) : Prop where
  apart : ¬ S p
  leads : ∀ fs', AgreesOutside S fs fs' → fs'.locate true path = .ok p

theorem leadsPast_of_locate (hS : ∀ q, S q → fs.AtMostFile q) (h : fs.locate true path = .ok p)
    (hp : ¬ S p) : fs.LeadsPast S path p :=
  ⟨hp, fun _ hfs => hfs.locate hS (fun h => absurd h hp) h⟩

namespace LeadsPast

variable (h : fs.LeadsPast S path p) (hfs : AgreesOutside S fs fs')
include h

theorem mono (hTS : ∀ q, T q → S q) : fs.LeadsPast T path p :=
  ⟨fun hT => h.apart (hTS p hT), fun fs' hfs' => h.leads fs' (hfs'.mono hTS)⟩

theorem locate : fs.locate true path = .ok p := h.leads fs (.refl S fs)

include hfs

theorem of_agrees : fs'.LeadsPast S path p :=
  ⟨h.apart, fun fs'' hfs' => h.leads fs'' (hfs.trans hfs')⟩

theorem lookup_eq : fs'.lookup true path = fs.lookup true path := by
  unfold Files.lookup
  rw [h.locate, h.leads fs' hfs]
  simp only [bind, Except.bind, hfs.same p h.apart]

theorem read_eq : fs'.read path = fs.read path := by
  rw [Files.read, Files.read, h.lookup_eq hfs]

theorem isFile_eq : fs'.isFile path = fs.isFile path := by
  rw [Files.isFile, Files.isFile, h.lookup_eq hfs]

end LeadsPast

structure DiffersInFiles (S : Place → Prop) (fs fs' : Files) : Prop
    extends AgreesOutside S fs fs' where
  before : ∀ p, S p → fs.AtMostFile p
  after : ∀ p, S p → fs'.AtMostFile p

namespace DiffersInFiles

theorem symm (h : DiffersInFiles S fs fs') : DiffersInFiles S fs' fs :=
  ⟨h.toAgreesOutside.symm, h.after, h.before⟩

theorem trans (h : DiffersInFiles S fs fs') (h' : DiffersInFiles S fs' fs'') :
    DiffersInFiles S fs fs'' :=
  ⟨h.toAgreesOutside.trans h'.toAgreesOutside, h.before, h'.after⟩

theorem atMostFile (h : DiffersInFiles S fs fs') (hp : fs.AtMostFile p) : fs'.AtMostFile p := by
  by_cases hS : S p
  · exact h.after p hS
  · intro node hnode
    exact hp node (h.same p hS ▸ hnode)

theorem mono (h : DiffersInFiles S fs fs') (hST : ∀ p, S p → T p)
    (hT : ∀ p, T p → fs.AtMostFile p) : DiffersInFiles T fs fs' :=
  ⟨h.toAgreesOutside.mono hST, hT, fun p hp => h.atMostFile (hT p hp)⟩

theorem isDirectory (h : DiffersInFiles S fs fs') (hp : fs.isDirectory p = true) :
    fs'.isDirectory p = true := by
  have hS : ¬ S p := by
    intro hS
    rw [(h.before p hS).isDirectory_eq_false] at hp
    cases hp
  rw [Files.isDirectory, h.same p hS]
  exact hp

theorem follow (h : DiffersInFiles S fs fs') {last : Bool} {links : Nat} {place : Place}
    {names : List String} (hp : fs.follow last links place names = .ok p) :
    fs'.follow last links place names = .ok p :=
  h.toAgreesOutside.follow h.before (h.after p) hp

theorem locate (h : DiffersInFiles S fs fs') {last : Bool} (hp : fs.locate last path = .ok p) :
    fs'.locate last path = .ok p :=
  h.toAgreesOutside.locate h.before (h.after p) hp

theorem lookup (h : DiffersInFiles S fs fs') {last : Bool} {node : FileNode}
    (hp : fs.lookup last path = .ok (p, node)) (hS : ¬ S p) :
    fs'.lookup last path = .ok (p, node) := by
  obtain ⟨hlocate, hnode⟩ := lookup_eq_ok_iff.1 hp
  exact lookup_eq_ok_iff.2 ⟨h.locate hlocate, (h.same p hS).trans hnode⟩

end DiffersInFiles

end ClusterCerts.Files
