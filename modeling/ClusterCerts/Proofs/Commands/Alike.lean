import ClusterCerts.CaDirectory
import ClusterCerts.DocumentFile
import ClusterCerts.Proofs.Files.Places

/-!
# Commands that only look

A command that only looks leaves the world as it is. Loading the CA and reading a document are
such commands, so they have the same result in every world in which their files read the same:
what the texts in the files stand for.
-/

namespace ClusterCerts

open Workspace

namespace Session

variable {α β : Type} {w w' : World} {x : Session α} {f : α → Session β} {path : String}

def Alike (w w' : World) (x : Session α) : Prop :=
  ∃ r, outcome x w = (r, w) ∧ outcome x w' = (r, w')

theorem alike_pure (a : α) : Alike w w' (pure a : Session α) := ⟨.ok a, rfl, rfl⟩

theorem alike_throw (e : CommandError) : Alike w w' (throw e : Session α) := ⟨.error e, rfl, rfl⟩

theorem Alike.bind (hx : Alike w w' x) (hf : ∀ a, Alike w w' (f a)) : Alike w w' (x >>= f) := by
  obtain ⟨r, hw, hw'⟩ := hx
  cases r with
  | error e => exact ⟨.error e, by rw [outcome_bind, hw], by rw [outcome_bind, hw']⟩
  | ok a =>
    obtain ⟨r, hr, hr'⟩ := hf a
    exact ⟨r, by rw [outcome_bind, hw, ← hr], by rw [outcome_bind, hw', ← hr']⟩

theorem Alike.outcome_eq (h : Alike w w' x) {r : Except CommandError α} {w₁ : World}
    (hx : outcome x w = (r, w₁)) : outcome x w = (r, w) ∧ outcome x w' = (r, w') := by
  obtain ⟨r', hr, hr'⟩ := h
  obtain rfl : r' = r := congrArg Prod.fst (hr.symm.trans hx)
  exact ⟨hr, hr'⟩

theorem alike_read (h : w'.files.read path = w.files.read path) :
    Alike w w' (Workspace.read path) := by
  unfold Alike
  rw [outcome_read, outcome_read, h]
  cases w.files.read path with
  | ok content => exact ⟨_, rfl, rfl⟩
  | error fault => exact ⟨_, rfl, rfl⟩

theorem alike_isFile (h : w'.files.isFile path = w.files.isFile path) :
    Alike w w' (Workspace.isFile path) :=
  ⟨.ok (w.files.isFile path), rfl, by rw [← h]; rfl⟩

theorem alike_readText (h : w'.files.read path = w.files.read path) :
    Alike w w' (readText path : Session String) := by
  refine (alike_read h).bind fun content => ?_
  cases Bytes.toString? content with
  | some text => exact alike_pure text
  | none => exact alike_throw _

theorem alike_orThrow (r : Except Error α) : Alike w w' (orThrow r : Session α) := by
  cases r with
  | ok a => exact alike_pure a
  | error cause => exact alike_throw _

theorem outcome_readText {text : String} (h : w.files.read path = .ok (Bytes.ofString text)) :
    outcome (readText path : Session String) w = (.ok text, w) := by
  rw [readText, outcome_bind, outcome_read, h]
  simp only [Bytes.toString?_ofString]
  rfl

end Session

open Session

variable {w w' : World} {path : String}

theorem DocumentFile.outcome_readDocument {α : Type} {decoder : Decoder α} {text : String} {a : α}
    (h : w.files.read path = .ok (Bytes.ofString text)) (ha : decoder.ofText text = .ok a) :
    outcome (DocumentFile.read decoder path : Session α) w = (.ok a, w) := by
  rw [DocumentFile.read, outcome_bind, outcome_readText h]
  simp only [ha]
  rfl

theorem DocumentFile.outcome_readRequest {text : String} {q : Request}
    (h : w.files.read path = .ok (Bytes.ofString text)) (hq : Request.decoder.ofText text = .ok q)
    (hfault : q.fault? = none) :
    outcome (DocumentFile.readRequest path : Session Request) w = (.ok q, w) := by
  rw [DocumentFile.readRequest, outcome_bind, outcome_readDocument h hq]
  simp only [hfault]
  rfl

theorem CaDirectory.outcome_load {dir certPem keyPem : String}
    (hcert : w.files.read (certPath dir) = .ok (Bytes.ofString certPem))
    (hkey : w.files.read (keyPath dir) = .ok (Bytes.ofString keyPem)) :
    outcome (CaDirectory.load dir : Session Authority) w =
      ((Authority.load certPem keyPem).mapError .certificate, w) := by
  have hthere (path : String) : outcome (Workspace.isFile path : Session Bool) w =
      (.ok (w.files.isFile path), w) := rfl
  simp only [CaDirectory.load, outcome_bind, hthere, Files.isFile_of_read hcert,
    Files.isFile_of_read hkey, Bool.and_self, Bool.not_true, Bool.false_eq_true, if_false,
    outcome_readText hcert, outcome_readText hkey, outcome_orThrow]

theorem DocumentFile.alike_read {α : Type} (decoder : Decoder α)
    (h : w'.files.read path = w.files.read path) :
    Alike w w' (DocumentFile.read decoder path : Session α) := by
  refine (alike_readText h).bind fun text => ?_
  cases Decoder.ofText decoder text with
  | ok a => exact alike_pure a
  | error fault => exact alike_throw _

theorem DocumentFile.alike_readRequest (h : w'.files.read path = w.files.read path) :
    Alike w w' (DocumentFile.readRequest path : Session Request) := by
  refine (DocumentFile.alike_read Request.decoder h).bind fun request => ?_
  cases request.fault? with
  | some fault => exact alike_throw _
  | none => exact alike_pure request

theorem CaDirectory.alike_load {dir : String}
    (hcert : w'.files.read (certPath dir) = w.files.read (certPath dir))
    (hkey : w'.files.read (keyPath dir) = w.files.read (keyPath dir))
    (hcert' : w'.files.isFile (certPath dir) = w.files.isFile (certPath dir))
    (hkey' : w'.files.isFile (keyPath dir) = w.files.isFile (keyPath dir)) :
    Alike w w' (CaDirectory.load dir : Session Authority) := by
  refine (alike_isFile hcert').bind fun cert => (alike_isFile hkey').bind fun key => ?_
  split
  · exact alike_throw _
  · exact (alike_readText hcert).bind fun certPem => (alike_readText hkey).bind fun keyPem =>
      alike_orThrow _

end ClusterCerts
