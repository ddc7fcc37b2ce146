/-
Documents of objects whose annotations are amended.

A workload is marked and cleared by patches that are made from its metadata and applied to
its document.  Of the document nothing is known but that the metadata are read from it, and
that no name stands twice among them or among the annotations.

* `ObjectMeta.Members`: members from which metadata are read;
* `ObjectMeta.Document`: a document of an object that has the metadata;
* `ObjectMeta.document_encode`, `Deployment.document_encode`: the documents that are written
  for metadata and for a deployment;
* `ObjectMeta.Document.amended`: **a step that amends the annotations leads from a document
  of the metadata to one of the metadata with the amended annotations**, and leaves alone
  whatever it spares.
-/
import SidecarPolicy.Proofs.Amendment
import SidecarPolicy.Proofs.Object.Deployment

namespace SidecarPolicy

open Decode Json

namespace ObjectMeta

variable {m : ObjectMeta} {mm : List (String × Json)} {doc : Json} {a : Labels}

/-! ### Members -/

/-- The members from which metadata are read.  No name stands twice among them or among the
annotations. -/
structure Members (m : ObjectMeta) (mm : List (String × Json)) : Prop where
  read : ObjectMeta.decode (Json.obj mm) = .ok m
  names : (mm.map Prod.fst).Nodup
  annotationNames : ∀ am, member? "annotations" mm = some (.obj am) → (am.map Prod.fst).Nodup

/-- The annotations of metadata are those among their members. -/
lemma Members.describes (h : m.Members mm) :
    Amendment.Describes m.annotations (member? "annotations" mm) := by
  obtain ⟨-, -, -, -, -, hread⟩ := decode_eq_ok.mp h.read
  rw [nullable_eq_field h.names] at hread
  cases hannotations : m.annotations with
  | none =>
      rw [hannotations] at hread
      exact absent_of_field hread
  | some a =>
      rw [hannotations] at hread
      obtain ⟨v, hv, hread⟩ := exists_of_field hread
      obtain ⟨am, rfl, hmirrors⟩ := Labels.mirrors_of_labels_eq_ok hread
      exact ⟨am, hv, hmirrors (h.annotationNames am hv)⟩

/-- Other annotations are read from members that hold them. -/
lemma Members.setAnnotations (h : m.Members mm) {am : List (String × Json)}
    (ham : Labels.Mirrors a am) :
    (m.withAnnotations a).Members (setMember "annotations" (.obj am) mm) where
  read := decode_setMember h.read h.names ham
  names := nodup_setMember h.names _ _
  annotationNames am' ham' := by
    rw [member?_setMember_self] at ham'
    obtain rfl := Json.obj.inj (Option.some.inj ham')
    exact ham.nodup

lemma members_fields (m : ObjectMeta) : m.Members (present m.fields) where
  read := m.recovers.read_write
  names := m.nodup_fields
  annotationNames am ham := by
    rw [m.member?_annotations] at ham
    obtain ⟨a, -, ha⟩ := Option.map_eq_some_iff.mp ham
    obtain rfl := Json.obj.inj ha
    exact (Labels.mirrors_entries a).nodup

/-! ### Documents -/

/-- A document of an object that has the metadata, and may hold anything else besides. -/
def Document (m : ObjectMeta) (doc : Json) : Prop :=
  ∃ ms mm, doc = .obj ms ∧ member? "metadata" ms = some (.obj mm) ∧ m.Members mm

lemma document_encode (m : ObjectMeta) : m.Document (.obj [("metadata", m.encode)]) :=
  ⟨_, _, rfl, rfl, m.members_fields⟩

/-- **A step that amends the annotations** of the metadata to others leads from each document
of the metadata to one of the metadata with the others, and changes nothing that it spares. -/
theorem Document.amended (h : m.Document doc) {s : Amendment.Step}
    (hplace : s.place = Amendment.annotationsPath)
    (hsuits : ∀ v, Amendment.Describes m.annotations v → s.Suits v)
    (hleaves : ∀ v w, s.Leaves v w → Amendment.Describes (some a) w) :
    ∃ doc', s.patch.apply doc = .ok doc' ∧ (m.withAnnotations a).Document doc' ∧
      ∀ q, s.Spares q → doc'.get? q = doc.get? q := by
  obtain ⟨ms, mm, rfl, hmetadata, hmembers⟩ := h
  have hslot := Amendment.slot_of_metadata hmetadata
  have hfits : s.Fits (.obj ms) := ⟨_, hplace ▸ hslot, hsuits _ hmembers.describes⟩
  obtain ⟨am, houtcome, ham⟩ :=
    hleaves _ _ (Amendment.Step.leaves_outcome (hsuits _ hmembers.describes))
  have hperform : s.perform (.obj ms) =
      .obj (setMember "metadata" (.obj (setMember "annotations" (.obj am) mm)) ms) := by
    rw [Amendment.Step.perform, hplace, hslot.get?_eq, houtcome, Json.fill?,
      Amendment.fill_of_metadata hmetadata]
  refine ⟨_, (Amendment.Step.leads hfits).apply, ?_,
    fun _ hq => Amendment.Step.get?_perform hfits hq⟩
  rw [hperform]
  exact ⟨_, _, rfl, member?_setMember_self _ _ _, hmembers.setAnnotations ham⟩

end ObjectMeta

/-- The document that is written for a deployment is one of its metadata. -/
lemma Deployment.document_encode (d : Deployment) : d.metadata.Document d.encode :=
  ⟨present d.fields, _, rfl, d.member?_metadata, d.metadata.members_fields⟩

end SidecarPolicy
