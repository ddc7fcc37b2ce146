/-
Documents of pods, which may hold more than is read of them.

A pod is read from a document, and the patch that is made for the pod is applied to this
document and not to one that is written for the pod.  So whatever the document holds
besides has to stay, and what is read of it later has to be told from what was read of it
before.

* `PodSpec.decode_eq_ok`, `Pod.decode_eq_ok`: pods are read field by field;
* `Pod.Members`, `Pod.Document`: a document from which a pod is read, and in which no name
  stands twice where it matters;
* `Pod.document_encode`: the document that is written for a pod;
* `Pod.Document.append`: **items appended to a field of the specification are read there**;
* `Pod.Document.setAnnotations`: **annotations that are set are read**.
-/
import SidecarPolicy.Proofs.Object.Annotated

namespace SidecarPolicy

open Decode Json

/-! ### Reading -/

/-- What a pod runs is read field by field. -/
lemma PodSpec.decode_eq_ok {ms : List (String × Json)} {s : PodSpec} :
    PodSpec.decode (Json.obj ms) = .ok s ↔
      (∃ containers, nullable (Decode.list Container.decode) ms "containers" = .ok containers ∧
        s.containers = containers.getD []) ∧
      nullable (Decode.list Volume.decode) ms "volumes" = .ok s.volumes := by
  rw [decode, members_obj, ok_bind]
  constructor
  · intro h
    obtain ⟨containers, hcontainers, h⟩ := bind_eq_ok.mp h
    obtain ⟨volumes, hvolumes, h⟩ := bind_eq_ok.mp h
    obtain rfl := Except.ok.inj h
    exact ⟨⟨containers, hcontainers, rfl⟩, hvolumes⟩
  · rintro ⟨⟨containers, hcontainers, heq⟩, hvolumes⟩
    simp [hcontainers, hvolumes, ← heq]

/-- A pod is read field by field. -/
lemma Pod.decode_eq_ok {ms : List (String × Json)} {p : Pod} :
    Pod.decode (Json.obj ms) = .ok p ↔
      constant ms "apiVersion" apiVersion = .ok () ∧ constant ms "kind" kind = .ok () ∧
      (∃ m, nullable ObjectMeta.decode ms "metadata" = .ok m ∧ p.metadata = m.getD {}) ∧
      nullable PodSpec.decode ms "spec" = .ok p.spec ∧
      nullable Observed.decode ms "status" = .ok p.status := by
  rw [decode, members_obj, ok_bind]
  constructor
  · intro h
    obtain ⟨⟨⟩, hversion, h⟩ := bind_eq_ok.mp h
    obtain ⟨⟨⟩, hkind, h⟩ := bind_eq_ok.mp h
    obtain ⟨m, hm, h⟩ := bind_eq_ok.mp h
    obtain ⟨spec, hspec, h⟩ := bind_eq_ok.mp h
    obtain ⟨status, hstatus, h⟩ := bind_eq_ok.mp h
    obtain rfl := Except.ok.inj h
    exact ⟨hversion, hkind, ⟨m, hm, rfl⟩, hspec, hstatus⟩
  · rintro ⟨hversion, hkind, ⟨m, hm, heq⟩, hspec, hstatus⟩
    simp [hversion, hkind, hm, hspec, hstatus, ← heq]

namespace Pod

/-! ### Documents -/

def withAnnotations (pod : Pod) (a : Labels) : Pod :=
  { pod with metadata := pod.metadata.withAnnotations a }

/-- The members of a document from which a pod is read, and those of its metadata.  No
name stands twice in the document, its metadata, its annotations and its
specification. -/
structure Members (pod : Pod) (ms mm : List (String × Json)) : Prop where
  read : Pod.decode (Json.obj ms) = .ok pod
  names : (ms.map Prod.fst).Nodup
  metadata : member? "metadata" ms = some (.obj mm)
  metadataNames : (mm.map Prod.fst).Nodup
  annotationNames : ∀ am, member? "annotations" mm = some (.obj am) → (am.map Prod.fst).Nodup
  specNames : ∀ sm, member? "spec" ms = some (.obj sm) → (sm.map Prod.fst).Nodup

/-- A document from which a pod is read, which may hold anything else besides. -/
def Document (pod : Pod) (doc : Json) : Prop := ∃ ms mm, doc = .obj ms ∧ pod.Members ms mm

variable {pod : Pod} {spec : PodSpec} {doc : Json} {ms mm sm : List (String × Json)}

lemma Document.decode_eq (h : pod.Document doc) : Pod.decode doc = .ok pod := by
  obtain ⟨ms, mm, rfl, h⟩ := h
  exact h.read

/-- The metadata of a pod are read from the metadata of its document. -/
lemma Members.decode_metadata (h : pod.Members ms mm) :
    ObjectMeta.decode (Json.obj mm) = .ok pod.metadata := by
  obtain ⟨-, -, ⟨m, hm, hmetadata⟩, -, -⟩ := Pod.decode_eq_ok.mp h.read
  rw [nullable_eq_field h.names, h.metadata] at hm
  cases m with
  | none => cases (absent_of_field hm).resolve_left (Option.some_ne_none _)
  | some m =>
      obtain ⟨_, ⟨⟩, hread⟩ := exists_of_field hm
      rw [hread, hmetadata]
      rfl

lemma Members.ofMetadata (h : pod.Members ms mm) : pod.metadata.Members mm :=
  ⟨h.decode_metadata, h.metadataNames, h.annotationNames⟩

/-- What a pod runs is read from the specification in its document. -/
lemma Members.exists_spec (h : pod.Members ms mm) (hspec : pod.spec = some spec) :
    ∃ sm, member? "spec" ms = some (.obj sm) ∧ (sm.map Prod.fst).Nodup ∧
      PodSpec.decode (Json.obj sm) = .ok spec := by
  obtain ⟨-, -, -, hread, -⟩ := Pod.decode_eq_ok.mp h.read
  rw [nullable_eq_field h.names, hspec] at hread
  obtain ⟨v, hv, hread⟩ := exists_of_field hread
  obtain ⟨sm, hsm, -⟩ := bind_eq_ok.mp hread
  obtain rfl := members_eq_ok hsm
  exact ⟨sm, hv, h.specNames sm hv, hread⟩

/-- Another specification is read from a document that holds it. -/
lemma Members.setSpec (h : pod.Members ms mm) (hnames : (sm.map Prod.fst).Nodup)
    (hread : PodSpec.decode (Json.obj sm) = .ok spec) :
    ({ pod with spec := some spec } : Pod).Members (setMember "spec" (.obj sm) ms) mm where
  read := by
    obtain ⟨hversion, hkind, ⟨m, hm, hmetadata⟩, -, hstatus⟩ := Pod.decode_eq_ok.mp h.read
    refine Pod.decode_eq_ok.mpr ⟨?_, ?_, ⟨m, ?_, hmetadata⟩, ?_, ?_⟩
    · exact (constant_setMember (by decide) _ _ _).trans hversion
    · exact (constant_setMember (by decide) _ _ _).trans hkind
    · exact (nullable_setMember (by decide) _ _).trans hm
    · exact (nullable_setMember_self _ h.names).trans (field_eq_ok hread rfl)
    · exact (nullable_setMember (by decide) _ _).trans hstatus
  names := nodup_setMember h.names _ _
  metadata := (member?_setMember_of_ne (by decide) _ _).trans h.metadata
  metadataNames := h.metadataNames
  annotationNames := h.annotationNames
  specNames sm' hsm' := by
    rw [member?_setMember_self] at hsm'
    obtain rfl := Json.obj.inj (Option.some.inj hsm')
    exact hnames

/-- Other annotations are read from a document that holds them. -/
lemma Members.setAnnotations (h : pod.Members ms mm) {a : Labels} {am : List (String × Json)}
    (ham : Labels.Mirrors a am) :
    (pod.withAnnotations a).Members
      (setMember "metadata" (.obj (setMember "annotations" (.obj am) mm)) ms)
      (setMember "annotations" (.obj am) mm) where
  read := by
    obtain ⟨hversion, hkind, -, hspec, hstatus⟩ := Pod.decode_eq_ok.mp h.read
    have hmetadata := (h.ofMetadata.setAnnotations ham).read
    refine Pod.decode_eq_ok.mpr ⟨?_, ?_, ⟨some (pod.metadata.withAnnotations a), ?_, rfl⟩, ?_, ?_⟩
    · exact (constant_setMember (by decide) _ _ _).trans hversion
    · exact (constant_setMember (by decide) _ _ _).trans hkind
    · exact (nullable_setMember_self _ h.names).trans (field_eq_ok hmetadata rfl)
    · exact (nullable_setMember (by decide) _ _).trans hspec
    · exact (nullable_setMember (by decide) _ _).trans hstatus
  names := nodup_setMember h.names _ _
  metadata := member?_setMember_self _ _ _
  metadataNames := nodup_setMember h.metadataNames _ _
  annotationNames := (h.ofMetadata.setAnnotations ham).annotationNames
  specNames sm hsm := h.specNames sm ((member?_setMember_of_ne (by decide) _ _).symm.trans hsm)

/-! ### Amendments -/

/-- A field of the specification that has been read suits items that are appended after
those that were read. -/
lemma suits_append {α : Type} {read : Json → Decoded α} {v : Option Json}
    {xs : Option (List α)} (h : field (Decode.list read) v = .ok xs) (path : Pointer)
    (added : List Json) : (Amendment.Step.append path (xs.getD []).length added).Suits v := by
  cases xs with
  | none => exact .inr ⟨rfl, absent_of_field h⟩
  | some xs =>
      obtain ⟨w, rfl, hread⟩ := exists_of_field h
      obtain ⟨items, rfl, hitems⟩ := list_eq_ok hread
      exact .inl ⟨items, rfl, length_of_mapM hitems⟩

/-- Items that are appended are read after those that are there. -/
lemma field_append {α : Type} {read : Json → Decoded α} {write : α → Json} {v : Option Json}
    {xs : Option (List α)} (h : field (Decode.list read) v = .ok xs) {ys : List α}
    (hys : ∀ y ∈ ys, Recovers read write y) :
    field (Decode.list read) (some (.arr (Amendment.itemsOf v ++ ys.map write))) =
      .ok (some (xs.getD [] ++ ys)) := by
  have hadded : (ys.map write).mapM read = .ok ys :=
    mapM_map_eq_ok fun y hy => (hys y hy).read_write
  have hitems : (Amendment.itemsOf v).mapM read = .ok (xs.getD []) := by
    cases xs with
    | none => obtain rfl | rfl := absent_of_field h <;> rfl
    | some xs =>
        obtain ⟨w, rfl, hread⟩ := exists_of_field h
        obtain ⟨items, rfl, hitems⟩ := list_eq_ok hread
        exact hitems
  exact field_eq_ok (mapM_append_eq_ok hitems hadded) rfl

/-- **Items appended to a field of the specification are read there**, if the field suits
them, and the specification with the field extended is read as it should be. -/
theorem Document.append (h : pod.Document doc) (hspec : pod.spec = some spec) {name : String}
    {length : Nat} {added : List Json} {spec' : PodSpec}
    (hfield : ∀ sm, (sm.map Prod.fst).Nodup → PodSpec.decode (Json.obj sm) = .ok spec →
      (Amendment.Step.append ["spec", name] length added).Suits (member? name sm) ∧
      (added.isEmpty = true → spec' = spec) ∧
      (added.isEmpty = false → PodSpec.decode (Json.obj (setMember name
        (.arr (Amendment.itemsOf (member? name sm) ++ added)) sm)) = .ok spec')) :
    (Amendment.Step.append ["spec", name] length added).Fits doc ∧
      ({ pod with spec := some spec' } : Pod).Document
        ((Amendment.Step.append ["spec", name] length added).perform doc) := by
  obtain ⟨ms, mm, rfl, h⟩ := h
  obtain ⟨sm, hsm, hnames, hread⟩ := h.exists_spec hspec
  obtain ⟨hsuits, hsame, hextended⟩ := hfield sm hnames hread
  have hslot : Slot ["spec", name] (.obj ms) (member? name sm) := .inner hsm (.own name sm)
  refine ⟨⟨_, hslot, hsuits⟩, ?_⟩
  rw [Amendment.Step.perform, Amendment.Step.place, hslot.get?_eq, Amendment.Step.outcome]
  cases hadded : added.isEmpty with
  | true =>
      rw [if_pos rfl, hslot.fill?_self, hsame hadded, ← hspec]
      exact ⟨ms, mm, rfl, h⟩
  | false =>
      rw [if_neg Bool.false_ne_true, Json.fill?, (Slot.own name sm).fill_cons hsm]
      exact ⟨_, mm, rfl, h.setSpec (nodup_setMember hnames _ _) (hextended hadded)⟩

/-- **Annotations that are set are read.** -/
theorem Document.setAnnotations (h : pod.Document doc) {desired : Labels}
    (hdesired : desired.isEmpty = false) :
    (Amendment.Step.setAnnotations pod.metadata.annotations desired).Fits doc ∧
      (pod.withAnnotations (pod.metadata.allAnnotations.overwrite desired)).Document
        ((Amendment.Step.setAnnotations pod.metadata.annotations desired).perform doc) := by
  obtain ⟨ms, mm, rfl, h⟩ := h
  have hslot := Amendment.slot_of_metadata h.metadata
  refine ⟨⟨_, hslot, h.ofMetadata.describes⟩, ?_⟩
  rw [Amendment.Step.perform, Amendment.Step.place, hslot.get?_eq, Amendment.Step.outcome,
    if_neg (Bool.eq_false_iff.mp hdesired), Json.fill?, Amendment.fill_of_metadata h.metadata]
  exact ⟨_, _, rfl, h.setAnnotations (h.ofMetadata.describes.mirrors_setAll desired)⟩

/-! ### The document that is written -/

/-- The fields of a pod, as they are written. -/
def fields (pod : Pod) : List (String × Option Json) := [
  ("apiVersion", some (.str apiVersion)),
  ("kind", some (.str kind)),
  ("metadata", some pod.metadata.encode),
  ("spec", pod.spec.map PodSpec.encode),
  ("status", pod.status.map Observed.encode)]

/-- **The document that is written for a pod is one of its documents.** -/
theorem document_encode (h : pod.InRange) : pod.Document pod.encode := by
  refine ⟨present pod.fields, present pod.metadata.fields, rfl, (Pod.recovers h).read_write,
    ?_, ?_, pod.metadata.nodup_fields, pod.metadata.members_fields.annotationNames, ?_⟩
  · exact List.Nodup.sublist (present_sublist _) (by simp [fields])
  · have hmetadata : member? "metadata" (present pod.fields) = some pod.metadata.encode := by
      simp [fields]
    exact hmetadata
  · intro sm hsm
    have hspec : member? "spec" (present pod.fields) = pod.spec.map PodSpec.encode := by
      simp [fields]
    obtain ⟨s, -, hs⟩ := Option.map_eq_some_iff.mp (hspec.symm.trans hsm)
    obtain rfl := Json.obj.inj hs
    refine List.Nodup.sublist (present_sublist [
      ("containers", some (Encode.list Container.encode s.containers)),
      ("volumes", s.volumes.map (Encode.list Volume.encode))]) (by simp)

end Pod

end SidecarPolicy
