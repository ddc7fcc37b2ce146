/-
Metadata are read back from their documents, also after their annotations have been
changed there.

* `ObjectMeta.recovers`: **metadata are read back**;
* `ObjectMeta.withAnnotations`: metadata with other annotations;
* `ObjectMeta.decode_eq_ok`: metadata are read field by field;
* `ObjectMeta.decode_setMember`: **with other annotations they are read as metadata with
  other annotations**;
* `Amendment.slot_of_metadata`, `Amendment.fill_of_metadata`: where the annotations stand
  in the document of an object, and the document with other ones.
-/
import SidecarPolicy.Amendment
import SidecarPolicy.Object.Meta
import SidecarPolicy.Proofs.Labels

namespace SidecarPolicy

open Decode Json

/-! ### Metadata -/

lemma Labels.recovers (m : Labels) : Recovers Decode.labels Encode.labels m :=
  ⟨(mirrors_entries m).labels_eq_ok, rfl⟩

namespace ObjectMeta

lemma recovers (m : ObjectMeta) : Recovers ObjectMeta.decode ObjectMeta.encode m := by
  refine ⟨?_, rfl⟩
  have hlabels := field_map (a := m.labels) fun l _ => Labels.recovers l
  have hannotations := field_map (a := m.annotations) fun l _ => Labels.recovers l
  simp [decode, encode, hlabels, hannotations]

/-- The fields of metadata, as they are written. -/
def fields (m : ObjectMeta) : List (String × Option Json) := [
  ("annotations", m.annotations.map Encode.labels),
  ("generateName", m.generateName.map .str),
  ("labels", m.labels.map Encode.labels),
  ("name", m.name.map .str),
  ("namespace", m.namespace.map .str),
  ("resourceVersion", m.resourceVersion.map .str)]

lemma nodup_fields (m : ObjectMeta) : ((present m.fields).map Prod.fst).Nodup :=
  List.Nodup.sublist (present_sublist _) (by simp [fields])

lemma member?_annotations (m : ObjectMeta) :
    member? "annotations" (present m.fields) = m.annotations.map Encode.labels := by
  simp [fields]

/-! ### Other annotations -/

def withAnnotations (m : ObjectMeta) (a : Labels) : ObjectMeta :=
  { m with annotations := some a }

/-- Metadata are read field by field. -/
lemma decode_eq_ok {ms : List (String × Json)} {m : ObjectMeta} :
    ObjectMeta.decode (Json.obj ms) = .ok m ↔
      nullable text ms "name" = .ok m.name ∧ nullable text ms "generateName" = .ok m.generateName ∧
      nullable text ms "namespace" = .ok m.namespace ∧
      nullable text ms "resourceVersion" = .ok m.resourceVersion ∧
      nullable Decode.labels ms "labels" = .ok m.labels ∧
      nullable Decode.labels ms "annotations" = .ok m.annotations := by
  rw [decode, members_obj, ok_bind]
  constructor
  · intro h
    obtain ⟨name, hname, h⟩ := bind_eq_ok.mp h
    obtain ⟨generateName, hgenerate, h⟩ := bind_eq_ok.mp h
    obtain ⟨ns, hns, h⟩ := bind_eq_ok.mp h
    obtain ⟨version, hversion, h⟩ := bind_eq_ok.mp h
    obtain ⟨labels, hlabels, h⟩ := bind_eq_ok.mp h
    obtain ⟨annotations, hannotations, h⟩ := bind_eq_ok.mp h
    obtain rfl := Except.ok.inj h
    exact ⟨hname, hgenerate, hns, hversion, hlabels, hannotations⟩
  · rintro ⟨hname, hgenerate, hns, hversion, hlabels, hannotations⟩
    simp [hname, hgenerate, hns, hversion, hlabels, hannotations]

/-- **With other annotations the members of metadata are read as metadata with other
annotations.** -/
theorem decode_setMember {m : ObjectMeta} {ms ms' : List (String × Json)}
    (hread : ObjectMeta.decode (Json.obj ms) = .ok m) (hnames : (ms.map Prod.fst).Nodup)
    {a : Labels} (h : Labels.Mirrors a ms') :
    ObjectMeta.decode (Json.obj (setMember "annotations" (.obj ms') ms)) =
      .ok (m.withAnnotations a) := by
  obtain ⟨hname, hgenerate, hns, hversion, hlabels, -⟩ := decode_eq_ok.mp hread
  have hannotations : field Decode.labels (some (.obj ms')) = .ok (some a) :=
    field_eq_ok h.labels_eq_ok rfl
  refine decode_eq_ok.mpr ⟨?_, ?_, ?_, ?_, ?_, ?_⟩
  · exact (nullable_setMember (by decide) _ _).trans hname
  · exact (nullable_setMember (by decide) _ _).trans hgenerate
  · exact (nullable_setMember (by decide) _ _).trans hns
  · exact (nullable_setMember (by decide) _ _).trans hversion
  · exact (nullable_setMember (by decide) _ _).trans hlabels
  · exact (nullable_setMember_self _ hnames).trans hannotations

end ObjectMeta

namespace Amendment

variable {ms mm : List (String × Json)}

lemma slot_of_metadata (h : member? "metadata" ms = some (.obj mm)) :
    Slot annotationsPath (.obj ms) (member? "annotations" mm) :=
  .inner h (.own _ _)

lemma fill_of_metadata (h : member? "metadata" ms = some (.obj mm)) (w : Json) :
    (Json.obj ms).fill annotationsPath w =
      .obj (setMember "metadata" (.obj (setMember "annotations" w mm)) ms) :=
  (Slot.own "annotations" mm).fill_cons h w

end Amendment

end SidecarPolicy
