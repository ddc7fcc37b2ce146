/-
Deployments are read back from their documents, also after their annotations
have been changed there.

* `DeploymentSpec.InRange`, `Deployment.InRange`: the numbers are in range;
* `Deployment.recovers`: **a deployment is read back**;
* `Deployment.withAnnotations`: a deployment with other annotations;
* `Deployment.slot_annotations`: where the annotations stand in the document;
* `Deployment.decode_fill`: **the document with other annotations is read as the
  deployment with other annotations**.
-/
import SidecarPolicy.Object.Deployment
import SidecarPolicy.Proofs.Object.Pod

namespace SidecarPolicy

open Decode Json

/-! ### Deployments -/

lemma Requirement.recovers (r : Requirement) :
    Recovers Requirement.decode Requirement.encode r := by
  refine ⟨?_, rfl⟩
  simp [decode, encode]

lemma LabelSelector.recovers (s : LabelSelector) :
    Recovers LabelSelector.decode LabelSelector.encode s := by
  refine ⟨?_, rfl⟩
  have hlabels := field_map (a := s.matchLabels) fun l _ => Labels.recovers l
  have hexpressions := field_map (a := s.matchExpressions) fun rs _ =>
    .list fun r _ => Requirement.recovers r
  simp [decode, encode, hlabels, hexpressions]

/-- What the template runs is in range. -/
def PodTemplate.InRange (p : PodTemplate) : Prop := ∀ s ∈ p.spec, s.InRange

instance (p : PodTemplate) : Decidable p.InRange := inferInstanceAs (Decidable (∀ s ∈ p.spec, _))

lemma PodTemplate.recovers {p : PodTemplate} (h : p.InRange) :
    Recovers PodTemplate.decode PodTemplate.encode p := by
  refine ⟨?_, rfl⟩
  have hmetadata := field_map (a := p.metadata) fun m _ => ObjectMeta.recovers m
  have hspec := field_map (a := p.spec) fun s hs => PodSpec.recovers (h s hs)
  simp [decode, encode, hmetadata, hspec]

/-- The number of pods and what the template runs are in range. -/
def DeploymentSpec.InRange (s : DeploymentSpec) : Prop :=
  (∀ n ∈ s.replicas, IsInt32 n) ∧ s.template.InRange

instance (s : DeploymentSpec) : Decidable s.InRange := inferInstanceAs (Decidable (_ ∧ _))

lemma DeploymentSpec.recovers {s : DeploymentSpec} (h : s.InRange) :
    Recovers DeploymentSpec.decode DeploymentSpec.encode s := by
  refine ⟨?_, rfl⟩
  have hreplicas := field_map (a := s.replicas) fun n hn => recovers_int32 (h.1 n hn)
  have hselector := field_some (LabelSelector.recovers s.selector)
  have htemplate := field_some (PodTemplate.recovers h.2)
  simp [decode, encode, hreplicas, hselector, htemplate]

/-- The specification of the deployment, if there is one, is in range. -/
def Deployment.InRange (d : Deployment) : Prop := ∀ s ∈ d.spec, s.InRange

instance (d : Deployment) : Decidable d.InRange := inferInstanceAs (Decidable (∀ s ∈ d.spec, _))

/-- **A deployment is read back.** -/
theorem Deployment.recovers {d : Deployment} (h : d.InRange) :
    Recovers Deployment.decode Deployment.encode d := by
  refine ⟨?_, rfl⟩
  have hmetadata := field_some (ObjectMeta.recovers d.metadata)
  have hspec := field_map (a := d.spec) fun s hs => DeploymentSpec.recovers (h s hs)
  have hstatus := field_map (a := d.status) fun o _ => Observed.recovers o
  simp [decode, encode, hmetadata, hspec, hstatus]

/-! ### Other annotations -/

def Deployment.withAnnotations (d : Deployment) (a : Labels) : Deployment :=
  { d with metadata := d.metadata.withAnnotations a }

/-- The fields of a deployment, as they are written. -/
def Deployment.fields (d : Deployment) : List (String × Option Json) := [
  ("apiVersion", some (.str apiVersion)),
  ("kind", some (.str kind)),
  ("metadata", some d.metadata.encode),
  ("spec", d.spec.map DeploymentSpec.encode),
  ("status", d.status.map Observed.encode)]

lemma Deployment.member?_metadata (d : Deployment) :
    member? "metadata" (present d.fields) = some (.obj (present d.metadata.fields)) := by
  simp only [fields, member?_present_of_ne, member?_present_self, ne_eq, String.reduceEq,
    not_false_eq_true, List.map_cons, List.map_nil, List.mem_cons, List.not_mem_nil, or_self]
  rfl

lemma Deployment.slot_annotations (d : Deployment) :
    Slot Amendment.annotationsPath d.encode (d.metadata.annotations.map Encode.labels) := by
  rw [← d.metadata.member?_annotations]
  exact Amendment.slot_of_metadata d.member?_metadata

/-- **The document with other annotations is read as the deployment with other
annotations.** -/
theorem Deployment.decode_fill {d : Deployment} (hd : d.InRange) {a : Labels}
    {ms : List (String × Json)} (h : Labels.Mirrors a ms) :
    Deployment.decode (d.encode.fill Amendment.annotationsPath (.obj ms)) =
      .ok (d.withAnnotations a) := by
  have hfill := Amendment.fill_of_metadata d.member?_metadata (.obj ms)
  have hnodup : ((present d.fields).map Prod.fst).Nodup :=
    List.Nodup.sublist (present_sublist _) (by simp [fields])
  have hmetadata : field ObjectMeta.decode (some (.obj (setMember "annotations" (.obj ms)
      (present d.metadata.fields)))) = .ok (some (d.metadata.withAnnotations a)) :=
    field_eq_ok (ObjectMeta.decode_setMember (ObjectMeta.recovers d.metadata).read_write
      d.metadata.nodup_fields h) rfl
  have hspec := field_map (a := d.spec) fun s hs => DeploymentSpec.recovers (hd s hs)
  have hstatus := field_map (a := d.status) fun o _ => Observed.recovers o
  show Deployment.decode ((Json.obj (present d.fields)).fill Amendment.annotationsPath _) = _
  rw [hfill, decode, members_obj, ok_bind]
  simp only [nullable_setMember_self _ hnodup, hmetadata]
  simp [nullable_setMember, constant_setMember, fields, hspec, hstatus, withAnnotations]

end SidecarPolicy
