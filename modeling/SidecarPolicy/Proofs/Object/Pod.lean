/-
Pods and their parts are read back from their documents.

Numbers are the one thing in a document that may be too large for its reader, so
what has numbers in it must keep them in range.

* `IsInt32`: the integers that 32 bits hold;
* `Container.InRange`, `PodSpec.InRange`, `Pod.InRange`: the numbers are in range;
* `Container.recovers`, `Volume.recovers`, `PodSpec.recovers`, `Pod.recovers`: **what is
  written is read back**.
-/
import SidecarPolicy.Object.Pod
import SidecarPolicy.Proofs.Object.Meta

namespace SidecarPolicy

open Decode

/-- The integers that 32 bits hold. -/
def IsInt32 (i : Int) : Prop := -2147483648 ≤ i ∧ i ≤ 2147483647

instance (i : Int) : Decidable (IsInt32 i) := inferInstanceAs (Decidable (_ ∧ _))

/-! ### Containers -/

lemma EnvVar.recovers (v : EnvVar) : Recovers EnvVar.decode EnvVar.encode v := by
  refine ⟨?_, rfl⟩
  simp [decode, encode]

lemma ContainerPort.recovers {p : ContainerPort} (h : IsInt32 p.containerPort) :
    Recovers ContainerPort.decode ContainerPort.encode p := by
  refine ⟨?_, rfl⟩
  have hport := field_some (recovers_int32 h)
  simp [decode, encode, hport]

lemma VolumeMount.recovers (m : VolumeMount) :
    Recovers VolumeMount.decode VolumeMount.encode m := by
  refine ⟨?_, rfl⟩
  simp [decode, encode]

/-- The ports of a container are in range. -/
def Container.InRange (c : Container) : Prop :=
  ∀ ports ∈ c.ports, ∀ p ∈ ports, IsInt32 p.containerPort

instance (c : Container) : Decidable c.InRange :=
  inferInstanceAs (Decidable (∀ ports ∈ c.ports, _))

lemma Container.recovers {c : Container} (h : c.InRange) :
    Recovers Container.decode Container.encode c := by
  refine ⟨?_, rfl⟩
  have henv := field_map (a := c.env) fun vs _ => .list fun v _ => EnvVar.recovers v
  have hports := field_map (a := c.ports) fun ps hps =>
    .list fun p hp => ContainerPort.recovers (h ps hps p hp)
  have hmounts := field_map (a := c.volumeMounts) fun ms _ =>
    .list fun m _ => VolumeMount.recovers m
  simp [decode, encode, henv, hports, hmounts]

/-! ### Volumes -/

lemma EmptyDirSource.recovers (s : EmptyDirSource) :
    Recovers EmptyDirSource.decode EmptyDirSource.encode s := by
  refine ⟨?_, rfl⟩
  simp [decode, encode]

lemma HostPathSource.recovers (s : HostPathSource) :
    Recovers HostPathSource.decode HostPathSource.encode s := by
  refine ⟨?_, rfl⟩
  simp [decode, encode]

lemma ConfigMapSource.recovers (s : ConfigMapSource) :
    Recovers ConfigMapSource.decode ConfigMapSource.encode s := by
  refine ⟨?_, rfl⟩
  simp [decode, encode]

lemma SecretSource.recovers (s : SecretSource) :
    Recovers SecretSource.decode SecretSource.encode s := by
  refine ⟨?_, rfl⟩
  simp [decode, encode]

lemma Volume.recovers (v : Volume) : Recovers Volume.decode Volume.encode v := by
  refine ⟨?_, rfl⟩
  have hempty := field_map (a := v.emptyDir) fun s _ => EmptyDirSource.recovers s
  have hhost := field_map (a := v.hostPath) fun s _ => HostPathSource.recovers s
  have hconfig := field_map (a := v.configMap) fun s _ => ConfigMapSource.recovers s
  have hsecret := field_map (a := v.secret) fun s _ => SecretSource.recovers s
  simp [decode, encode, hempty, hhost, hconfig, hsecret]

/-! ### Pods -/

/-- The containers of a specification are in range. -/
def PodSpec.InRange (s : PodSpec) : Prop := ∀ c ∈ s.containers, c.InRange

instance (s : PodSpec) : Decidable s.InRange :=
  inferInstanceAs (Decidable (∀ c ∈ s.containers, _))

lemma PodSpec.recovers {s : PodSpec} (h : s.InRange) :
    Recovers PodSpec.decode PodSpec.encode s := by
  refine ⟨?_, rfl⟩
  have hcontainers := field_some (.list fun c hc => Container.recovers (h c hc))
  have hvolumes := field_map (a := s.volumes) fun vs _ => .list fun v _ => Volume.recovers v
  simp [decode, encode, hcontainers, hvolumes]

lemma Observed.recovers (o : Observed) : Recovers Observed.decode Observed.encode o :=
  ⟨rfl, rfl⟩

/-- What a pod runs is in range. -/
def Pod.InRange (p : Pod) : Prop := ∀ s ∈ p.spec, s.InRange

instance (p : Pod) : Decidable p.InRange := inferInstanceAs (Decidable (∀ s ∈ p.spec, _))

/-- **A pod is read back.** -/
theorem Pod.recovers {p : Pod} (h : p.InRange) : Recovers Pod.decode Pod.encode p := by
  refine ⟨?_, rfl⟩
  have hmetadata := field_some (ObjectMeta.recovers p.metadata)
  have hspec := field_map (a := p.spec) fun s hs => PodSpec.recovers (h s hs)
  have hstatus := field_map (a := p.status) fun o _ => Observed.recovers o
  simp [decode, encode, hmetadata, hspec, hstatus]

end SidecarPolicy
