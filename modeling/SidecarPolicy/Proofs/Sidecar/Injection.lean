/-
The patch that adds the sidecar to a pod.

The patch has three steps, each of which leaves a document of the pod that the next one
counts on.  It is made for what is read of the document; whatever else stands there is
spared.

* `Injection.injected`: the pod with the sidecar;
* `Injection.steps`: the steps of the patch;
* `Injection.document_containers`, `Injection.document_volumes`,
  `Injection.document_mark`: what each step leaves;
* `Injection.patch_injects`: **the patch adds the sidecar, once, and changes nothing
  else**.
-/
import SidecarPolicy.Proofs.Object.Document
import SidecarPolicy.Sidecar.Injection

namespace SidecarPolicy.Injection

open Amendment Decode Json

/-- What a pod with the sidecar runs: the containers and the volumes of the sidecar come
last.  Without volumes in the sidecar those of the pod are left as they are. -/
def extended (spec : PodSpec) (sidecar : SidecarConfig) : PodSpec where
  containers := spec.containers ++ sidecar.containers
  volumes :=
    if sidecar.volumes.isEmpty then spec.volumes
    else some (spec.volumes.getD [] ++ sidecar.volumes)

/-- The pod with the sidecar, marked as injected. -/
def injected (pod : Pod) (sidecar : SidecarConfig) : Pod where
  metadata := pod.metadata.withAnnotations
    (pod.metadata.allAnnotations.insert Annotations.status Annotations.statusInjected)
  spec := pod.spec.map (extended · sidecar)
  status := pod.status

/-- The steps of the patch that adds the sidecar. -/
def steps (pod : Pod) (sidecar : SidecarConfig) : List Step := [
  .append ["spec", "containers"] (containerCount pod) (sidecar.containers.map Container.encode),
  .append ["spec", "volumes"] (volumeCount pod) (sidecar.volumes.map Volume.encode),
  .setAnnotations pod.metadata.annotations mark]

lemma patch_eq_build (pod : Pod) (sidecar : SidecarConfig) :
    patch pod sidecar = build (steps pod sidecar) := by
  rw [patch, build, steps, List.flatMap_cons, List.flatMap_cons, List.flatMap_cons,
    List.flatMap_nil, List.append_nil, List.append_assoc]
  rfl

/-! ### The steps -/

variable {pod : Pod} {spec : PodSpec} {doc : Json}

/-- Containers are appended. -/
lemma document_containers (h : pod.Document doc) (hspec : pod.spec = some spec)
    {added : List Container} (hadded : ∀ c ∈ added, c.InRange) :
    (Step.append ["spec", "containers"] spec.containers.length
        (added.map Container.encode)).Fits doc ∧
      ({ pod with spec := some { spec with containers := spec.containers ++ added } } :
          Pod).Document
        ((Step.append ["spec", "containers"] spec.containers.length
          (added.map Container.encode)).perform doc) := by
  refine h.append hspec fun sm hnames hread => ?_
  obtain ⟨⟨containers, hcontainers, heq⟩, hvolumes⟩ := PodSpec.decode_eq_ok.mp hread
  have hfield := (nullable_eq_field hnames).symm.trans hcontainers
  refine ⟨?_, fun hempty => ?_, fun _ => ?_⟩
  · rw [heq]
    exact Pod.suits_append hfield _ _
  · rw [List.map_eq_nil_iff.mp (List.isEmpty_iff.mp hempty), List.append_nil]
  · have hlonger := Pod.field_append hfield fun c hc => Container.recovers (hadded c hc)
    refine PodSpec.decode_eq_ok.mpr
      ⟨⟨_, (nullable_setMember_self _ hnames).trans hlonger, ?_⟩, ?_⟩
    · rw [heq]
      rfl
    · exact (nullable_setMember (by decide) _ _).trans hvolumes

/-- Volumes are appended, if there are any. -/
lemma document_volumes (h : pod.Document doc) (hspec : pod.spec = some spec)
    (added : List Volume) :
    (Step.append ["spec", "volumes"] (spec.volumes.getD []).length
        (added.map Volume.encode)).Fits doc ∧
      ({ pod with spec := some { spec with volumes :=
            if added.isEmpty then spec.volumes else some (spec.volumes.getD [] ++ added) } } :
          Pod).Document
        ((Step.append ["spec", "volumes"] (spec.volumes.getD []).length
          (added.map Volume.encode)).perform doc) := by
  refine h.append hspec fun sm hnames hread => ?_
  obtain ⟨⟨containers, hcontainers, heq⟩, hvolumes⟩ := PodSpec.decode_eq_ok.mp hread
  have hfield := (nullable_eq_field hnames).symm.trans hvolumes
  refine ⟨Pod.suits_append hfield _ _, fun hempty => ?_, fun hsome => ?_⟩
  · rw [List.isEmpty_map] at hempty
    rw [if_pos hempty]
  · rw [List.isEmpty_map] at hsome
    rw [if_neg (Bool.eq_false_iff.mp hsome)]
    have hrecovers : ∀ v ∈ added, Recovers Volume.decode Volume.encode v :=
      fun v _ => Volume.recovers v
    have hlonger := Pod.field_append hfield hrecovers
    refine PodSpec.decode_eq_ok.mpr ⟨⟨containers, ?_, heq⟩, ?_⟩
    · exact (nullable_setMember (by decide) _ _).trans hcontainers
    · exact (nullable_setMember_self _ hnames).trans hlonger

lemma document_mark (h : pod.Document doc) :
    (Step.setAnnotations pod.metadata.annotations mark).Fits doc ∧
      (pod.withAnnotations (pod.metadata.allAnnotations.insert Annotations.status
        Annotations.statusInjected)).Document
        ((Step.setAnnotations pod.metadata.annotations mark).perform doc) :=
  h.setAnnotations rfl

/-! ### The patch -/

lemma precheck_injected (pod : Pod) (sidecar : SidecarConfig) {ns : String}
    (hns : ns ∉ reservedNamespaces) :
    precheck ns (injected pod sidecar) = .skip .alreadyInjected := by
  have hmarked : Annotations.isInjected (injected pod sidecar).metadata.allAnnotations = true := by
    show Annotations.isInjected (pod.metadata.allAnnotations.insert _ _) = true
    rw [Annotations.isInjected, KeyMap.get?_insert_self]
    exact Text.sameLetters_iff.mpr rfl
  have hfree : ¬ reservedNamespaces.contains ns = true := mt List.contains_iff_mem.mp hns
  rw [precheck, if_neg hfree, if_pos hmarked]

/-- Each step fits the document as the steps before it leave it, and in the end the pod
with the sidecar is read. -/
lemma document_steps (h : pod.Document doc) (hspec : pod.spec = some spec)
    {sidecar : SidecarConfig} (hsidecar : ∀ c ∈ sidecar.containers, c.InRange) :
    AllFit (steps pod sidecar) doc ∧
      (injected pod sidecar).Document (performAll (steps pod sidecar) doc) := by
  have hcontainers : containerCount pod = spec.containers.length := by
    rw [containerCount, hspec]
    rfl
  have hvolumes : volumeCount pod = (spec.volumes.getD []).length := by
    rw [volumeCount, hspec]
    cases hvolumes : spec.volumes <;> simp [hvolumes]
  obtain ⟨hfit, h⟩ := document_containers h hspec hsidecar
  obtain ⟨hfit', h⟩ := document_volumes h rfl sidecar.volumes
  obtain ⟨hfit'', h⟩ := document_mark h
  rw [steps, hcontainers, hvolumes]
  refine ⟨⟨hfit, hfit', hfit'', trivial⟩, ?_⟩
  rw [injected, hspec]
  exact h

/-- **The patch adds the sidecar, once, and changes nothing else.**  Applied to a document
of the pod, such as the one that is written for it, it leads without failure to a document
from which the pod with the sidecar is read; whatever the steps spare stands where it
stood, also if it is not read.  The pod with the sidecar is left alone in every namespace
that is not reserved. -/
theorem patch_injects (hspec : pod.spec = some spec) (hpod : pod.InRange)
    {sidecar : SidecarConfig} (hsidecar : ∀ c ∈ sidecar.containers, c.InRange) :
    pod.Document pod.encode ∧
      (∀ doc, pod.Document doc → ∃ doc', (patch pod sidecar).apply doc = .ok doc' ∧
        Pod.decode doc' = .ok (injected pod sidecar) ∧
        ∀ q, (∀ s ∈ steps pod sidecar, s.Spares q) → doc'.get? q = doc.get? q) ∧
      ∀ ns, ns ∉ reservedNamespaces →
        precheck ns (injected pod sidecar) = .skip .alreadyInjected := by
  refine ⟨Pod.document_encode hpod, fun doc h => ?_, fun ns => precheck_injected pod sidecar⟩
  obtain ⟨hfit, h'⟩ := document_steps h hspec hsidecar
  refine ⟨_, ?_, h'.decode_eq, fun q => get?_performAll hfit⟩
  rw [patch_eq_build]
  exact (leads_build hfit).apply

/-! ### A pod that was marked otherwise -/

/-- A pod with a container and without volumes, whose mark says that the sidecar is not
there. -/
def harbour : Pod where
  metadata := { name := some "harbour",
                annotations := some (KeyMap.ofList [
                  (Annotations.inject, "yes"), (Annotations.status, "pending")]) }
  spec := some { containers := [{ name := "crane" }] }

/-- A sidecar with a port and a volume. -/
def lighthouse : SidecarConfig where
  containers := [{ name := "lighthouse", ports := some [{ containerPort := 443 }] }]
  volumes := [{ name := "lamp", emptyDir := some {} }]

/-- The sidecar comes last, the request for it stays, and a second patch is not made. -/
theorem patch_harbour :
    ∃ doc, (patch harbour lighthouse).apply harbour.encode = .ok doc ∧
      Pod.decode doc = .ok (injected harbour lighthouse) ∧
      (injected harbour lighthouse).spec =
        some { containers := [{ name := "crane" }] ++ lighthouse.containers,
               volumes := some lighthouse.volumes } ∧
      precheck "dock" (injected harbour lighthouse) = .skip .alreadyInjected := by
  have hpod : harbour.InRange := by decide
  have hsidecar : ∀ c ∈ lighthouse.containers, c.InRange := by decide
  obtain ⟨hdocument, hpatch, hleft⟩ := patch_injects rfl hpod hsidecar
  obtain ⟨doc, hdoc, hread, -⟩ := hpatch _ hdocument
  exact ⟨doc, hdoc, hread, rfl, hleft "dock" (by decide)⟩

end SidecarPolicy.Injection
