/-
The numbers of what has been read are in range.

A document may hold numbers that are too large, but then it is not read.  So what has been
read of any document can be written, and is read back.

* `Decode.Ensures`: what holds of all that is read;
* `Decode.Ensures.list`, `Decode.Ensures.of_nullable`: lists and fields of such values;
* `Deployment.ensures_inRange`: **the numbers of a deployment that has been read are in
  range**.
-/
import SidecarPolicy.Proofs.Object.Deployment

namespace SidecarPolicy

variable {τ : Type}

namespace Decode

variable {α : Type}

/-! ### Values -/

/-- Something holds of all values that are read. -/
def Ensures (read : τ → Decoded α) (p : α → Prop) : Prop := ∀ t a, read t = .ok a → p a

variable {read : τ → Decoded α} {p : α → Prop}

/-- What holds of all that is read holds of all items that are read. -/
lemma Ensures.of_mapM (h : Ensures read p) {items : List τ} {xs : List α}
    (hread : items.mapM read = .ok xs) : ∀ x ∈ xs, p x := by
  induction items generalizing xs with
  | nil =>
      obtain rfl := Except.ok.inj hread
      exact List.forall_mem_nil p
  | cons item items ih =>
      rw [List.mapM_cons] at hread
      obtain ⟨x, hx, hread⟩ := bind_eq_ok.mp hread
      obtain ⟨rest, hrest, hread⟩ := bind_eq_ok.mp hread
      obtain rfl := Except.ok.inj hread
      exact List.forall_mem_cons.mpr ⟨h item x hx, ih hrest⟩

variable [Tree τ]

/-- What is read as an integer of 32 bits is one. -/
lemma ensures_int32 : Ensures (int32 : τ → Decoded Int) IsInt32 := by
  intro t i h
  obtain ⟨j, -, h⟩ := bind_eq_ok.mp h
  split_ifs at h with hrange
  obtain rfl := Except.ok.inj h
  exact hrange

lemma Ensures.list (h : Ensures read p) : Ensures (list read) fun xs => ∀ x ∈ xs, p x := by
  intro t xs hread
  obtain ⟨items, -, hread⟩ := bind_eq_ok.mp hread
  exact h.of_mapM hread

/-- What holds of all that is read holds of a value that may be null. -/
lemma Ensures.unlessNull (h : Ensures read p) :
    Ensures (unlessNull read) fun o => ∀ a ∈ o, p a := by
  intro t o hread
  rw [Decode.unlessNull] at hread
  split_ifs at hread
  · obtain rfl := Except.ok.inj hread
    intro a ha
    cases ha
  · cases hvalue : read t with
    | error e =>
        rw [hvalue] at hread
        cases hread
    | ok a =>
        rw [hvalue] at hread
        obtain rfl := Except.ok.inj hread
        exact fun b hb => Option.some.inj hb ▸ h t a hvalue

/-- It holds of the value of a field. -/
lemma Ensures.of_nullable (h : Ensures read p) {fields : List (String × τ)} {name : String}
    {o : Option α} (hread : nullable read fields name = .ok o) : ∀ a ∈ o, p a := by
  obtain ⟨found, hfound, hread⟩ := bind_eq_ok.mp hread
  obtain rfl := Except.ok.inj hread
  intro a ha
  cases hlast : found.getLast? with
  | none =>
      rw [hlast] at ha
      cases ha
  | some o =>
      rw [hlast] at ha
      exact h.unlessNull.of_mapM hfound o (List.mem_of_getLast? hlast) a ha

end Decode

/-! ### Objects -/

open Decode

variable [Tree τ]

/-- The number of a port that has been read is in range. -/
lemma ContainerPort.ensures_isInt32 :
    Ensures (decode : τ → Decoded ContainerPort) fun p => IsInt32 p.containerPort := by
  intro t p h
  obtain ⟨fields, -, h⟩ := bind_eq_ok.mp h
  obtain ⟨number, hnumber, h⟩ := bind_eq_ok.mp h
  obtain ⟨name, -, h⟩ := bind_eq_ok.mp h
  obtain ⟨protocol, -, h⟩ := bind_eq_ok.mp h
  obtain rfl := Except.ok.inj h
  cases number with
  | none =>
      show IsInt32 0
      decide
  | some i => exact ensures_int32.of_nullable hnumber i rfl

/-- The ports of a container that has been read are in range. -/
lemma Container.ensures_inRange :
    Ensures (decode : τ → Decoded Container) InRange := by
  intro t c h
  obtain ⟨fields, -, h⟩ := bind_eq_ok.mp h
  simp only [bind_eq_ok] at h
  obtain ⟨_, -, _, -, _, -, _, -, _, -, _, -, _, -, ports, hports, _, -, _, -, _, -, h⟩ := h
  obtain rfl := Except.ok.inj h
  exact ContainerPort.ensures_isInt32.list.of_nullable hports

/-- What is read of what a pod runs is in range. -/
lemma PodSpec.ensures_inRange : Ensures (decode : τ → Decoded PodSpec) InRange := by
  intro t s h
  obtain ⟨fields, -, h⟩ := bind_eq_ok.mp h
  obtain ⟨containers, hcontainers, h⟩ := bind_eq_ok.mp h
  obtain ⟨volumes, -, h⟩ := bind_eq_ok.mp h
  obtain rfl := Except.ok.inj h
  cases containers with
  | none => exact fun c hc => absurd hc List.not_mem_nil
  | some cs => exact Container.ensures_inRange.list.of_nullable hcontainers cs rfl

/-- What is read of a template is in range. -/
lemma PodTemplate.ensures_inRange : Ensures (decode : τ → Decoded PodTemplate) InRange := by
  intro t p h
  obtain ⟨fields, -, h⟩ := bind_eq_ok.mp h
  obtain ⟨metadata, -, h⟩ := bind_eq_ok.mp h
  obtain ⟨spec, hspec, h⟩ := bind_eq_ok.mp h
  obtain rfl := Except.ok.inj h
  exact PodSpec.ensures_inRange.of_nullable hspec

/-- What is read of the specification of a deployment is in range. -/
lemma DeploymentSpec.ensures_inRange :
    Ensures (decode : τ → Decoded DeploymentSpec) InRange := by
  intro t s h
  obtain ⟨fields, -, h⟩ := bind_eq_ok.mp h
  obtain ⟨replicas, hreplicas, h⟩ := bind_eq_ok.mp h
  obtain ⟨selector, -, h⟩ := bind_eq_ok.mp h
  obtain ⟨template, htemplate, h⟩ := bind_eq_ok.mp h
  obtain rfl := Except.ok.inj h
  refine ⟨ensures_int32.of_nullable hreplicas, ?_⟩
  cases template with
  | none => exact nofun
  | some p => exact PodTemplate.ensures_inRange.of_nullable htemplate p rfl

/-- **The numbers of a deployment that has been read are in range.** -/
theorem Deployment.ensures_inRange : Ensures (decode : τ → Decoded Deployment) InRange := by
  intro t d h
  obtain ⟨fields, -, h⟩ := bind_eq_ok.mp h
  obtain ⟨_, -, h⟩ := bind_eq_ok.mp h
  obtain ⟨_, -, h⟩ := bind_eq_ok.mp h
  obtain ⟨metadata, -, h⟩ := bind_eq_ok.mp h
  obtain ⟨spec, hspec, h⟩ := bind_eq_ok.mp h
  obtain ⟨status, -, h⟩ := bind_eq_ok.mp h
  obtain rfl := Except.ok.inj h
  exact DeploymentSpec.ensures_inRange.of_nullable hspec

end SidecarPolicy
