/-
The annotations of deployments when there is nothing left to do.

When no key waits or is being processed and no timer is set, every live policy has been
reconciled.  A deployment that it selects was annotated then.  But annotations are shared:
to clean up a deleted policy that selects the deployment as well takes them away, and
nobody reconciles the live policy again on that account.

* `Worker.State.Rests`, `Worker.Sound.answered_of_rests`: nothing is left to do, and every
  change is answered;
* `Worker.Site.Reachable.annotated_or_cleaned`: **at rest a deployment that a live policy
  selects is annotated, unless it was cleaned up later**;
* `Worker.Site.not_always_annotated`: it can have been cleaned up later.
-/
import SidecarPolicy.Proofs.Worker.Site

namespace SidecarPolicy.Worker

open Reconcile

/-! ### Rest -/

/-- No key waits, none is being processed, and no timer is set. -/
structure State.Rests (s : State) : Prop where
  pending : s.registry.queue.pending = []
  processing : s.registry.queue.processing = []
  timers : s.timers = []

/-- At rest every change is answered, if the queue is open and large enough. -/
lemma Sound.answered_of_rests {s : State} (hs : Sound s)
    (hopen : s.registry.queue.closed = false)
    (hroom : (observed s.history).length ≤ s.registry.queue.capacity) (hrests : s.Rests)
    {k : ObjectKey} (hchanged : .changed k ∈ s.history) : answered k s.history = true := by
  have hnone : k ∉ s.registry.queue.processing := hrests.processing ▸ List.not_mem_nil
  by_contra hunanswered
  obtain hdue | htimer | howed :=
    hs.kept hopen hroom k hchanged (Bool.eq_false_iff.mpr hunanswered)
  · have hwaits := (hs.consistent.mem_pending k).mpr ⟨hdue, hnone⟩
    rw [hrests.pending] at hwaits
    exact List.not_mem_nil hwaits
  · rw [hrests.timers] at htimer
    exact List.not_mem_nil htimer
  · exact hnone ((hs.processing k).mpr howed.key?)

namespace Site

/-! ### Two policies for one deployment -/

/-- The labels of the web servers. -/
def webLabels : Labels := KeyMap.ofList [("app", "web")]

/-- The web servers. -/
def web : Deployment where
  metadata := { name := some "web", «namespace» := some "default", labels := some webLabels }

/-- A policy for the web servers. -/
def first : Policy where
  name := some "first"
  version := some "1"
  spec := { labelSelector := { matchLabels := some webLabels } }

/-- Another one, which asks for the same. -/
def second : Policy := { first with name := some "second" }

/-- The web servers are all that there is. -/
def street : Cluster := ({} : Cluster).addDeployment web

lemma street_sound : street.Sound := Cluster.sound_empty.addDeployment (by decide)

/-- Both policies are applied, one after the other; then the first one is deleted, and
cleaned up. -/
def rivals : Site :=
  let start : Site := { worker := { registry := { queue := {} } }, cluster := street }
  ((((start.report (.applied first)).serve.report (.applied second)).serve).report
    (.deleted first.key)).serve

lemma reachable_rivals : Reachable street 16 {} rivals := by
  have hstart : Reachable street 16 {} _ := .start
  obtain ⟨hfirst, hidle⟩ := (hstart.report (.applied first)).serve street_sound rfl
  obtain ⟨hsecond, hidle⟩ := (hfirst.report (.applied second)).serve street_sound hidle
  exact ((hsecond.report (.deleted first.key)).serve street_sound hidle).1

lemma rivals_rest : rivals.worker.Rests where
  pending := by decide +kernel
  processing := by decide +kernel
  timers := by decide +kernel

lemma rivals_cleaned : rivals.cluster.deployments.get? web.metadata.key =
    some (web.withAnnotations .empty) := by
  decide +kernel

lemma second_selects : IsSelected second.spec (web.withAnnotations .empty) :=
  selects_iff.mp (by decide +kernel)

/-! ### Annotations at rest -/

variable {initial : Cluster} {capacity : Nat} {backoff : Backoff} {s : Site}

/-- **At rest a deployment that a live policy selects is annotated, unless it was cleaned up
later.**  Policies are applied and deleted at any time, and reconciled call by call; no call
fails, nobody else changes the cluster, and the queue is open and has room for every key
that was ever observed.  When nothing is left to do, a deployment that a live policy selects
is annotated, or the newest of the reconciled states that select it is that of a deleted
policy, reconciled after the live one; and then the deployment does not carry the request
for the sidecar. -/
theorem Reachable.annotated_or_cleaned (h : Reachable initial capacity backoff s)
    (hsound : initial.Sound) (hopen : s.worker.registry.queue.closed = false)
    (hroom : (observed s.worker.history).length ≤ capacity) (hrests : s.worker.Rests)
    {k : ObjectKey} {p : Policy} (hlive : s.worker.registry.get? k = some (.live p))
    {kd : ObjectKey} {d : Deployment} (hd : s.cluster.deployments.get? kd = some d)
    (hselected : IsSelected p.spec d) :
    Workload.isAnnotated d.metadata = true ∨
      ∃ later q earlier,
        reconciled s.worker.history = later ++ .deleted q :: earlier ∧
        .live p ∈ earlier ∧ IsSelected q.spec d ∧
        (∀ st ∈ later, ¬ IsSelected st.policy.spec d) ∧
        d.metadata.allAnnotations.get? Annotations.inject = none := by
  obtain ⟨hw, hcapacity⟩ := h.worker.sound
  have htended := h.tended hsound
  have hanswered := hw.answered_of_rests hopen (hcapacity.symm ▸ hroom) hrests
    (htended.changed hlive)
  have hdone : .live p ∈ reconciled s.worker.history := htended.done hlive hanswered
  -- at rest no key is being processed, so that no program is under way
  have hidle : ∀ k state, s.worker.phase ≠ .reconciling k state := by
    intro k' state hphase
    have hkey := (hw.processing k').mpr (by rw [hphase]; rfl)
    rw [hrests.processing] at hkey
    exact List.not_mem_nil hkey
  have hconforms := (htended.synced hidle).deployments kd d hd
  obtain ⟨st, hnewest⟩ : ∃ st, newest? (reconciled s.worker.history) d = some st :=
    Option.isSome_iff_exists.mp (List.find?_isSome.mpr ⟨_, hdone, selects_iff.mpr hselected⟩)
  obtain ⟨hst, later, earlier, hsplit, hlater⟩ := List.find?_eq_some_iff_append.mp hnewest
  have hunselected : ∀ st' ∈ later, ¬ IsSelected st'.policy.spec d := by
    intro st' hst' hselected'
    simpa [selects_iff.mpr hselected'] using hlater st' hst'
  -- it is the state that was reconciled last by which the deployment is told
  cases st with
  | live q => exact .inl (hconforms _ hnewest)
  | deleted q =>
      refine .inr ⟨later, q, earlier, hsplit, ?_, selects_iff.mp hst, hunselected,
        hconforms _ hnewest⟩
      -- the live policy is none of the later ones, since it selects the deployment
      rw [hsplit, List.mem_append, List.mem_cons] at hdone
      obtain hlive | hlive | hlive := hdone
      · exact absurd hselected (hunselected _ hlive)
      · cases hlive
      · exact hlive

/-- The web servers are not annotated, since the first policy was cleaned up last. -/
theorem annotated_or_cleaned_rivals : ∃ q, .deleted q ∈ reconciled rivals.worker.history ∧
    IsSelected q.spec (web.withAnnotations .empty) := by
  obtain hannotated | ⟨later, q, earlier, hsplit, -, hselected, -⟩ :=
    reachable_rivals.annotated_or_cleaned street_sound (by decide +kernel) (by decide +kernel)
      rivals_rest (k := second.key) (p := second) (by decide +kernel) rivals_cleaned second_selects
  · exact absurd hannotated (by decide +kernel)
  · refine ⟨q, ?_, hselected⟩
    rw [hsplit]
    exact List.mem_append_right _ List.mem_cons_self

/-- **A deployment that a live policy selects need not be annotated at rest.** -/
theorem not_always_annotated :
    ¬ ∀ (initial : Cluster) (capacity : Nat) (backoff : Backoff) (s : Site), initial.Sound →
      Reachable initial capacity backoff s → s.worker.registry.queue.closed = false →
        (observed s.worker.history).length ≤ capacity → s.worker.Rests →
          ∀ (k : ObjectKey) (p : Policy), s.worker.registry.get? k = some (.live p) →
            ∀ (kd : ObjectKey) (d : Deployment), s.cluster.deployments.get? kd = some d →
              IsSelected p.spec d → Workload.isAnnotated d.metadata = true := by
  intro halways
  have hlive : rivals.worker.registry.get? second.key = some (.live second) := by decide +kernel
  have hannotated := halways street 16 {} rivals street_sound reachable_rivals
    (by decide +kernel) (by decide +kernel) rivals_rest _ _ hlive _ _ rivals_cleaned
    second_selects
  exact absurd hannotated (by decide +kernel)

end Site

end SidecarPolicy.Worker
