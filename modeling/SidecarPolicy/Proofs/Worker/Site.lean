/-
The worker at a cluster in memory, call by call.

While the worker reconciles a key it makes one call after another, and between any two of
them the watch may report something.  Nobody else changes the cluster, and no call fails
that the cluster would answer; so no attempt fails.

* `Worker.Site`, `Worker.Site.Step`, `Worker.Site.Reachable`: a worker with its cluster
  and what is left of the program at hand, the steps, and the states they lead to;
* `Worker.Site.Reachable.worker`: what is known of workers holds of this one;
* `Worker.reconciled`: the states that have been reconciled, the newest first;
* `Worker.Site.Tended`, `Worker.Site.Tended.of_step`: **the cluster is in sync with what
  has been reconciled**, and every step keeps it so;
* `Worker.Site.Reachable.serve`: undisturbed, the worker serves a key as a whole.
-/
import SidecarPolicy.Proofs.Reconcile.Sync
import SidecarPolicy.Proofs.Worker.Attempts

namespace SidecarPolicy.Worker

open Program Reconcile

/-- A worker at a cluster, with what is left of the program that it carries out. -/
structure Site where
  worker : State := {}
  cluster : Cluster := {}
  left : Program ClusterError Unit := pure ()

namespace Site

/-! ### Steps -/

/-- The steps: the worker reads the state of a key and begins with its program; it makes a
call; it has succeeded, or failed; and whatever neither begins nor ends an attempt. -/
inductive Step : Site → Site → Prop
  | read {s : Site} {k : ObjectKey} (hphase : s.worker.phase = .taken k) :
      Step s { s with
        worker := s.worker.read k
        left := program (s.worker.registry.get? k) }
  | call {s : Site} {k : ObjectKey} {state : Option PolicyState} {asked : Call}
      {next : Except ClusterError asked.Answer → Program ClusterError Unit}
      (hphase : s.worker.phase = .reconciling k state) (hleft : s.left = .call asked next) :
      Step s { s with
        cluster := (Cluster.answer asked s.cluster).2
        left := next (Cluster.answer asked s.cluster).1 }
  | succeed {s : Site} {k : ObjectKey} {state : Option PolicyState}
      (hphase : s.worker.phase = .reconciling k state) (hleft : s.left = .done (.ok ())) :
      Step s { s with worker := s.worker.succeed k state }
  | fail {s : Site} {k : ObjectKey} {state : Option PolicyState} {e : ClusterError}
      (hphase : s.worker.phase = .reconciling k state) (hleft : s.left = .done (.error e)) :
      Step s { s with worker := s.worker.fail k }
  | aside {s : Site} {w : State} (hst : Worker.Step s.worker w)
      (hquiet : ∀ k state, w.phase = .reconciling k state ↔
        s.worker.phase = .reconciling k state) :
      Step s { s with worker := w }

/-- The states that the steps lead to, from a given cluster and an empty registry with a
queue of a given capacity. -/
inductive Reachable (initial : Cluster) (capacity : Nat) (backoff : Backoff) : Site → Prop
  | start : Reachable initial capacity backoff
      { worker := { registry := { queue := { capacity, backoff } } }, cluster := initial }
  | step {s t : Site} (h : Reachable initial capacity backoff s) (hst : Step s t) :
      Reachable initial capacity backoff t

variable {initial : Cluster} {capacity : Nat} {backoff : Backoff}

/-- **What is known of workers holds of this one.** -/
theorem Reachable.worker {s : Site} (h : Reachable initial capacity backoff s) :
    Worker.Reachable capacity backoff s.worker := by
  induction h with
  | start => exact .start
  | step _ hst ih =>
      cases hst with
      | read hphase => exact ih.step (.read hphase)
      | call => exact ih
      | succeed hphase => exact ih.step (.succeed hphase)
      | fail hphase => exact ih.step (.fail hphase)
      | aside hst => exact ih.step hst

end Site

/-! ### What has been reconciled -/

/-- The states that the worker has read and then has succeeded with, the newest first. -/
def reconciled : List Event → List PolicyState
  | [] => []
  | .succeeded _ :: earlier => (lastRead earlier).toList ++ reconciled earlier
  | _ :: earlier => reconciled earlier

namespace Site

/-- No attempt has failed.  The registry holds what was changed, and a live policy of which
the latest change is answered has been reconciled.  Between attempts the cluster is in sync
with what has been reconciled, and an attempt adds the state that it is for. -/
structure Tended (s : Site) : Prop where
  unfailing : ∀ k, s.worker.phase ≠ .failed k
  undropped : ∀ k, .exhausted k ∉ s.worker.history
  changed : ∀ {k st}, s.worker.registry.get? k = some st → .changed k ∈ s.worker.history
  done : ∀ {k p}, s.worker.registry.get? k = some (.live p) →
    answered k s.worker.history = true → .live p ∈ reconciled s.worker.history
  synced : (∀ k state, s.worker.phase ≠ .reconciling k state) →
    InSync (reconciled s.worker.history) s.cluster
  ahead : ∀ {k state}, s.worker.phase = .reconciling k state →
    s.left.Secures (fun _ => True)
      (fun _ => InSync (state.toList ++ reconciled s.worker.history)) s.cluster

lemma tended_start (hsound : initial.Sound) : Tended
    { worker := { registry := { queue := { capacity, backoff } } }, cluster := initial } where
  unfailing _ h := by cases h
  undropped _ := List.not_mem_nil
  changed h := by cases h
  done h := by cases h
  synced _ := inSync_nil hsound
  ahead h := by cases h

variable {s : Site} {k : ObjectKey} {state : Option PolicyState}

/-- The program of a state brings the cluster in sync with it as well. -/
lemma Tended.read (hs : Tended s) (hphase : s.worker.phase = .taken k) :
    Tended { s with
      worker := s.worker.read k
      left := program (s.worker.registry.get? k) } where
  unfailing _ h := by cases h
  undropped k' h := hs.undropped k' (List.mem_of_ne_of_mem Event.noConfusion h)
  changed h := List.mem_cons_of_mem _ (hs.changed h)
  done := hs.done
  synced h := absurd rfl (h k _)
  ahead h := by
    obtain ⟨-, rfl⟩ := Phase.reconciling.inj h
    exact secures_program (hs.synced fun _ _ h => by cases hphase.symm.trans h) _

/-- A call leaves less of the program. -/
lemma Tended.call (hs : Tended s) (hphase : s.worker.phase = .reconciling k state) {asked : Call}
    {next : Except ClusterError asked.Answer → Program ClusterError Unit}
    (hleft : s.left = .call asked next) :
    Tended { s with
      cluster := (Cluster.answer asked s.cluster).2
      left := next (Cluster.answer asked s.cluster).1 } where
  unfailing := hs.unfailing
  undropped := hs.undropped
  changed := hs.changed
  done := hs.done
  synced h := absurd hphase (h k state)
  ahead h := by
    have hahead := hs.ahead h
    rw [hleft] at hahead
    exact hahead.2.2

/-- When the program has ended the cluster is in sync with the state that it was for. -/
lemma Tended.succeed (hs : Tended s) (hw : Tracked s.worker)
    (hphase : s.worker.phase = .reconciling k state) (hleft : s.left = .done (.ok ())) :
    Tended { s with worker := s.worker.succeed k state } where
  unfailing _ h := by cases h
  undropped k' h := hs.undropped k' (List.mem_of_ne_of_mem Event.noConfusion h)
  changed h := List.mem_cons_of_mem _ (hs.changed (get?_of_settle h))
  done {k' p} hlive hanswered := by
    have hlive := get?_of_settle hlive
    rw [State.succeed, answered, Bool.or_eq_true, Bool.and_eq_true] at hanswered
    obtain ⟨-, hread⟩ | hbefore := hanswered
    · -- the policy is still the one that was read
      refine List.mem_append_left _ ?_
      rw [hw.current hlive hread]
      exact List.mem_cons_self
    · exact List.mem_append_right _ (hs.done hlive hbefore)
  synced _ := by
    have hahead := hs.ahead hphase
    rw [hleft] at hahead
    rw [State.succeed, reconciled, hw.reading hphase]
    exact hahead
  ahead h := by cases h

/-- The worker goes on aside from attempts, and at most a policy is given up. -/
lemma Tended.aside (hs : Tended s) {w : State}
    (hquiet : ∀ k state, w.phase = .reconciling k state ↔ s.worker.phase = .reconciling k state)
    (hunfailing : ∀ k, w.phase ≠ .failed k)
    (hpolicies : ∀ {k st}, w.registry.get? k = some st → s.worker.registry.get? k = some st)
    (hhistory : w.history = s.worker.history) : Tended { s with worker := w } where
  unfailing := hunfailing
  undropped := hhistory ▸ hs.undropped
  changed h := hhistory ▸ hs.changed (hpolicies h)
  done h hanswered := hhistory ▸ hs.done (hpolicies h) (hhistory ▸ hanswered)
  synced h := hhistory ▸ hs.synced fun k state => mt (hquiet k state).mpr (h k state)
  ahead h := hhistory ▸ hs.ahead ((hquiet _ _).mp h)

/-- A report changes a key, which is not answered then. -/
lemma Tended.watch (hs : Tended s) (w : Report) :
    Tended { s with worker := s.worker.watch w } := by
  rw [State.watch, w.take_eq]
  cases w.event? s.worker.registry with
  | none => exact hs
  | some e =>
      refine ⟨hs.unfailing, fun k h => ?_, fun {k st} h => ?_, fun {k p} h hanswered => ?_,
        hs.synced, hs.ahead⟩
      · exact hs.undropped k (List.mem_of_ne_of_mem Event.noConfusion h)
      · by_cases hk : k = e.policy.key
        · subst hk
          exact List.mem_cons_self
        · exact List.mem_cons_of_mem _
            (hs.changed ((Registry.get?_observe_of_ne hk).symm.trans h))
      · obtain ⟨hne, hanswered⟩ : e.policy.key ≠ k ∧ answered k s.worker.history = true := by
          simpa [answered] using hanswered
        exact hs.done ((Registry.get?_observe_of_ne hne.symm).symm.trans h) hanswered

/-- **Every step keeps the cluster in sync with what has been reconciled.** -/
theorem Tended.of_step {t : Site} (hs : Tended s) (hw : Tracked s.worker) (hst : Step s t) :
    Tended t := by
  cases hst with
  | read hphase => exact hs.read hphase
  | call hphase hleft => exact hs.call hphase hleft
  | succeed hphase hleft => exact hs.succeed hw hphase hleft
  | fail hphase hleft =>
      have hahead := hs.ahead hphase
      rw [hleft] at hahead
      exact hahead.elim
  | @aside w hst hquiet =>
      -- the steps by which an attempt begins and ends are none of these
      cases hst with
      | watch w => exact hs.watch w
      | @read k hphase => cases hphase.symm.trans ((hquiet k _).mp rfl)
      | @succeed k state hphase => cases (hquiet k state).mpr hphase
      | @fail k state hphase => cases (hquiet k state).mpr hphase
      | @retry k hphase hcount => exact absurd hphase (hs.unfailing k)
      | @exhaust k hphase hcount => exact absurd hphase (hs.unfailing k)
      | giveUp => exact hs.aside hquiet (fun _ h => by cases h) Registry.get?_of_forgetDeleted rfl
      | fire | shutdown => exact hs.aside hquiet hs.unfailing id rfl
      | next | forget | postpone | drop | finish =>
          exact hs.aside hquiet (fun _ h => by cases h) id rfl

lemma Reachable.tended (h : Reachable initial capacity backoff s) (hsound : initial.Sound) :
    Tended s := by
  induction h with
  | start => exact tended_start hsound
  | step h hst ih => exact ih.of_step h.worker.tracked hst

/-! ### Undisturbed service -/

def report (s : Site) (w : Report) : Site := { s with worker := s.worker.watch w }

/-- The worker takes the next key, if one waits, and does for it whatever is to be done
before anything else happens. -/
def serve (s : Site) : Site :=
  match s.worker.registry.queue.next? with
  | none => s
  | some (k, q) =>
      let state := s.worker.registry.get? k
      let taken : State := { s.worker.withQueue q with phase := .taken k }
      { worker := (((taken.read k).succeed k state).forget k).finish k
        cluster := ((program state : Program ClusterError Unit).run Cluster.answer s.cluster).2
        left := .done (.ok ()) }

lemma Reachable.report (h : Reachable initial capacity backoff s) (w : Report) :
    Reachable initial capacity backoff (s.report w) :=
  h.step (.aside (.watch _ w) fun _ _ => Iff.rfl)

/-- The worker carries out a program, if no call of it fails. -/
lemma Reachable.carryOut {post : Unit → Cluster → Prop}
    (h : Reachable initial capacity backoff s) (hphase : s.worker.phase = .reconciling k state)
    (hleft : s.left.Secures (fun _ => True) post s.cluster) :
    Reachable initial capacity backoff
      { s with cluster := (s.left.run Cluster.answer s.cluster).2, left := .done (.ok ()) } := by
  obtain ⟨worker, cluster, left⟩ := s
  induction left generalizing cluster with
  | done r =>
      cases r with
      | ok => exact h
      | error e => exact hleft.elim
  | call asked next ih => exact ih _ _ (h.step (.call hphase rfl)) hphase hleft.2.2

/-- **Undisturbed, the worker serves a key as a whole**: call by call it comes to where it
would come by carrying out the program at once, and is idle again. -/
theorem Reachable.serve (h : Reachable initial capacity backoff s) (hsound : initial.Sound)
    (hphase : s.worker.phase = .idle) :
    Reachable initial capacity backoff s.serve ∧ s.serve.worker.phase = .idle := by
  rw [Site.serve]
  cases hnext : s.worker.registry.queue.next? with
  | none => exact ⟨h, hphase⟩
  | some taken =>
      obtain ⟨k, q⟩ := taken
      have htaken := h.step (.aside (.next hphase hnext) fun _ _ =>
        iff_of_false Phase.noConfusion fun hreconciling => by cases hphase.symm.trans hreconciling)
      have hread := htaken.step (.read rfl)
      have hdone := hread.carryOut rfl ((hread.tended hsound).ahead rfl)
      have hforgotten := (hdone.step (.succeed rfl rfl)).step (.aside (.forget rfl) fun _ _ =>
        iff_of_false Phase.noConfusion Phase.noConfusion)
      exact ⟨hforgotten.step (.aside (.finish rfl) fun _ _ =>
        iff_of_false Phase.noConfusion Phase.noConfusion), rfl⟩

end Site

end SidecarPolicy.Worker
