/-
The clusters that a program passes, where it may be cut short.

While nothing fails, a program leads a cluster from one of its calls to the next.  Where a
call fails that ends the program, the cluster is left at one of these stations, and it makes
no difference who answers the calls or which of them fails.

* `Program.stations`: the clusters on which a program makes its calls, and its last one;
* `Program.mem_stations_bind`, `Program.eq_of_mem_stations`,
  `Program.Secures.of_mem_stations`, `Program.secures_mapM`: what is known of them, along the
  program;
* `Program.Fallible`: whoever answers for a cluster, and fails now and then;
* `Program.Surfaces.mem_stations`: **whatever fails, a program stops at a station**, unless
  something stands in for what fails.
-/
import SidecarPolicy.Proofs.Cluster.Exchange
import SidecarPolicy.Proofs.Cluster.Looks
import SidecarPolicy.Proofs.Cluster.Secures

namespace SidecarPolicy.Program

variable {α β γ σ : Type} {c c' : Cluster}

/-! ### Stations -/

/-- The clusters on which a program makes its calls while nothing fails, and the one that it
leaves. -/
def stations : Program ClusterError α → Cluster → List Cluster
  | .done _, c => [c]
  | .call asked next, c =>
      c :: stations (next (Cluster.answer asked c).1) (Cluster.answer asked c).2

lemma mem_stations_self (p : Program ClusterError α) (c : Cluster) : c ∈ p.stations c := by
  cases p <;> exact List.mem_cons_self

/-- The stations of one program after another. -/
lemma mem_stations_bind {p : Program ClusterError α} {f : α → Program ClusterError β}
    (h : c' ∈ (p >>= f).stations c) :
    c' ∈ p.stations c ∨
      ∃ a c₁, p.run Cluster.answer c = (.ok a, c₁) ∧ c' ∈ (f a).stations c₁ := by
  induction p generalizing c with
  | done r =>
      cases r with
      | ok a => exact .inr ⟨a, c, rfl, h⟩
      | error e => exact .inl h
  | call asked next ih =>
      obtain rfl | h := List.mem_cons.mp h
      · exact .inl List.mem_cons_self
      · exact (ih _ h).imp_left (List.mem_cons_of_mem c)

/-- A program that asks for nothing but lists stays where it is. -/
lemma eq_of_mem_stations {p : Program ClusterError α}
    (hlists : ∀ x ∈ p.exchanges Cluster.answer c, x.call.lists = true)
    (h : c' ∈ p.stations c) : c' = c := by
  induction p generalizing c with
  | done r => exact List.mem_singleton.mp h
  | call asked next ih =>
      obtain ⟨hfirst, hothers⟩ := List.forall_mem_cons.mp hlists
      obtain ⟨a, c₁, hanswer, -, hsame⟩ := lists_answer asked c hfirst
      obtain rfl : c₁ = c := hsame
      obtain rfl | h := List.mem_cons.mp h
      · rfl
      · rw [hanswer] at hothers h
        exact ih _ hothers h

/-- The same program for each item of a list, every round of which keeps one thing. -/
lemma secures_mapM {act : γ → Program ClusterError β} {safe inv : Cluster → Prop} {items : List γ}
    (hround : ∀ x ∈ items, ∀ c, inv c → (act x).Secures safe (fun _ => inv) c) {c : Cluster}
    (h : inv c) : (items.mapM act).Secures safe (fun _ => inv) c := by
  induction items generalizing c with
  | nil => exact secures_pure h
  | cons x rest ih =>
      obtain ⟨hfirst, hothers⟩ := List.forall_mem_cons.mp hround
      rw [List.mapM_cons]
      refine Secures.bind ((hfirst c h).mono fun _ c' hc' => ?_)
      exact Secures.bind ((ih hothers hc').mono fun _ _ hc'' => secures_pure hc'')

/-- If the calls of a program are made on safe clusters, and its end is safe as well, then so
are its stations. -/
lemma Secures.of_mem_stations {p : Program ClusterError α} {safe : Cluster → Prop}
    {post : α → Cluster → Prop} (hp : p.Secures safe post c)
    (hpost : ∀ a c₁, post a c₁ → safe c₁) (h : c' ∈ p.stations c) : safe c' := by
  induction p generalizing c with
  | done r =>
      obtain rfl := List.mem_singleton.mp h
      cases r with
      | ok a => exact hpost a _ hp
      | error e => exact hp.elim
  | call asked next ih =>
      obtain rfl | h := List.mem_cons.mp h
      · exact hp.1
      · exact ih _ hp.2.2 h

/-! ### Failures -/

/-- Whoever answers for a cluster, as long as he is fit to: he answers a call as the cluster
does that is seen in his state, or fails; and the call that fails may have had its effect
or not. -/
structure Fallible (answer : Handler ClusterError σ) (fit : σ → Prop) (view : σ → Cluster) :
    Prop where
  stays : ∀ asked s, fit s → fit (answer asked s).2
  cases : ∀ asked s, fit s →
    (answer asked s).1 = (Cluster.answer asked (view s)).1 ∧
        view (answer asked s).2 = (Cluster.answer asked (view s)).2 ∨
      (∃ e, (answer asked s).1 = .error e) ∧
        (view (answer asked s).2 = view s ∨
          view (answer asked s).2 = (Cluster.answer asked (view s)).2)

/-- **Whatever fails, a program stops at a station**, if nothing stands in for the answers to
the calls that fail. -/
theorem Surfaces.mem_stations {standIn? : StandIn} {p : Program ClusterError α}
    (hp : p.Surfaces standIn?) {answer : Handler ClusterError σ} {fit : σ → Prop}
    {view : σ → Cluster} (hanswer : Fallible answer fit view) {s : σ} (hs : fit s)
    (hnone : ∀ x ∈ p.exchanges answer s, x.Fails → standIn? x.call = none) :
    view (p.run answer s).2 ∈ p.stations (view s) := by
  induction p generalizing s with
  | done r => exact List.mem_singleton_self _
  | call asked next ih =>
      obtain ⟨hfirst, hothers⟩ := List.forall_mem_cons.mp hnone
      rw [run, stations]
      obtain ⟨hsame, hview⟩ | ⟨⟨e, he⟩, hview⟩ := hanswer.cases asked s hs
      · rw [← hsame, ← hview]
        obtain ⟨hnext, -⟩ | ⟨e, -, -, hdone⟩ := hp.next_cases (answer asked s).1
        · exact List.mem_cons_of_mem _ (ih _ hnext (hanswer.stays asked s hs) hothers)
        · rw [hdone]
          exact List.mem_cons_of_mem _ (List.mem_singleton_self _)
      · -- the program has ended, before or after the call has had its effect
        have hdone := hp.next_error_of_none (hfirst ⟨e, he⟩) e
        rw [he, hdone, run]
        obtain hview | hview := hview
        · exact hview ▸ List.mem_cons_self
        · exact List.mem_cons_of_mem _ (hview ▸ mem_stations_self _ _)

end SidecarPolicy.Program
