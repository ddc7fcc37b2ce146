/-
Programs that look at a cluster and leave it as it is.

A program that asks for nothing but lists cannot change anything.  Lists come in no
particular order, so what such a program finds out is worth something only if it
does not depend on the order.

* `Call.lists`, `Cluster.Shows`: the calls for lists, and their answers, which hold the
  objects in any order;
* `Program.Looks`: a program that asks for nothing but lists, with what holds of its
  result;
* `Program.Looks.bind`, `Program.looks_request`, `Program.looks_forM`: how this is
  shown, along the program;
* `Program.Lists`: whoever answers calls for lists, in an order of his own;
* `Program.Looks.run_eq`: **whoever answers, the result is as it should be, and the
  cluster is unchanged**.
-/
import SidecarPolicy.Proofs.Cluster.Sound

namespace SidecarPolicy

/-! ### Lists -/

/-- Whether a call asks for a list. -/
def Call.lists : Call → Bool
  | .listDeployments .. | .listPods .. => true
  | _ => false

/-- A list of what is asked for, in any order. -/
def Cluster.Shows (c : Cluster) : (asked : Call) → asked.Answer → Prop
  | .listDeployments ns selector, deployments =>
      deployments.Perm (c.listedDeployments ns selector)
  | .listPods ns selector, pods => pods.Perm (c.listedPods ns selector)
  | _, _ => False

namespace Program

variable {ε α β γ : Type}

/-! ### Programs -/

/-- A program that asks for nothing but lists of a cluster, and ends well: in whatever
order the objects are listed, its result is as it should be. -/
def Looks (c : Cluster) (post : α → Prop) : Program ε α → Prop
  | .done (.ok a) => post a
  | .done (.error _) => False
  | .call asked next => asked.lists = true ∧ ∀ a, c.Shows asked a → Looks c post (next (.ok a))

variable {c : Cluster}

lemma looks_pure {post : α → Prop} {a : α} (h : post a) :
    Looks c post (pure a : Program ε α) := h

lemma looks_request {asked : Call} {post : asked.Answer → Prop} (hlists : asked.lists = true)
    (h : ∀ a, c.Shows asked a → post a) : Looks c post (request asked : Program ε _) :=
  ⟨hlists, h⟩

lemma Looks.bind {p : Program ε α} {f : α → Program ε β} {post : β → Prop}
    (h : p.Looks c fun a => (f a).Looks c post) : (p >>= f).Looks c post := by
  induction p with
  | done r =>
      cases r with
      | ok a => exact h
      | error e => exact h.elim
  | call asked next ih => exact ⟨h.1, fun a ha => ih _ (h.2 a ha)⟩

lemma Looks.mono {p : Program ε α} {post post' : α → Prop} (h : p.Looks c post)
    (himp : ∀ a, post a → post' a) : p.Looks c post' := by
  induction p with
  | done r =>
      cases r with
      | ok a => exact himp a h
      | error e => exact h
  | call asked next ih => exact ⟨h.1, fun a ha => ih _ (h.2 a ha)⟩

lemma looks_forM {act : γ → Program ε Unit} {items : List γ}
    (h : ∀ x ∈ items, (act x).Looks c fun _ => True) :
    (items.forM act).Looks c fun _ => True := by
  induction items with
  | nil => exact looks_pure trivial
  | cons x rest ih =>
      have hrest := ih fun y hy => h y (List.mem_cons_of_mem x hy)
      exact Looks.bind ((h x List.mem_cons_self).mono fun _ _ => hrest)

/-! ### Runs -/

/-- Whoever answers calls for lists: a list shows the cluster that is seen in his state,
in any order, and in another one the next time; the cluster stays as it is. -/
def Lists {σ : Type} (answer : Handler ε σ) (view : σ → Cluster) : Prop :=
  ∀ asked s, Call.lists asked = true →
    ∃ a s', answer asked s = (.ok a, s') ∧ (view s).Shows asked a ∧ view s' = view s

lemma lists_answer : Lists Cluster.answer id := by
  intro asked c hlists
  cases asked with
  | listDeployments ns selector => exact ⟨_, c, rfl, List.Perm.refl _, rfl⟩
  | listPods ns selector => exact ⟨_, c, rfl, List.Perm.refl _, rfl⟩
  | _ => cases hlists

/-- **Whoever answers, the result is as it should be, and the cluster is
unchanged.** -/
theorem Looks.run_eq {σ : Type} {answer : Handler ε σ} {view : σ → Cluster}
    (hanswer : Lists answer view) {p : Program ε α} {post : α → Prop} {s : σ}
    (h : p.Looks (view s) post) :
    ∃ a, (p.run answer s).1 = .ok a ∧ post a ∧ view (p.run answer s).2 = view s := by
  induction p generalizing s with
  | done r =>
      cases r with
      | ok a => exact ⟨a, rfl, h, rfl⟩
      | error e => exact h.elim
  | call asked next ih =>
      obtain ⟨hlists, hnext⟩ := h
      obtain ⟨a, s', heq, hshows, hview⟩ := hanswer asked s hlists
      have hlater : (next (.ok a)).Looks (view s') post := hview.symm ▸ hnext a hshows
      obtain ⟨b, hresult, hpost, hview'⟩ := ih _ hlater
      rw [run, heq]
      exact ⟨b, hresult, hpost, hview'.trans hview⟩

end Program

end SidecarPolicy
