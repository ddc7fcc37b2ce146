/-
Programs whose calls may fail.

A program that gives up at its first failure can be cut short at any of its
calls.  What holds of the cluster whenever a call is made then holds however the
program ends, and what is known of its end holds if no call fails.

* `Program.Secures`: a program that gives up at its first failure, with what
  holds at each of its calls and what holds at its end;
* `Program.Secures.bind`, `Program.secures_request`, `Program.secures_forM`: how
  this is shown, along the program;
* `Program.Secures.mono`, `Program.Secures.weaken`: less may be asked of the end, and
  of the calls;
* `Program.Secures.run_eq`: **without a failure the program ends as it should**.
-/
import Mathlib.Tactic
import SidecarPolicy.Cluster.State

namespace SidecarPolicy.Program

variable {α β γ : Type} {safe : Cluster → Prop}

/-- A program that gives up at the first failure of a call.  Its calls are made
on clusters that are safe, and unless one fails it ends well, with a result and a
cluster as they should be. -/
def Secures (safe : Cluster → Prop) (post : α → Cluster → Prop) :
    Program ClusterError α → Cluster → Prop
  | .done (.ok a), c => post a c
  | .done (.error _), _ => False
  | .call asked next, c =>
      safe c ∧ next (.error .injected) = .done (.error .injected) ∧
        Secures safe post (next (Cluster.answer asked c).1) (Cluster.answer asked c).2

/-! ### Rules -/

lemma secures_pure {post : α → Cluster → Prop} {a : α} {c : Cluster} (h : post a c) :
    Secures safe post (pure a) c := h

/-- One call, made on a safe cluster, that has a known answer. -/
lemma secures_request {call : Call} {post : call.Answer → Cluster → Prop} {c c' : Cluster}
    {a : call.Answer} (hsafe : safe c) (hanswer : Cluster.answer call c = (.ok a, c'))
    (hpost : post a c') : Secures safe post (request call) c := by
  refine ⟨hsafe, rfl, ?_⟩
  rw [hanswer]
  exact hpost

/-- One program after another. -/
lemma Secures.bind {p : Program ClusterError α} {f : α → Program ClusterError β} {c : Cluster}
    {post : β → Cluster → Prop}
    (h : p.Secures safe (fun a c' => (f a).Secures safe post c') c) :
    (p >>= f).Secures safe post c := by
  induction p generalizing c with
  | done r =>
      cases r with
      | ok a => exact h
      | error e => exact h.elim
  | call asked next ih =>
      obtain ⟨hsafe, hgivesUp, hnext⟩ := h
      exact ⟨hsafe, congrArg (·.bind f) hgivesUp, ih _ hnext⟩

lemma Secures.mono {p : Program ClusterError α} {c : Cluster} {post post' : α → Cluster → Prop}
    (h : p.Secures safe post c) (himp : ∀ a c', post a c' → post' a c') :
    p.Secures safe post' c := by
  induction p generalizing c with
  | done r =>
      cases r with
      | ok a => exact himp a c h
      | error e => exact h
  | call asked next ih => exact ⟨h.1, h.2.1, ih _ h.2.2⟩

lemma Secures.weaken {p : Program ClusterError α} {c : Cluster} {post : α → Cluster → Prop}
    {safe' : Cluster → Prop} (h : p.Secures safe post c) (himp : ∀ c', safe c' → safe' c') :
    p.Secures safe' post c := by
  induction p generalizing c with
  | done r =>
      cases r with
      | ok a => exact h
      | error e => exact h
  | call asked next ih => exact ⟨himp c h.1, h.2.1, ih _ h.2.2⟩

/-- The items of a list are gone through safely if every round keeps what holds of the
items that remain. -/
lemma secures_forM {act : γ → Program ClusterError Unit} {inv : List γ → Cluster → Prop}
    (hround : ∀ x rest c, inv (x :: rest) c → (act x).Secures safe (fun _ => inv rest) c)
    {items : List γ} {c : Cluster} (h : inv items c) :
    (items.forM act).Secures safe (fun _ => inv []) c := by
  induction items generalizing c with
  | nil => exact secures_pure h
  | cons x rest ih => exact Secures.bind ((hround x rest c h).mono fun _ _ => ih)

/-! ### Runs -/

/-- **Without a failure the program ends as it should.** -/
theorem Secures.run_eq {p : Program ClusterError α} {c : Cluster} {post : α → Cluster → Prop}
    (h : p.Secures safe post c) :
    ∃ a c', p.run Cluster.answer c = (.ok a, c') ∧ post a c' := by
  induction p generalizing c with
  | done r =>
      cases r with
      | ok a => exact ⟨a, c, rfl, h⟩
      | error e => exact h.elim
  | call asked next ih => exact ih _ h.2.2

end SidecarPolicy.Program
