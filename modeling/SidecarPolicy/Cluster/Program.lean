/-
What is asked of a cluster, and programs that ask one thing after another.

A program is a tree: it is done, with a result or an error, or it makes a call
and goes on as the answer tells.  Who answers is not said here, so the same
program runs against a cluster in memory, one that fails now and then, or one
behind an API.

* `Call`, `Call.Answer`: the calls and the types of their answers;
* `Program`: the trees, a monad;
* `Program.request`, `Program.attempt`: one call, a failure of which ends the
  program, or is handed to it;
* `Program.run`: a program against a cluster that answers from a state;
* `Worded`: errors with a wording.
-/
import SidecarPolicy.Json.Patch
import SidecarPolicy.Object.Deployment

namespace SidecarPolicy

/-- Errors with a wording. -/
class Worded (ε : Type) where
  message : ε → String

/-- What is asked of a cluster.  Lists are of one namespace, or of all. -/
inductive Call where
  | listDeployments («namespace» : Option String) (selector : Selector)
  | listPods («namespace» : Option String) (selector : Selector)
  | getDeployment («namespace» name : String)
  | patchDeployment («namespace» name : String) (patch : Patch)
  | updateDeployment (deployment : Deployment)
  | deletePod («namespace» name : String)
  deriving Repr

/-- The type of the answer to a call. -/
@[reducible] def Call.Answer : Call → Type
  | .listDeployments .. => List Deployment
  | .listPods .. => List Pod
  | .getDeployment .. => Deployment
  | .patchDeployment .. | .updateDeployment .. | .deletePod .. => Unit

/-- A program that makes calls; `ε` are the errors with which calls fail. -/
inductive Program (ε α : Type) where
  | done (result : Except ε α)
  | call (c : Call) (next : Except ε c.Answer → Program ε α)

namespace Program

variable {ε α β : Type}

/-! ### Putting programs together -/

/-- A program that goes on with the result of another one. -/
def bind : Program ε α → (α → Program ε β) → Program ε β
  | .done (.ok a), f => f a
  | .done (.error e), _ => .done (.error e)
  | .call c next, f => .call c fun a => (next a).bind f

instance : Monad (Program ε) where
  pure a := .done (.ok a)
  bind := bind

/-- One call; its failure ends the program. -/
def request (c : Call) : Program ε c.Answer := .call c .done

/-- One call; its failure is a result like any other. -/
def attempt (c : Call) : Program ε (Except ε c.Answer) := .call c fun a => .done (.ok a)

/-- The deployments that a selector selects. -/
def listDeployments («namespace» : Option String) (selector : Selector) :
    Program ε (List Deployment) := request (.listDeployments «namespace» selector)

/-- The pods that a selector selects. -/
def listPods («namespace» : Option String) (selector : Selector) :
    Program ε (List Pod) := request (.listPods «namespace» selector)

def getDeployment («namespace» name : String) : Program ε Deployment :=
  request (.getDeployment «namespace» name)

def patchDeployment («namespace» name : String) (patch : Patch) : Program ε Unit :=
  request (.patchDeployment «namespace» name patch)

def updateDeployment (d : Deployment) : Program ε Unit := request (.updateDeployment d)

def deletePod («namespace» name : String) : Program ε Unit :=
  request (.deletePod «namespace» name)

/-! ### Running a program -/

/-- A cluster that answers calls from a state of its own. -/
abbrev Handler (ε σ : Type) := (c : Call) → σ → Except ε c.Answer × σ

/-- The result of a program, and the state in which it leaves the cluster. -/
def run {σ : Type} (answer : Handler ε σ) : Program ε α → σ → Except ε α × σ
  | .done r, s => (r, s)
  | .call c next, s => run answer (next (answer c s).1) (answer c s).2

section Laws

variable {σ : Type} (answer : Handler ε σ)

@[simp] theorem run_pure (a : α) (s : σ) :
    run answer (pure a : Program ε α) s = (.ok a, s) := rfl

@[simp] theorem run_request (c : Call) (s : σ) : run answer (request c) s = answer c s := rfl

/-- The second program starts where the first one ends well. -/
theorem run_bind (p : Program ε α) (f : α → Program ε β) (s : σ) :
    run answer (p >>= f) s =
      match run answer p s with
      | (.ok a, s') => run answer (f a) s'
      | (.error e, s') => (.error e, s') := by
  induction p generalizing s with
  | done r => cases r <;> rfl
  | call c next ih => exact ih (answer c s).1 (answer c s).2

end Laws

end Program

end SidecarPolicy
