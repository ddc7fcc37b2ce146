/-
A controller as the one who answers the calls of a program.

* `Controller.handler`: what a controller answers to a call, when its time has passed;
* `Controller.perform_eq_run`: **a program is performed by running it with these answers**.
-/
import Mathlib.Tactic
import SidecarPolicy.Controller.Work

namespace SidecarPolicy.Controller

variable {α : Type}

/-- What a controller answers to a call, when its time has passed. -/
def handler : Program.Handler ClusterError Controller :=
  fun asked c => (c.record asked).await.answer asked

/-- **A program is performed by running it with a controller's answers.** -/
theorem perform_eq_run (p : Program ClusterError α) (c : Controller) :
    perform p c = p.run handler c := by
  induction p generalizing c with
  | done r => rfl
  | call asked next ih => exact ih _ _

end SidecarPolicy.Controller
