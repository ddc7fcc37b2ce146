/-
The calls that a program makes, with the answers that it gets.

A program may give up with the error of a call that fails, or take something else for the
answer and go on as if nothing had happened.  Which of both it does shows in its calls.

* `Exchange`, `Program.exchanges`: a call with its answer, and those of a run in order;
* `Program.exchanges_bind`, `Program.exchanges_request_bind`,
  `Program.exchanges_attempt_bind`: the calls of one program after another;
* `Program.StandIn`, `Program.Surfaces`: what is taken for the answers to calls that fail,
  and a program that otherwise gives up with their errors;
* `Program.Surfaces.bind`, `Program.surfaces_request`, `Program.surfaces_attempt_bind`,
  `Program.surfaces_mapM`: how this is shown, along the program;
* `Program.Surfaces.run_cases`: a program goes on until the first failure for which nothing
  stands in, and gives up with this one;
* `Program.Surfaces.gives_up_iff`: **it gives up exactly when there is such a failure**;
* `Program.Surfaces.ends`: nothing is called for after such a failure;
* `Program.Surfaces.run_eq`: **a failure for which something stands in makes no difference**.
-/
import Mathlib.Tactic
import SidecarPolicy.Cluster.Program

namespace SidecarPolicy

variable {ε α β γ σ : Type}

/-- A call with the answer to it. -/
structure Exchange (ε : Type) where
  call : Call
  answer : Except ε call.Answer

/-- The call fails. -/
def Exchange.Fails (x : Exchange ε) : Prop := ∃ e, x.answer = .error e

lemma Exchange.not_fails {asked : Call} {a : asked.Answer} :
    ¬ (⟨asked, .ok a⟩ : Exchange ε).Fails :=
  fun ⟨_, he⟩ => nomatch he

instance (x : Exchange ε) : Decidable x.Fails :=
  match h : x.answer with
  | .ok _ => .isFalse fun ⟨_, he⟩ => nomatch h.symm.trans he
  | .error e => .isTrue ⟨e, h⟩

namespace Program

instance : LawfulMonad (Program ε) :=
  LawfulMonad.mk' (Program ε)
    (fun p => by
      show p.bind (fun a => .done (.ok a)) = p
      induction p with
      | done r => cases r <;> rfl
      | call asked next ih => exact congrArg (call asked) (funext ih))
    (fun _ _ => rfl)
    (fun p f g => by
      show (p.bind f).bind g = p.bind fun a => (f a).bind g
      induction p with
      | done r => cases r <;> rfl
      | call asked next ih => exact congrArg (call asked) (funext ih))

/-! ### Calls and answers -/

/-- The calls of a run with their answers, in order. -/
def exchanges (answer : Handler ε σ) : Program ε α → σ → List (Exchange ε)
  | .done _, _ => []
  | .call asked next, s =>
      ⟨asked, (answer asked s).1⟩ :: exchanges answer (next (answer asked s).1) (answer asked s).2

/-- The second program makes its calls where the first one ends well. -/
lemma exchanges_bind (answer : Handler ε σ) (p : Program ε α) (f : α → Program ε β) (s : σ) :
    (p >>= f).exchanges answer s = p.exchanges answer s ++
      match p.run answer s with
      | (.ok a, s') => (f a).exchanges answer s'
      | (.error _, _) => [] := by
  induction p generalizing s with
  | done r => cases r <;> rfl
  | call asked next ih => exact congrArg (List.cons _) (ih (answer asked s).1 (answer asked s).2)

lemma exchanges_request_bind (answer : Handler ε σ) (asked : Call)
    (f : asked.Answer → Program ε α) (s : σ) :
    (request asked >>= f).exchanges answer s = ⟨asked, (answer asked s).1⟩ ::
      match answer asked s with
      | (.ok a, s') => (f a).exchanges answer s'
      | (.error _, _) => [] := by
  have hcall : (request asked).exchanges answer s = [⟨asked, (answer asked s).1⟩] := rfl
  rw [exchanges_bind, run_request, hcall]
  obtain ⟨e | a, s'⟩ := answer asked s <;> rfl

lemma exchanges_bind_pure (answer : Handler ε σ) (p : Program ε α) (f : α → β) (s : σ) :
    (p >>= fun a => pure (f a)).exchanges answer s = p.exchanges answer s := by
  rw [exchanges_bind]
  split <;> exact List.append_nil _

/-- The calls for the first of several items, and then those for the others. -/
lemma exchanges_mapM_cons (answer : Handler ε σ) (act : γ → Program ε α) (x : γ) (rest : List γ)
    (s : σ) : ((x :: rest).mapM act).exchanges answer s = (act x).exchanges answer s ++
      match (act x).run answer s with
      | (.ok _, s') => (rest.mapM act).exchanges answer s'
      | (.error _, _) => [] := by
  rw [List.mapM_cons, exchanges_bind]
  simp only [exchanges_bind_pure]

lemma exchanges_attempt_bind (answer : Handler ε σ) (asked : Call)
    (f : Except ε asked.Answer → Program ε α) (s : σ) :
    (attempt asked >>= f).exchanges answer s =
      ⟨asked, (answer asked s).1⟩ :: (f (answer asked s).1).exchanges answer (answer asked s).2 :=
  rfl

/-! ### Failures -/

/-- What is taken for the answer to a call that fails, if anything is. -/
abbrev StandIn := (asked : Call) → Option asked.Answer

/-- A program that gives up with the error of a call that fails, unless something stands in
for the answer; and never gives up otherwise. -/
def Surfaces (standIn? : StandIn) : Program ε α → Prop
  | .done (.ok _) => True
  | .done (.error _) => False
  | .call asked next =>
      (∀ e, next (.error e) = (standIn? asked).elim (.done (.error e)) fun a => next (.ok a)) ∧
        ∀ a, Surfaces standIn? (next (.ok a))

variable {standIn? : StandIn}

lemma surfaces_pure (a : α) : Surfaces standIn? (pure a : Program ε α) := trivial

lemma surfaces_request {asked : Call} (h : standIn? asked = none) :
    Surfaces standIn? (request asked : Program ε _) :=
  ⟨fun e => by rw [h]; rfl, fun _ => trivial⟩

/-- One program after another. -/
lemma Surfaces.bind {p : Program ε α} {f : α → Program ε β} (hp : p.Surfaces standIn?)
    (hf : ∀ a, (f a).Surfaces standIn?) : (p >>= f).Surfaces standIn? := by
  induction p with
  | done r =>
      cases r with
      | ok a => exact hf a
      | error e => exact hp.elim
  | call asked next ih =>
      refine ⟨fun e => ?_, fun a => ih _ (hp.2 a)⟩
      show (next (.error e)).bind f = _
      rw [hp.1 e]
      cases standIn? asked <;> rfl

lemma surfaces_attempt_bind {asked : Call} {f : Except ε asked.Answer → Program ε α}
    {a : asked.Answer} (hsome : standIn? asked = some a)
    (herror : ∀ e, f (.error e) = f (.ok a)) (hok : ∀ a, (f (.ok a)).Surfaces standIn?) :
    (attempt asked >>= f).Surfaces standIn? := by
  refine ⟨fun e => ?_, hok⟩
  rw [hsome]
  exact herror e

lemma surfaces_mapM {act : γ → Program ε α} (h : ∀ x, (act x).Surfaces standIn?)
    (items : List γ) : (items.mapM act).Surfaces standIn? := by
  induction items with
  | nil => exact surfaces_pure []
  | cons x rest ih =>
      rw [List.mapM_cons]
      exact (h x).bind fun a => ih.bind fun as => surfaces_pure (a :: as)

section Failing

variable {asked : Call} {next : Except ε asked.Answer → Program ε α}

lemma Surfaces.next_error_of_none (h : (Program.call asked next).Surfaces standIn?)
    (hnone : standIn? asked = none) (e : ε) : next (.error e) = .done (.error e) := by
  rw [h.1 e, hnone]
  rfl

/-- After a failure for which something stands in the program goes on with that. -/
lemma Surfaces.next_error_of_some (h : (Program.call asked next).Surfaces standIn?)
    {a : asked.Answer} (hsome : standIn? asked = some a) (e : ε) :
    next (.error e) = next (.ok a) := by
  rw [h.1 e, hsome]
  rfl

/-- Whatever is answered to a call, the program goes on, or it is a failure for which nothing
stands in. -/
lemma Surfaces.next_cases (h : (Program.call asked next).Surfaces standIn?)
    (r : Except ε asked.Answer) :
    ((next r).Surfaces standIn? ∧ ((∃ e, r = .error e) → (standIn? asked).isSome = true)) ∨
      ∃ e, r = .error e ∧ standIn? asked = none ∧ next r = .done (.error e) := by
  cases r with
  | ok a => exact .inl ⟨h.2 a, fun ⟨e, he⟩ => nomatch he⟩
  | error e =>
      cases hstandIn : standIn? asked with
      | none => exact .inr ⟨e, rfl, rfl, h.next_error_of_none hstandIn e⟩
      | some a =>
          have hgoes : (next (.error e)).Surfaces standIn? :=
            h.next_error_of_some hstandIn e ▸ h.2 a
          exact .inl ⟨hgoes, fun _ => rfl⟩

end Failing

/-- A program goes on until the first failure for which nothing stands in, and gives up with
this one. -/
lemma Surfaces.run_cases {p : Program ε α} (h : p.Surfaces standIn?) (answer : Handler ε σ)
    (s : σ) :
    (∃ a, (p.run answer s).1 = .ok a ∧
        ∀ x ∈ p.exchanges answer s, x.Fails → (standIn? x.call).isSome = true) ∨
      ∃ e earlier x, (p.run answer s).1 = .error e ∧ p.exchanges answer s = earlier ++ [x] ∧
        x.answer = .error e ∧ standIn? x.call = none ∧
        ∀ y ∈ earlier, y.Fails → (standIn? y.call).isSome = true := by
  induction p generalizing s with
  | done r =>
      cases r with
      | ok a => exact .inl ⟨a, rfl, fun x hx => absurd hx List.not_mem_nil⟩
      | error e => exact h.elim
  | call asked next ih =>
      rw [run, exchanges]
      -- the first call is spared, and the calls after it are as they should be, or it ends the
      -- program and is the last one
      obtain ⟨hnext, hspared⟩ | ⟨e, hanswer, hnone, hdone⟩ := h.next_cases (answer asked s).1
      · have hfirst : (⟨asked, (answer asked s).1⟩ : Exchange ε).Fails →
            (standIn? asked).isSome = true := hspared
        obtain ⟨a, hrun, hall⟩ | ⟨e, earlier, x, hrun, hcalls, hx, hnone, hall⟩ :=
          ih _ hnext (answer asked s).2
        · exact .inl ⟨a, hrun, List.forall_mem_cons.mpr ⟨hfirst, hall⟩⟩
        · refine .inr ⟨e, _ :: earlier, x, hrun, ?_, hx, hnone,
            List.forall_mem_cons.mpr ⟨hfirst, hall⟩⟩
          rw [hcalls]
          rfl
      · refine .inr ⟨e, [], ⟨asked, (answer asked s).1⟩, ?_, ?_, hanswer, hnone, ?_⟩
        · rw [hdone]
          rfl
        · rw [hdone]
          rfl
        · exact fun y hy => absurd hy List.not_mem_nil

/-- **A program gives up exactly when a call fails for which nothing stands in.** -/
theorem Surfaces.gives_up_iff {p : Program ε α} (h : p.Surfaces standIn?) (answer : Handler ε σ)
    (s : σ) : (∃ e, (p.run answer s).1 = .error e) ↔
      ∃ x ∈ p.exchanges answer s, x.Fails ∧ standIn? x.call = none := by
  obtain ⟨a, hok, hspared⟩ | ⟨e, earlier, x, herror, hcalls, hx, hnone, -⟩ :=
    h.run_cases answer s
  · constructor
    · rintro ⟨e, he⟩
      cases hok.symm.trans he
    · rintro ⟨x, hx, hfails, hnone⟩
      have hsome := hspared x hx hfails
      rw [hnone] at hsome
      cases hsome
  · refine iff_of_true ⟨e, herror⟩ ⟨x, ?_, ⟨e, hx⟩, hnone⟩
    rw [hcalls]
    exact List.mem_append_right earlier (List.mem_singleton_self x)

/-- The error with which a program gives up is that of its last call. -/
lemma Surfaces.last_fails {p : Program ε α} (h : p.Surfaces standIn?) {answer : Handler ε σ}
    {s : σ} {e : ε} (he : (p.run answer s).1 = .error e) :
    ∃ x, (p.exchanges answer s).getLast? = some x ∧ x.answer = .error e := by
  obtain ⟨a, hok, -⟩ | ⟨e', earlier, x, herror, hcalls, hx, -⟩ := h.run_cases answer s
  · cases hok.symm.trans he
  · cases herror.symm.trans he
    exact ⟨x, by rw [hcalls, List.getLast?_concat], hx⟩

/-- Behind a failure for which nothing stands in there are no more calls, and its error is the
one with which the program gives up. -/
lemma Surfaces.ends {p : Program ε α} (h : p.Surfaces standIn?) {answer : Handler ε σ} {s : σ}
    {earlier later : List (Exchange ε)} {x : Exchange ε}
    (hcalls : p.exchanges answer s = earlier ++ x :: later) (hfails : x.Fails)
    (hnone : standIn? x.call = none) :
    later = [] ∧ ∃ e, x.answer = .error e ∧ (p.run answer s).1 = .error e := by
  have hbare : ¬ (standIn? x.call).isSome = true := by rw [hnone]; exact Bool.false_ne_true
  obtain ⟨a, -, hspared⟩ | ⟨e, spared, y, herror, hcalls', hy, -, hspared⟩ :=
    h.run_cases answer s
  · have hx : x ∈ p.exchanges answer s := hcalls ▸ List.mem_append_right earlier List.mem_cons_self
    exact absurd (hspared x hx hfails) hbare
  · obtain rfl | ⟨later, z, rfl⟩ := List.eq_nil_or_concat later
    · obtain ⟨-, hlast⟩ := List.append_inj' (hcalls.symm.trans hcalls') rfl
      obtain rfl := List.singleton_inj.mp hlast
      exact ⟨rfl, e, hy, herror⟩
    · -- the last call would be another one, so this failure would be spared
      rw [List.concat_eq_append, ← List.cons_append, ← List.append_assoc] at hcalls
      obtain ⟨hspared', -⟩ := List.append_inj' (hcalls.symm.trans hcalls') rfl
      have hx : x ∈ spared := hspared' ▸ List.mem_append_right earlier List.mem_cons_self
      exact absurd (hspared x hx hfails) hbare

/-- Whoever answers, something may stand in for his failures. -/
def Handler.orStandIn (answer : Handler ε σ) (standIn? : StandIn) : Handler ε σ :=
  fun asked s =>
    match answer asked s with
    | (.ok a, s') => (.ok a, s')
    | (.error e, s') => ((standIn? asked).elim (.error e) .ok, s')

/-- **A failure for which something stands in makes no difference.** -/
theorem Surfaces.run_eq {p : Program ε α} (h : p.Surfaces standIn?) (answer : Handler ε σ)
    (s : σ) : p.run answer s = p.run (Handler.orStandIn answer standIn?) s := by
  induction p generalizing s with
  | done r => rfl
  | call asked next ih =>
      rw [run, run, Handler.orStandIn]
      obtain ⟨e | a, s'⟩ := answer asked s
      · cases hstandIn : standIn? asked with
        | none =>
            show run answer (next (.error e)) s' = run _ (next (.error e)) s'
            rw [h.next_error_of_none hstandIn e]
            rfl
        | some a =>
            show run answer (next (.error e)) s' = run _ (next (.ok a)) s'
            rw [h.next_error_of_some hstandIn e]
            exact ih _ (h.2 a) s'
      · exact ih _ (h.2 a) s'

end Program

end SidecarPolicy
