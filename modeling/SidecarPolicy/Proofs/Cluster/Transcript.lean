/-
What a program asks for, whatever is answered.

Whoever answers may do so as he likes: he may fail, list what is not there, or answer the
same call in another way the next time.  A program may also be given up while it waits.
So a rule on its calls is judged by nothing but the exchanges before each of them.

* `Program.Transcript`: calls with their answers, from the beginning of a program up to
  some moment;
* `Program.transcript_iff`: these are what runs begin with, whoever answers;
* `Program.Abides`: a program all calls of which abide by a rule on what may be asked
  after the exchanges so far;
* `Program.Abides.bind`, `Program.abides_request_bind`, `Program.abides_attempt_bind`,
  `Program.abides_forM`, `Program.abides_mapM`: how this is shown, along the program;
* `Program.Abides.rule_of_transcript`: **then every call of every transcript abides by
  the rule**;
* `Deferred.Transcript`, `Deferred.Abides`: the same of an answer that may wait for a
  look-up.
-/
import SidecarPolicy.Admission.Decision
import SidecarPolicy.Proofs.Cluster.Exchange

namespace SidecarPolicy

variable {ε α β γ σ : Type}

namespace Program

/-! ### Transcripts -/

/-- Calls with their answers, from the beginning of a program up to some moment. -/
inductive Transcript : Program ε α → List (Exchange ε) → Prop
  | nil (p : Program ε α) : Transcript p []
  | cons {asked : Call} {next : Except ε asked.Answer → Program ε α}
      (answer : Except ε asked.Answer) {later : List (Exchange ε)}
      (h : Transcript (next answer) later) :
      Transcript (.call asked next) (⟨asked, answer⟩ :: later)

lemma transcript_exchanges (answer : Handler ε σ) (p : Program ε α) (s : σ) :
    p.Transcript (p.exchanges answer s) := by
  induction p generalizing s with
  | done r => exact .nil _
  | call asked next ih => exact .cons _ (ih _ _)

lemma Transcript.cut {p : Program ε α} {xs ys : List (Exchange ε)} (h : p.Transcript ys)
    (hxs : xs <+: ys) : p.Transcript xs := by
  induction h generalizing xs with
  | nil p => exact List.prefix_nil.mp hxs ▸ .nil p
  | cons answer hlater ih =>
      obtain rfl | ⟨later, rfl, hlater⟩ := List.prefix_cons_iff.mp hxs
      · exact .nil _
      · exact .cons answer (ih hlater)

/-- An answer without content. -/
def blank : (asked : Call) → asked.Answer
  | .listDeployments .. | .listPods .. => []
  | .getDeployment .. => {}
  | .patchDeployment .. | .updateDeployment .. | .deletePod .. => ()

open scoped Classical in
/-- Whoever answers from a script, as long as he is asked what is written there. -/
noncomputable def scripted : Handler ε (List (Exchange ε))
  | asked, [] => (.ok (blank asked), [])
  | asked, x :: later =>
      if h : x.call = asked then (h ▸ x.answer, later) else (.ok (blank asked), [])

lemma Transcript.prefix_scripted {p : Program ε α} {xs : List (Exchange ε)}
    (h : p.Transcript xs) : xs <+: p.exchanges scripted xs := by
  induction h with
  | nil p => exact List.nil_prefix
  | @cons asked next answer later hlater ih =>
      have hanswer : scripted asked (⟨asked, answer⟩ :: later) = (answer, later) := dif_pos rfl
      rw [exchanges, hanswer]
      exact List.cons_prefix_cons.mpr ⟨rfl, ih⟩

/-- **Transcripts are what runs begin with**, whoever answers. -/
theorem transcript_iff {p : Program ε α} {xs : List (Exchange ε)} :
    p.Transcript xs ↔
      ∃ (σ : Type) (answer : Handler ε σ) (s : σ), xs <+: p.exchanges answer s := by
  constructor
  · exact fun h => ⟨_, scripted, xs, h.prefix_scripted⟩
  · rintro ⟨σ, answer, s, hxs⟩
    exact (transcript_exchanges answer p s).cut hxs

/-! ### Rules on calls -/

/-- A rule on what may be asked after some exchanges. -/
abbrev Rule (ε : Type) := List (Exchange ε) → Call → Prop

/-- A program all calls of which abide by a rule, whatever is answered, with what holds
when it ends well of its result and the exchanges. -/
def Abides (rule : Rule ε) (post : α → List (Exchange ε) → Prop) :
    Program ε α → List (Exchange ε) → Prop
  | .done (.ok a), past => post a past
  | .done (.error _), _ => True
  | .call asked next, past =>
      rule past asked ∧ ∀ answer, Abides rule post (next answer) (past ++ [⟨asked, answer⟩])

variable {rule : Rule ε} {past : List (Exchange ε)}

/-- **Every call of every transcript of a program abides by its rule.** -/
theorem Abides.rule_of_transcript {p : Program ε α} {post : α → List (Exchange ε) → Prop}
    {earlier later : List (Exchange ε)} {x : Exchange ε} (h : p.Abides rule post past)
    (htranscript : p.Transcript (earlier ++ x :: later)) : rule (past ++ earlier) x.call := by
  induction earlier generalizing p past with
  | nil =>
      cases htranscript with
      | cons answer hlater => exact (List.append_nil past).symm ▸ h.1
  | cons y earlier ih =>
      cases htranscript with
      | cons answer hlater => simpa using ih (h.2 answer) hlater

lemma abides_pure {post : α → List (Exchange ε) → Prop} {a : α} (h : post a past) :
    Abides rule post (pure a) past := h

/-- What holds at the end may be weakened, and the exchanges so far remain. -/
lemma Abides.mono {p : Program ε α} {post post' : α → List (Exchange ε) → Prop}
    (h : p.Abides rule post past)
    (himp : ∀ a past', past <+: past' → post a past' → post' a past') :
    p.Abides rule post' past := by
  induction p generalizing past with
  | done r =>
      cases r with
      | ok a => exact himp a past (List.prefix_refl past) h
      | error e => exact h
  | call asked next ih =>
      refine ⟨h.1, fun answer => ih answer (h.2 answer) fun a past' hpast => ?_⟩
      exact himp a past' ((List.prefix_append past _).trans hpast)

lemma Abides.bind {p : Program ε α} {f : α → Program ε β}
    {post : β → List (Exchange ε) → Prop}
    (h : p.Abides rule (fun a past' => (f a).Abides rule post past') past) :
    (p >>= f).Abides rule post past := by
  induction p generalizing past with
  | done r =>
      cases r with
      | ok a => exact h
      | error e => exact h
  | call asked next ih => exact ⟨h.1, fun answer => ih answer (h.2 answer)⟩

/-- A call, and what is done with its answer unless it fails. -/
lemma abides_request_bind {asked : Call} {f : asked.Answer → Program ε α}
    {post : α → List (Exchange ε) → Prop} (hrule : rule past asked)
    (hnext : ∀ a, (f a).Abides rule post (past ++ [⟨asked, .ok a⟩])) :
    (request asked >>= f).Abides rule post past := by
  refine ⟨hrule, fun answer => ?_⟩
  cases answer with
  | ok a => exact hnext a
  | error e => trivial

/-- A call that may fail, and what is done with its answer. -/
lemma abides_attempt_bind {asked : Call} {f : Except ε asked.Answer → Program ε α}
    {post : α → List (Exchange ε) → Prop} (hrule : rule past asked)
    (hnext : ∀ answer, (f answer).Abides rule post (past ++ [⟨asked, answer⟩])) :
    (attempt asked >>= f).Abides rule post past :=
  ⟨hrule, hnext⟩

lemma abides_request {asked : Call} (hrule : rule past asked) :
    (request asked).Abides rule (fun _ _ => True) past := by
  refine ⟨hrule, fun answer => ?_⟩
  cases answer <;> trivial

/-- The items of a list are gone through, with more and more exchanges behind each. -/
lemma abides_forM {act : γ → Program ε Unit} {items : List γ}
    (h : ∀ x ∈ items, ∀ past', past <+: past' → (act x).Abides rule (fun _ _ => True) past') :
    (items.forM act).Abides rule (fun _ _ => True) past := by
  induction items generalizing past with
  | nil => exact abides_pure trivial
  | cons x rest ih =>
      refine Abides.bind ((h x List.mem_cons_self past (List.prefix_refl past)).mono ?_)
      intro _ past' hpast _
      exact ih fun y hy past'' hpast' =>
        h y (List.mem_cons_of_mem x hy) past'' (hpast.trans hpast')

/-- The same for each item of a list, with results. -/
lemma abides_mapM {act : γ → Program ε α} {items : List γ}
    (h : ∀ x ∈ items, ∀ past', past <+: past' → (act x).Abides rule (fun _ _ => True) past') :
    (items.mapM act).Abides rule (fun _ _ => True) past := by
  induction items generalizing past with
  | nil => exact abides_pure trivial
  | cons x rest ih =>
      rw [List.mapM_cons]
      refine Abides.bind ((h x List.mem_cons_self past (List.prefix_refl past)).mono ?_)
      intro a past' hpast _
      refine Abides.bind ((ih fun y hy past'' hpast' => ?_).mono fun as _ _ _ => ?_)
      · exact h y (List.mem_cons_of_mem x hy) past'' (hpast.trans hpast')
      · exact abides_pure trivial

end Program

/-! ### Deferred answers -/

namespace Deferred

/-- Calls with their answers, from the beginning of a look-up up to some moment; an answer
that is there needs none. -/
def Transcript : Deferred ε α → List (Exchange ε) → Prop
  | .ready _, xs => xs = []
  | .lookup p _, xs => p.Transcript xs

/-- All calls of the look-up, if there is one, abide by a rule. -/
def Abides (rule : Program.Rule ε) : Deferred ε α → Prop
  | .ready _ => True
  | .lookup p _ => p.Abides rule (fun _ _ => True) []

variable {rule : Program.Rule ε}

lemma Abides.map {d : Deferred ε α} (h : d.Abides rule) (f : α → β) : (d.map f).Abides rule := by
  cases d <;> exact h

/-- Every call of every transcript of a look-up abides by its rule. -/
lemma Abides.rule_of_transcript {d : Deferred ε α} {earlier later : List (Exchange ε)}
    {x : Exchange ε} (h : d.Abides rule) (htranscript : d.Transcript (earlier ++ x :: later)) :
    rule earlier x.call := by
  cases d with
  | ready a => exact absurd htranscript (by simp [Transcript])
  | lookup p answer => exact Program.Abides.rule_of_transcript h htranscript

end Deferred

end SidecarPolicy
