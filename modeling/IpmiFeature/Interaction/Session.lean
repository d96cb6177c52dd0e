import IpmiFeature.Interaction.Logic
import Mathlib.Algebra.GroupWithZero.Nat

/-!
# Sessions with a component

`p.Runs tr a` says that the program `p` may make the calls of `tr`, get the answers that stand
there, and return `a`.  A *component* has states `σ` and is entered again and again: entry `e` runs
a program that gives a result and the next state.  A `Session` is a finite sequence of visits.

* `Prog.Satisfies.of_runs`, `Prog.Runs.of_exec` : the runs of the program logic, and those against
  a handler.
* `Session.count` : what each visit adds to a count, the session adds to it.
* `Session.forall_state_iff` : a property that a visit keeps exactly under a condition is kept by a
  session exactly if every visit meets the condition.
-/

namespace Interaction

variable {C : Type} {R : C → Type} {α β σ τ : Type}

namespace Prog

/-- The runs of a program: the calls it makes with the answers they get, and what it returns. -/
inductive Runs : Prog C R α → List (Event C R) → α → Prop
  /-- The run of a program that returns. -/
  | ret (a : α) : Runs (ret a) [] a
  /-- The runs of a program that makes a call. -/
  | call {c : C} {k : R c → Prog C R α} {r : R c} {tr : List (Event C R)} {a : α} :
      Runs (k r) tr a → Runs (call c k) (⟨c, r⟩ :: tr) a

/-- What every run satisfies. -/
theorem Satisfies.of_runs {E : Prop} {p : Prog C R α} {Q : List (Event C R) → α → Prop}
    (hp : p.Satisfies E Q) {tr : List (Event C R)} {a : α} (hrun : p.Runs tr a) : Q tr a := by
  induction hrun generalizing Q with
  | ret a => exact hp
  | call _ ih => exact ih (hp _)

/-- The run against a handler is one of the runs. -/
theorem Runs.of_exec {h : Handler C R τ} {p : Prog C R α} {s s' : τ} {a : α}
    {tr : List (Event C R)} (hrun : p.exec h s = some (a, tr, s')) : p.Runs tr a := by
  induction p generalizing s tr with
  | ret b =>
    simp only [exec_ret, Option.some.injEq, Prod.mk.injEq] at hrun
    obtain ⟨rfl, rfl, rfl⟩ := hrun
    exact .ret b
  | outOfFuel => simp at hrun
  | call c k ih =>
    obtain ⟨tr', rfl, hrun'⟩ := exec_call_eq_some.1 hrun
    exact .call (ih _ hrun')

end Prog

/-! ### Sessions -/

/-- One visit to a component. -/
structure Visit (E C : Type) (R : C → Type) (ρ σ : Type) where
  /-- How the component was entered. -/
  entry : E
  /-- The calls it made and the answers they got. -/
  trace : List (Event C R)
  /-- What it returned. -/
  result : ρ
  /-- The state it was left in. -/
  state : σ

variable {E ρ : Type} {enter : E → σ → Prog C R (ρ × σ)}

/-- A session: the visits that lead from one state of the component to another. -/
inductive Session (enter : E → σ → Prog C R (ρ × σ)) : σ → List (Visit E C R ρ σ) → σ → Prop
  /-- Nothing happens. -/
  | nil (s : σ) : Session enter s [] s
  /-- A visit, and a session from the state it has left. -/
  | cons {s s'' : σ} {v : Visit E C R ρ σ} {vs : List (Visit E C R ρ σ)} :
      (enter v.entry s).Runs v.trace (v.result, v.state) → Session enter v.state vs s'' →
        Session enter s (v :: vs) s''

variable {s s' : σ} {visits : List (Visit E C R ρ σ)}

/-- If a visit takes the count from `n` to `n + g`, a session takes it to `n` and the sum of all
`g`. -/
theorem Session.count {I : ℕ → σ → Prop} {g : Visit E C R ρ σ → ℕ}
    (hvisit : ∀ n s (v : Visit E C R ρ σ), I n s →
      (enter v.entry s).Runs v.trace (v.result, v.state) → I (n + g v) v.state)
    (h : Session enter s visits s') {n : ℕ} (hs : I n s) : I (n + (visits.map g).sum) s' := by
  induction h generalizing n with
  | nil s => exact hs
  | cons hrun _ ih =>
    rw [List.map_cons, List.sum_cons, ← Nat.add_assoc]
    exact ih (hvisit _ _ _ hs hrun)

/-- If from a state with `I` a visit leads to a state with `I` exactly under the condition `P`, then
a session passes through states with `I` only exactly if all its visits meet the condition. -/
theorem Session.forall_state_iff {I : σ → Prop} {P : Visit E C R ρ σ → Prop}
    (hvisit : ∀ s (v : Visit E C R ρ σ), I s →
      (enter v.entry s).Runs v.trace (v.result, v.state) → (I v.state ↔ P v))
    (h : Session enter s visits s') (hs : I s) :
    (∀ v ∈ visits, I v.state) ↔ ∀ v ∈ visits, P v := by
  induction h with
  | nil s => simp
  | cons hrun _ ih =>
    simp only [List.forall_mem_cons]
    have hiff := hvisit _ _ hs hrun
    constructor
    · rintro ⟨hI, hrest⟩
      exact ⟨hiff.1 hI, (ih hI).1 hrest⟩
    · rintro ⟨hP, hrest⟩
      have hI := hiff.2 hP
      exact ⟨hI, (ih hI).2 hrest⟩

end Interaction
