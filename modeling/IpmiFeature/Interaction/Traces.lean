import IpmiFeature.Interaction.Prog

/-!
# Finished and unfinished runs

`p.Traces Q` says that every run of `p`, whatever its calls are answered, satisfies `Q`: with the
trace and the result, or, when the fuel is used up, with the trace so far and no result.  A loop
that is never left has an unfinished run for each amount of fuel, and these are the prefixes of an
infinite one; so what is shown for every amount of fuel holds of infinite runs, too.

* `Prog.traces_bind`, `Prog.Traces.mono` : the structural rules.
* `Prog.traces_loop` : the loop rule, with an invariant over the state and the trace so far.
* `Prog.Traces.of_exec` : what it means for the runs against a handler.
-/

namespace Interaction

namespace Prog

variable {C : Type} {R : C → Type} {α β σ τ : Type}

/-- Every run of the program, finished or not, satisfies `Q`. -/
def Traces : Prog C R α → (List (Event C R) → Option α → Prop) → Prop
  | ret a, Q => Q [] (some a)
  | outOfFuel, Q => Q [] none
  | call c k, Q => ∀ r, (k r).Traces fun tr x => Q (⟨c, r⟩ :: tr) x

variable {p : Prog C R α}

theorem Traces.mono {Q Q' : List (Event C R) → Option α → Prop} (h : p.Traces Q)
    (hQ : ∀ tr x, Q tr x → Q' tr x) : p.Traces Q' := by
  induction p generalizing Q Q' with
  | ret a => exact hQ _ _ h
  | outOfFuel => exact hQ _ _ h
  | call c k ih => exact fun r => ih r (h r) fun tr x => hQ _ _

theorem traces_bind {f : α → Prog C R β} {Q : List (Event C R) → Option β → Prop} :
    (p >>= f).Traces Q ↔ p.Traces fun tr x =>
      match x with
      | some a => (f a).Traces fun tr' y => Q (tr ++ tr') y
      | none => Q tr none := by
  induction p generalizing Q with
  | ret a => rfl
  | outOfFuel => rfl
  | call c k ih => exact forall_congr' fun r => ih r

theorem traces_perform_bind {c : C} {f : R c → Prog C R β}
    {Q : List (Event C R) → Option β → Prop} :
    (perform c >>= f).Traces Q ↔ ∀ r, (f r).Traces fun tr x => Q (⟨c, r⟩ :: tr) x := Iff.rfl

/-- The loop rule: one iteration either keeps the invariant `I`, which speaks of the state and of
the trace so far, or establishes `Q`; and the invariant is enough for a run that goes on. -/
theorem traces_loop {body : σ → Prog C R (Iter σ β)} {I : ℕ → List (Event C R) → σ → Prop}
    {Q : List (Event C R) → Option β → Prop}
    (hstep : ∀ n tr s, I (n + 1) tr s → (body s).Traces fun tr' x =>
      match x with
      | some (.again s') => I n (tr ++ tr') s'
      | some (.done b) => Q (tr ++ tr') (some b)
      | none => Q (tr ++ tr') none)
    (hfuel : ∀ tr s, I 0 tr s → Q tr none) :
    ∀ (n : ℕ) (tr : List (Event C R)) (s : σ), I n tr s →
      (loop body n s).Traces fun tr' x => Q (tr ++ tr') x := by
  intro n
  induction n with
  | zero =>
    intro tr s hI
    change Q (tr ++ []) none
    rw [List.append_nil]
    exact hfuel tr s hI
  | succ n ih =>
    intro tr s hI
    refine traces_bind.2 ((hstep n tr s hI).mono fun tr' x hx => ?_)
    rcases x with _ | s' | b
    · exact hx
    · -- the trace of this iteration becomes part of the trace so far
      refine (ih _ s' hx).mono fun tr'' y hy => ?_
      rwa [← List.append_assoc]
    · change Q (tr ++ (tr' ++ [])) (some b)
      rw [List.append_nil]
      exact hx

/-- What holds of every run holds of a finished one against a handler. -/
theorem Traces.of_exec {Q : List (Event C R) → Option α → Prop} (hp : p.Traces Q)
    {h : Handler C R τ} {s s' : τ} {a : α} {tr : List (Event C R)}
    (hrun : p.exec h s = some (a, tr, s')) : Q tr (some a) := by
  induction p generalizing s tr Q with
  | ret a =>
    simp only [exec_ret, Option.some.injEq, Prod.mk.injEq] at hrun
    obtain ⟨rfl, rfl, rfl⟩ := hrun
    exact hp
  | outOfFuel => simp at hrun
  | call c k ih =>
    obtain ⟨tr', rfl, hrun'⟩ := exec_call_eq_some.1 hrun
    exact ih _ (hp _) hrun'

end Prog

end Interaction
