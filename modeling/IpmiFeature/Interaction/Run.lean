import IpmiFeature.Interaction.Prog

/-!
# Runs against a handler

`p.Ends h s Q` says that the program `p`, run against the handler `h` from its state `s`, returns,
and that its result and the last state of the handler satisfy `Q`: total correctness of the
program together with one environment.

* `Prog.ends_iff_exec`, `Prog.Ends.of_exec` : what it means for `Prog.exec`.
* `Prog.ends_bind`, `Prog.ends_map`, `Prog.Ends.mono` : the structural rules.
* `Prog.invariant_of_exec` : an invariant of the environment.
* `Prog.ends_loop` : the loop rule, with an invariant over the two states and a variant;
  `Prog.ends_loop_once` is the case of a loop that is left in its first iteration.
* `Handler.halting` : an environment that may halt, and then answers nothing of its own any more.
* `Handler.recording` : an environment that also keeps the trace; `Prog.ends_recording` says what a
  program ends with there.
-/

namespace Interaction

namespace Prog

variable {C : Type} {R : C → Type} {α β σ τ : Type} {h : Handler C R τ}

/-- Run against `h` from state `s` the program returns, and the result and the last state satisfy
`Q`. -/
def Ends (h : Handler C R τ) : Prog C R α → τ → (α → τ → Prop) → Prop
  | ret a, s, Q => Q a s
  | outOfFuel, _, _ => False
  | call c k, s, Q => (k (h c s).1).Ends h (h c s).2 Q

@[simp] theorem ends_ret {a : α} {s : τ} {Q : α → τ → Prop} :
    (ret a : Prog C R α).Ends h s Q ↔ Q a s := Iff.rfl

@[simp] theorem ends_call {c : C} {k : R c → Prog C R α} {s : τ} {Q : α → τ → Prop} :
    (call c k).Ends h s Q ↔ (k (h c s).1).Ends h (h c s).2 Q := Iff.rfl

/-- A program that ends is one that has a run. -/
theorem ends_iff_exec {p : Prog C R α} {s : τ} {Q : α → τ → Prop} :
    p.Ends h s Q ↔ ∃ a tr s', p.exec h s = some (a, tr, s') ∧ Q a s' := by
  induction p generalizing s with
  | ret a => simp
  | outOfFuel => simp [Ends]
  | call c k ih =>
    rw [ends_call, ih]
    constructor
    · rintro ⟨a, tr, s', hrun, hQ⟩
      exact ⟨a, _, s', exec_call_eq_some.2 ⟨tr, rfl, hrun⟩, hQ⟩
    · rintro ⟨a, tr, s', hrun, hQ⟩
      obtain ⟨tr', -, hrun'⟩ := exec_call_eq_some.1 hrun
      exact ⟨a, tr', s', hrun', hQ⟩

/-- What a program ends with, its run ends with. -/
theorem Ends.of_exec {p : Prog C R α} {s s' : τ} {Q : α → τ → Prop} (hp : p.Ends h s Q) {a : α}
    {tr : List (Event C R)} (hrun : p.exec h s = some (a, tr, s')) : Q a s' := by
  obtain ⟨a', tr', s'', hrun', hQ⟩ := ends_iff_exec.1 hp
  rw [hrun] at hrun'
  simp only [Option.some.injEq, Prod.mk.injEq] at hrun'
  obtain ⟨rfl, rfl, rfl⟩ := hrun'
  exact hQ

theorem Ends.mono {p : Prog C R α} {s : τ} {Q Q' : α → τ → Prop} (hp : p.Ends h s Q)
    (hQ : ∀ a s', Q a s' → Q' a s') : p.Ends h s Q' := by
  induction p generalizing s with
  | ret a => exact hQ _ _ hp
  | outOfFuel => exact hp
  | call c k ih => exact ih _ hp

theorem Ends.congr {p : Prog C R α} {s : τ} {Q Q' Q'' : α → τ → Prop} (hp : p.Ends h s Q)
    (hQ : ∀ a s', Q a s' → (Q' a s' ↔ Q'' a s')) : p.Ends h s Q' ↔ p.Ends h s Q'' := by
  induction p generalizing s with
  | ret a => exact hQ _ _ hp
  | outOfFuel => exact hp.elim
  | call c k ih => exact ih _ hp

/-- What is equivalent to `P` in the state in which the program ends is so before it. -/
theorem Ends.iff {p : Prog C R α} {s : τ} {Q Q' : α → τ → Prop} {P : Prop} (hp : p.Ends h s Q)
    (hQ : ∀ a s', Q a s' → (Q' a s' ↔ P)) : p.Ends h s Q' ↔ P := by
  induction p generalizing s with
  | ret a => exact hQ _ _ hp
  | outOfFuel => exact hp.elim
  | call c k ih => exact ih _ hp

theorem ends_bind {p : Prog C R α} {f : α → Prog C R β} {s : τ} {Q : β → τ → Prop} :
    (p >>= f).Ends h s Q ↔ p.Ends h s fun a s' => (f a).Ends h s' Q := by
  induction p generalizing s with
  | ret a => rfl
  | outOfFuel => rfl
  | call c k ih => exact ih _

theorem ends_perform_bind {c : C} {f : R c → Prog C R β} {s : τ} {Q : β → τ → Prop} :
    (perform c >>= f).Ends h s Q ↔ (f (h c s).1).Ends h (h c s).2 Q := Iff.rfl

theorem ends_map {p : Prog C R α} {f : α → β} {s : τ} {Q : β → τ → Prop} :
    (f <$> p).Ends h s Q ↔ p.Ends h s fun a s' => Q (f a) s' := ends_bind

/-- What every call keeps, a run keeps. -/
theorem invariant_of_exec {I : τ → Prop} (hI : ∀ c s, I s → I (h c s).2) {p : Prog C R α} {s s' : τ}
    {a : α} {tr : List (Event C R)} (hrun : p.exec h s = some (a, tr, s')) (hs : I s) : I s' := by
  induction p generalizing s tr with
  | ret b =>
    simp only [exec_ret, Option.some.injEq, Prod.mk.injEq] at hrun
    obtain ⟨-, -, rfl⟩ := hrun
    exact hs
  | outOfFuel => simp at hrun
  | call c k ih =>
    obtain ⟨tr', -, hrun'⟩ := exec_call_eq_some.1 hrun
    exact ih _ hrun' (hI c s hs)

/-- The loop rule: one iteration either keeps the invariant `I`, which speaks of the state of the
loop and of the handler, and makes the variant `v` smaller, or establishes `Q`; and there is more
fuel than the variant says. -/
theorem ends_loop {body : σ → Prog C R (Iter σ β)} {I : σ → τ → Prop} {Q : β → τ → Prop}
    (v : σ → τ → ℕ)
    (hstep : ∀ x s, I x s → (body x).Ends h s fun i s' =>
      match i with
      | .again x' => I x' s' ∧ v x' s' < v x s
      | .done b => Q b s') :
    ∀ (n : ℕ) (x : σ) (s : τ), I x s → v x s < n → (loop body n x).Ends h s Q := by
  intro n
  induction n with
  | zero => intro x s _ hv; exact absurd hv (Nat.not_lt_zero _)
  | succ n ih =>
    intro x s hI hv
    refine ends_bind.2 ((hstep x s hI).mono fun i s' hi => ?_)
    cases i with
    | again x' => exact ih x' s' hi.1 (by have := hi.2; omega)
    | done b => exact hi

/-- A loop whose first iteration is the last one. -/
theorem ends_loop_once {body : σ → Prog C R (Iter σ β)} {Q : β → τ → Prop} {n : ℕ} {x : σ} {s : τ}
    (hn : 0 < n) (hbody : (body x).Ends h s fun i s' => ∃ b, i = .done b ∧ Q b s') :
    (loop body n x).Ends h s Q := by
  obtain ⟨m, rfl⟩ := Nat.exists_eq_succ_of_ne_zero (Nat.pos_iff_ne_zero.1 hn)
  refine ends_bind.2 (hbody.mono ?_)
  rintro _ s' ⟨b, rfl, hQ⟩
  exact hQ

end Prog

variable {C : Type} {R : C → Type} {α τ : Type}

/-- An environment that halts where `h` has no answer; from then on its state is `none`, and the
calls are answered by `default`. -/
def Handler.halting (h : (c : C) → τ → Option (R c × τ)) (default : (c : C) → R c) :
    Handler C R (Option τ)
  | c, none => (default c, none)
  | c, some s =>
    match h c s with
    | some (r, s') => (r, some s')
    | none => (default c, none)

theorem Handler.halting_of_some {h : (c : C) → τ → Option (R c × τ)} {default : (c : C) → R c}
    {c : C} {s s' : τ} {r : R c} (hc : h c s = some (r, s')) :
    Handler.halting h default c (some s) = (r, some s') := by
  simp only [Handler.halting, hc]

/-- The environment that also keeps the trace. -/
def Handler.recording (h : Handler C R τ) : Handler C R (τ × List (Event C R)) :=
  fun c s => ((h c s.1).1, (h c s.1).2, s.2 ++ [⟨c, (h c s.1).1⟩])

theorem Handler.recording_eq {h : Handler C R τ} {c : C} {s s' : τ} {r : R c} (hc : h c s = (r, s'))
    {tr : List (Event C R)} : h.recording c (s, tr) = (r, (s', tr ++ [⟨c, r⟩])) := by
  rw [Handler.recording, hc]

theorem Prog.ends_recording {h : Handler C R τ} {p : Prog C R α} {s : τ} {tr : List (Event C R)}
    {Q : α → τ × List (Event C R) → Prop} :
    p.Ends h.recording (s, tr) Q ↔
      ∃ a tr' s', p.exec h s = some (a, tr', s') ∧ Q a (s', tr ++ tr') := by
  induction p generalizing s tr with
  | ret a => simp
  | outOfFuel => simp [Ends]
  | call c k ih =>
    refine (ih _).trans ?_
    simp only [List.append_assoc, List.singleton_append]
    constructor
    · rintro ⟨a, tr', s', hrun, hQ⟩
      exact ⟨a, _, s', exec_call_eq_some.2 ⟨tr', rfl, hrun⟩, hQ⟩
    · rintro ⟨a, _, s', hrun, hQ⟩
      obtain ⟨tr', rfl, hrun'⟩ := exec_call_eq_some.1 hrun
      exact ⟨a, tr', s', hrun', hQ⟩

end Interaction
