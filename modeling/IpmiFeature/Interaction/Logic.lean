import IpmiFeature.Interaction.Prog

/-!
# A program logic over traces

`p.Satisfies E Q` says that every run of `p`, whatever its calls are answered, ends with a trace
and a result that satisfy `Q`, or uses up its fuel; the latter only if `E` holds.  With
`E := True` this is partial correctness, with `E := False` it is total correctness.

* `Prog.satisfies_bind`, `Prog.satisfies_embed`, `Prog.Satisfies.mono` : the structural rules.
* `Prog.satisfies_loop_of_variant` : the loop rule, with an invariant over the state and the trace
  so far and a variant; `Prog.satisfies_loop` is the case of partial correctness,
  `Prog.satisfies_loop_total` that of total correctness.
* `Prog.Satisfies.of_exec`, `Prog.Satisfies.exists_exec` : what the logic says about the runs
  against a handler; `Prog.forall_event_of_exec` says what the handler says about their events.
-/

namespace Interaction

namespace Prog

variable {C : Type} {R : C → Type} {α β σ τ : Type}

/-- Every run of the program ends with a trace and a result that satisfy `Q`; it may use up its
fuel only if `E` holds. -/
def Satisfies (E : Prop) : Prog C R α → (List (Event C R) → α → Prop) → Prop
  | ret a, Q => Q [] a
  | outOfFuel, _ => E
  | call c k, Q => ∀ r, (k r).Satisfies E fun tr a => Q (⟨c, r⟩ :: tr) a

variable {E : Prop} {p : Prog C R α}

@[simp] theorem satisfies_ret {a : α} {Q : List (Event C R) → α → Prop} :
    (ret a : Prog C R α).Satisfies E Q ↔ Q [] a := Iff.rfl

/-- A property of all traces and results holds of every run. -/
theorem satisfies_of_forall {Q : List (Event C R) → α → Prop} (h : ∀ tr a, Q tr a) :
    p.Satisfies True Q := by
  induction p generalizing Q with
  | ret a => exact h _ _
  | outOfFuel => trivial
  | call c k ih => exact fun r => ih r fun tr a => h _ _

theorem Satisfies.mono {Q Q' : List (Event C R) → α → Prop} (h : p.Satisfies E Q)
    (hQ : ∀ tr a, Q tr a → Q' tr a) : p.Satisfies E Q' := by
  induction p generalizing Q Q' with
  | ret a => exact hQ _ _ h
  | outOfFuel => exact h
  | call c k ih => exact fun r => ih r (h r) fun tr a => hQ _ _

/-- Total correctness is the strongest. -/
theorem Satisfies.of_total {Q : List (Event C R) → α → Prop} (h : p.Satisfies False Q) :
    p.Satisfies E Q := by
  induction p generalizing Q with
  | ret a => exact h
  | outOfFuel => exact h.elim
  | call c k ih => exact fun r => ih r (h r)

/-- A further property that holds of every run. -/
theorem Satisfies.and {Q Q' : List (Event C R) → α → Prop} (h : p.Satisfies E Q)
    (h' : p.Satisfies True Q') : p.Satisfies E fun tr a => Q tr a ∧ Q' tr a := by
  induction p generalizing Q Q' with
  | ret a => exact ⟨h, h'⟩
  | outOfFuel => exact h
  | call c k ih => exact fun r => ih r (h r) (h' r)

theorem satisfies_bind {f : α → Prog C R β} {Q : List (Event C R) → β → Prop} :
    (p >>= f).Satisfies E Q ↔
      p.Satisfies E fun tr a => (f a).Satisfies E fun tr' b => Q (tr ++ tr') b := by
  induction p generalizing Q with
  | ret a => rfl
  | outOfFuel => rfl
  | call c k ih => exact forall_congr' fun r => ih r

theorem satisfies_perform_bind {c : C} {f : R c → Prog C R β} {Q : List (Event C R) → β → Prop} :
    (perform c >>= f).Satisfies E Q ↔
      ∀ r, (f r).Satisfies E fun tr b => Q (⟨c, r⟩ :: tr) b := Iff.rfl

/-- What holds of all events of two programs holds of those of the first followed by the second. -/
theorem Satisfies.bind_forall_event {f : α → Prog C R β} {P : Event C R → Prop}
    (hp : p.Satisfies E fun tr _ => ∀ event ∈ tr, P event)
    (hf : ∀ a, (f a).Satisfies E fun tr _ => ∀ event ∈ tr, P event) :
    (p >>= f).Satisfies E fun tr _ => ∀ event ∈ tr, P event := by
  rw [satisfies_bind]
  refine hp.mono fun tr a htr => (hf a).mono fun tr' _ htr' => ?_
  exact List.forall_mem_append.2 ⟨htr, htr'⟩

/-- The calls of an embedded program, as calls of the interface. -/
theorem satisfies_embed {C' : Type} {R' : C' → Type} {f : C → C'}
    {p : Prog C (fun c => R' (f c)) α} {Q : List (Event C' R') → α → Prop} :
    (p.embed f).Satisfies E Q ↔
      p.Satisfies E fun tr a => Q (tr.map fun event => ⟨f event.1, event.2⟩) a := by
  induction p generalizing Q with
  | ret a => rfl
  | outOfFuel => rfl
  | call c k ih => exact forall_congr' fun r => ih r

/-- The first iteration of a loop. -/
theorem satisfies_loop_succ {body : σ → Prog C R (Iter σ β)} {Q : List (Event C R) → β → Prop}
    {n : ℕ} {s : σ} (h : (body s).Satisfies E fun tr i =>
      match i with
      | .again s' => (loop body n s').Satisfies E fun tr' b => Q (tr ++ tr') b
      | .done b => Q tr b) : (loop body (n + 1) s).Satisfies E Q := by
  refine satisfies_bind.2 (h.mono fun tr i hi => ?_)
  cases i with
  | again s' => exact hi
  | done b =>
    rw [satisfies_ret, List.append_nil]
    exact hi

/-- The loop rule: one iteration either keeps the invariant `I`, which speaks of the state and of
the trace so far, or establishes `Q`.  Unless `E` holds, every further iteration makes the variant
`v` smaller and there is more fuel than the variant says. -/
theorem satisfies_loop_of_variant {body : σ → Prog C R (Iter σ β)}
    {I : List (Event C R) → σ → Prop} {Q : List (Event C R) → β → Prop} (v : σ → ℕ)
    (hstep : ∀ tr s, I tr s → (body s).Satisfies E fun tr' i =>
      match i with
      | .again s' => I (tr ++ tr') s' ∧ (E ∨ v s' < v s)
      | .done b => Q (tr ++ tr') b) :
    ∀ (n : ℕ) (tr : List (Event C R)) (s : σ), I tr s → (E ∨ v s < n) →
      (loop body n s).Satisfies E fun tr' b => Q (tr ++ tr') b := by
  intro n
  induction n with
  | zero => intro tr s _ hv; exact hv.resolve_right (Nat.not_lt_zero _)
  | succ n ih =>
    intro tr s hI hv
    refine satisfies_loop_succ ((hstep tr s hI).mono fun tr' i hi => ?_)
    cases i with
    | again s' =>
      have hv' : E ∨ v s' < n := by
        rcases hv with hE | hv
        · exact .inl hE
        · exact hi.2.imp_right fun h => by omega
      -- the trace of this iteration becomes part of the trace so far
      refine (ih _ s' hi.1 hv').mono fun tr'' b hb => ?_
      rwa [← List.append_assoc]
    | done b => exact hi

/-- The loop rule for partial correctness. -/
theorem satisfies_loop {body : σ → Prog C R (Iter σ β)} {I : List (Event C R) → σ → Prop}
    {Q : List (Event C R) → β → Prop}
    (hstep : ∀ tr s, I tr s → (body s).Satisfies True fun tr' i =>
      match i with
      | .again s' => I (tr ++ tr') s'
      | .done b => Q (tr ++ tr') b)
    (n : ℕ) {s : σ} (hI : I [] s) : (loop body n s).Satisfies True Q := by
  refine satisfies_loop_of_variant (I := I) (Q := Q) (fun _ => 0) (fun tr s h => ?_) n [] s hI
    (.inl trivial)
  refine (hstep tr s h).mono fun tr' i hi => ?_
  cases i with
  | again s' => exact ⟨hi, .inl trivial⟩
  | done b => exact hi

/-- The loop rule for total correctness: every further iteration makes the variant smaller, and
there is more fuel than it says. -/
theorem satisfies_loop_total {body : σ → Prog C R (Iter σ β)} {I : List (Event C R) → σ → Prop}
    {Q : List (Event C R) → β → Prop} (v : σ → ℕ)
    (hstep : ∀ tr s, I tr s → (body s).Satisfies False fun tr' i =>
      match i with
      | .again s' => I (tr ++ tr') s' ∧ v s' < v s
      | .done b => Q (tr ++ tr') b)
    {n : ℕ} {s : σ} (hI : I [] s) (hv : v s < n) : (loop body n s).Satisfies False Q := by
  refine satisfies_loop_of_variant (I := I) (Q := Q) v (fun tr s h => ?_) n [] s hI (.inr hv)
  refine (hstep tr s h).mono fun tr' i hi => ?_
  cases i with
  | again s' => exact ⟨hi.1, .inr hi.2⟩
  | done b => exact hi

/-- What every run satisfies, the run against a handler satisfies. -/
theorem Satisfies.of_exec {Q : List (Event C R) → α → Prop} (hp : p.Satisfies E Q)
    {h : Handler C R τ} {s s' : τ} {a : α} {tr : List (Event C R)}
    (hrun : p.exec h s = some (a, tr, s')) : Q tr a := by
  induction p generalizing s tr Q with
  | ret a =>
    simp only [exec_ret, Option.some.injEq, Prod.mk.injEq] at hrun
    obtain ⟨rfl, rfl, rfl⟩ := hrun
    exact hp
  | outOfFuel => simp at hrun
  | call c k ih =>
    obtain ⟨tr', rfl, hrun'⟩ := exec_call_eq_some.1 hrun
    exact ih _ (hp _) hrun'

/-- What a handler makes of every call, it makes of every event of a run. -/
theorem forall_event_of_exec {P : Event C R → Prop} {h : Handler C R τ}
    (hP : ∀ c s, P ⟨c, (h c s).1⟩) {s s' : τ} {a : α} {tr : List (Event C R)}
    (hrun : p.exec h s = some (a, tr, s')) : ∀ event ∈ tr, P event := by
  induction p generalizing s tr with
  | ret b =>
    simp only [exec_ret, Option.some.injEq, Prod.mk.injEq] at hrun
    obtain ⟨-, rfl, -⟩ := hrun
    exact nofun
  | outOfFuel => simp at hrun
  | call c k ih =>
    obtain ⟨tr', rfl, hrun'⟩ := exec_call_eq_some.1 hrun
    exact List.forall_mem_cons.2 ⟨hP c s, ih _ hrun'⟩

/-- A totally correct program returns, against every handler. -/
theorem Satisfies.exists_exec {Q : List (Event C R) → α → Prop} (hp : p.Satisfies False Q)
    (h : Handler C R τ) (s : τ) : ∃ a tr s', p.exec h s = some (a, tr, s') ∧ Q tr a := by
  induction p generalizing s Q with
  | ret a => exact ⟨a, [], s, rfl, hp⟩
  | outOfFuel => exact hp.elim
  | call c k ih =>
    obtain ⟨a, tr, s', hrun, hQ⟩ := ih _ (hp (h c s).1) (h c s).2
    exact ⟨a, _, s', exec_call_eq_some.2 ⟨tr, rfl, hrun⟩, hQ⟩

end Prog

end Interaction
