import IpmiFeature.Interaction.Run
import IpmiFeature.Interaction.Session

/-!
# Layers

A program over one interface, on an implementation of that interface over another one.  The
interface has an abstract meaning too: an environment `ideal` that answers a call where it has an
answer.  What a program does there, it does on the implementation, if each call does.

* `Handler.Answers`, `Prog.answers_of_exec` : the trace of a run, as events of the environment.
* `Prog.exec_of_simulation`, `Prog.Ends.transfer` : the run of a program against an environment, as
  one against another environment that answers the calls the program makes in the same way.
* `Prog.Completes` : the program ends in an environment that may have no answer to a call, and has
  got all its answers; `Prog.completes_iff_ends` says what this means for `Handler.halting`.
* `Prog.confined` : such an environment with only some of its answers.
* `Prog.traced` : the program that also returns its trace; its runs are those of the program
  (`Prog.runs_traced`).
* `Prog.above`, `Prog.Completes.above` : the program with each call implemented, and the refinement
  rule, with a relation between the two environments.
* `Prog.through`, `Prog.Completes.through` : the same for an implementation with a state of its own.
-/

namespace Interaction

/-- The events of the trace are answers of the environment, which goes from the first state to the
second. -/
def Handler.Answers {C σ : Type} {R : C → Type} (h : Handler C R σ) :
    σ → List (Event C R) → σ → Prop
  | s, [], s' => s' = s
  | s, event :: tr, s' => (h event.1 s).1 = event.2 ∧ h.Answers (h event.1 s).2 tr s'

namespace Prog

variable {C D : Type} {R : C → Type} {S : D → Type} {α σ τ ρ : Type}

/-- The trace of a run. -/
theorem answers_of_exec {h : Handler C R σ} {p : Prog C R α} {s s' : σ} {a : α}
    {tr : List (Event C R)} (hrun : p.exec h s = some (a, tr, s')) : h.Answers s tr s' := by
  induction p generalizing s tr with
  | ret b =>
    simp only [exec_ret, Option.some.injEq, Prod.mk.injEq] at hrun
    obtain ⟨-, rfl, rfl⟩ := hrun
    rfl
  | outOfFuel => simp at hrun
  | call c k ih =>
    obtain ⟨tr', rfl, hrun'⟩ := exec_call_eq_some.1 hrun
    exact ⟨rfl, ih _ hrun'⟩

/-! ### From one environment to another -/

/-- If the environments give the same answers to the events that satisfy `P`, a run of such events
against the first is one against the second. -/
theorem exec_of_simulation {h : Handler C R σ} {h' : Handler C R τ} {P : Event C R → Prop}
    {Rel : σ → τ → Prop}
    (hstep : ∀ c s t, P ⟨c, (h c s).1⟩ → Rel s t →
      (h' c t).1 = (h c s).1 ∧ Rel (h c s).2 (h' c t).2)
    {p : Prog C R α} {s s' : σ} {t : τ} {a : α} {tr : List (Event C R)}
    (hrun : p.exec h s = some (a, tr, s')) (htr : ∀ event ∈ tr, P event) (hs : Rel s t) :
    ∃ t', p.exec h' t = some (a, tr, t') ∧ Rel s' t' := by
  induction p generalizing s t tr with
  | ret b =>
    simp only [exec_ret, Option.some.injEq, Prod.mk.injEq] at hrun
    obtain ⟨rfl, rfl, rfl⟩ := hrun
    exact ⟨t, rfl, hs⟩
  | outOfFuel => simp at hrun
  | call c k ih =>
    obtain ⟨tr', rfl, hrun'⟩ := exec_call_eq_some.1 hrun
    obtain ⟨hevent, htr'⟩ := List.forall_mem_cons.1 htr
    obtain ⟨hanswer, hs'⟩ := hstep c s t hevent hs
    obtain ⟨t', hexec, hrel⟩ := ih _ hrun' htr' hs'
    refine ⟨t', ?_, hrel⟩
    rw [← hanswer] at hexec ⊢
    exact exec_call_eq_some.2 ⟨tr', rfl, hexec⟩

theorem Ends.transfer {h : Handler C R σ} {h' : Handler C R τ} {P : Event C R → Prop}
    (Rel : σ → τ → Prop)
    (hstep : ∀ c s t, P ⟨c, (h c s).1⟩ → Rel s t →
      (h' c t).1 = (h c s).1 ∧ Rel (h c s).2 (h' c t).2)
    {p : Prog C R α} {s : σ} {t : τ} {Q : α → σ → Prop} (hp : p.Ends h s Q)
    (hcalls : p.Satisfies True fun tr _ => ∀ event ∈ tr, P event) (hs : Rel s t) :
    p.Ends h' t fun a t' => ∃ s', Q a s' ∧ Rel s' t' := by
  obtain ⟨a, tr, s', hrun, hQ⟩ := ends_iff_exec.1 hp
  obtain ⟨t', hrun', hs'⟩ := exec_of_simulation hstep hrun (hcalls.of_exec hrun) hs
  exact ends_iff_exec.2 ⟨a, tr, t', hrun', s', hQ, hs'⟩

theorem Ends.and {h : Handler C R σ} {p : Prog C R α} {s : σ} {Q Q' : α → σ → Prop}
    (hp : p.Ends h s Q) (hp' : p.Ends h s Q') : p.Ends h s fun a s' => Q a s' ∧ Q' a s' := by
  obtain ⟨a, tr, s', hrun, hQ⟩ := ends_iff_exec.1 hp
  exact ends_iff_exec.2 ⟨a, tr, s', hrun, hQ, hp'.of_exec hrun⟩

/-- What a program ends with against an environment, together with what every run satisfies. -/
theorem Ends.and_satisfies {E : Prop} {h : Handler C R σ} {p : Prog C R α} {s : σ} {Q : α → σ → Prop}
    {Q' : List (Event C R) → α → Prop} (hp : p.Ends h s Q) (hp' : p.Satisfies E Q') :
    p.Ends h s fun a s' => Q a s' ∧ ∃ tr, Q' tr a := by
  obtain ⟨a, tr, s', hrun, hQ⟩ := ends_iff_exec.1 hp
  exact ends_iff_exec.2 ⟨a, tr, s', hrun, hQ, tr, hp'.of_exec hrun⟩

/-! ### Environments that may have no answer -/

variable {ideal : (c : C) → σ → Option (R c × σ)}

/-- Run against `ideal` from state `s`, each call of the program has an answer, and the program ends
with `Q`. -/
def Completes (ideal : (c : C) → σ → Option (R c × σ)) :
    Prog C R α → σ → (α → σ → Prop) → Prop
  | ret a, s, Q => Q a s
  | outOfFuel, _, _ => False
  | call c k, s, Q => ∃ r s', ideal c s = some (r, s') ∧ (k r).Completes ideal s' Q

@[simp] theorem completes_ret {a : α} {s : σ} {Q : α → σ → Prop} :
    (ret a : Prog C R α).Completes ideal s Q ↔ Q a s := Iff.rfl

theorem completes_bind {β : Type} {p : Prog C R α} {f : α → Prog C R β} {s : σ} {Q : β → σ → Prop} :
    (p >>= f).Completes ideal s Q ↔
      p.Completes ideal s fun a s' => (f a).Completes ideal s' Q := by
  induction p generalizing s with
  | ret a => rfl
  | outOfFuel => rfl
  | call c k ih => exact exists_congr fun r => exists_congr fun s' => and_congr_right fun _ => ih r

theorem Completes.mono {p : Prog C R α} {s : σ} {Q Q' : α → σ → Prop} (hp : p.Completes ideal s Q)
    (hQ : ∀ a s', Q a s' → Q' a s') : p.Completes ideal s Q' := by
  induction p generalizing s with
  | ret a => exact hQ _ _ hp
  | outOfFuel => exact hp
  | call c k ih =>
    obtain ⟨r, s', hcall, hk⟩ := hp
    exact ⟨r, s', hcall, ih r hk⟩

/-- The result of the program and the state it leaves. -/
theorem Completes.exists_eq {p : Prog C R α} {s : σ} {Q : α → σ → Prop} (hp : p.Completes ideal s Q) :
    ∃ a s', Q a s' ∧ p.Completes ideal s fun b t => b = a ∧ t = s' := by
  induction p generalizing s with
  | ret a => exact ⟨a, s, hp, rfl, rfl⟩
  | outOfFuel => exact hp.elim
  | call c k ih =>
    obtain ⟨r, s', hcall, hk⟩ := hp
    obtain ⟨a, s'', hQ, hk'⟩ := ih r hk
    exact ⟨a, s'', hQ, r, s', hcall, hk'⟩

/-- A program completes in an environment that has at least the same answers. -/
theorem Completes.of_le {ideal' : (c : C) → σ → Option (R c × σ)}
    (hle : ∀ c s x, ideal c s = some x → ideal' c s = some x) {p : Prog C R α} {s : σ}
    {Q : α → σ → Prop} (hp : p.Completes ideal s Q) : p.Completes ideal' s Q := by
  induction p generalizing s with
  | ret a => exact hp
  | outOfFuel => exact hp
  | call c k ih =>
    obtain ⟨r, s', hcall, hk⟩ := hp
    exact ⟨r, s', hle c s _ hcall, ih r hk⟩

/-- What every run satisfies, the run against `ideal` does. -/
theorem Completes.exists_of_satisfies {E : Prop} {p : Prog C R α} {s : σ} {Q : α → σ → Prop}
    {Q' : List (Event C R) → α → Prop} (hp : p.Completes ideal s Q) (hp' : p.Satisfies E Q') :
    ∃ tr a, Q' tr a := by
  induction p generalizing s Q' with
  | ret a => exact ⟨[], a, hp'⟩
  | outOfFuel => exact hp.elim
  | call c k ih =>
    obtain ⟨r, s', -, hk⟩ := hp
    obtain ⟨tr, a, hQ'⟩ := ih r hk (hp' r)
    exact ⟨_, a, hQ'⟩

theorem completes_perform_bind {c : C} {f : R c → Prog C R α} {s : σ} {Q : α → σ → Prop} :
    (perform c >>= f).Completes ideal s Q ↔
      ∃ r s', ideal c s = some (r, s') ∧ (f r).Completes ideal s' Q := Iff.rfl

/-- A loop whose first iteration is the last one. -/
theorem completes_loop_once {body : ρ → Prog C R (Iter ρ α)} {Q : α → σ → Prop} {n : ℕ} {x : ρ}
    {s : σ} (hn : 0 < n) (hbody : (body x).Completes ideal s fun i s' => ∃ a, i = .done a ∧ Q a s') :
    (loop body n x).Completes ideal s Q := by
  obtain ⟨m, rfl⟩ := Nat.exists_eq_succ_of_ne_zero (Nat.pos_iff_ne_zero.1 hn)
  refine completes_bind.2 (hbody.mono ?_)
  rintro _ s' ⟨a, rfl, hQ⟩
  exact hQ

/-- A program for each element of a list. -/
theorem completes_mapM {A : Type} {f : A → Prog C R α} {I : σ → Prop}
    (hf : ∀ a s, I s → (f a).Completes ideal s fun _ s' => I s') (as : List A) {s : σ} (hs : I s) :
    (as.mapM f).Completes ideal s fun _ s' => I s' := by
  induction as generalizing s with
  | nil => exact hs
  | cons a as ih =>
    rw [List.mapM_cons]
    refine completes_bind.2 ((hf a s hs).mono fun b s' hs' => ?_)
    exact completes_bind.2 ((ih hs').mono fun _ _ h => h)

/-- The same for a part of the state that each program makes something of. -/
theorem completes_mapM_foldl {A β : Type} (part : σ → β) (g : β → A × α → β) {f : A → Prog C R α}
    {as : List A}
    (hf : ∀ a ∈ as, ∀ s, (f a).Completes ideal s fun r s' => part s' = g (part s) (a, r)) {s : σ} :
    (as.mapM f).Completes ideal s fun rs s' =>
      rs.length = as.length ∧ part s' = (as.zip rs).foldl g (part s) := by
  induction as generalizing s with
  | nil => exact ⟨rfl, rfl⟩
  | cons a as ih =>
    obtain ⟨ha, has⟩ := List.forall_mem_cons.1 hf
    rw [List.mapM_cons]
    refine completes_bind.2 ((ha s).mono fun r s' hr => ?_)
    refine completes_bind.2 ((ih has).mono ?_)
    rintro rs s'' ⟨hlength, hpart⟩
    refine ⟨congrArg Nat.succ hlength, ?_⟩
    rw [hpart, hr]
    rfl

theorem completes_foldlM {A : Type} {f : α → A → Prog C R α} {I : σ → Prop}
    (hf : ∀ b a s, I s → (f b a).Completes ideal s fun _ s' => I s') (as : List A) (b : α) {s : σ}
    (hs : I s) : (as.foldlM f b).Completes ideal s fun _ s' => I s' := by
  induction as generalizing b s with
  | nil => exact hs
  | cons a as ih =>
    rw [List.foldlM_cons]
    exact completes_bind.2 ((hf b a s hs).mono fun b' s' hs' => ih b' hs')

/-- An embedded program, in an environment of the whole interface. -/
theorem completes_embed {C' : Type} {R' : C' → Type} {f : C → C'}
    {ideal : (c : C') → σ → Option (R' c × σ)} {p : Prog C (fun c => R' (f c)) α} {s : σ}
    {Q : α → σ → Prop} :
    (p.embed f).Completes ideal s Q ↔ p.Completes (fun c => ideal (f c)) s Q := by
  induction p generalizing s with
  | ret a => rfl
  | outOfFuel => rfl
  | call c k ih => exact exists_congr fun r => exists_congr fun s' => and_congr_right fun _ => ih r

/-- The program in an environment that answers as the first one does, in a state of its own. -/
theorem Completes.transfer {ideal' : (c : C) → τ → Option (R c × τ)} (Rel : σ → τ → Prop)
    (hstep : ∀ c s t r s', Rel s t → ideal c s = some (r, s') →
      ∃ t', ideal' c t = some (r, t') ∧ Rel s' t')
    {p : Prog C R α} {s : σ} {t : τ} {Q : α → σ → Prop} (hp : p.Completes ideal s Q)
    (hs : Rel s t) : p.Completes ideal' t fun a t' => ∃ s', Q a s' ∧ Rel s' t' := by
  induction p generalizing s t with
  | ret a => exact ⟨s, hp, hs⟩
  | outOfFuel => exact hp.elim
  | call c k ih =>
    obtain ⟨r, s', hcall, hk⟩ := hp
    obtain ⟨t', hcall', ht'⟩ := hstep c s t r s' hs hcall
    exact ⟨r, t', hcall', ih r hk ht'⟩

/-- The answers of `ideal` that satisfy `P`, and no others. -/
def confined (P : (c : C) → R c → Bool) (ideal : (c : C) → σ → Option (R c × σ)) (c : C) (s : σ) :
    Option (R c × σ) :=
  (ideal c s).filter fun x => P c x.1

theorem confined_eq_some {P : (c : C) → R c → Bool} {c : C} {s : σ} {x : R c × σ} :
    confined P ideal c s = some x ↔ ideal c s = some x ∧ P c x.1 :=
  Option.filter_eq_some_iff

/-- An environment that has halted stays so. -/
theorem not_ends_halted {default : (c : C) → R c} {p : Prog C R α} {Q : α → σ → Prop} :
    ¬ p.Ends (.halting ideal default) none fun a x => ∃ s', x = some s' ∧ Q a s' := by
  induction p with
  | ret a => exact fun ⟨_, hnone, _⟩ => absurd hnone (by simp)
  | outOfFuel => exact id
  | call c k ih => exact ih _

/-- A program completes if and only if it ends before the environment has halted. -/
theorem completes_iff_ends (default : (c : C) → R c) {p : Prog C R α} {s : σ} {Q : α → σ → Prop} :
    p.Completes ideal s Q ↔
      p.Ends (.halting ideal default) (some s) fun a x => ∃ s', x = some s' ∧ Q a s' := by
  induction p generalizing s with
  | ret a => simp
  | outOfFuel => rfl
  | call c k ih =>
    rw [ends_call]
    cases hcall : ideal c s with
    | none =>
      simp only [Completes, Handler.halting, hcall]
      refine iff_of_false ?_ not_ends_halted
      rintro ⟨_, _, hnone, -⟩
      exact absurd hnone (by simp)
    | some x =>
      rw [Handler.halting_of_some hcall, ← ih]
      constructor
      · rintro ⟨r, s', hsome, hk⟩
        rw [hcall, Option.some.injEq] at hsome
        rwa [hsome]
      · exact fun hk => ⟨x.1, x.2, hcall, hk⟩

/-! ### The trace -/

/-- The program that also returns its trace. -/
def traced : Prog C R α → Prog C R (α × List (Event C R))
  | ret a => ret (a, [])
  | outOfFuel => outOfFuel
  | call c k => call c fun r => (fun x => (x.1, ⟨c, r⟩ :: x.2)) <$> traced (k r)

theorem Satisfies.traced {E : Prop} {p : Prog C R α} {Q : List (Event C R) → α → Prop}
    (hp : p.Satisfies E Q) : p.traced.Satisfies E fun tr x => Q tr x.1 := by
  induction p generalizing Q with
  | ret a => exact hp
  | outOfFuel => exact hp
  | call c k ih =>
    intro r
    refine satisfies_bind.2 ((ih r (hp r)).mono fun tr x hx => ?_)
    change Q (⟨c, r⟩ :: (tr ++ [])) x.1
    rw [List.append_nil]
    exact hx

theorem Completes.traced {p : Prog C R α} {s : σ} {Q : α → σ → Prop} (hp : p.Completes ideal s Q) :
    p.traced.Completes ideal s fun x s' => Q x.1 s' := by
  induction p generalizing s with
  | ret a => exact hp
  | outOfFuel => exact hp
  | call c k ih =>
    obtain ⟨r, s', hcall, hk⟩ := hp
    exact ⟨r, s', hcall, completes_bind.2 (ih r hk)⟩

/-- The traces that it returns are those of runs of the program. -/
theorem runs_traced (p : Prog C R α) :
    p.traced.Satisfies True fun _ x => p.Runs x.2 x.1 := by
  induction p with
  | ret a => exact .ret a
  | outOfFuel => trivial
  | call c k ih =>
    intro r
    refine satisfies_bind.2 ((ih r).mono fun tr x hx => ?_)
    exact .call hx

/-! ### Implementing the calls -/

/-- The program, each of whose calls is implemented by a program over another interface. -/
def above (impl : (c : C) → Prog D S (R c)) : Prog C R α → Prog D S α
  | ret a => ret a
  | outOfFuel => outOfFuel
  | call c k => impl c >>= fun r => above impl (k r)

/-- The program over an implementation that keeps a state of its own. -/
def through (impl : (c : C) → ρ → Prog D S (R c × ρ)) : Prog C R α → ρ → Prog D S (α × ρ)
  | ret a, x => ret (a, x)
  | outOfFuel, _ => outOfFuel
  | call c k, x => impl c x >>= fun r => through impl (k r.1) r.2

theorem above_map {β : Type} (impl : (c : C) → Prog D S (R c)) (f : α → β) (p : Prog C R α) :
    (f <$> p).above impl = f <$> p.above impl := by
  induction p with
  | ret a => rfl
  | outOfFuel => rfl
  | call c k ih =>
    change impl c >>= (fun r => (f <$> k r).above impl) = f <$> (impl c >>= fun r => (k r).above impl)
    rw [map_bind]
    exact bind_congr ih

/-- Two implementations whose calls are the same, up to what their states stand for. -/
theorem through_map {ρ' : Type} {impl : (c : C) → ρ → Prog D S (R c × ρ)}
    {impl' : (c : C) → ρ' → Prog D S (R c × ρ')} {f : ρ → ρ'}
    (himpl : ∀ c x, impl' c (f x) = (fun r => (r.1, f r.2)) <$> impl c x) (p : Prog C R α) (x : ρ) :
    p.through impl' (f x) = (fun r => (r.1, f r.2)) <$> p.through impl x := by
  induction p generalizing x with
  | ret a => rfl
  | outOfFuel => rfl
  | call c k ih =>
    simp only [through, himpl, map_bind, bind_map_left]
    exact bind_congr fun r => ih r.1 r.2

/-- A program over a part of the interface. -/
theorem through_embed {C' : Type} {R' : C' → Type} {f : C → C'}
    {impl : (c : C') → ρ → Prog D S (R' c × ρ)} (p : Prog C (fun c => R' (f c)) α) (x : ρ) :
    (p.embed f).through impl x = p.through (fun c => impl (f c)) x := by
  induction p generalizing x with
  | ret a => rfl
  | outOfFuel => rfl
  | call c k ih => exact bind_congr fun r => ih r.1 r.2

/-- What the program returns, however its calls are implemented. -/
theorem satisfies_above {E : Prop} {p : Prog C R α} {Q : α → Prop}
    (hp : p.Satisfies E fun _ a => Q a) (impl : (c : C) → Prog D S (R c)) :
    (p.above impl).Satisfies True fun _ a => Q a := by
  induction p with
  | ret a => exact hp
  | outOfFuel => trivial
  | call c k ih => exact satisfies_bind.2 (satisfies_of_forall fun _ r => ih r (hp r))

/-- What the implementation of each call makes of the state it keeps and of its own calls, a program
over it does. -/
theorem satisfies_through {impl : (c : C) → ρ → Prog D S (R c × ρ)} {I : ρ → Prop}
    {P : Event D S → Prop}
    (himpl : ∀ c x, I x → (impl c x).Satisfies True fun tr r => (∀ event ∈ tr, P event) ∧ I r.2)
    (p : Prog C R α) {x : ρ} (hx : I x) :
    (p.through impl x).Satisfies True fun tr a => (∀ event ∈ tr, P event) ∧ I a.2 := by
  induction p generalizing x with
  | ret a => exact ⟨fun _ hevent => absurd hevent List.not_mem_nil, hx⟩
  | outOfFuel => trivial
  | call c k ih =>
    refine satisfies_bind.2 ((himpl c x hx).mono fun tr r ⟨htr, hr⟩ => ?_)
    exact (ih _ hr).mono fun tr' a ⟨htr', ha⟩ => ⟨List.forall_mem_append.2 ⟨htr, htr'⟩, ha⟩

variable {h : Handler D S τ}

/-- **Refinement.**  If the implementation of each call ends with the answer of the ideal environment
and in a related state, a program that completes in the ideal environment ends over the
implementation with the same result, and in a related state.  `P` is what is known of the calls of
the program. -/
theorem Completes.above {impl : (c : C) → Prog D S (R c)} {P : Event C R → Prop} {Rel : σ → τ → Prop}
    (himpl : ∀ c s t r s', P ⟨c, r⟩ → Rel s t → ideal c s = some (r, s') →
      (impl c).Ends h t fun r' t' => r' = r ∧ Rel s' t')
    {p : Prog C R α} {s : σ} {t : τ} {Q : α → σ → Prop} (hp : p.Completes ideal s Q)
    (hcalls : p.Satisfies True fun tr _ => ∀ event ∈ tr, P event) (hs : Rel s t) :
    (p.above impl).Ends h t fun a t' => ∃ s', Q a s' ∧ Rel s' t' := by
  induction p generalizing s t with
  | ret a => exact ⟨s, hp, hs⟩
  | outOfFuel => exact hp.elim
  | call c k ih =>
    obtain ⟨r, s', hcall, hk⟩ := hp
    have hevents := hcalls r
    obtain ⟨tr, a, hall⟩ := hk.exists_of_satisfies hevents
    refine ends_bind.2 ((himpl c s t r s' (hall _ List.mem_cons_self) hs hcall).mono ?_)
    rintro _ t' ⟨rfl, ht'⟩
    exact ih _ hk (hevents.mono fun tr _ htr => (List.forall_mem_cons.1 htr).2) ht'

/-- The refinement rule for an implementation with a state. -/
theorem Completes.through {impl : (c : C) → ρ → Prog D S (R c × ρ)} (Rel : σ → ρ → τ → Prop)
    (himpl : ∀ c s x t r s', Rel s x t → ideal c s = some (r, s') →
      (impl c x).Ends h t fun r' t' => r'.1 = r ∧ Rel s' r'.2 t')
    {p : Prog C R α} {s : σ} {x : ρ} {t : τ} {Q : α → σ → Prop} (hp : p.Completes ideal s Q)
    (hs : Rel s x t) :
    (p.through impl x).Ends h t fun a t' => ∃ s', Q a.1 s' ∧ Rel s' a.2 t' := by
  induction p generalizing s x t with
  | ret a => exact ⟨s, hp, hs⟩
  | outOfFuel => exact hp.elim
  | call c k ih =>
    obtain ⟨r, s', hcall, hk⟩ := hp
    refine ends_bind.2 ((himpl c s x t r s' hs hcall).mono ?_)
    rintro ⟨_, x'⟩ t' ⟨rfl, ht'⟩
    exact ih _ hk ht'

end Prog

end Interaction
