import IpmiFeature.Interaction.Logic
import IpmiFeature.Interaction.Run

/-!
# One program after the other

A program for each element of a list, `as.mapM f`, against an environment, or `as.foldlM f x` when
they hand on a state of their own.

* `Prog.ends_mapM_of_invariant` : an invariant of the environment.
* `Prog.ends_mapM_of_simulation` : programs that do what the steps of a state machine do, in an
  environment whose states stand for those of the machine; `Prog.ends_mapM_of_history` is the same
  for a history of what the programs have returned.
* `Prog.ends_mapM_atMostOnce` : programs that use up a request when they report it, and make no new
  one, report it at most once.
* `Prog.ends_foldlM_of_simulation`, `Prog.satisfies_foldlM_forall_event` : a simulation, and a
  property of all events, for programs that hand on a state.
* `Prog.AllSteps` : a property of each step of a run, and `Prog.allSteps_congr` under an invariant.
* `Prog.walk`, `Prog.ends_walk` : from one element to the next, by the key that each element gives
  of the next one.
-/

namespace Interaction

namespace Prog

variable {C : Type} {R : C → Type} {A α β σ τ : Type} {h : Handler C R τ} {f : A → Prog C R β}

/-- The rule for a list: the first program, then the others. -/
theorem ends_mapM_cons {a : A} {as : List A} {s : τ} {Q : List β → τ → Prop} :
    ((a :: as).mapM f).Ends h s Q ↔
      (f a).Ends h s fun b s' => (as.mapM f).Ends h s' fun bs s'' => Q (b :: bs) s'' := by
  rw [List.mapM_cons, ends_bind]
  simp only [ends_bind]
  rfl

/-- What each program keeps, the programs of a list keep. -/
theorem ends_mapM_of_invariant {I : τ → Prop}
    (hstep : ∀ a s, I s → (f a).Ends h s fun _ s' => I s') (as : List A) {s : τ} (hs : I s) :
    (as.mapM f).Ends h s fun _ s' => I s' := by
  induction as generalizing s with
  | nil => exact hs
  | cons a as ih =>
    rw [ends_mapM_cons]
    exact (hstep a s hs).mono fun _ _ hs' => ih hs'

/-- What holds of all events of each program holds of those of the programs of a list. -/
theorem satisfies_mapM_forall_event {E : Prop} {P : Event C R → Prop}
    (hstep : ∀ a, (f a).Satisfies E fun tr _ => ∀ event ∈ tr, P event) (as : List A) :
    (as.mapM f).Satisfies E fun tr _ => ∀ event ∈ tr, P event := by
  induction as with
  | nil => exact List.forall_mem_nil _
  | cons a as ih =>
    rw [List.mapM_cons]
    exact (hstep a).bind_forall_event fun b => ih.bind_forall_event fun bs => List.forall_mem_nil _

theorem run_mapM_cons (step : A → StateM σ β) (a : A) (as : List A) (x : σ) :
    (a :: as).mapM step x = ((step a x).1 :: (as.mapM step (step a x).2).1,
      (as.mapM step (step a x).2).2) := by
  rw [List.mapM_cons]
  rfl

/-- In a state that no step leaves, all steps return the same. -/
theorem run_mapM_of_fixed {step : A → StateM σ β} {x : σ} {b : β} (hfixed : ∀ a, step a x = (b, x))
    (as : List A) : as.mapM step x = (List.replicate as.length b, x) := by
  induction as with
  | nil => rfl
  | cons a as ih =>
    rw [run_mapM_cons, hfixed, ih]
    rfl

/-- If each program does what a step does, from any state that stands for the state of the machine,
the programs of a list do what the steps do. -/
theorem ends_mapM_of_simulation {step : A → StateM σ β} {Rel : τ → σ → Prop}
    (hstep : ∀ a s x, Rel s x → (f a).Ends h s fun b s' =>
      b = (step a x).1 ∧ Rel s' (step a x).2) (as : List A) {s : τ} {x : σ} (hs : Rel s x) :
    (as.mapM f).Ends h s fun bs s' =>
      bs = (as.mapM step x).1 ∧ Rel s' (as.mapM step x).2 := by
  induction as generalizing s x with
  | nil => exact ⟨rfl, hs⟩
  | cons a as ih =>
    rw [ends_mapM_cons, run_mapM_cons]
    refine (hstep a s x hs).mono ?_
    rintro b s' ⟨rfl, hs'⟩
    refine (ih hs').mono ?_
    rintro bs s'' ⟨rfl, hs''⟩
    exact ⟨rfl, hs''⟩

/-- A history variable: if each program takes the environment from a state that stands for `x` to
one that stands for `step x a b`, with what it returns, the programs of a list do so one after the
other. -/
theorem ends_mapM_of_history {step : σ → A × β → σ} {Rel : τ → σ → Prop}
    (hstep : ∀ a s x, Rel s x → (f a).Ends h s fun b s' => Rel s' (step x (a, b))) (as : List A)
    {s : τ} {x : σ} (hs : Rel s x) : (as.mapM f).Ends h s fun bs s' =>
      bs.length = as.length ∧ Rel s' ((as.zip bs).foldl step x) := by
  induction as generalizing s x with
  | nil => exact ⟨rfl, hs⟩
  | cons a as ih =>
    rw [ends_mapM_cons]
    refine (hstep a s x hs).mono fun b s' hs' => ?_
    refine (ih hs').mono fun bs s'' hbs => ?_
    exact ⟨congrArg Nat.succ hbs.1, hbs.2⟩

/-- If no program makes a request, and one that returns a `p` has found a request and used it up, at
most one of the programs of a list returns a `p`. -/
theorem ends_mapM_atMostOnce {Rel : τ → σ → Prop} {asks : σ → Prop} {p : β → Bool}
    (hstep : ∀ a s x, Rel s x → (f a).Ends h s fun b s' =>
      ∃ x', Rel s' x' ∧ (asks x' → asks x) ∧ (p b → asks x ∧ ¬ asks x'))
    (as : List A) {s : τ} {x : σ} (hs : Rel s x) :
    (as.mapM f).Ends h s fun bs _ => bs.countP p ≤ 1 ∧ (bs.countP p ≠ 0 → asks x) := by
  induction as generalizing s x with
  | nil => exact ⟨Nat.zero_le _, fun h => absurd rfl h⟩
  | cons a as ih =>
    rw [ends_mapM_cons]
    refine (hstep a s x hs).mono ?_
    rintro b s' ⟨x', hs', hold, hused⟩
    refine (ih hs').mono ?_
    rintro bs s'' ⟨honce, hasked⟩
    rw [List.countP_cons]
    by_cases hb : p b
    · -- the request is used up, so it is not reported again
      obtain ⟨hx, hx'⟩ := hused hb
      have hnone : bs.countP p = 0 := not_not.1 fun h => hx' (hasked h)
      rw [if_pos hb, hnone]
      exact ⟨Nat.le_refl 1, fun _ => hx⟩
    · rw [if_neg hb]
      exact ⟨honce, fun h => hold (hasked h)⟩

/-! ### Programs with a state of their own -/

variable {ρ : Type} {g : ρ → A → Prog C R ρ}

/-- If each program does what a step does, from any two states that stand for the state of the
machine, the programs of a list do what the steps do. -/
theorem ends_foldlM_of_simulation {step : σ → A → σ} {Rel : ρ → τ → σ → Prop}
    (hstep : ∀ a x s y, Rel x s y → (g x a).Ends h s fun x' s' => Rel x' s' (step y a))
    (as : List A) {x : ρ} {s : τ} {y : σ} (hs : Rel x s y) :
    (as.foldlM g x).Ends h s fun x' s' => Rel x' s' (as.foldl step y) := by
  induction as generalizing x s y with
  | nil => exact hs
  | cons a as ih =>
    rw [List.foldlM_cons, ends_bind]
    exact (hstep a x s y hs).mono fun _ _ hs' => ih hs'

/-- What holds of all events of each program holds of those of a list of them. -/
theorem satisfies_foldlM_forall_event {E : Prop} {P : Event C R → Prop}
    (hstep : ∀ x a, (g x a).Satisfies E fun tr _ => ∀ event ∈ tr, P event) (as : List A) (x : ρ) :
    (as.foldlM g x).Satisfies E fun tr _ => ∀ event ∈ tr, P event := by
  induction as generalizing x with
  | nil => exact List.forall_mem_nil _
  | cons a as ih =>
    rw [List.foldlM_cons]
    exact (hstep x a).bind_forall_event fun x' => ih x'

/-- The programs of a list end, and each of them is a step as `P` says, from the two states before
it to those after it. -/
def AllSteps (h : Handler C R τ) (g : ρ → A → Prog C R ρ) (P : A → ρ × τ → ρ × τ → Prop) :
    List A → ρ → τ → Prop
  | [], _, _ => True
  | a :: as, x, s => (g x a).Ends h s fun x' s' => P a (x, s) (x', s') ∧ AllSteps h g P as x' s'

/-- Steps that are alike as long as an invariant holds are alike in all of a run. -/
theorem allSteps_congr {I : τ → Prop} {P P' : A → ρ × τ → ρ × τ → Prop}
    (hstep : ∀ a x s, I s → (g x a).Ends h s fun x' s' =>
      I s' ∧ (P a (x, s) (x', s') ↔ P' a (x, s) (x', s')))
    (as : List A) {x : ρ} {s : τ} (hs : I s) : AllSteps h g P as x s ↔ AllSteps h g P' as x s := by
  induction as generalizing x s with
  | nil => rfl
  | cons a as ih => exact (hstep a x s hs).congr fun _ _ hx => and_congr hx.2 (ih hx.1)

/-! ### From one to the next -/

variable {ι ε : Type}

/-- The elements from a key on: `get` gives the element of a key and the key of the next one, until
that is `last`. -/
def walk [DecidableEq ι] (get : ι → Prog C R (Except ε (α × ι))) (last : ι) :
    ℕ → ι → Prog C R (Except ε (List α))
  | 0, _ => outOfFuel
  | fuel + 1, key => do
    match ← get key with
    | .error e => return .error e
    | .ok (a, next) =>
      if next = last then
        return .ok [a]
      else
        let rest ← walk get last fuel next
        return rest.map (a :: ·)

/-- The key behind the elements of a list. -/
def nextKey (last : ι) : List (ι × β) → ι
  | [] => last
  | b :: _ => b.1

/-- The walk finds the elements of a list with their keys, if each of them gives the key of its
successor in the list, and `last` is not a key. -/
theorem ends_walk [DecidableEq ι] {get : ι → Prog C R (Except ε (α × ι))} {last : ι}
    {shows : ι × β → α → Prop} {I : τ → Prop} {bs : List (ι × β)} (hlast : ∀ b ∈ bs, b.1 ≠ last)
    (hget : ∀ b rest s, b :: rest <:+ bs → I s → (get b.1).Ends h s fun x s' =>
      I s' ∧ ∃ a, x = .ok (a, nextKey last rest) ∧ shows b a) :
    ∀ (fuel : ℕ) (b : ι × β) (rest : List (ι × β)) (s : τ), b :: rest <:+ bs → rest.length < fuel →
      I s → (walk get last fuel b.1).Ends h s fun x s' =>
        I s' ∧ ∃ as, x = .ok as ∧ List.Forall₂ shows (b :: rest) as := by
  intro fuel
  induction fuel with
  | zero => exact fun b rest s _ hfuel => absurd hfuel (Nat.not_lt_zero _)
  | succ fuel ih =>
    intro b rest s hsuffix hfuel hs
    rw [walk, ends_bind]
    refine (hget b rest s hsuffix hs).mono ?_
    rintro _ s' ⟨hs', a, rfl, hshows⟩
    dsimp only
    cases rest with
    | nil =>
      rw [nextKey, if_pos rfl]
      exact ⟨hs', [a], rfl, .cons hshows .nil⟩
    | cons b' rest =>
      have hsuffix' : b' :: rest <:+ bs := (List.suffix_cons b _).trans hsuffix
      rw [nextKey, if_neg (hlast b' (hsuffix'.subset List.mem_cons_self)), ends_bind]
      refine (ih b' rest s' hsuffix' (Nat.lt_of_succ_lt_succ hfuel) hs').mono ?_
      rintro _ s'' ⟨hs'', as, rfl, has⟩
      exact ⟨hs'', a :: as, rfl, .cons hshows has⟩

end Prog

end Interaction
