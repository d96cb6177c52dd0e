import Mathlib.Data.Nat.Notation
import Mathlib.Tactic.Common

/-!
# Interactive programs

Code that talks to a device or to a library it does not control is modelled by its *calls*: an
interface is a type `C` of calls, and call `c` is answered by a value of type `R c`.  A program
`Prog C R α` is a tree that either returns a value or makes a call and goes on with the answer;
nothing is assumed about the answers.

## Main definitions

* `Prog` : programs over an interface, a monad.
* `Prog.loop` : a loop with a bounded number of iterations.  A loop that uses up its fuel ends in
  `Prog.outOfFuel`, which has no result, so "the program returns" is a statement about the fuel.
  `Prog.loop_map` says when a loop is another one in other terms.
* `Handler` : an environment, that is a state machine answering the calls.
* `Prog.embed` : a program over a part of an interface, as a program over the interface.
* `Prog.exec` : the run of a program against a handler, with the trace of its calls and answers;
  `Prog.exec_bind` is the run of two programs, one after the other, and `Prog.exec_loop_congr` says
  when two loops have the same run.
-/

namespace Interaction

/-- Programs that make calls `c : C`, answered by values of type `R c`, and return an `α`. -/
inductive Prog (C : Type) (R : C → Type) (α : Type) where
  /-- Return `a`. -/
  | ret (a : α)
  /-- A loop has used up its fuel: there is no result. -/
  | outOfFuel
  /-- Make the call `c` and go on with the answer. -/
  | call (c : C) (k : R c → Prog C R α)

/-- A call and the answer it got. -/
abbrev Event (C : Type) (R : C → Type) := Σ c : C, R c

/-- What one iteration of a loop says: go on in state `s`, or leave the loop with `b`. -/
inductive Iter (σ β : Type) where
  /-- Go on with the next iteration. -/
  | again (s : σ)
  /-- Leave the loop. -/
  | done (b : β)

/-- What holds after an iteration: `I` if the loop goes on, `Q` if it is left. -/
def Iter.Holds {σ β : Type} (I : σ → Prop) (Q : β → Prop) : Iter σ β → Prop
  | again s => I s
  | done b => Q b

/-- The iteration of another loop. -/
def Iter.map {σ τ β γ : Type} (f : σ → τ) (g : β → γ) : Iter σ β → Iter τ γ
  | again s => .again (f s)
  | done b => .done (g b)

/-- Two iterations that go on in related states, or leave the loop with the same value. -/
inductive Iter.Related {σ β : Type} (r : σ → σ → Prop) : Iter σ β → Iter σ β → Prop
  | again {x y : σ} (h : r x y) : Related r (.again x) (.again y)
  | done (b : β) : Related r (.done b) (.done b)

/-- An environment with states `σ`: the answer to each call and the state after it. -/
abbrev Handler (C : Type) (R : C → Type) (σ : Type) := (c : C) → σ → R c × σ

namespace Prog

variable {C : Type} {R : C → Type} {α β γ σ τ : Type}

/-- Sequential composition. -/
def bind : Prog C R α → (α → Prog C R β) → Prog C R β
  | ret a, f => f a
  | outOfFuel, _ => outOfFuel
  | call c k, f => call c fun r => (k r).bind f

instance : Monad (Prog C R) where
  pure := ret
  bind := bind

/-- The program that makes the single call `c` and returns its answer. -/
def perform (c : C) : Prog C R (R c) := call c ret

@[simp] theorem pure_eq_ret (a : α) : (pure a : Prog C R α) = ret a := rfl

@[simp] theorem ret_bind (a : α) (f : α → Prog C R β) : ret a >>= f = f a := rfl

@[simp] theorem outOfFuel_bind (f : α → Prog C R β) :
    (outOfFuel : Prog C R α) >>= f = outOfFuel := rfl

@[simp] theorem call_bind (c : C) (k : R c → Prog C R α) (f : α → Prog C R β) :
    call c k >>= f = call c fun r => k r >>= f := rfl

theorem bind_ret (p : Prog C R α) : p >>= ret = p := by
  induction p with
  | ret a => rfl
  | outOfFuel => rfl
  | call c k ih => exact congrArg (call c) (funext ih)

theorem bind_bind (p : Prog C R α) (f : α → Prog C R β) (g : β → Prog C R γ) :
    p >>= f >>= g = p >>= fun a => f a >>= g := by
  induction p with
  | ret a => rfl
  | outOfFuel => rfl
  | call c k ih => exact congrArg (call c) (funext ih)

instance : LawfulMonad (Prog C R) := .mk' _ bind_ret (fun _ _ => rfl) bind_bind

/-- The loop that starts in state `s` and runs `body` until it says `done`, for at most as many
iterations as there is fuel. -/
def loop (body : σ → Prog C R (Iter σ β)) : ℕ → σ → Prog C R β
  | 0, _ => outOfFuel
  | n + 1, s => body s >>= fun
    | .again s' => loop body n s'
    | .done b => ret b

/-- Two loops whose iterations are the same, up to what their states and results stand for. -/
theorem loop_map {body : σ → Prog C R (Iter σ β)} {body' : τ → Prog C R (Iter τ γ)} {f : σ → τ}
    {g : β → γ} (hbody : ∀ s, body' (f s) = Iter.map f g <$> body s) (n : ℕ) (s : σ) :
    loop body' n (f s) = g <$> loop body n s := by
  induction n generalizing s with
  | zero => rfl
  | succ n ih =>
    simp only [loop, hbody, map_bind, bind_map_left]
    refine bind_congr fun i => ?_
    cases i with
    | again s' => exact ih s'
    | done b => rfl

/-- A program over the part `f` of an interface, as a program over the interface. -/
def embed {C' : Type} {R' : C' → Type} (f : C → C') :
    Prog C (fun c => R' (f c)) α → Prog C' R' α
  | ret a => ret a
  | outOfFuel => outOfFuel
  | call c k => call (f c) fun r => embed f (k r)

/-- The run of a program against a handler: the result, the trace of the calls, and the last
state of the environment; `none` when a loop uses up its fuel. -/
def exec (h : Handler C R σ) : Prog C R α → σ → Option (α × List (Event C R) × σ)
  | ret a, s => some (a, [], s)
  | outOfFuel, _ => none
  | call c k, s =>
    (exec h (k (h c s).1) (h c s).2).map fun x => (x.1, ⟨c, (h c s).1⟩ :: x.2.1, x.2.2)

@[simp] theorem exec_ret (h : Handler C R σ) (a : α) (s : σ) :
    exec h (ret a) s = some (a, [], s) := rfl

@[simp] theorem exec_outOfFuel (h : Handler C R σ) (s : σ) :
    exec h (outOfFuel : Prog C R α) s = none := rfl

theorem exec_call (h : Handler C R σ) (c : C) (k : R c → Prog C R α) (s : σ) :
    exec h (call c k) s =
      (exec h (k (h c s).1) (h c s).2).map fun x => (x.1, ⟨c, (h c s).1⟩ :: x.2.1, x.2.2) := rfl

theorem exec_call_eq_some {h : Handler C R σ} {c : C} {k : R c → Prog C R α} {s s' : σ} {a : α}
    {tr : List (Event C R)} :
    exec h (call c k) s = some (a, tr, s') ↔
      ∃ tr', tr = ⟨c, (h c s).1⟩ :: tr' ∧
        exec h (k (h c s).1) (h c s).2 = some (a, tr', s') := by
  rw [exec_call, Option.map_eq_some_iff]
  constructor
  · rintro ⟨⟨a', tr', t'⟩, hrun, heq⟩
    simp only [Prod.mk.injEq] at heq
    obtain ⟨rfl, rfl, rfl⟩ := heq
    exact ⟨tr', rfl, hrun⟩
  · rintro ⟨tr', rfl, hrun⟩
    exact ⟨(a, tr', s'), hrun, rfl⟩

/-- The run of two programs, one after the other, from the run of the first. -/
theorem exec_bind_eq {p : Prog C R α} {f : α → Prog C R β} {h : Handler C R σ} {s s' : σ} {a : α}
    {tr : List (Event C R)} (hp : exec h p s = some (a, tr, s')) :
    (p >>= f).exec h s = ((f a).exec h s').map fun x => (x.1, tr ++ x.2.1, x.2.2) := by
  induction p generalizing s tr with
  | ret a' =>
    simp only [exec_ret, Option.some.injEq, Prod.mk.injEq] at hp
    obtain ⟨rfl, rfl, rfl⟩ := hp
    exact (Option.map_id_apply).symm
  | outOfFuel => simp at hp
  | call c k ih =>
    obtain ⟨tr₁, rfl, hrun⟩ := exec_call_eq_some.1 hp
    rw [call_bind, exec_call, ih _ hrun, Option.map_map]
    rfl

/-- The run of two programs, one after the other. -/
theorem exec_bind {p : Prog C R α} {f : α → Prog C R β} {h : Handler C R σ} {s s' s'' : σ} {a : α}
    {b : β} {tr tr' : List (Event C R)} (hp : exec h p s = some (a, tr, s'))
    (hf : exec h (f a) s' = some (b, tr', s'')) :
    (p >>= f).exec h s = some (b, tr ++ tr', s'') := by
  rw [exec_bind_eq hp, hf]
  rfl

theorem exec_bind_eq_none {p : Prog C R α} {f : α → Prog C R β} {h : Handler C R σ} {s : σ}
    (hp : exec h p s = none) : (p >>= f).exec h s = none := by
  induction p generalizing s with
  | ret a => simp at hp
  | outOfFuel => rfl
  | call c k ih =>
    rw [exec_call, Option.map_eq_none_iff] at hp
    rw [call_bind, exec_call, ih _ hp]
    rfl

/-- Two programs with the same run have the same run before a third. -/
theorem exec_bind_congr {p q : Prog C R α} {f : α → Prog C R β} {h : Handler C R σ} {s : σ}
    (hpq : exec h p s = exec h q s) : exec h (p >>= f) s = exec h (q >>= f) s := by
  cases hp : exec h p s with
  | none => rw [exec_bind_eq_none hp, exec_bind_eq_none (hpq.symm.trans hp)]
  | some x => rw [exec_bind_eq hp, exec_bind_eq (hpq.symm.trans hp)]

/-- Two runs of a loop from related states agree, if related iterations do: they make the same calls
and either leave the loop with the same value or go on in related states. -/
theorem exec_loop_congr {body body' : τ → Prog C R (Iter τ β)} {h : Handler C R σ}
    {r : σ → τ → τ → Prop}
    (hstep : ∀ s x y, r s x y → ∃ i j tr s', exec h (body x) s = some (i, tr, s') ∧
      exec h (body' y) s = some (j, tr, s') ∧ Iter.Related (r s') i j) :
    ∀ (n : ℕ) (s : σ) (x y : τ), r s x y → exec h (loop body n x) s = exec h (loop body' n y) s := by
  intro n
  induction n with
  | zero => exact fun _ _ _ _ => rfl
  | succ n ih =>
    intro s x y hxy
    obtain ⟨i, j, tr, s', hx, hy, hij⟩ := hstep s x y hxy
    rw [loop, loop, exec_bind_eq hx, exec_bind_eq hy]
    cases hij with
    | again hxy' => rw [ih _ _ _ hxy']
    | done b => rfl

end Prog

end Interaction
