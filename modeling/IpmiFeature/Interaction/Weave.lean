import IpmiFeature.Interaction.Run

/-!
# A program among others

`Prog.weave others p` runs `others 0` before the first call of `p`, `others 1` before the second
one, and so on, and one more of them before `p` returns.  With lists of single calls for the others,
these are all the ways in which other programs can take turns with `p`; whatever holds for all
`others` holds for every interleaving.

* `Prog.ends_weave_ret`, `Prog.ends_weave_call` : the rules for a turn.
-/

namespace Interaction

namespace Prog

variable {C : Type} {R : C → Type} {α γ τ : Type} {h : Handler C R τ} {others : ℕ → Prog C R γ}

/-- The program with others between its calls, from the `i`-th of them on, and what the others have
returned. -/
def weave (others : ℕ → Prog C R γ) : Prog C R α → ℕ → Prog C R (α × List γ)
  | ret a, i => do
    let b ← others i
    return (a, [b])
  | outOfFuel, _ => outOfFuel
  | call c k, i => do
    let b ← others i
    let r ← perform c
    let (a, bs) ← weave others (k r) (i + 1)
    return (a, b :: bs)

theorem ends_weave_ret {a : α} {i : ℕ} {s : τ} {Q : α × List γ → τ → Prop} :
    (weave others (ret a) i).Ends h s Q ↔ (others i).Ends h s fun b s' => Q (a, [b]) s' := ends_map

/-- The others take their turn, then the program makes its call. -/
theorem ends_weave_call {c : C} {k : R c → Prog C R α} {i : ℕ} {s : τ}
    {Q : α × List γ → τ → Prop} : (weave others (call c k) i).Ends h s Q ↔
      (others i).Ends h s fun b s' => (weave others (k (h c s').1) (i + 1)).Ends h (h c s').2
        fun x s'' => Q (x.1, b :: x.2) s'' := by
  rw [weave, ends_bind]
  refine iff_of_eq (congrArg ((others i).Ends h s) (funext fun b => funext fun s' => propext ?_))
  exact ends_map

end Prog

end Interaction
