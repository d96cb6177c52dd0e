import IpmiFeature.Interaction.Logic

/-!
# Bounds on the number of calls

`p.MakesAtMost counted n Q` says that the program `p` returns, whatever its calls are answered,
after at most `n` calls of the counted kind, with a result that satisfies `Q`.

* `Prog.MakesAtMost.mono`, `Prog.MakesAtMost.bind` : the structural rules; the bounds add up.
* `Prog.makesAtMost_loop_of_potential` : the loop rule, with an invariant, a variant and a potential
  that pays for the calls; `Prog.makesAtMost_loop` is the case where each iteration has the same
  bound, `Prog.makesAtMost_loop_upTo` that of a loop over a count.
* `Prog.MakesAtMost.exists_exec`, `Prog.MakesAtMost.exists_exec_bind` : the run against a handler.
-/

namespace Interaction

variable {C : Type} {R : C → Type} {α β σ τ : Type}

/-- The number of counted calls in a trace. -/
def calls (counted : C → Bool) (tr : List (Event C R)) : ℕ := tr.countP fun event => counted event.1

@[simp] theorem calls_nil (counted : C → Bool) : calls counted ([] : List (Event C R)) = 0 := rfl

@[simp] theorem calls_append (counted : C → Bool) (tr tr' : List (Event C R)) :
    calls counted (tr ++ tr') = calls counted tr + calls counted tr' := List.countP_append

theorem calls_cons_le (counted : C → Bool) (event : Event C R) (tr : List (Event C R)) :
    calls counted (event :: tr) ≤ calls counted tr + 1 := by
  unfold calls
  rw [List.countP_cons]
  split_ifs
  · exact Nat.le_refl _
  · exact Nat.le_succ _

theorem calls_cons_of_not {counted : C → Bool} {event : Event C R} (h : counted event.1 = false)
    (tr : List (Event C R)) : calls counted (event :: tr) = calls counted tr :=
  List.countP_cons_of_neg (by rw [h]; exact Bool.false_ne_true)

namespace Prog

variable {counted : C → Bool} {p : Prog C R α} {m n : ℕ} {P : α → Prop} {Q : β → Prop}

/-- The program returns after at most `n` counted calls, with a result that satisfies `P`. -/
def MakesAtMost (counted : C → Bool) (p : Prog C R α) (n : ℕ) (P : α → Prop) : Prop :=
  p.Satisfies False fun tr a => calls counted tr ≤ n ∧ P a

theorem makesAtMost_ret {a : α} (ha : P a) : (ret a : Prog C R α).MakesAtMost counted n P :=
  ⟨Nat.zero_le n, ha⟩

theorem makesAtMost_call {c : C} {k : R c → Prog C R α}
    (hk : ∀ r, (k r).MakesAtMost counted n P) : (call c k).MakesAtMost counted (n + 1) P :=
  fun r => (hk r).mono fun tr _ h =>
    ⟨Nat.le_trans (calls_cons_le counted ⟨c, r⟩ tr) (Nat.succ_le_succ h.1), h.2⟩

theorem makesAtMost_call_of_not {c : C} {k : R c → Prog C R α} (hc : counted c = false)
    (hk : ∀ r, (k r).MakesAtMost counted n P) : (call c k).MakesAtMost counted n P := by
  refine fun r => (hk r).mono fun tr _ h => ⟨?_, h.2⟩
  have hcall : calls counted (⟨c, r⟩ :: tr) = calls counted tr := calls_cons_of_not hc tr
  rw [hcall]
  exact h.1

theorem MakesAtMost.mono {P' : α → Prop} (hp : p.MakesAtMost counted m P) (hmn : m ≤ n)
    (hP : ∀ a, P a → P' a) : p.MakesAtMost counted n P' :=
  Satisfies.mono hp fun _ a h => ⟨Nat.le_trans h.1 hmn, hP a h.2⟩

theorem MakesAtMost.bind {f : α → Prog C R β} (hp : p.MakesAtMost counted m P)
    (hf : ∀ a, P a → (f a).MakesAtMost counted n Q) : (p >>= f).MakesAtMost counted (m + n) Q := by
  refine satisfies_bind.2 (Satisfies.mono hp fun tr a h => ?_)
  refine Satisfies.mono (hf a h.2) fun tr' b h' => ⟨?_, h'.2⟩
  rw [calls_append]
  exact Nat.add_le_add h.1 h'.1

/-- The loop rule with a potential: the calls of one iteration, at most `c`, are taken from the
potential `φ`.  Each iteration keeps the invariant `I` and makes the variant `v` smaller, or
establishes `Q`. -/
theorem makesAtMost_loop_of_potential {body : σ → Prog C R (Iter σ β)} {I : σ → Prop}
    (c φ v : σ → ℕ) (hcost : ∀ s, I s → c s ≤ φ s)
    (hstep : ∀ s, I s → (body s).MakesAtMost counted (c s)
      (Iter.Holds (fun s' => (I s' ∧ c s + φ s' ≤ φ s) ∧ v s' < v s) Q))
    {s : σ} (hI : I s) (hv : v s < n) : (loop body n s).MakesAtMost counted (φ s) Q := by
  refine satisfies_loop_total (I := fun tr s' => I s' ∧ calls counted tr + φ s' ≤ φ s)
    (Q := fun tr b => calls counted tr ≤ φ s ∧ Q b) v ?_ ⟨hI, by simp⟩ hv
  rintro tr s' ⟨hI', hcalls⟩
  have hpaid := hcost s' hI'
  refine Satisfies.mono (hstep s' hI') fun tr' i hi => ?_
  obtain ⟨hmade, hi⟩ := hi
  cases i with
  | again s'' =>
    obtain ⟨⟨hI'', hleft⟩, hless⟩ := hi
    refine ⟨⟨hI'', ?_⟩, hless⟩
    rw [calls_append]
    omega
  | done b =>
    refine ⟨?_, hi⟩
    rw [calls_append]
    omega

/-- The loop rule where every iteration makes at most `k` counted calls. -/
theorem makesAtMost_loop {body : σ → Prog C R (Iter σ β)} {I : σ → Prop} {k : ℕ} (v : σ → ℕ)
    (hstep : ∀ s, I s → (body s).MakesAtMost counted k (Iter.Holds (fun s' => I s' ∧ v s' < v s) Q))
    {s : σ} (hI : I s) (hv : v s < n) :
    (loop body n s).MakesAtMost counted ((v s + 1) * k) Q := by
  refine makesAtMost_loop_of_potential (fun _ => k) (fun s => (v s + 1) * k) v (fun s _ => ?_)
    (fun s hs => (hstep s hs).mono (Nat.le_refl k) fun i hi => ?_) hI hv
  · exact Nat.le_mul_of_pos_left k (Nat.succ_pos _)
  · cases i with
    | again s' =>
      obtain ⟨hI', hless⟩ := hi
      have hleft : (v s' + 1) * k ≤ v s * k := Nat.mul_le_mul_right k hless
      refine ⟨⟨hI', ?_⟩, hless⟩
      rw [Nat.succ_mul (v s)]
      omega
    | done b => exact hi

/-- The loop rule for a count `r` that goes up to `max`, where the loop is left without a call. -/
theorem makesAtMost_loop_upTo {body : σ → Prog C R (Iter σ β)} {I : σ → Prop} {k max : ℕ}
    (r : σ → ℕ)
    (hstep : ∀ s, I s → r s < max →
      (body s).MakesAtMost counted k (Iter.Holds (fun s' => I s' ∧ r s' = r s + 1) Q))
    (hlast : ∀ s, I s → ¬ r s < max →
      (body s).MakesAtMost counted 0 (Iter.Holds (fun _ => False) Q))
    {s : σ} (hI : I s) (hv : max - r s < n) :
    (loop body n s).MakesAtMost counted ((max - r s) * k) Q := by
  have hsplit : ∀ s, r s < max → (max - r s) * k = k + (max - (r s + 1)) * k := by
    intro s hs
    have hsub : max - r s = max - (r s + 1) + 1 := by omega
    rw [hsub, Nat.succ_mul, Nat.add_comm]
  refine makesAtMost_loop_of_potential (I := I) (fun s => if r s < max then k else 0)
    (fun s => (max - r s) * k) (fun s => max - r s) (fun s _ => ?_) (fun s hs => ?_) hI hv
  · split_ifs with hr
    · rw [hsplit s hr]
      exact Nat.le_add_right _ _
    · exact Nat.zero_le _
  · by_cases hr : r s < max
    · simp only [if_pos hr]
      refine (hstep s hs hr).mono (Nat.le_refl k) fun i hi => ?_
      cases i with
      | again s' =>
        obtain ⟨hI', hup⟩ := hi
        rw [Iter.Holds, hup, hsplit s hr]
        exact ⟨⟨hI', Nat.le_refl _⟩, by omega⟩
      | done b => exact hi
    · simp only [if_neg hr]
      refine (hlast s hs hr).mono (Nat.le_refl 0) fun i hi => ?_
      cases i with
      | again s' => exact False.elim hi
      | done b => exact hi

theorem MakesAtMost.exists_exec (hp : p.MakesAtMost counted n P) (h : Handler C R τ) (s : τ) :
    ∃ a tr s', p.exec h s = some (a, tr, s') ∧ calls counted tr ≤ n ∧ P a :=
  Satisfies.exists_exec hp h s

/-- A run, and a program that makes a bounded number of calls after it. -/
theorem MakesAtMost.exists_exec_bind {f : α → Prog C R β} {h : Handler C R τ} {s s' : τ} {a : α}
    {tr : List (Event C R)} (hp : p.exec h s = some (a, tr, s')) (htr : calls counted tr ≤ m)
    (hf : (f a).MakesAtMost counted n Q) :
    ∃ b tr' s'', (p >>= f).exec h s = some (b, tr', s'') ∧ calls counted tr' ≤ m + n ∧ Q b := by
  obtain ⟨b, tr', s'', hrun, hcalls, hQ⟩ := hf.exists_exec h s'
  refine ⟨b, tr ++ tr', s'', exec_bind hp hrun, ?_, hQ⟩
  rw [calls_append]
  exact Nat.add_le_add htr hcalls

end Prog

end Interaction
