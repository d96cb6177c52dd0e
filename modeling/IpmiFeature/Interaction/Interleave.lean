import IpmiFeature.Interaction.Layers
import Mathlib.Logic.Function.Basic

/-!
# Clients that do not disturb each other

Several programs that share an environment, one call at a time in the order of a schedule.  Each of
them makes calls of its own, and the environment keeps what the calls of different clients work on
apart (`Isolated`).  Then every schedule lets a client do exactly what it does alone.

* `Prog.Within` : the calls of a program, with `within_bind` and `within_loop`.
* `Prog.interleave` : the programs after the turns of a schedule.
* `Prog.interleave_solo` : where a client is after a schedule; `Prog.interleave_result` and
  `Prog.interleave_returns`, what it has returned, and that it has after as many turns as it takes alone.
* `Prog.exists_interleave` : there are answers in every schedule, if there are to the calls that are made.
-/

namespace Interaction

namespace Prog

variable {C : Type} {R : C → Type} {α β σ : Type} {P P' : C → Prop}

/-! ### The calls of a program -/

/-- All calls that the program can make satisfy `P`. -/
def Within (P : C → Prop) : Prog C R α → Prop
  | ret _ => True
  | outOfFuel => True
  | call c k => P c ∧ ∀ r, (k r).Within P

theorem Within.mono {p : Prog C R α} (hp : p.Within P) (h : ∀ c, P c → P' c) : p.Within P' := by
  induction p with
  | ret a => trivial
  | outOfFuel => trivial
  | call c k ih => exact ⟨h c hp.1, fun r => ih r (hp.2 r)⟩

@[simp] theorem within_pure (a : α) : (pure a : Prog C R α).Within P := trivial

theorem within_perform {c : C} (hc : P c) : (perform c : Prog C R (R c)).Within P :=
  ⟨hc, fun _ => trivial⟩

/-- The rest of the program has to be looked at for the results only. -/
theorem Within.bind {p : Prog C R α} {f : α → Prog C R β} {Q : α → Prop} (hp : p.Within P)
    (hQ : p.Satisfies True fun _ a => Q a) (hf : ∀ a, Q a → (f a).Within P) : (p >>= f).Within P := by
  induction p with
  | ret a => exact hf a hQ
  | outOfFuel => trivial
  | call c k ih => exact ⟨hp.1, fun r => ih r (hp.2 r) (hQ r)⟩

theorem within_bind {p : Prog C R α} {f : α → Prog C R β} (hp : p.Within P)
    (hf : ∀ a, (f a).Within P) : (p >>= f).Within P :=
  hp.bind (satisfies_of_forall fun _ _ => trivial) fun a _ => hf a

theorem within_map {p : Prog C R α} (f : α → β) (hp : p.Within P) : (f <$> p).Within P :=
  within_bind hp fun _ => trivial

/-- The loop rule, with an invariant of the state. -/
theorem within_loop {body : σ → Prog C R (Iter σ β)} {J : σ → Prop}
    (hbody : ∀ x, J x → (body x).Within P)
    (hnext : ∀ x, J x → (body x).Satisfies True fun _ i => ∀ x', i = .again x' → J x') (n : ℕ)
    {x : σ} (hx : J x) : (loop body n x).Within P := by
  induction n generalizing x with
  | zero => trivial
  | succ n ih =>
    refine (hbody x hx).bind (hnext x hx) fun i hi => ?_
    cases i with
    | again x' => exact ih (hi x' rfl)
    | done b => trivial

theorem within_mapM {f : α → Prog C R β} (hf : ∀ a, (f a).Within P) (as : List α) :
    (as.mapM f).Within P := by
  induction as with
  | nil => exact within_pure []
  | cons a as ih =>
    rw [List.mapM_cons]
    exact within_bind (hf a) fun b => within_bind ih fun bs => within_pure _

theorem within_foldlM {f : β → α → Prog C R β} (hf : ∀ b a, (f b a).Within P) (as : List α) (b : β) :
    (as.foldlM f b).Within P := by
  induction as generalizing b with
  | nil => exact within_pure b
  | cons a as ih =>
    rw [List.foldlM_cons]
    exact within_bind (hf b a) ih

/-! ### Turns -/

variable {ideal : (c : C) → σ → Option (R c × σ)}

/-- The next call of the program; there is none once it has ended. -/
def turn (ideal : (c : C) → σ → Option (R c × σ)) : Prog C R α → σ → Option (Prog C R α × σ)
  | call c k, s => (ideal c s).map fun x => (k x.1, x.2)
  | p, s => some (p, s)

variable {ι : Type} {γ : ι → Type}

/-- The programs after the turns of the schedule. -/
def interleave [DecidableEq ι] (ideal : (c : C) → σ → Option (R c × σ)) :
    List ι → (∀ i, Prog C R (γ i)) → σ → Option ((∀ i, Prog C R (γ i)) × σ)
  | [], ps, s => some (ps, s)
  | i :: is, ps, s => do
    let (p, s) ← turn ideal (ps i) s
    interleave ideal is (Function.update ps i p) s

/-- A turn is one step of the program. -/
theorem completes_turn {p q : Prog C R α} {s s' : σ} {Q : α → σ → Prop}
    (hturn : turn ideal p s = some (q, s')) : q.Completes ideal s' Q ↔ p.Completes ideal s Q := by
  cases p with
  | ret a =>
    cases hturn
    rfl
  | outOfFuel =>
    cases hturn
    rfl
  | call c k =>
    obtain ⟨⟨r, s₁⟩, hcall, heq⟩ := Option.map_eq_some_iff.1 hturn
    cases heq
    constructor
    · exact fun hq => ⟨r, s₁, hcall, hq⟩
    · rintro ⟨r', s₂, hcall', hk⟩
      rw [hcall, Option.some.injEq] at hcall'
      cases hcall'
      exact hk

/-- The turns that the program takes until it ends. -/
def turns (ideal : (c : C) → σ → Option (R c × σ)) : Prog C R α → σ → ℕ
  | call c k, s =>
    match ideal c s with
    | some (r, s') => turns ideal (k r) s' + 1
    | none => 0
  | _, _ => 0

theorem turns_turn {p q : Prog C R α} {s s' : σ} (hturn : turn ideal p s = some (q, s')) :
    turns ideal q s' = turns ideal p s - 1 := by
  cases p with
  | ret a =>
    cases hturn
    rfl
  | outOfFuel =>
    cases hturn
    rfl
  | call c k =>
    obtain ⟨⟨r, s₁⟩, hcall, heq⟩ := Option.map_eq_some_iff.1 hturn
    cases heq
    simp only [turns, hcall, Nat.add_sub_cancel]

/-- A program that has no turn left has returned. -/
theorem Completes.returned {p : Prog C R α} {s : σ} {Q : α → σ → Prop} (hp : p.Completes ideal s Q)
    (hturns : turns ideal p s = 0) : ∃ a, p = ret a := by
  cases p with
  | ret a => exact ⟨a, rfl⟩
  | outOfFuel => exact hp.elim
  | call c k =>
    obtain ⟨r, s', hcall, -⟩ := hp
    simp only [turns, hcall] at hturns
    exact absurd hturns (Nat.succ_ne_zero _)

theorem Within.turn {p q : Prog C R α} {s s' : σ} (hp : p.Within P)
    (hturn : turn ideal p s = some (q, s')) : q.Within P := by
  cases p with
  | ret a =>
    cases hturn
    trivial
  | outOfFuel =>
    cases hturn
    trivial
  | call c k =>
    obtain ⟨x, -, heq⟩ := Option.map_eq_some_iff.1 hturn
    cases heq
    exact hp.2 _

/-! ### Isolation -/

/-- The environment keeps the clients apart: `Same i s t` says that the states look the same to the
client `i`, whose calls are those of `own i`. -/
structure Isolated (ideal : (c : C) → σ → Option (R c × σ)) (I : σ → Prop) (Same : ι → σ → σ → Prop)
    (own : ι → C → Prop) : Prop where
  /-- The invariant of the environment. -/
  inv : ∀ {c s r s'}, I s → ideal c s = some (r, s') → I s'
  refl : ∀ i s, Same i s s
  /-- A call of the client depends on what it sees, and nothing else. -/
  sees : ∀ {i c s t r s'}, own i c → I s → I t → Same i s t → ideal c s = some (r, s') →
    ∃ t', ideal c t = some (r, t') ∧ Same i s' t'
  /-- The calls of the others change nothing that it sees. -/
  keeps : ∀ {i j c s t r s'}, i ≠ j → own j c → I s → Same i s t → ideal c s = some (r, s') →
    Same i s' t

variable {I : σ → Prop} {Same : ι → σ → σ → Prop} {own : ι → C → Prop}

section

variable (hiso : Isolated ideal I Same own)

include hiso

/-- A turn of the client, in two states that look the same to it. -/
theorem Isolated.turn {i : ι} {p q : Prog C R α} {s s' t : σ} (hp : p.Within (own i)) (hs : I s)
    (ht : I t) (hsame : Same i s t) (hturn : turn ideal p s = some (q, s')) :
    I s' ∧ ∃ t', turn ideal p t = some (q, t') ∧ I t' ∧ Same i s' t' := by
  cases p with
  | ret a =>
    cases hturn
    exact ⟨hs, t, rfl, ht, hsame⟩
  | outOfFuel =>
    cases hturn
    exact ⟨hs, t, rfl, ht, hsame⟩
  | call c k =>
    obtain ⟨⟨r, s₁⟩, hcall, heq⟩ := Option.map_eq_some_iff.1 hturn
    cases heq
    obtain ⟨t', hcall', hsame'⟩ := hiso.sees hp.1 hs ht hsame hcall
    refine ⟨hiso.inv hs hcall, t', ?_, hiso.inv ht hcall', hsame'⟩
    rw [Prog.turn, hcall', Option.map_some]

/-- A turn of another client. -/
theorem Isolated.turn_other {i j : ι} {p q : Prog C R α} {s s' t : σ} (hne : i ≠ j)
    (hp : p.Within (own j)) (hs : I s) (hsame : Same i s t)
    (hturn : Prog.turn ideal p s = some (q, s')) : Same i s' t := by
  cases p with
  | ret a =>
    cases hturn
    exact hsame
  | outOfFuel =>
    cases hturn
    exact hsame
  | call c k =>
    obtain ⟨⟨r, s₁⟩, hcall, heq⟩ := Option.map_eq_some_iff.1 hturn
    cases heq
    exact hiso.keeps hne hp.1 hs hsame hcall

variable [DecidableEq ι]

/-- **A client among others.**  Where it is after a schedule, it gets to alone. -/
theorem interleave_solo (is : List ι) {ps qs : ∀ i, Prog C R (γ i)} {s s' : σ} {t : ι → σ}
    (hps : ∀ i, (ps i).Within (own i)) (hs : I s) (ht : ∀ i, I (t i)) (hsame : ∀ i, Same i s (t i))
    (hrun : interleave ideal is ps s = some (qs, s')) (i : ι) :
    ∃ t', Same i s' t' ∧ turns ideal (qs i) t' = turns ideal (ps i) (t i) - is.count i ∧
      ∀ Q, (qs i).Completes ideal t' Q ↔ (ps i).Completes ideal (t i) Q := by
  induction is generalizing ps s t with
  | nil =>
    cases hrun
    exact ⟨t i, hsame i, rfl, fun _ => Iff.rfl⟩
  | cons j is ih =>
    rw [interleave, Option.bind_eq_bind, Option.bind_eq_some_iff] at hrun
    obtain ⟨⟨p, s₁⟩, hturn, hrest⟩ := hrun
    obtain ⟨hs₁, t₁, hturn', ht₁, hsame₁⟩ := hiso.turn (hps j) hs (ht j) (hsame j) hturn
    -- the client `j` has taken its turn in both states
    have hps' : ∀ i, (Function.update ps j p i).Within (own i) :=
      (Function.forall_update_iff ps fun i p => p.Within (own i)).2
        ⟨(hps j).turn hturn, fun k _ => hps k⟩
    have ht' : ∀ i, I (Function.update t j t₁ i) :=
      (Function.forall_update_iff t fun _ => I).2 ⟨ht₁, fun k _ => ht k⟩
    have hsame' : ∀ i, Same i s₁ (Function.update t j t₁ i) :=
      (Function.forall_update_iff t fun i => Same i s₁).2
        ⟨hsame₁, fun k hk => hiso.turn_other hk (hps j) hs (hsame k) hturn⟩
    obtain ⟨t', hsame'', hturns, hcompletes⟩ := ih hps' hs₁ ht' hsame' hrest
    by_cases hi : i = j
    · subst hi
      rw [Function.update_self, Function.update_self] at hturns
      refine ⟨t', hsame'', ?_, fun Q => (hcompletes Q).trans ?_⟩
      · rw [hturns, turns_turn hturn', List.count_cons_self]
        omega
      · rw [Function.update_self, Function.update_self]
        exact completes_turn hturn'
    · rw [Function.update_of_ne hi, Function.update_of_ne hi] at hturns
      refine ⟨t', hsame'', ?_, fun Q => (hcompletes Q).trans ?_⟩
      · rw [hturns, List.count_cons_of_ne (Ne.symm hi)]
      · rw [Function.update_of_ne hi, Function.update_of_ne hi]

/-- What a client has returned among others, it returns alone, and it leaves what it sees in the same
state. -/
theorem interleave_result {is : List ι} {ps qs : ∀ i, Prog C R (γ i)} {s s' : σ}
    (hps : ∀ i, (ps i).Within (own i)) (hs : I s)
    (hrun : interleave ideal is ps s = some (qs, s')) {i : ι} {a : γ i} (hret : qs i = ret a) :
    (ps i).Completes ideal s fun b t => b = a ∧ Same i s' t := by
  obtain ⟨t', hsame, -, hcompletes⟩ :=
    interleave_solo hiso is hps hs (fun _ => hs) (fun i => hiso.refl i s) hrun i
  rw [← hcompletes, hret]
  exact ⟨rfl, hsame⟩

/-- A client that ends alone has returned once it has had as many turns as it takes there. -/
theorem interleave_returns {is : List ι} {ps qs : ∀ i, Prog C R (γ i)} {s s' : σ}
    (hps : ∀ i, (ps i).Within (own i)) (hs : I s)
    (hrun : interleave ideal is ps s = some (qs, s')) {i : ι} {Q : γ i → σ → Prop}
    (hsolo : (ps i).Completes ideal s Q) (hcount : turns ideal (ps i) s ≤ is.count i) :
    ∃ a, qs i = ret a := by
  obtain ⟨t', -, hturns, hcompletes⟩ :=
    interleave_solo hiso is hps hs (fun _ => hs) (fun i => hiso.refl i s) hrun i
  exact ((hcompletes Q).2 hsolo).returned (hturns.trans (Nat.sub_eq_zero_of_le hcount))

end

/-- If the environment answers the calls that the clients make, it answers them in every schedule. -/
theorem exists_interleave [DecidableEq ι] {I : σ → Prop}
    (hinv : ∀ {c s r s'}, I s → ideal c s = some (r, s') → I s')
    (hanswers : ∀ c s, P c → I s → (ideal c s).isSome) (is : List ι) {ps : ∀ i, Prog C R (γ i)}
    {s : σ} (hps : ∀ i, (ps i).Within P) (hs : I s) : ∃ x, interleave ideal is ps s = some x := by
  induction is generalizing ps s with
  | nil => exact ⟨_, rfl⟩
  | cons j is ih =>
    obtain ⟨q, s₁, hturn, hs₁⟩ : ∃ q s₁, turn ideal (ps j) s = some (q, s₁) ∧ I s₁ := by
      have hj := hps j
      cases hpj : ps j with
      | ret a => exact ⟨_, s, rfl, hs⟩
      | outOfFuel => exact ⟨_, s, rfl, hs⟩
      | call c k =>
        rw [hpj] at hj
        obtain ⟨⟨r, s₁⟩, hcall⟩ := Option.isSome_iff_exists.1 (hanswers c s hj.1 hs)
        exact ⟨k r, s₁, by rw [turn, hcall, Option.map_some], hinv hs hcall⟩
    rw [interleave, hturn]
    exact ih ((Function.forall_update_iff ps fun _ p => p.Within P).2
      ⟨(hps j).turn hturn, fun k _ => hps k⟩) hs₁

end Prog

end Interaction
