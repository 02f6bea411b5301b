/-
# Deterministic machines and their runs

A `Machine` answers an input in a state with the next state and an output, or
not at all when the input cannot occur there.  A run is recorded step by step,
each step with the state before and after it, so that a property of a run can
speak about any of its steps.

The rules of this file are what an argument over whole runs needs: a state invariant
that each step keeps, possibly only the steps that meet a condition (`Run.invariant`,
`Run.forall_step`), or just those (`Run.invariant_iff`), and possibly together with a
value looked up in the record (`Run.invariant_foldl`) or with what the steps emit
(`Run.invariant_emitted`); a bound on what a run may cost (`Run.credit`); a value
observed along the run together with the state (`Run.observe`), such as the end of the
record since some step (`since`); the values emitted by the steps, in order
(`Run.chain`); where given inputs lead (`Drives`, `Run.unique`); the simulation of one
run by another, of the same machine (`Run.simulate`) or of a more abstract one
(`Run.refine`, `Run.project`); and the comparison of two runs whose inputs are related
(`Run.relate`).
-/

import Mathlib.Algebra.Ring.Nat
import Mathlib.Data.List.Chain

namespace Stepwise

/-- A deterministic machine; `none` means that the input cannot occur. -/
structure Machine (σ ι ο : Type*) where
  step : σ → ι → Option (σ × ο)

/-- One step of a run. -/
structure Occurrence (σ ι ο : Type*) where
  pre : σ
  input : ι
  output : ο
  post : σ

variable {σ ι ο γ β : Type*} {M : Machine σ ι ο}

namespace Machine

/-- `e` is a step of the machine. -/
def Steps (M : Machine σ ι ο) (e : Occurrence σ ι ο) : Prop :=
  M.step e.pre e.input = some (e.post, e.output)

/-- The machine runs from `s` to `t` with the steps `tr`. -/
def Run (M : Machine σ ι ο) : σ → List (Occurrence σ ι ο) → σ → Prop
  | s, [], t => s = t
  | s, e :: tr, t => e.pre = s ∧ M.Steps e ∧ M.Run e.post tr t

/-- **A run splits at every point of its record.** -/
theorem run_append {s t : σ} {tr₁ tr₂ : List (Occurrence σ ι ο)} :
    M.Run s (tr₁ ++ tr₂) t ↔ ∃ m, M.Run s tr₁ m ∧ M.Run m tr₂ t := by
  induction tr₁ generalizing s with
  | nil => simp [Run]
  | cons e tr₁ ih =>
    simp only [List.cons_append, Run, ih]
    constructor
    · rintro ⟨hs, he, m, h₁, h₂⟩
      exact ⟨m, ⟨hs, he, h₁⟩, h₂⟩
    · rintro ⟨m, ⟨hs, he, h₁⟩, h₂⟩
      exact ⟨hs, he, m, h₁, h₂⟩

/-- A run reaches each of its steps, takes it and goes on. -/
theorem Run.at_step {s t : σ} {e : Occurrence σ ι ο} {tr₁ tr₂ : List (Occurrence σ ι ο)}
    (h : M.Run s (tr₁ ++ e :: tr₂) t) : M.Run s tr₁ e.pre ∧ M.Steps e ∧ M.Run e.post tr₂ t := by
  obtain ⟨m, h₁, rfl, he, h₂⟩ := run_append.1 h
  exact ⟨h₁, he, h₂⟩

/-- A run reaches each of its steps. -/
theorem Run.at_mem {s t : σ} {e : Occurrence σ ι ο} {tr : List (Occurrence σ ι ο)}
    (h : M.Run s tr t) (he : e ∈ tr) : ∃ l, l <+: tr ∧ M.Run s l e.pre ∧ M.Steps e := by
  obtain ⟨l, l', rfl⟩ := List.append_of_mem he
  obtain ⟨hrun, hsteps, -⟩ := h.at_step
  exact ⟨l, List.prefix_append _ _, hrun, hsteps⟩

/-! ### Execution -/

/-- An input that can occur makes a step. -/
theorem exists_steps {s : σ} {i : ι} (h : (M.step s i).isSome = true) :
    ∃ e, M.Steps e ∧ e.pre = s ∧ e.input = i := by
  obtain ⟨⟨t, o⟩, hs⟩ := Option.isSome_iff_exists.1 h
  exact ⟨⟨s, i, o, t⟩, hs, rfl, rfl⟩

/-- Runs the machine on a list of inputs, as far as they can occur. -/
def exec (M : Machine σ ι ο) : σ → List ι → Option (List (Occurrence σ ι ο) × σ)
  | s, [] => some ([], s)
  | s, i :: l =>
    match M.step s i with
    | none => none
    | some (s', o) => (M.exec s' l).map fun r => (⟨s, i, o, s'⟩ :: r.1, r.2)

/-- **What `exec` computes is a run.** -/
theorem run_of_exec {s t : σ} {l : List ι} {tr : List (Occurrence σ ι ο)}
    (h : M.exec s l = some (tr, t)) : M.Run s tr t := by
  induction l generalizing s tr with
  | nil =>
    obtain ⟨rfl, rfl⟩ := Prod.mk.inj (Option.some.inj h)
    rfl
  | cons i l ih =>
    rw [exec] at h
    split at h
    · cases h
    · rename_i s' o hs
      obtain ⟨⟨tr', t'⟩, hr, he⟩ := Option.map_eq_some_iff.1 h
      obtain ⟨rfl, rfl⟩ := Prod.mk.inj he
      exact ⟨rfl, hs, ih hr⟩

/-- A record that `exec` computes has the inputs it was given. -/
theorem exec_inputs {s t : σ} {l : List ι} {tr : List (Occurrence σ ι ο)}
    (h : M.exec s l = some (tr, t)) : tr.map (·.input) = l := by
  induction l generalizing s tr with
  | nil =>
    obtain ⟨rfl, rfl⟩ := Prod.mk.inj (Option.some.inj h)
    rfl
  | cons i l ih =>
    rw [exec] at h
    split at h
    · cases h
    · obtain ⟨⟨tr', t'⟩, hr, he⟩ := Option.map_eq_some_iff.1 h
      obtain ⟨rfl, rfl⟩ := Prod.mk.inj he
      rw [List.map_cons, ih hr]

/-- A run found by executing the machine, with a property that can be computed
of its record and its end. -/
theorem exists_run_of_exec {s : σ} {l : List ι} {p : List (Occurrence σ ι ο) → σ → Bool}
    (h : (M.exec s l).any (fun r => p r.1 r.2) = true) :
    ∃ tr t, M.Run s tr t ∧ tr.map (·.input) = l ∧ p tr t = true := by
  obtain ⟨⟨tr, t⟩, hr, hp⟩ := (Option.any_eq_true _ _).1 h
  exact ⟨tr, t, run_of_exec hr, exec_inputs hr, hp⟩

/-- The same with the first step apart from those after it. -/
theorem exists_run_cons_of_exec {s : σ} {i : ι} {l : List ι} {q : Occurrence σ ι ο → Bool}
    {p : List (Occurrence σ ι ο) → σ → Bool}
    (h : (M.exec s (i :: l)).any (fun r => r.1.head?.any q && p r.1.tail r.2) = true) :
    ∃ e₀ tr t, M.Run s (e₀ :: tr) t ∧ e₀.input = i ∧ tr.map (·.input) = l ∧
      q e₀ = true ∧ p tr t = true := by
  obtain ⟨tr, t, hrun, hin, h⟩ :=
    exists_run_of_exec (p := fun tr t => tr.head?.any q && p tr.tail t) h
  cases tr with
  | nil => cases hin
  | cons e₀ tr =>
    obtain ⟨hi, hl⟩ := List.cons.inj hin
    obtain ⟨hq, hp⟩ := Bool.and_eq_true_iff.1 h
    exact ⟨e₀, tr, t, hrun, hi, hl, hq, hp⟩

/-! ### Invariants -/

/-- **The invariant rule.**  A state property that holds at the start and that
every step meeting `G` keeps holds at the end of every run of such steps. -/
theorem Run.invariant {G : Occurrence σ ι ο → Prop} {P : σ → Prop} {s t : σ}
    {tr : List (Occurrence σ ι ο)} (h : M.Run s tr t) (hgood : ∀ e ∈ tr, G e) (h₀ : P s)
    (hstep : ∀ e, M.Steps e → G e → P e.pre → P e.post) : P t := by
  induction tr generalizing s with
  | nil => exact h ▸ h₀
  | cons e tr ih =>
    obtain ⟨rfl, he, h⟩ := h
    exact ih h (fun e' h' => hgood e' (List.mem_cons_of_mem _ h'))
      (hstep e he (hgood e List.mem_cons_self) h₀)

/-- **The exact form of the invariant rule.**  If a step from a state with the property
keeps it just when it meets `G`, the property holds all along a run just when all its
steps meet `G`. -/
theorem Run.invariant_iff {G : Occurrence σ ι ο → Prop} {P : σ → Prop} {s t : σ}
    {tr : List (Occurrence σ ι ο)} (h : M.Run s tr t) (h₀ : P s)
    (hstep : ∀ e, M.Steps e → P e.pre → (P e.post ↔ G e)) :
    (∀ e ∈ tr, P e.post) ↔ ∀ e ∈ tr, G e := by
  induction tr generalizing s with
  | nil => exact iff_of_true (List.forall_mem_nil _) (List.forall_mem_nil _)
  | cons e tr ih =>
    obtain ⟨rfl, he, h⟩ := h
    rw [List.forall_mem_cons, List.forall_mem_cons, hstep e he h₀]
    exact and_congr_right fun hG => ih h ((hstep e he h₀).2 hG)

/-- With the invariant rule, a property of single steps that the invariant
implies holds of every step of the run. -/
theorem Run.forall_step {G Q : Occurrence σ ι ο → Prop} {P : σ → Prop} {s t : σ}
    {tr : List (Occurrence σ ι ο)} (h : M.Run s tr t) (hgood : ∀ e ∈ tr, G e) (h₀ : P s)
    (hstep : ∀ e, M.Steps e → G e → P e.pre → P e.post)
    (hQ : ∀ e, M.Steps e → G e → P e.pre → Q e) : ∀ e ∈ tr, Q e := by
  intro e he
  obtain ⟨tr₁, tr₂, rfl⟩ := List.append_of_mem he
  obtain ⟨h₁, hs, -⟩ := h.at_step
  exact hQ e hs (hgood e he)
    (h₁.invariant (fun e' h' => hgood e' (List.mem_append_left _ h')) h₀ hstep)

/-- **The credit rule.**  If each step pays for what it costs, out of its income or out of
a credit that the state holds, a run has cost no more than its income and the credit that
it began with. -/
theorem Run.credit {G : Occurrence σ ι ο → Prop} {P : σ → Prop} {s t : σ}
    {tr : List (Occurrence σ ι ο)} (credit : σ → ℕ) (cost income : Occurrence σ ι ο → ℕ)
    (h : M.Run s tr t) (hgood : ∀ e ∈ tr, G e) (h₀ : P s)
    (hstep : ∀ e, M.Steps e → G e → P e.pre → P e.post)
    (hpaid : ∀ e, M.Steps e → G e → P e.pre →
      cost e + credit e.post ≤ income e + credit e.pre) :
    (tr.map cost).sum + credit t ≤ (tr.map income).sum + credit s := by
  induction tr generalizing s with
  | nil => exact h ▸ Nat.le_refl _
  | cons e tr ih =>
    obtain ⟨rfl, he, h⟩ := h
    have hge := hgood e List.mem_cons_self
    have hrest := ih h (fun e' h' => hgood e' (List.mem_cons_of_mem _ h')) (hstep e he hge h₀)
    have hfirst := hpaid e he hge h₀
    rw [List.map_cons, List.map_cons, List.sum_cons, List.sum_cons]
    omega

/-- **The variant rule.**  If every good step from a state that has not arrived brings it
closer, a run of good steps that is long enough arrives. -/
theorem Run.arrives {G : Occurrence σ ι ο → Prop} {P : σ → Prop} {s t : σ}
    {tr : List (Occurrence σ ι ο)} (distance : σ → ℕ) (h : M.Run s tr t)
    (hgood : ∀ e ∈ tr, G e) (h₀ : P s)
    (hstep : ∀ e, M.Steps e → G e → P e.pre → distance e.pre ≠ 0 →
      P e.post ∧ distance e.post < distance e.pre) (hlong : distance s ≤ tr.length) :
    ∃ tr₁ tr₂ y, tr = tr₁ ++ tr₂ ∧ tr₁.length ≤ distance s ∧ M.Run s tr₁ y ∧ P y ∧
      distance y = 0 := by
  induction tr generalizing s with
  | nil => exact ⟨[], [], s, rfl, Nat.zero_le _, rfl, h₀, Nat.le_zero.1 hlong⟩
  | cons e tr ih =>
    by_cases hzero : distance s = 0
    · exact ⟨[], e :: tr, s, rfl, Nat.zero_le _, rfl, h₀, hzero⟩
    obtain ⟨rfl, he, h⟩ := h
    obtain ⟨hpost, hcloser⟩ := hstep e he (hgood e List.mem_cons_self) h₀ hzero
    rw [List.length_cons] at hlong
    obtain ⟨tr₁, tr₂, y, rfl, hlen, hrun, hy, hzero⟩ :=
      ih h (fun e' h' => hgood e' (List.mem_cons_of_mem _ h')) hpost (by omega)
    refine ⟨e :: tr₁, tr₂, y, rfl, ?_, ⟨rfl, he, hrun⟩, hy, hzero⟩
    rw [List.length_cons]
    omega

/-- The invariant rule with a value that `next` computes along the record. -/
theorem Run.invariant_foldl {G : Occurrence σ ι ο → Prop} {J : γ → σ → Prop}
    (next : γ → Occurrence σ ι ο → γ) {g : γ} {s t : σ} {tr : List (Occurrence σ ι ο)}
    (h : M.Run s tr t) (hgood : ∀ e ∈ tr, G e) (h₀ : J g s)
    (hstep : ∀ g e, M.Steps e → G e → J g e.pre → J (next g e) e.post) :
    J (tr.foldl next g) t := by
  induction tr generalizing s g with
  | nil => exact h ▸ h₀
  | cons e tr ih =>
    obtain ⟨rfl, he, h⟩ := h
    exact ih h (fun e' h' => hgood e' (List.mem_cons_of_mem _ h'))
      (hstep g e he (hgood e List.mem_cons_self) h₀)

/-- The invariant rule with what the steps emit, behind what has been emitted before. -/
theorem Run.invariant_emitted {G : Occurrence σ ι ο → Prop} {J : List β → σ → Prop}
    (emits : Occurrence σ ι ο → List β) {l : List β} {s t : σ} {tr : List (Occurrence σ ι ο)}
    (h : M.Run s tr t) (hgood : ∀ e ∈ tr, G e) (h₀ : J l s)
    (hstep : ∀ l e, M.Steps e → G e → J l e.pre → J (l ++ emits e) e.post) :
    J (l ++ tr.flatMap emits) t := by
  have hfold := h.invariant_foldl (fun l e => l ++ emits e) hgood h₀ hstep
  rwa [List.foldl_append_eq_append, ← List.flatMap_def] at hfold

/-- **The observer rule.**  `next` computes a value along the record, and
whether a step is good (`G`) may depend on that value.  If good steps keep an
invariant between the value and the state, a property that the invariant implies
of a good step holds of every step of the run, at the value observed there. -/
theorem Run.observe {G Q : γ → Occurrence σ ι ο → Prop} {J : γ → σ → Prop}
    (next : γ → Occurrence σ ι ο → γ) {g : γ} {s t : σ} {tr : List (Occurrence σ ι ο)}
    (h : M.Run s tr t)
    (hgood : ∀ tr₁ e tr₂, tr = tr₁ ++ e :: tr₂ → G (tr₁.foldl next g) e) (h₀ : J g s)
    (hstep : ∀ g e, M.Steps e → G g e → J g e.pre → J (next g e) e.post)
    (hQ : ∀ g e, M.Steps e → G g e → J g e.pre → Q g e) :
    ∀ tr₁ e tr₂, tr = tr₁ ++ e :: tr₂ → Q (tr₁.foldl next g) e := by
  induction tr generalizing s g with
  | nil => intro tr₁ e tr₂ htr; simp at htr
  | cons e tr ih =>
    obtain ⟨rfl, he, h⟩ := h
    have hge := hgood [] e tr rfl
    intro tr₁ e' tr₂ htr
    cases tr₁ with
    | nil =>
      obtain ⟨rfl, -⟩ := List.cons.inj htr
      exact hQ g e he hge h₀
    | cons e₁ tr₁ =>
      obtain ⟨rfl, htl⟩ := List.cons.inj htr
      refine ih h (fun tr₁ e' tr₂ htr => ?_) (hstep g e he hge h₀) tr₁ e' tr₂ htl
      exact hgood (e :: tr₁) e' tr₂ (by rw [htr]; rfl)

/-! ### Values emitted in order -/

/-- After `a`, the values `l` come in the order `lt`, and `b` is the last value
seen. -/
def Chained (lt : β → β → Prop) : Option β → List β → Option β → Prop
  | a, [], b => b = a
  | a, x :: l, b => (∀ y ∈ a, lt y x) ∧ Chained lt (some x) l b

/-- Two chains, the second of which begins where the first ends, make one. -/
theorem Chained.append {lt : β → β → Prop} {a b c : Option β} {l₁ l₂ : List β}
    (h₁ : Chained lt a l₁ b) (h₂ : Chained lt b l₂ c) : Chained lt a (l₁ ++ l₂) c := by
  induction l₁ generalizing a with
  | nil => exact (show b = a from h₁) ▸ h₂
  | cons x l₁ ih => exact ⟨h₁.1, ih h₁.2⟩

/-- The emitted values form a chain. -/
theorem Chained.isChain {lt : β → β → Prop} {a b : Option β} {l : List β}
    (h : Chained lt a l b) : l.IsChain lt := by
  induction l generalizing a with
  | nil => exact .nil
  | cons x l ih =>
    cases l with
    | nil => exact .singleton x
    | cons y l => exact .cons_cons (h.2.1 x rfl) (ih h.2)

/-- **The emission rule.**  If the values each step emits continue the chain
that the state remembers the end of, the values of a whole run form a chain. -/
theorem Run.chain {G : Occurrence σ ι ο → Prop} {lt : β → β → Prop} (last : σ → Option β)
    (emit : Occurrence σ ι ο → List β) {s t : σ} {tr : List (Occurrence σ ι ο)}
    (h : M.Run s tr t) (hgood : ∀ e ∈ tr, G e)
    (hstep : ∀ e, M.Steps e → G e → Chained lt (last e.pre) (emit e) (last e.post)) :
    Chained lt (last s) (tr.flatMap emit) (last t) := by
  induction tr generalizing s with
  | nil => exact congrArg last h.symm
  | cons e tr ih =>
    obtain ⟨rfl, he, h⟩ := h
    rw [List.flatMap_cons]
    exact (hstep e he (hgood e List.mem_cons_self)).append
      (ih h fun e' h' => hgood e' (List.mem_cons_of_mem _ h'))

/-! ### The record since a step -/

/-- Continues a record, but begins it anew at the steps that satisfy `p`. -/
def since (p : β → Bool) (w : List β) (x : β) : List β := if p x then [x] else w ++ [x]

/-- What `since` collects is the end of the record. -/
theorem foldl_since (p : β → Bool) (w l : List β) : l.foldl (since p) w <:+ w ++ l := by
  induction l generalizing w with
  | nil => simp
  | cons x l ih =>
    refine (ih (since p w x)).trans ?_
    unfold since
    split_ifs
    · exact ⟨w, by simp⟩
    · exact ⟨[], by simp⟩

/-! ### Driven runs -/

/-- Driven by the inputs `l`, the machine goes from `s` to `t`, and what its steps
put out amounts to `os`. -/
def Drives (M : Machine σ ι ο) (emit : ο → List β) (s : σ) (l : List ι) (os : List β) (t : σ) :
    Prop :=
  ∃ tr, M.Run s tr t ∧ tr.map (·.input) = l ∧ tr.flatMap (fun e => emit e.output) = os

/-- Without inputs the state stays as it is. -/
theorem Drives.nil {f : ο → List β} {s : σ} : M.Drives f s [] [] s := ⟨[], rfl, rfl, rfl⟩

/-- One input. -/
theorem Drives.single {f : ο → List β} {s t : σ} {i : ι} {o : ο}
    (h : M.step s i = some (t, o)) : M.Drives f s [i] (f o) t :=
  ⟨[⟨s, i, o, t⟩], ⟨rfl, h, rfl⟩, rfl, by simp⟩

/-- First the one inputs, then the others. -/
theorem Drives.append {f : ο → List β} {s m t : σ} {l₁ l₂ : List ι} {os₁ os₂ : List β}
    (h₁ : M.Drives f s l₁ os₁ m) (h₂ : M.Drives f m l₂ os₂ t) :
    M.Drives f s (l₁ ++ l₂) (os₁ ++ os₂) t := by
  obtain ⟨tr₁, hrun₁, rfl, rfl⟩ := h₁
  obtain ⟨tr₂, hrun₂, rfl, rfl⟩ := h₂
  exact ⟨tr₁ ++ tr₂, run_append.2 ⟨m, hrun₁, hrun₂⟩, List.map_append, List.flatMap_append⟩

/-- **The inputs determine the run.** -/
theorem Run.unique {s t₁ t₂ : σ} {tr₁ tr₂ : List (Occurrence σ ι ο)} (h₁ : M.Run s tr₁ t₁)
    (h₂ : M.Run s tr₂ t₂) (hin : tr₂.map (·.input) = tr₁.map (·.input)) :
    tr₂ = tr₁ ∧ t₂ = t₁ := by
  induction tr₁ generalizing s tr₂ with
  | nil =>
    obtain rfl := List.map_eq_nil_iff.1 hin
    exact ⟨rfl, h₂.symm.trans h₁⟩
  | cons e₁ tr₁ ih =>
    obtain ⟨e₂, tr₂, rfl, hi, hl⟩ := List.map_eq_cons_iff.1 hin
    obtain ⟨rfl, he₁, h₁⟩ := h₁
    obtain ⟨hpre, he₂, h₂⟩ := h₂
    obtain ⟨s, i, o₁, m₁⟩ := e₁
    obtain ⟨s', i', o₂, m₂⟩ := e₂
    obtain rfl : s' = s := hpre
    obtain rfl : i' = i := hi
    obtain ⟨rfl, rfl⟩ := Prod.mk.inj (Option.some.inj (he₁.symm.trans he₂))
    obtain ⟨rfl, rfl⟩ := ih h₁ h₂ hl
    exact ⟨rfl, rfl⟩

/-- A run on the inputs is the one that they drive. -/
theorem Drives.run {f : ο → List β} {s t t' : σ} {os : List β}
    {tr : List (Occurrence σ ι ο)} (h : M.Drives f s (tr.map (·.input)) os t)
    (hrun : M.Run s tr t') : t' = t ∧ tr.flatMap (fun e => f e.output) = os := by
  obtain ⟨tr', hrun', hin, hos⟩ := h
  obtain ⟨rfl, rfl⟩ := hrun'.unique hrun hin.symm
  exact ⟨rfl, hos⟩

/-! ### Simulation -/

/-- **The simulation rule.**  If related states answer every input with the
same output and related states, every run from the one is matched by a run from
the other with the same inputs and outputs. -/
theorem Run.simulate {R : σ → σ → Prop} {s₁ s₂ t₁ : σ} {tr₁ : List (Occurrence σ ι ο)}
    (h : M.Run s₁ tr₁ t₁) (h₀ : R s₁ s₂)
    (hstep : ∀ s₁ s₂ i t₁ o, R s₁ s₂ → M.step s₁ i = some (t₁, o) →
      ∃ t₂, M.step s₂ i = some (t₂, o) ∧ R t₁ t₂) :
    ∃ tr₂ t₂, M.Run s₂ tr₂ t₂ ∧ tr₂.map (·.input) = tr₁.map (·.input) ∧
      tr₂.map (·.output) = tr₁.map (·.output) ∧ R t₁ t₂ := by
  induction tr₁ generalizing s₁ s₂ with
  | nil => exact ⟨[], s₂, rfl, rfl, rfl, h ▸ h₀⟩
  | cons e tr₁ ih =>
    obtain ⟨rfl, he, h⟩ := h
    obtain ⟨m₂, hm, hR⟩ := hstep _ _ _ _ _ h₀ he
    obtain ⟨tr₂, t₂, h₂, hi, ho, hR⟩ := ih h hR
    refine ⟨⟨s₂, e.input, e.output, m₂⟩ :: tr₂, t₂, ⟨rfl, hm, h₂⟩, ?_, ?_, hR⟩
    · rw [List.map_cons, List.map_cons, hi]
    · rw [List.map_cons, List.map_cons, ho]

/-- **The refinement rule.**  If each good step of one machine is matched by a run
of another, from related states to related states and with the same observations,
then so is each run of good steps. -/
theorem Run.refine {σ' ι' ο' : Type*} {N : Machine σ' ι' ο'} {R : σ → σ' → Prop}
    {G : Occurrence σ ι ο → Prop} {f : Occurrence σ ι ο → List β}
    {g : Occurrence σ' ι' ο' → List β} {s t : σ} {s' : σ'} {tr : List (Occurrence σ ι ο)}
    (h : M.Run s tr t) (hgood : ∀ e ∈ tr, G e) (h₀ : R s s')
    (hstep : ∀ e s', M.Steps e → G e → R e.pre s' →
      ∃ tr' t', N.Run s' tr' t' ∧ tr'.flatMap g = f e ∧ R e.post t') :
    ∃ tr' t', N.Run s' tr' t' ∧ tr'.flatMap g = tr.flatMap f ∧ R t t' := by
  induction tr generalizing s s' with
  | nil => exact ⟨[], s', rfl, rfl, h ▸ h₀⟩
  | cons e tr ih =>
    obtain ⟨rfl, he, h⟩ := h
    obtain ⟨tr₁, m', h₁, hobs₁, hR⟩ := hstep e s' he (hgood e List.mem_cons_self) h₀
    obtain ⟨tr₂, t', h₂, hobs₂, hR⟩ :=
      ih h (fun e' h' => hgood e' (List.mem_cons_of_mem _ h')) hR
    refine ⟨tr₁ ++ tr₂, t', run_append.2 ⟨m', h₁, h₂⟩, ?_, hR⟩
    rw [List.flatMap_append, List.flatMap_cons, hobs₁, hobs₂]

/-- **The projection rule.**  If each step of one machine is a step of another between
the projected states, or leaves the projected state as it is, a run of the one is a run
of the other. -/
theorem Run.project {σ' ι' ο' : Type*} {N : Machine σ' ι' ο'} {g : σ → σ'}
    {f : Occurrence σ ι ο → Option (Occurrence σ' ι' ο')} {s t : σ}
    {tr : List (Occurrence σ ι ο)} (h : M.Run s tr t)
    (hnone : ∀ e ∈ tr, M.Steps e → f e = none → g e.post = g e.pre)
    (hsome : ∀ e ∈ tr, M.Steps e → ∀ e', f e = some e' →
      e'.pre = g e.pre ∧ N.Steps e' ∧ e'.post = g e.post) :
    N.Run (g s) (tr.filterMap f) (g t) := by
  induction tr generalizing s with
  | nil => exact congrArg g h
  | cons e tr ih =>
    obtain ⟨rfl, he, h⟩ := h
    have hrun := ih h (fun e' h' => hnone e' (List.mem_cons_of_mem _ h'))
      fun e' h' => hsome e' (List.mem_cons_of_mem _ h')
    rcases Option.eq_none_or_eq_some (f e) with hf | ⟨e', hf⟩
    · rw [List.filterMap_cons_none hf, ← hnone e List.mem_cons_self he hf]
      exact hrun
    · obtain ⟨hpre, hsteps, hpost⟩ := hsome e List.mem_cons_self he e' hf
      rw [List.filterMap_cons_some hf]
      exact ⟨hpre, hsteps, hpost ▸ hrun⟩

/-- The steps that leave the state as it is can be left out. -/
theorem Run.filter {p : Occurrence σ ι ο → Bool} {s t : σ} {tr : List (Occurrence σ ι ο)}
    (h : M.Run s tr t) (hp : ∀ e ∈ tr, p e = false → e.post = e.pre) :
    M.Run s (tr.filter p) t := by
  rw [← List.filterMap_eq_filter]
  refine h.project (g := id) (fun e he _ hnone => hp e he ?_) fun e _ he e' hsome => ?_
  · exact Bool.eq_false_iff.2 fun htrue => by simp [htrue] at hnone
  · obtain ⟨rfl, -⟩ := Option.guard_eq_some_iff.1 hsome
    exact ⟨rfl, he, rfl⟩

/-- Steps of a projected run, in order, come from steps of the run, in order. -/
theorem exists_sublist_of_filterMap {α : Type*} {f : α → Option β} {l : List α} {k : List β}
    (h : k.Sublist (l.filterMap f)) : ∃ k' : List α, k'.Sublist l ∧ k'.map f = k.map some := by
  obtain ⟨k', hk', rfl⟩ := List.sublist_filterMap_iff.1 h
  refine ⟨k'.filter fun x => (f x).isSome, List.filter_sublist.trans hk', ?_⟩
  rw [List.map_filterMap_some_eq_filter_map_isSome, List.filter_map]
  rfl

/-- **The rule for two runs.**  If two steps from related states, on related
inputs, the first of them meeting `G`, put out the same and lead to related
states, then so do two runs. -/
theorem Run.relate {R : σ → σ → Prop} {I : ι → ι → Prop} {G : Occurrence σ ι ο → Prop}
    {s₁ s₂ t₁ t₂ : σ} {tr₁ tr₂ : List (Occurrence σ ι ο)} (h₁ : M.Run s₁ tr₁ t₁)
    (h₂ : M.Run s₂ tr₂ t₂) (h₀ : R s₁ s₂)
    (hin : List.Forall₂ I (tr₁.map (·.input)) (tr₂.map (·.input))) (hgood : ∀ e ∈ tr₁, G e)
    (hstep : ∀ e₁ e₂, M.Steps e₁ → M.Steps e₂ → G e₁ → I e₁.input e₂.input → R e₁.pre e₂.pre →
      e₂.output = e₁.output ∧ R e₁.post e₂.post) :
    tr₂.map (·.output) = tr₁.map (·.output) ∧ R t₁ t₂ := by
  induction tr₁ generalizing s₁ s₂ tr₂ with
  | nil =>
    rw [List.map_nil, List.forall₂_nil_left_iff, List.map_eq_nil_iff] at hin
    subst hin
    obtain rfl : s₁ = t₁ := h₁
    obtain rfl : s₂ = t₂ := h₂
    exact ⟨rfl, h₀⟩
  | cons e₁ tr₁ ih =>
    rw [List.map_cons, List.forall₂_cons_left_iff] at hin
    obtain ⟨i₂, l₂, hi, hin, hmap⟩ := hin
    obtain ⟨e₂, tr₂, rfl, rfl, rfl⟩ := List.map_eq_cons_iff.1 hmap
    obtain ⟨rfl, he₁, h₁⟩ := h₁
    obtain ⟨rfl, he₂, h₂⟩ := h₂
    obtain ⟨hout, hpost⟩ := hstep e₁ e₂ he₁ he₂ (hgood e₁ List.mem_cons_self) hi h₀
    obtain ⟨houts, hend⟩ := ih h₁ h₂ hpost hin fun e he => hgood e (List.mem_cons_of_mem _ he)
    exact ⟨by rw [List.map_cons, List.map_cons, hout, houts], hend⟩

end Machine
end Stepwise
