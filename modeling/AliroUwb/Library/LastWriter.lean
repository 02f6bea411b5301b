/-
# Loops that write into a record

A loop goes through a list and writes into a record in place: each element is
refused, which stops the loop and leaves the record as it is, or written over
what was there.  This is how a parser walks the attributes of a message that may
come in any order, repeated, interleaved or not at all.

When a loop body refuses by the element alone, the loop goes through exactly
when no element is refused (`walk_ok_iff`), and leaves the record as the elements
before the first refused one make it (`walk_error_iff`); and a part of the record
that only the elements with some key write holds, after the loop, what the last
of them wrote, or what it held before (`Written`, `written_of_walk`).  So of the
elements of one kind only the last counts (`latest_lasts`).
-/

import Mathlib.Data.List.Basic
import Mathlib.Data.List.Nodup

namespace LastWriter

variable {σ α β ε : Type*} {body : σ → α → Except ε σ} {key : α → Bool} {R : α → β → Prop}

/-- The loop: the result and the record it leaves. -/
def walk (body : σ → α → Except ε σ) : σ → List α → Except ε Unit × σ
  | s, [] => (.ok (), s)
  | s, a :: l =>
    match body s a with
    | .ok s' => walk body s' l
    | .error e => (.error e, s)

/-- The last element with the key. -/
def latest (key : α → Bool) (l : List α) : Option α := l.reverse.find? key

/-- An empty list has no latest. -/
@[simp] theorem latest_nil : latest key [] = none := rfl

/-- The first is the latest if no other is. -/
theorem latest_cons (a : α) (l : List α) :
    latest key (a :: l) = (latest key l).or (if key a then some a else none) := by
  rw [latest, latest, List.reverse_cons, List.find?_append, List.find?_singleton]

/-- After the loop over `l` the part that was `before` is `after`: what the last
element with the key wrote, when there is one. -/
def Written (key : α → Bool) (R : α → β → Prop) (l : List α) (before after : β) : Prop :=
  (∀ a, latest key l = some a → R a after) ∧ (latest key l = none → after = before)

/-- Without elements nothing is written. -/
theorem written_nil {before after : β} : Written key R [] before after ↔ after = before := by
  simp [Written]

/-- A single element writes if it has the key. -/
theorem written_singleton {a : α} {before after : β} : Written key R [a] before after ↔
    (key a = true → R a after) ∧ (key a = false → after = before) := by
  cases hk : key a <;> simp [Written, latest_cons, hk]

/-- First the one element, then the others. -/
theorem Written.cons {a : α} {l : List α} {b c d : β} (ha : Written key R [a] b c)
    (hl : Written key R l c d) : Written key R (a :: l) b d := by
  rw [written_singleton] at ha
  cases hlast : latest key l with
  | some a' =>
    rw [Written, latest_cons, hlast, Option.some_or]
    exact ⟨fun a'' h => hl.1 a'' (hlast.trans h), (nomatch ·)⟩
  | none =>
    rw [Written, latest_cons, hlast, Option.none_or, hl.2 hlast]
    cases hk : key a with
    | true => exact ⟨fun a'' h => Option.some.inj h ▸ ha.1 hk, (nomatch ·)⟩
    | false => exact ⟨fun a'' h => (Option.some_ne_none a'' h.symm).elim, fun _ => ha.2 hk⟩

/-- Where an element wrote, what was there before does not matter. -/
theorem Written.unique {l : List α} {b₁ b₂ c₁ c₂ : β} (h₁ : Written key R l b₁ c₁)
    (h₂ : Written key R l b₂ c₂) (hR : ∀ a c c', R a c → R a c' → c = c')
    (h : latest key l ≠ none) : c₁ = c₂ := by
  cases hl : latest key l with
  | none => exact absurd hl h
  | some a => exact hR a _ _ (h₁.1 a hl) (h₂.1 a hl)

/-- What was there before and the elements determine what is there after. -/
theorem Written.right_unique {l : List α} {b c c' : β} (h : Written key R l b c)
    (h' : Written key R l b c') (hR : ∀ a c c', R a c → R a c' → c = c') : c = c' := by
  cases hl : latest key l with
  | none => exact (h.2 hl).trans (h'.2 hl).symm
  | some a => exact hR a _ _ (h.1 a hl) (h'.1 a hl)

/-- Lists with the same last element with the key write the same. -/
theorem Written.congr {l l' : List α} {b c : β} (h : Written key R l b c)
    (hl : latest key l' = latest key l) : Written key R l' b c := by
  rw [Written, hl]
  exact h

/-- A part of the part. -/
theorem Written.map {γ : Type*} {S : α → γ → Prop} {l : List α} {before after : β} (f : β → γ)
    (h : Written key R l before after) (hS : ∀ a v, R a v → S a (f v)) :
    Written key S l (f before) (f after) :=
  ⟨fun a ha => hS a after (h.1 a ha), fun hl => congrArg f (h.2 hl)⟩

/-- What has changed has been written. -/
theorem Written.exists_latest {l : List α} {before after : β} (h : Written key R l before after)
    (hne : after ≠ before) : ∃ a, latest key l = some a ∧ R a after := by
  cases hl : latest key l with
  | none => exact absurd (h.2 hl) hne
  | some a => exact ⟨a, rfl, h.1 a hl⟩

/-- **A loop goes through when no element is refused.** -/
theorem walk_ok_iff {ok : α → Prop} (h : ∀ s a, (∃ s', body s a = .ok s') ↔ ok a) {s : σ}
    {l : List α} : (∃ t, walk body s l = (.ok (), t)) ↔ ∀ a ∈ l, ok a := by
  induction l generalizing s with
  | nil => simp [walk]
  | cons a l ih =>
    rw [List.forall_mem_cons, ← h s a, walk]
    cases hb : body s a with
    | ok s' => simpa using ih
    | error e => simp

/-- The elements of `l` before the first that is not `ok` are `taken`, and there is
such an element. -/
def StopsAfter (ok : α → Prop) (l taken : List α) : Prop :=
  ∃ a rest, l = taken ++ a :: rest ∧ (∀ b ∈ taken, ok b) ∧ ¬ ok a

/-- **A loop that stops has done what the elements before do.** -/
theorem walk_error_iff {ok : α → Prop} (h : ∀ s a, (∃ s', body s a = .ok s') ↔ ok a) {s t : σ}
    {l : List α} : (∃ e, walk body s l = (.error e, t)) ↔
      ∃ taken, StopsAfter ok l taken ∧ walk body s taken = (.ok (), t) := by
  constructor
  · rintro ⟨e, hwalk⟩
    induction l generalizing s with
    | nil => exact nomatch congrArg Prod.fst hwalk
    | cons a l ih =>
      rw [walk] at hwalk
      cases hb : body s a with
      | error e' =>
        rw [hb] at hwalk
        have hrefused : ¬ ok a := fun ha => by
          obtain ⟨s', hs'⟩ := (h s a).2 ha
          exact nomatch hb.symm.trans hs'
        exact ⟨[], ⟨a, l, rfl, by simp, hrefused⟩, congrArg (Prod.mk _) (congrArg Prod.snd hwalk)⟩
      | ok s' =>
        rw [hb] at hwalk
        obtain ⟨taken, ⟨b, rest, rfl, htaken, hrefused⟩, hdone⟩ := ih hwalk
        refine ⟨a :: taken, ⟨b, rest, rfl, ?_, hrefused⟩, ?_⟩
        · exact List.forall_mem_cons.2 ⟨(h s a).1 ⟨s', hb⟩, htaken⟩
        · rw [walk, hb]
          exact hdone
  · rintro ⟨taken, ⟨a, rest, rfl, -, hrefused⟩, hdone⟩
    induction taken generalizing s with
    | nil =>
      obtain rfl : s = t := congrArg Prod.snd hdone
      cases hb : body s a with
      | ok s' => exact absurd ((h s a).1 ⟨s', hb⟩) hrefused
      | error e => exact ⟨e, by rw [List.nil_append, walk, hb]⟩
    | cons b taken ih =>
      rw [walk] at hdone
      rw [List.cons_append, walk]
      cases hb : body s b with
      | ok s' =>
        rw [hb] at hdone
        exact ih hdone
      | error e =>
        rw [hb] at hdone
        exact nomatch congrArg Prod.fst hdone

/-- **The last writer wins:** a part that a loop body writes for the elements with
the key holds what the last of them wrote. -/
theorem written_of_walk {get : σ → β}
    (hstep : ∀ s a s', body s a = .ok s' → Written key R [a] (get s) (get s')) {s t : σ}
    {l : List α} (h : walk body s l = (.ok (), t)) : Written key R l (get s) (get t) := by
  induction l generalizing s with
  | nil =>
    obtain rfl : s = t := congrArg Prod.snd h
    exact written_nil.2 rfl
  | cons a l ih =>
    rw [walk] at h
    cases hb : body s a with
    | error e =>
      rw [hb] at h
      exact nomatch congrArg Prod.fst h
    | ok s' =>
      rw [hb] at h
      exact (hstep s a s' hb).cons (ih h)

/-- A part that no element writes stays, whatever the result. -/
theorem get_walk {get : σ → β} (hstep : ∀ s a s', body s a = .ok s' → get s' = get s) {s t : σ}
    {l : List α} {r : Except ε Unit} (h : walk body s l = (r, t)) : get t = get s := by
  induction l generalizing s with
  | nil => exact congrArg get (congrArg Prod.snd h).symm
  | cons a l ih =>
    rw [walk] at h
    cases hb : body s a with
    | ok s' =>
      rw [hb] at h
      exact (ih h).trans (hstep s a s' hb)
    | error e =>
      rw [hb] at h
      exact congrArg get (congrArg Prod.snd h).symm

/-! ### The last of each kind -/

/-- The latest is the last of those with the key. -/
theorem latest_eq_getLast? (key : α → Bool) (l : List α) :
    latest key l = (l.filter key).getLast? := by
  rw [latest, List.getLast?_eq_head?_reverse, ← List.filter_reverse, List.head?_filter]

/-- The latest is there, and has the key. -/
theorem mem_of_latest {l : List α} {a : α} (h : latest key l = some a) : a ∈ l ∧ key a = true :=
  ⟨List.mem_reverse.1 (List.mem_of_find?_eq_some h), List.find?_some h⟩

variable {κ : Type*} [DecidableEq κ] {kind : α → κ}

/-- The last element of each of the kinds. -/
def lasts (kinds : List κ) (kind : α → κ) (l : List α) : List α :=
  kinds.filterMap fun k => latest (fun a => decide (kind a = k)) l

/-- The lasts are there, and of the kinds. -/
theorem mem_of_mem_lasts {kinds : List κ} {l : List α} {a : α} (h : a ∈ lasts kinds kind l) :
    a ∈ l ∧ kind a ∈ kinds := by
  obtain ⟨k, hk, ha⟩ := List.mem_filterMap.1 h
  obtain ⟨hmem, hkind⟩ := mem_of_latest ha
  rw [of_decide_eq_true hkind]
  exact ⟨hmem, hk⟩

/-- There is one of each kind. -/
theorem nodup_lasts {kinds : List κ} (h : kinds.Nodup) (l : List α) :
    (lasts kinds kind l).Nodup := by
  refine List.Nodup.filterMap (fun k k' a hk hk' => ?_) h
  rw [← of_decide_eq_true (mem_of_latest hk).2, ← of_decide_eq_true (mem_of_latest hk').2]

/-- **Only the last of each kind counts.** -/
theorem latest_lasts {kinds : List κ} (h : kinds.Nodup) (l : List α) {k : κ} (hk : k ∈ kinds) :
    latest (fun a => decide (kind a = k)) (lasts kinds kind l) =
      latest (fun a => decide (kind a = k)) l := by
  induction kinds with
  | nil => cases hk
  | cons k' kinds ih =>
    obtain ⟨hnot, hnodup⟩ := List.nodup_cons.1 h
    rcases List.mem_cons.1 hk with rfl | hk
    · -- no other kind brings an element of this one
      have hnone : latest (fun a => decide (kind a = k)) (lasts kinds kind l) = none := by
        refine Option.eq_none_iff_forall_ne_some.2 fun a ha => hnot ?_
        obtain ⟨hmem, hkind⟩ := mem_of_latest ha
        rw [← of_decide_eq_true hkind]
        exact (mem_of_mem_lasts hmem).2
      rw [lasts, List.filterMap_cons]
      cases hl : latest (fun a => decide (kind a = k)) l with
      | none => exact hnone
      | some a =>
        dsimp only
        rw [latest_cons, if_pos (mem_of_latest hl).2]
        exact (congrArg (Option.or · (some a)) hnone).trans (Option.none_or ..)
    · have hne : k' ≠ k := fun heq => hnot (heq ▸ hk)
      rw [lasts, List.filterMap_cons]
      cases hl : latest (fun a => decide (kind a = k')) l with
      | none => exact ih hnodup hk
      | some a =>
        have hkind : kind a = k' := of_decide_eq_true (mem_of_latest hl).2
        dsimp only
        rw [latest_cons, if_neg (by rw [hkind]; simpa using hne), Option.or_none]
        exact ih hnodup hk

end LastWriter
