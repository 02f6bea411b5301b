/-
# Wire formats over an arbitrary alphabet

A wire format has a layout: the elements `layout x` that a value `x` is written
as.  An encoder writes them over the start of a buffer, one field after the
other at fixed positions (`overwrite`); a decoder reads a value off the start of
a message.

`Inverse` says that the two are inverse bijections between the valid values and
the messages that the decoder accepts, cut to what they declare.  It follows
from three facts (`inverse_of_layout`): the encoder writes the layout, the
decoder reads it back whatever follows, and what the decoder accepts starts with
the layout of what it returns.

A format may also put a separator between two parts instead of their lengths; it
is read in one way only if the first part is free of it (`append_separator_inj`).
-/

import Mathlib.Data.List.Basic

namespace WireFormat

variable {α β ε : Type*}

/-! ### Writing over a buffer -/

/-- `output` after `piece` is written over it from position `i` on. -/
def overwrite (output : List β) (i : ℕ) (piece : List β) : List β :=
  output.take i ++ piece ++ output.drop (i + piece.length)

/-- `output` with `written` over its first elements. -/
def filledWith (output written : List β) : List β := written ++ output.drop written.length

/-- Overwriting at the front is filling. -/
theorem overwrite_zero (output piece : List β) :
    overwrite output 0 piece = filledWith output piece := by
  rw [overwrite, filledWith, List.take_zero, List.nil_append, Nat.zero_add]

/-- Writing on where the last write ended. -/
theorem overwrite_filledWith (output piece : List β) {written : List β} {i : ℕ}
    (h : written.length = i) :
    overwrite (filledWith output written) i piece = filledWith output (written ++ piece) := by
  subst h
  rw [overwrite, filledWith, filledWith, List.take_left, List.drop_append,
    List.drop_of_length_le (Nat.le_add_right _ _), List.nil_append, List.drop_drop,
    Nat.add_sub_cancel_left, List.length_append]

/-- Filling a buffer keeps its length. -/
theorem length_filledWith {output written : List β} (h : written.length ≤ output.length) :
    (filledWith output written).length = output.length := by
  rw [filledWith, List.length_append, List.length_drop]
  omega

/-! ### Filling two halves -/

/-- Element `k` written behind the first `k`. -/
theorem set_map_range {n k : ℕ} (hk : k < n) (f : ℕ → β) (x : β) :
    ((List.range k).map f ++ List.replicate (n - k) x).set k (f k) =
      (List.range (k + 1)).map f ++ List.replicate (n - (k + 1)) x := by
  have hlen : ((List.range k).map f).length = k := by rw [List.length_map, List.length_range]
  have hrest : List.replicate (n - k) x = x :: List.replicate (n - (k + 1)) x := by
    rw [← List.replicate_succ]
    congr 1
    omega
  rw [List.set_append_right _ _ (Nat.le_of_eq hlen), hlen, Nat.sub_self, hrest,
    List.set_cons_zero, List.range_succ, List.map_append, List.append_assoc]
  rfl

/-- A loop that writes element `i` of two halves in round `i`. -/
theorem foldl_set_halves (n : ℕ) (f g : ℕ → β) (x : β) :
    (List.range n).foldl (fun l i => (l.set i (f i)).set (n + i) (g i))
      (List.replicate (n + n) x) = (List.range n).map f ++ (List.range n).map g := by
  have hfill (h : ℕ → β) (k : ℕ) (hk : k ≤ n) :
      ((List.range k).map h ++ List.replicate (n - k) x).length = n := by
    rw [List.length_append, List.length_map, List.length_range, List.length_replicate]
    omega
  -- after `k` rounds
  have hround (k : ℕ) (hk : k ≤ n) :
      (List.range k).foldl (fun l i => (l.set i (f i)).set (n + i) (g i))
        (List.replicate (n + n) x) =
      ((List.range k).map f ++ List.replicate (n - k) x) ++
        ((List.range k).map g ++ List.replicate (n - k) x) := by
    induction k with
    | zero => exact (List.replicate_append_replicate).symm
    | succ k ih =>
      rw [List.range_succ, List.foldl_append, ih (by omega), List.foldl_cons, List.foldl_nil,
        List.set_append_left _ _ (by rw [hfill f k (by omega)]; omega), set_map_range (by omega),
        List.set_append_right _ _ (by rw [hfill f (k + 1) hk]; omega), hfill f (k + 1) hk,
        Nat.add_sub_cancel_left, set_map_range (by omega), List.range_succ]
  rw [hround n (Nat.le_refl n), Nat.sub_self, List.replicate_zero, List.append_nil,
    List.append_nil]

/-! ### Separators -/

/-- **A separator that the first parts do not contain splits a list in one way**,
whatever the second parts contain. -/
theorem append_separator_inj {sep : β} {l l' r r' : List β} (h : sep ∉ l) (h' : sep ∉ l') :
    l ++ sep :: r = l' ++ sep :: r' ↔ l = l' ∧ r = r' := by
  constructor
  · intro heq
    induction l generalizing l' with
    | nil =>
      cases l' with
      | nil => exact ⟨rfl, (List.cons.inj heq).2⟩
      | cons a l' => exact absurd ((List.cons.inj heq).1 ▸ List.mem_cons_self) h'
    | cons a l ih =>
      cases l' with
      | nil => exact absurd ((List.cons.inj heq).1 ▸ List.mem_cons_self) h
      | cons a' l' =>
        obtain ⟨rfl, htail⟩ := List.cons.inj heq
        have hne := List.not_mem_of_not_mem_cons h
        have hne' := List.not_mem_of_not_mem_cons h'
        obtain ⟨rfl, rfl⟩ := ih hne hne' htail
        exact ⟨rfl, rfl⟩
  · rintro ⟨rfl, rfl⟩
    rfl

/-! ### Inverse bijections -/

/-- **`encode` and `decode` are inverse bijections.**  `encode x output` returns
the number of elements it has written and the buffer after it. -/
structure Inverse (encode : α → List β → Except ε ℕ × List β) (decode : List β → Except ε α)
    (Valid : α → Prop) (size : α → ℕ) : Prop where
  /-- Exactly `size x` elements are written and nothing beyond; they decode to
  `x`, whatever follows them. -/
  decode_encode : ∀ x output, Valid x → size x ≤ output.length →
    ∃ written, written.length = size x ∧
      encode x output = (.ok (size x), written ++ output.drop (size x)) ∧
      ∀ rest, decode (written ++ rest) = .ok x
  /-- What is accepted is written again as it was. -/
  encode_decode : ∀ b x, decode b = .ok x → Valid x ∧ size x ≤ b.length ∧
    ∀ output, size x ≤ output.length →
      encode x output = (.ok (size x), b.take (size x) ++ output.drop (size x))

/-- **A layout that is written, read back and found again makes the two inverse.** -/
theorem inverse_of_layout {encode : α → List β → Except ε ℕ × List β}
    {decode : List β → Except ε α} {Valid : α → Prop} {size : α → ℕ} (layout : α → List β)
    (hlen : ∀ x, (layout x).length = size x)
    (hwrite : ∀ x output, Valid x → size x ≤ output.length →
      encode x output = (.ok (size x), filledWith output (layout x)))
    (hread : ∀ x rest, Valid x → decode (layout x ++ rest) = .ok x)
    (hfound : ∀ b x, decode b = .ok x → Valid x ∧ layout x <+: b) :
    Inverse encode decode Valid size where
  decode_encode x output hx ho := by
    refine ⟨layout x, hlen x, ?_, fun rest => hread x rest hx⟩
    rw [hwrite x output hx ho, filledWith, hlen]
  encode_decode b x h := by
    obtain ⟨hx, hpre⟩ := hfound b x h
    refine ⟨hx, hlen x ▸ hpre.length_le, fun output ho => ?_⟩
    rw [hwrite x output hx ho, filledWith, List.prefix_iff_eq_take.1 hpre, List.length_take,
      hlen, Nat.min_eq_left (hlen x ▸ hpre.length_le)]

end WireFormat
