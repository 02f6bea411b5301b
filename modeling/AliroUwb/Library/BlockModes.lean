/-
# Block modes over an arbitrary cipher

What cipher-block chaining and counter mode are, for any function on blocks.

A byte string is cut into `pieces` of a fixed length; `chain` runs a cipher over
blocks, each combined with what the cipher returned before; `mask` is the byte
string that the outputs of a cipher on a sequence of counters make up.

`wrap` combines a message with a mask of its length and appends a tag; `unwrap`
undoes it and compares the tag.  `unwrap_eq_some_iff` is all there is to say:
what unwraps to a message is what the message wraps to, and nothing else is.  It holds for
every tag, so it says nothing about how hard a tag is to forge.
-/

import Mathlib.Algebra.Group.Nat.Defs
import Mathlib.Data.List.Basic

namespace BlockModes

variable {α β : Type*}

/-! ### Pieces -/

/-- `l` in pieces of `n` elements, the last one possibly shorter. -/
def pieces (n : ℕ) (l : List α) : List (List α) :=
  (List.range ((l.length + n - 1) / n)).map fun i => (l.drop (i * n)).take n

/-- An empty list has no pieces. -/
@[simp] theorem pieces_nil {n : ℕ} : pieces n ([] : List α) = [] := by
  rcases Nat.eq_zero_or_pos n with rfl | hn
  · simp [pieces]
  · have h : (0 + n - 1) / n = 0 := Nat.div_eq_of_lt (by omega)
    rw [pieces, List.length_nil, h]
    rfl

/-- The first piece, and the rest. -/
theorem pieces_of_ne_nil {n : ℕ} (hn : 0 < n) {l : List α} (hl : l ≠ []) :
    pieces n l = l.take n :: pieces n (l.drop n) := by
  have hpos : 0 < l.length := List.length_pos_iff.2 hl
  have hcount : (l.length + n - 1) / n = ((l.drop n).length + n - 1) / n + 1 := by
    rw [List.length_drop]
    rcases Nat.lt_or_ge l.length n with h | h
    · have h₁ : l.length + n - 1 = l.length - 1 + n := by omega
      have h₂ : l.length - n + n - 1 = n - 1 := by omega
      rw [h₁, h₂, Nat.add_div_right _ hn, Nat.div_eq_of_lt (by omega), Nat.div_eq_of_lt (by omega)]
    · have h₁ : l.length + n - 1 = l.length - n + n - 1 + n := by omega
      rw [h₁, Nat.add_div_right _ hn]
  rw [pieces, hcount, List.range_succ_eq_map, List.map_cons, List.map_map, Nat.zero_mul,
    List.drop_zero, pieces]
  refine congrArg (l.take n :: ·) (List.map_congr_left fun i _ => ?_)
  rw [Function.comp_apply, List.drop_drop, Nat.succ_mul, Nat.add_comm n]

/-- Whole pieces in front stay what they are. -/
theorem pieces_append {n : ℕ} (hn : 0 < n) {k : ℕ} {l₁ : List α} (h : l₁.length = k * n)
    (l₂ : List α) : pieces n (l₁ ++ l₂) = pieces n l₁ ++ pieces n l₂ := by
  induction k generalizing l₁ with
  | zero =>
    obtain rfl : l₁ = [] := List.length_eq_zero_iff.1 (by omega)
    rw [List.nil_append, pieces_nil, List.nil_append]
  | succ k ih =>
    have hlen : n ≤ l₁.length := by rw [h, Nat.succ_mul]; omega
    have hne : l₁ ≠ [] := fun h₀ => by rw [h₀, List.length_nil] at hlen; omega
    have hrest : (l₁.drop n).length = k * n := by
      rw [List.length_drop, h, Nat.succ_mul, Nat.add_sub_cancel]
    rw [pieces_of_ne_nil hn hne, pieces_of_ne_nil hn (List.append_ne_nil_of_left_ne_nil hne l₂),
      List.take_append_of_le_length hlen, List.drop_append_of_le_length hlen, ih hrest,
      List.cons_append]

/-- `l` with zeros up to the next multiple of `n`. -/
def padded [Zero α] (n : ℕ) (l : List α) : List α :=
  l ++ List.replicate ((n - l.length % n) % n) 0

/-- `l` with zeros up to the length `n`. -/
def filled [Zero α] (n : ℕ) (l : List α) : List α := l ++ List.replicate (n - l.length) 0

/-- What is padded is a number of whole pieces. -/
theorem length_padded [Zero α] {n : ℕ} (hn : 0 < n) (l : List α) :
    ∃ k, (padded n l).length = k * n := by
  have hdiv := Nat.div_add_mod l.length n
  have hlt := Nat.mod_lt l.length hn
  rw [padded, List.length_append, List.length_replicate]
  rcases Nat.eq_zero_or_pos (l.length % n) with h | h
  · refine ⟨l.length / n, ?_⟩
    rw [h, Nat.sub_zero, Nat.mod_self, Nat.mul_comm]
    omega
  · refine ⟨l.length / n + 1, ?_⟩
    rw [Nat.mod_eq_of_lt (by omega), Nat.succ_mul, Nat.mul_comm]
    omega

/-- Padding fills the last piece. -/
theorem pieces_padded [Zero α] {n : ℕ} (hn : 0 < n) (l : List α) :
    pieces n (padded n l) = (pieces n l).map (filled n) := by
  induction h : l.length using Nat.strongRecOn generalizing l with
  | _ len ih =>
  rcases List.eq_nil_or_concat l with rfl | ⟨_, _, hne⟩
  · simp [padded]
  replace hne : l ≠ [] := by rw [hne]; simp
  have hpos : 0 < l.length := List.length_pos_iff.2 hne
  rw [pieces_of_ne_nil hn hne, List.map_cons, pieces_of_ne_nil hn (by simp [padded, hne])]
  rcases Nat.lt_or_ge l.length n with hlt | hge
  · -- the only piece, and it is short
    have hpad : padded n l = filled n l := by
      rw [padded, filled, Nat.mod_eq_of_lt hlt, Nat.mod_eq_of_lt (by omega)]
    have hlen : (filled n l).length = n := by
      rw [filled, List.length_append, List.length_replicate]
      omega
    rw [hpad, List.take_of_length_le (by omega), List.drop_of_length_le (by omega),
      List.take_of_length_le (by omega), List.drop_of_length_le (by omega), pieces_nil,
      List.map_nil]
  · have hfull : filled n (l.take n) = l.take n := by
      rw [filled, List.length_take, Nat.min_eq_left hge, Nat.sub_self, List.replicate_zero,
        List.append_nil]
    have hdrop : (padded n l).drop n = padded n (l.drop n) := by
      rw [padded, padded, List.drop_append_of_le_length hge, List.length_drop,
        ← Nat.mod_eq_sub_mod hge]
    rw [hfull, hdrop, ih (l.drop n).length (by rw [List.length_drop]; omega) _ rfl, padded,
      List.take_append_of_le_length hge]

/-! ### Cipher-block chaining -/

/-- The cipher `E` over `blocks`, each combined by `op` with what came before. -/
def chain (E : β → β) (op : β → β → β) (x : β) (blocks : List β) : β :=
  blocks.foldl (fun x block => E (op x block)) x

/-- Without blocks the value is the initial one. -/
@[simp] theorem chain_nil (E : β → β) (op : β → β → β) (x : β) : chain E op x [] = x := rfl

/-- The first block is taken in first. -/
@[simp] theorem chain_cons (E : β → β) (op : β → β → β) (x b : β) (blocks : List β) :
    chain E op x (b :: blocks) = chain E op (E (op x b)) blocks := rfl

/-- Blocks can be taken in at two goes. -/
theorem chain_append (E : β → β) (op : β → β → β) (x : β) (blocks blocks' : List β) :
    chain E op x (blocks ++ blocks') = chain E op (chain E op x blocks) blocks' :=
  List.foldl_append

/-! ### Counter mode -/

/-- The first `len` elements of the blocks `S 0`, `S 1`, … of `n` elements. -/
def mask (n : ℕ) (S : ℕ → List α) (len : ℕ) : List α :=
  ((List.range ((len + n - 1) / n)).flatMap S).take len

/-- `k` blocks of `n` elements. -/
theorem length_flatMap_range {n : ℕ} {S : ℕ → List α} (hS : ∀ i, (S i).length = n) (k : ℕ) :
    ((List.range k).flatMap S).length = k * n := by
  induction k with
  | zero => simp
  | succ k ih => simp [List.range_succ, ih, hS, Nat.succ_mul]

/-- The stream is as long as is asked for. -/
theorem length_mask {n : ℕ} (hn : 0 < n) {S : ℕ → List α} (hS : ∀ i, (S i).length = n)
    (len : ℕ) : (mask n S len).length = len := by
  have hdiv := Nat.div_add_mod (len + n - 1) n
  have hlt := Nat.mod_lt (len + n - 1) hn
  rw [mask, List.length_take, length_flatMap_range hS, Nat.mul_comm]
  omega

/-- The mask of a string is that of its first piece and that of the rest. -/
theorem mask_succ {n : ℕ} (hn : 0 < n) {S : ℕ → List α} (hS : ∀ i, (S i).length = n) {len : ℕ}
    (hlen : 0 < len) :
    mask n S len = (S 0).take len ++ mask n (fun i => S (i + 1)) (len - n) := by
  have hcount : (len + n - 1) / n = (len - n + n - 1) / n + 1 := by
    rcases Nat.lt_or_ge len n with h | h
    · have h₁ : len + n - 1 = len - 1 + n := by omega
      have h₂ : len - n + n - 1 = n - 1 := by omega
      rw [h₁, h₂, Nat.add_div_right _ hn, Nat.div_eq_of_lt (by omega), Nat.div_eq_of_lt (by omega)]
    · have h₁ : len + n - 1 = len - n + n - 1 + n := by omega
      rw [h₁, Nat.add_div_right _ hn]
  rw [mask, hcount, List.range_succ_eq_map, List.flatMap_cons, List.flatMap_map, mask,
    List.take_append, hS]

/-- A string under its mask: its first piece, and the rest. -/
theorem zipWith_mask (op : α → α → α) {n : ℕ} (hn : 0 < n) {S : ℕ → List α}
    (hS : ∀ i, (S i).length = n) {l : List α} (hl : l ≠ []) :
    List.zipWith op l (mask n S l.length) = List.zipWith op (l.take n) (S 0) ++
      List.zipWith op (l.drop n) (mask n (fun i => S (i + 1)) (l.drop n).length) := by
  rw [mask_succ hn hS (List.length_pos_iff.2 hl), ← List.length_drop]
  rcases Nat.lt_or_ge l.length n with hlt | hge
  · -- there is only one piece
    have hshort : l.length ≤ (S 0).length := by rw [hS]; omega
    have htake : l.take n = l := List.take_of_length_le (by omega)
    have hdrop : l.drop n = [] := List.drop_of_length_le (by omega)
    have hmask : mask n (fun i => S (i + 1)) 0 = [] := List.take_zero
    have hmin : List.zipWith op l (S 0) = List.zipWith op l ((S 0).take l.length) := by
      rw [List.zipWith_eq_zipWith_take_min, Nat.min_eq_left hshort, List.take_length]
    rw [hdrop, List.length_nil, hmask, List.append_nil, List.zipWith_nil_left, List.append_nil,
      htake, hmin]
  · have hwhole : (S 0).take l.length = S 0 := List.take_of_length_le (by rw [hS]; omega)
    have hlen : (l.take n).length = (S 0).length := by
      rw [List.length_take, hS, Nat.min_eq_left hge]
    rw [hwhole, ← List.zipWith_append hlen, List.take_append_drop]

/-! ### Masked and tagged messages -/

variable (op : α → α → α) (mask : ℕ → List α) (tag : List α → List α)

/-- The message under the mask, and its tag. -/
def wrap (m : List α) : List α := List.zipWith op m (mask m.length) ++ tag m

/-- The message that a string of a masked message and a tag of `tagLength`
elements stands for, if the tag is right. -/
def unwrap [DecidableEq α] (tagLength : ℕ) (c : List α) : Option (List α) :=
  let len := c.length - tagLength
  let m := List.zipWith op (c.take len) (mask len)
  if tag m = c.drop len then some m else none

variable {op mask tag}

/-- A mask that is applied twice is gone. -/
theorem zipWith_zipWith (hop : ∀ a b, op (op a b) b = a) {l k : List α}
    (hlen : l.length ≤ k.length) : List.zipWith op (List.zipWith op l k) k = l := by
  induction l generalizing k with
  | nil => rfl
  | cons a l ih =>
    cases k with
    | nil => cases hlen
    | cons b k =>
      rw [List.zipWith_cons_cons, List.zipWith_cons_cons, hop, ih (Nat.le_of_succ_le_succ hlen)]

/-- A wrapped message is longer by its tag. -/
theorem length_wrap (hmask : ∀ n, (mask n).length = n) {tagLength : ℕ}
    (htag : ∀ m, (tag m).length = tagLength) (m : List α) :
    (wrap op mask tag m).length = m.length + tagLength := by
  rw [wrap, List.length_append, List.length_zipWith, hmask, Nat.min_self, htag]

/-- **A string unwraps to a message exactly if the message wraps to it.** -/
theorem unwrap_eq_some_iff [DecidableEq α] (hop : ∀ a b, op (op a b) b = a)
    (hmask : ∀ n, (mask n).length = n) {tagLength : ℕ} (htag : ∀ m, (tag m).length = tagLength)
    {c m : List α} : unwrap op mask tag tagLength c = some m ↔ wrap op mask tag m = c := by
  constructor
  · intro h
    unfold unwrap at h
    dsimp only at h
    split at h
    · rename_i heq
      obtain rfl := Option.some.inj h
      have hdrop : c.length - (c.length - tagLength) = tagLength := by
        rw [← List.length_drop, ← heq, htag]
      have hlen : (List.zipWith op (c.take (c.length - tagLength))
          (mask (c.length - tagLength))).length = c.length - tagLength := by
        rw [List.length_zipWith, List.length_take, hmask]
        omega
      rw [wrap, hlen, heq, zipWith_zipWith hop (by rw [List.length_take, hmask]; omega),
        List.take_append_drop]
    · cases h
  · rintro rfl
    have hlen : (wrap op mask tag m).length - tagLength = m.length := by
      rw [length_wrap hmask htag, Nat.add_sub_cancel]
    have hmasked : (List.zipWith op m (mask m.length)).length = m.length := by
      rw [List.length_zipWith, hmask, Nat.min_self]
    have htake : (wrap op mask tag m).take m.length = List.zipWith op m (mask m.length) := by
      rw [wrap, List.take_left' hmasked]
    have hdrop : (wrap op mask tag m).drop m.length = tag m := by
      rw [wrap, List.drop_left' hmasked]
    unfold unwrap
    dsimp only
    rw [hlen, htake, hdrop, zipWith_zipWith hop (Nat.le_of_eq (hmask _).symm),
      if_pos rfl]

end BlockModes
