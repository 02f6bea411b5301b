/-
# Counter with CBC-MAC

The authenticated encryption mode CCM, as RFC 3610 and NIST SP 800-38C define
it, over an arbitrary cipher on blocks of 16 bytes.

What is authenticated is one flat byte string: the first block with flags,
nonce and message length, then the associated data behind its length, then the
message, the latter two padded with zeros to whole blocks.  The MAC of its
blocks, truncated, is the tag; the message and the tag are masked with the
cipher's outputs on counter blocks.
-/

import AliroUwb.Library.BlockModes
import Mathlib.Data.UInt

namespace Ccm

open BlockModes

/-- 16 bytes. -/
abbrev Block := { l : List UInt8 // l.length = 16 }

namespace Block

/-- The first 16 bytes of `l`, filled up with zeros. -/
def ofBytes (l : List UInt8) : Block :=
  ⟨l.take 16 ++ List.replicate (16 - l.length) 0, by
    rw [List.length_append, List.length_take, List.length_replicate]; omega⟩

/-- Byte by byte. -/
def xor (a b : Block) : Block :=
  ⟨List.zipWith (· ^^^ ·) a.1 b.1, by rw [List.length_zipWith, a.2, b.2]; rfl⟩

/-- A block is filled up with zeros. -/
theorem ofBytes_filled (l : List UInt8) : ofBytes (filled 16 l) = ofBytes l := by
  refine Subtype.ext ?_
  rcases Nat.lt_or_ge l.length 16 with h | h
  · have hlen : (filled 16 l).length = 16 := by
      rw [filled, List.length_append, List.length_replicate]
      omega
    simp only [ofBytes]
    rw [hlen, Nat.sub_self, List.replicate_zero, List.append_nil,
      List.take_of_length_le (Nat.le_of_eq hlen), List.take_of_length_le (Nat.le_of_lt h), filled]
  · rw [filled, Nat.sub_eq_zero_of_le h, List.replicate_zero, List.append_nil]

end Block

/-- A byte string in blocks, the last one filled up with zeros. -/
def blocks (l : List UInt8) : List Block := (pieces 16 l).map Block.ofBytes

/-- An empty list has no blocks. -/
@[simp] theorem blocks_nil : blocks [] = [] := by rw [blocks, pieces_nil, List.map_nil]

/-- The first sixteen bytes are the first block. -/
theorem blocks_of_ne_nil {l : List UInt8} (h : l ≠ []) :
    blocks l = Block.ofBytes (l.take 16) :: blocks (l.drop 16) := by
  rw [blocks, pieces_of_ne_nil (by decide) h, List.map_cons, blocks]

/-- Padding in front of a border keeps the blocks on both sides apart. -/
theorem blocks_padded_append (l l' : List UInt8) :
    blocks (padded 16 l ++ l') = blocks l ++ blocks l' := by
  obtain ⟨k, hk⟩ := length_padded (n := 16) (by decide) l
  rw [blocks, pieces_append (by decide) hk, List.map_append, pieces_padded (by decide),
    List.map_map, blocks, blocks]
  refine congrArg (· ++ _) (List.map_congr_left fun x _ => ?_)
  exact Block.ofBytes_filled x

/-- Padding with zeros changes no block. -/
theorem blocks_padded (l : List UInt8) : blocks (padded 16 l) = blocks l := by
  have h := blocks_padded_append l []
  rwa [List.append_nil, blocks_nil, List.append_nil] at h

/-- The sizes of CCM: of the tag, and of the length field. -/
structure Sizes where
  M : ℕ
  L : ℕ

/-- `v` in `n` bytes, the most significant one first. -/
def octets (n v : ℕ) : List UInt8 := (List.range n).reverse.map fun i => UInt8.ofNat (v / 256 ^ i)

/-- The associated data behind their length. -/
def encodeAad (a : List UInt8) : List UInt8 :=
  if a.length = 0 then []
  else if a.length < 2 ^ 16 - 2 ^ 8 then octets 2 a.length ++ a
  else if a.length < 2 ^ 32 then [0xFF, 0xFE] ++ octets 4 a.length ++ a
  else [0xFF, 0xFF] ++ octets 8 a.length ++ a

/-- The flags of the first block. -/
def macFlags (z : Sizes) (a : List UInt8) : UInt8 :=
  UInt8.ofNat (64 * (if a.length = 0 then 0 else 1) + 8 * ((z.M - 2) / 2) + (z.L - 1))

/-- `B_0`. -/
def firstBlock (z : Sizes) (nonce a : List UInt8) (messageLength : ℕ) : List UInt8 :=
  macFlags z a :: nonce ++ octets z.L messageLength

/-- What the MAC is taken of: `B_0`, `B_1`, … in one string. -/
def formatted (z : Sizes) (nonce a m : List UInt8) : List UInt8 :=
  firstBlock z nonce a m.length ++ padded 16 (encodeAad a) ++ padded 16 m

/-- The CBC-MAC of a string of whole blocks. -/
def cbcMac (E : Block → Block) (s : List UInt8) : Block :=
  match blocks s with
  | [] => Block.ofBytes []
  | block :: rest => chain E Block.xor (E block) rest

/-- `A_i`. -/
def counterBlock (z : Sizes) (nonce : List UInt8) (i : ℕ) : Block :=
  Block.ofBytes (UInt8.ofNat (z.L - 1) :: nonce ++ octets z.L i)

/-- `S_i`. -/
def keyBlock (z : Sizes) (E : Block → Block) (nonce : List UInt8) (i : ℕ) : Block :=
  E (counterBlock z nonce i)

/-- The first `len` bytes of `S_1`, `S_2`, …. -/
def keystream (z : Sizes) (E : Block → Block) (nonce : List UInt8) (len : ℕ) : List UInt8 :=
  mask 16 (fun i => (keyBlock z E nonce (i + 1)).1) len

/-- The tag under `S_0`. -/
def encryptedTag (z : Sizes) (E : Block → Block) (nonce a m : List UInt8) : List UInt8 :=
  List.zipWith (· ^^^ ·) ((cbcMac E (formatted z nonce a m)).1.take z.M)
    ((keyBlock z E nonce 0).1.take z.M)

/-- **CCM encryption** of the message `m` with the associated data `a`. -/
def encrypt (z : Sizes) (E : Block → Block) (nonce a m : List UInt8) : List UInt8 :=
  wrap (· ^^^ ·) (keystream z E nonce) (encryptedTag z E nonce a) m

/-- The MAC in blocks: the first one, those of the associated data, those of the
message. -/
theorem cbcMac_formatted (z : Sizes) (E : Block → Block) (nonce a m : List UInt8)
    (hlen : (firstBlock z nonce a m.length).length = 16) :
    cbcMac E (formatted z nonce a m) =
      chain E Block.xor (E (Block.ofBytes (firstBlock z nonce a m.length)))
        (blocks (encodeAad a) ++ blocks m) := by
  have hne : firstBlock z nonce a m.length ≠ [] := by simp [firstBlock]
  have hblocks : blocks (formatted z nonce a m) =
      Block.ofBytes (firstBlock z nonce a m.length) :: (blocks (encodeAad a) ++ blocks m) := by
    rw [formatted, List.append_assoc, blocks_of_ne_nil (List.append_ne_nil_of_left_ne_nil hne _),
      List.take_left' hlen, List.drop_left' hlen, blocks_padded_append, blocks_padded]
  rw [cbcMac, hblocks]

end Ccm
