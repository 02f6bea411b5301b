/-
# The crypto provider

`include/uwb/crypto/ICryptoProvider.hpp`: the platform port for AES.  AES
itself (Mbed TLS behind `MbedTlsCryptoProvider`) is outside the repository, so
the block cipher and AES-CMAC are arbitrary functions here; what the engines
add is that every single call may fail instead of returning a value.

Which calls fail is decided by `Faults`, the outcomes of the calls still to
come: `CryptoM` computations consume them call by call.  `value x` is what `x`
returns when no call fails, and `Steady` says that a computation that returns
at all returns that value.  `Makes n x` counts the calls of `x`, which fails just
when one of them does.
-/

import AliroUwb.Core.Types
import Mathlib.Data.Stream.Init

namespace AliroUwb
namespace Crypto

/-- The values behind `ICryptoProvider`. -/
structure CryptoProvider where
  aes128 : Bytes 16 → Bytes 16 → Bytes 16
  cmac : List UInt8 → List UInt8 → Bytes 16

/-- The outcomes of the provider calls to come: `none` succeeds, `some e` fails
with `e`. -/
abbrev Faults := Stream' (Option StatusCode)

/-- No provider call fails. -/
def noFaults : Faults := Stream'.const none

/-- Computations that call the provider and may fail. -/
abbrev CryptoM := ExceptT StatusCode (StateM Faults)

/-- One provider call whose value is `a`. -/
def call {α : Type} (a : α) : CryptoM α := fun faults =>
  match faults.head with
  | none => (.ok a, faults.tail)
  | some e => (.error e, faults.tail)

/-- `ICryptoProvider::aes128EcbEncrypt`. -/
def aes128EcbEncrypt (P : CryptoProvider) (key plaintext : Bytes 16) : CryptoM (Bytes 16) :=
  call (P.aes128 key plaintext)

/-- `ICryptoProvider::aesCmac`. -/
def aesCmac (P : CryptoProvider) (key message : List UInt8) : CryptoM (Bytes 16) :=
  call (P.cmac key message)

/-- What `x` returns when no provider call fails. -/
def value {α : Type} (x : CryptoM α) : Except StatusCode α := (x noFaults).1

/-- How two computations run one after the other. -/
theorem bind_faults {α β : Type} (x : StateM Faults α) (k : α → StateM Faults β)
    (faults : Faults) : (x >>= k) faults = k (x faults).1 (x faults).2 := rfl

/-- Without faults, `x` leaves none behind. -/
def KeepsQuiet {α : Type} (x : StateM Faults α) : Prop := (x noFaults).2 = noFaults

/-- A computation that calls nothing leaves the faults alone. -/
theorem KeepsQuiet.pure {α : Type} (a : α) : KeepsQuiet (Pure.pure a : StateM Faults α) := rfl

/-- Computations in sequence keep quiet if each does. -/
theorem KeepsQuiet.bind {α β : Type} {x : StateM Faults α} {k : α → StateM Faults β}
    (hx : KeepsQuiet x) (hk : ∀ a, KeepsQuiet (k a)) : KeepsQuiet (x >>= k) := by
  rw [KeepsQuiet, bind_faults, hx]
  exact hk _

/-- Nothing can fail after `faults'` if nothing could fail after `faults`. -/
def StaysQuiet (faults faults' : Faults) : Prop := faults = noFaults → faults' = noFaults

/-- Nothing has happened. -/
theorem StaysQuiet.refl (faults : Faults) : StaysQuiet faults faults := id

/-- One stretch of calls after the other. -/
theorem StaysQuiet.trans {f₁ f₂ f₃ : Faults} (h₁ : StaysQuiet f₁ f₂) (h₂ : StaysQuiet f₂ f₃) :
    StaysQuiet f₁ f₃ := fun h => h₂ (h₁ h)

/-- A computation that keeps quiet takes quiet faults to quiet ones. -/
theorem KeepsQuiet.staysQuiet {α : Type} {x : StateM Faults α} (h : KeepsQuiet x)
    (faults : Faults) : StaysQuiet faults (x faults).2 := by
  rintro rfl
  exact h

/-- **A value is only ever lost to a fault, never changed by one.**  Whatever
calls fail, a computation that returns a value returns the one it computes
without faults; and without faults it leaves none behind. -/
structure Steady {α : Type} (x : CryptoM α) : Prop where
  value_of_ok : ∀ {faults : Faults} {a : α}, (x faults).1 = .ok a → value x = .ok a
  rest : KeepsQuiet x

/-- A value that is there is never lost. -/
theorem Steady.pure {α : Type} (a : α) : Steady (Pure.pure a : CryptoM α) :=
  ⟨fun h => h, rfl⟩

/-- An error of its own is no value at all. -/
theorem Steady.throw {α : Type} (e : StatusCode) : Steady (throw e : CryptoM α) :=
  ⟨(nomatch ·), rfl⟩

/-- A call yields its value, or is lost to the fault at its turn. -/
theorem Steady.call {α : Type} (a : α) : Steady (Crypto.call a) := by
  refine ⟨fun {faults b} h => ?_, rfl⟩
  unfold Crypto.call at h
  split at h
  · exact h
  · cases h

/-- After a value, the computation goes on with it. -/
theorem bind_of_ok {α β : Type} {x : CryptoM α} {faults faults' : Faults} {a : α}
    (h : x faults = (.ok a, faults')) (k : α → CryptoM β) : (x >>= k) faults = k a faults' := by
  simp only [Bind.bind, ExceptT.bind, ExceptT.mk, StateT.bind, h]
  rfl

/-- After an error, the computation ends with it. -/
theorem bind_of_error {α β : Type} {x : CryptoM α} {faults faults' : Faults} {e : StatusCode}
    (h : x faults = (.error e, faults')) (k : α → CryptoM β) :
    (x >>= k) faults = (.error e, faults') := by
  simp only [Bind.bind, ExceptT.bind, ExceptT.mk, StateT.bind, h]
  rfl

/-- Steady computations in sequence are steady. -/
theorem Steady.bind {α β : Type} {x : CryptoM α} {k : α → CryptoM β} (hx : Steady x)
    (hk : ∀ a, Steady (k a)) : Steady (x >>= k) := by
  have hx₀ : (x noFaults).2 = noFaults := hx.rest
  constructor
  · intro faults b h
    rcases hxf : x faults with ⟨e | a, faults'⟩
    · rw [bind_of_error hxf] at h
      cases h
    · rw [bind_of_ok hxf] at h
      have hv : (x noFaults).1 = .ok a := hx.value_of_ok (congrArg Prod.fst hxf)
      rw [value, bind_of_ok (Prod.ext hv hx₀)]
      exact (hk a).value_of_ok h
  · rcases hxn : x noFaults with ⟨e | a, faults'⟩
    · rw [hxn] at hx₀
      rw [KeepsQuiet, bind_of_error hxn]
      exact hx₀
    · obtain rfl : faults' = noFaults := by rw [hxn] at hx₀; exact hx₀
      rw [KeepsQuiet, bind_of_ok hxn]
      exact (hk a).rest

/-! ### Which call fails -/

/-- The next `n` calls succeed. -/
def Quiet (n : ℕ) (faults : Faults) : Prop := ∀ i, i < n → faults.get i = none

/-- Without faults any number of calls is quiet. -/
theorem quiet_noFaults (n : ℕ) : Quiet n noFaults := fun _ _ => rfl

/-- If `n` calls are quiet, fewer are. -/
theorem Quiet.mono {m n : ℕ} {faults : Faults} (h : Quiet n faults) (hmn : m ≤ n) :
    Quiet m faults := fun i hi => h i (by omega)

/-- The calls after the first `m` are quiet too. -/
theorem Quiet.drop {m n : ℕ} {faults : Faults} (h : Quiet (m + n) faults) :
    Quiet n (faults.drop m) := fun i hi => by
  rw [Stream'.get_drop]
  exact h _ (by omega)

/-- The first call that fails is call `i`. -/
def FirstFault (i : ℕ) (faults : Faults) : Prop := Quiet i faults ∧ faults.get i ≠ none

/-- Among `n` calls there is a first that fails, or none fails. -/
theorem firstFault_or_quiet (n : ℕ) (faults : Faults) :
    (∃ i < n, FirstFault i faults) ∨ Quiet n faults := by
  induction n with
  | zero => exact .inr fun i hi => absurd hi (Nat.not_lt_zero i)
  | succ n ih =>
    rcases ih with ⟨i, hi, h⟩ | h
    · exact .inl ⟨i, by omega, h⟩
    · by_cases hn : faults.get n = none
      · refine .inr fun i hi => ?_
        rcases Nat.lt_succ_iff_lt_or_eq.1 hi with hlt | rfl
        · exact h i hlt
        · exact hn
      · exact .inl ⟨n, by omega, h, hn⟩

/-- There is only one first fault. -/
theorem FirstFault.unique {i j : ℕ} {faults : Faults} (hi : FirstFault i faults)
    (hj : FirstFault j faults) : i = j := by
  rcases Nat.lt_trichotomy i j with h | h | h
  · exact absurd (hj.1 i h) hi.2
  · exact h
  · exact absurd (hi.1 j h) hj.2

/-- `x` makes `n` calls as long as none fails: with `n` calls that succeed it ends as
it does without faults. -/
def Calls (n : ℕ) {α : Type} (x : StateM Faults α) : Prop :=
  ∀ faults, Quiet n faults → x faults = ((x noFaults).1, faults.drop n)

/-- A computation that calls nothing makes no calls. -/
theorem Calls.pure {α : Type} (a : α) : Calls 0 (Pure.pure a : StateM Faults α) :=
  fun _ _ => rfl

/-- A computation that makes `n` calls keeps quiet. -/
theorem Calls.keepsQuiet {n : ℕ} {α : Type} {x : StateM Faults α} (h : Calls n x) :
    KeepsQuiet x :=
  congrArg Prod.snd (h noFaults (quiet_noFaults n))

/-- The calls of two computations in sequence add up. -/
theorem Calls.bind {m n : ℕ} {α β : Type} {x : StateM Faults α} {k : α → StateM Faults β}
    (hx : Calls m x) (hk : Calls n (k (x noFaults).1)) : Calls (m + n) (x >>= k) := by
  intro faults h
  have hx₀ : (x noFaults).2 = noFaults := hx.keepsQuiet
  rw [bind_faults, hx faults (h.mono (by omega)), bind_faults, hx₀, hk _ h.drop,
    Stream'.drop_drop]

/-- `x` makes `n` calls, and fails only as the first of them that fails. -/
structure Makes (n : ℕ) {α : Type} (x : CryptoM α) : Prop where
  ok : ∃ a, value x = .ok a
  quiet : Calls n x.run
  fault : ∀ {faults : Faults} {i : ℕ} {e : StatusCode}, i < n → Quiet i faults →
    faults.get i = some e → (x faults).1 = .error e

/-- A value that is there takes no call. -/
theorem Makes.pure {α : Type} (a : α) : Makes 0 (Pure.pure a : CryptoM α) :=
  ⟨⟨a, rfl⟩, Calls.pure _, fun h => absurd h (Nat.not_lt_zero _)⟩

/-- A call is one call. -/
theorem Makes.call {α : Type} (a : α) : Makes 1 (Crypto.call a) where
  ok := ⟨a, rfl⟩
  quiet faults h := by
    have hhead : faults.head = none := h 0 Nat.one_pos
    simp only [ExceptT.run, Crypto.call, hhead]
    rfl
  fault {faults i e} hi _ h := by
    obtain rfl : i = 0 := by omega
    have hhead : faults.head = some e := h
    simp only [Crypto.call, hhead]

/-- One computation after another. -/
theorem Makes.bind {m n : ℕ} {α β : Type} {x : CryptoM α} {k : α → CryptoM β}
    (hx : Makes m x) (hk : ∀ a, Makes n (k a)) : Makes (m + n) (x >>= k) := by
  obtain ⟨a, ha⟩ := hx.ok
  have hrun {faults : Faults} (h : Quiet m faults) : x faults = (.ok a, faults.drop m) :=
    (hx.quiet faults h).trans (congrArg (·, _) ha)
  have h₀ : x noFaults = (.ok a, noFaults) := hrun (quiet_noFaults m)
  refine ⟨?_, ?_, ?_⟩
  · obtain ⟨b, hb⟩ := (hk a).ok
    exact ⟨b, by rw [value, bind_of_ok h₀]; exact hb⟩
  · intro faults h
    change (x >>= k) faults = (((x >>= k) noFaults).1, _)
    rw [bind_of_ok (hrun (h.mono (by omega))), bind_of_ok h₀, ← Stream'.drop_drop]
    exact (hk a).quiet _ h.drop
  · intro faults i e hi hquiet hfault
    rcases Nat.lt_or_ge i m with him | him
    · rw [bind_of_error (Prod.ext (hx.fault him hquiet hfault) rfl)]
    · obtain ⟨j, rfl⟩ := Nat.exists_eq_add_of_le him
      rw [bind_of_ok (hrun (hquiet.mono him))]
      exact (hk a).fault (by omega) hquiet.drop (by rw [Stream'.get_drop]; exact hfault)

end Crypto
end AliroUwb
