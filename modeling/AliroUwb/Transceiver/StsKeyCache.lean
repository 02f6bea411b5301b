/-
# The cached STS key

`src/transceiver/DW3000Controller.cpp`: the STS key and IV registers of the
DW3000 lie side by side, 16 bytes each.  `loadStsKey` and `loadStsIv` write one of
them, `loadStsKeyIv` both at once.  `loadStsKey` skips the write when the key is
the one it wrote last, which it knows from two static variables; a successful
`configurePhy` forgets that key, a hardware reset does not, although it clears the
registers.

The driver (`dwt_*`) is outside the repository.  Here `dwt_configurestskey`,
`dwt_configurestsiv` and `dwt_writetodevice` write to the block of the two
registers, and what `dwt_probe`, `dwt_initialise` and `dwt_configure` answer is
part of the call.  The strobe `dwt_configurestsloadiv` changes neither register.

The loads of a state do what they should if and only if a key it remembers is in
the register (`loads_iff_coherent`).  Along a run, that is so in every state if
and only if the hardware is never reset while a key other than zero is remembered
(`loads_iff_resets`).
-/

import AliroUwb.Core.Types
import AliroUwb.Library.Machine
import AliroUwb.Library.WireFormat

namespace AliroUwb
namespace Transceiver

open Stepwise WireFormat

/-! ### The registers -/

/-- `STS_KEY0` to `STS_KEY3`, and `STS_IV0` to `STS_IV3` behind them. -/
abbrev StsRegisters := Bytes 32

/-- Where the IV registers begin in the block. -/
def stsIvOffset : ℕ := 16

/-- The driver's writes of raw bytes, from `offset` on. -/
def writeToDevice (registers : StsRegisters) (offset : ℕ) (bytes : List UInt8) : StsRegisters :=
  Bytes.ofList 32 (overwrite registers.1 offset bytes)

/-- `dwt_configurestskey`. -/
def configureStsKey (registers : StsRegisters) (image : Bytes 16) : StsRegisters :=
  writeToDevice registers 0 image.1

/-- `dwt_configurestsiv`. -/
def configureStsIv (registers : StsRegisters) (image : Bytes 16) : StsRegisters :=
  writeToDevice registers stsIvOffset image.1

/-! ### The controller -/

/-- The registers, the two static variables and the state of the controller. -/
structure StsController where
  registers : StsRegisters
  lastStsKey : Bytes 16 := Bytes.zero 16
  stsKeyValid : Bool := false
  initialized : Bool := false
  deriving DecidableEq

/-- What the key register holds. -/
def StsController.keyRegister (c : StsController) : List UInt8 := c.registers.1.take stsIvOffset

/-- `DW3000Controller::performHardwareReset`. -/
def performHardwareReset (c : StsController) : StsController :=
  { c with registers := Bytes.zero 32 }

/-- `DW3000Controller::initialize`, with the answers of `dwt_probe` and
`dwt_initialise`. -/
def initializeDevice (probed initialised : Bool) (c : StsController) :
    Except StatusCode Unit × StsController :=
  let c := performHardwareReset c
  if !probed then (.error .transceiverError, c)
  else if !initialised then (.error .transceiverError, c)
  else (.ok (), { c with initialized := true })

/-- `DW3000Controller::configurePhy`, with the answer of `dwt_configure`; what it
writes to other registers is left out. -/
def configurePhy (configured : Bool) (c : StsController) :
    Except StatusCode Unit × StsController :=
  if !c.initialized then (.error .invalidState, c)
  else if !configured then (.error .transceiverError, c)
  else (.ok (), { c with stsKeyValid := false })

/-- `packStsRegister`. -/
def packStsRegister (bytes : Bytes 16) : Bytes 16 :=
  ⟨(List.range 16).map fun i => byteAt bytes.1 (15 - i), by
    rw [List.length_map, List.length_range]⟩

/-- `s_stsKeyValid && std::equal(key, s_lastStsKey)`. -/
def StsController.remembers (c : StsController) (key : Bytes 16) : Bool :=
  c.stsKeyValid && key == c.lastStsKey

/-- `DW3000Controller::loadStsKey`. -/
def loadStsKey (key : Bytes 16) (c : StsController) : Except StatusCode Unit × StsController :=
  if c.remembers key then (.ok (), c)
  else (.ok (), { c with
    registers := configureStsKey c.registers (packStsRegister key)
    lastStsKey := key
    stsKeyValid := true })

/-- `DW3000Controller::loadStsIv`. -/
def loadStsIv (iv : Bytes 16) (c : StsController) : Except StatusCode Unit × StsController :=
  (.ok (), { c with registers := configureStsIv c.registers (packStsRegister iv) })

/-- The loop of `loadStsKeyIv` that fills the 32 bytes. -/
def stsBlob (key iv : Bytes 16) : List UInt8 :=
  (List.range 16).foldl
    (fun blob i => (blob.set i (byteAt key.1 (15 - i))).set (16 + i) (byteAt iv.1 (15 - i)))
    (List.replicate 32 0)

/-- `DW3000Controller::loadStsKeyIv`. -/
def loadStsKeyIv (key iv : Bytes 16) (c : StsController) :
    Except StatusCode Unit × StsController :=
  let keyChanged := !c.remembers key
  let c := { c with registers := writeToDevice c.registers 0 (stsBlob key iv) }
  if keyChanged then (.ok (), { c with lastStsKey := key, stsKeyValid := true })
  else (.ok (), c)

/-- A call of the controller. -/
inductive StsCall
  | initializeDevice (probed initialised : Bool)
  | configurePhy (configured : Bool)
  | loadStsKey (key : Bytes 16)
  | loadStsIv (iv : Bytes 16)
  | loadStsKeyIv (key iv : Bytes 16)
  deriving DecidableEq

/-- What a call returns and leaves. -/
def StsCall.run : StsCall → StsController → Except StatusCode Unit × StsController
  | .initializeDevice probed initialised => Transceiver.initializeDevice probed initialised
  | .configurePhy configured => Transceiver.configurePhy configured
  | .loadStsKey key => Transceiver.loadStsKey key
  | .loadStsIv iv => Transceiver.loadStsIv iv
  | .loadStsKeyIv key iv => Transceiver.loadStsKeyIv key iv

/-- The controller as a machine: any call, at any time. -/
def stsMachine : Machine StsController StsCall (Except StatusCode Unit) where
  step c call := some ((call.run c).2, (call.run c).1)

/-! ### What the loads write -/

/-- The image of a key or an IV is its bytes in reverse. -/
theorem packStsRegister_eq (bytes : Bytes 16) : (packStsRegister bytes).1 = bytes.1.reverse := by
  have hlen := bytes.2
  refine List.ext_getElem (by rw [(packStsRegister bytes).2, List.length_reverse, hlen])
    fun i h _ => ?_
  have hi : i < 16 := by rwa [(packStsRegister bytes).2] at h
  simp only [packStsRegister, List.getElem_map, List.getElem_range, List.getElem_reverse, hlen]
  rw [byteAt, List.getD_eq_getElem?_getD, List.getElem?_eq_getElem (by omega), Option.getD_some]

/-- **The combined write is the two images, byte for byte.** -/
theorem stsBlob_eq (key iv : Bytes 16) :
    stsBlob key iv = (packStsRegister key).1 ++ (packStsRegister iv).1 :=
  foldl_set_halves 16 _ _ 0

/-- A write that stays in the block. -/
theorem writeToDevice_eq (registers : StsRegisters) {offset : ℕ} {bytes : List UInt8}
    (h : offset + bytes.length ≤ 32) :
    (writeToDevice registers offset bytes).1 = overwrite registers.1 offset bytes := by
  have hlen : (overwrite registers.1 offset bytes).length = 32 := by
    simp only [overwrite, List.length_append, List.length_take, List.length_drop, registers.2]
    omega
  change (_ : List UInt8).take 32 ++ List.replicate (32 - (_ : List UInt8).length) 0 = _
  rw [hlen, List.take_of_length_le (Nat.le_of_eq hlen)]
  exact List.append_nil _

/-- The key register is written, the IV register kept. -/
theorem configureStsKey_eq (registers : StsRegisters) (image : Bytes 16) :
    (configureStsKey registers image).1 = image.1 ++ registers.1.drop stsIvOffset := by
  rw [configureStsKey, writeToDevice_eq _ (by rw [image.2]; decide), overwrite_zero, filledWith,
    image.2, stsIvOffset]

/-- The IV register is written, the key register kept. -/
theorem configureStsIv_eq (registers : StsRegisters) (image : Bytes 16) :
    (configureStsIv registers image).1 = registers.1.take stsIvOffset ++ image.1 := by
  rw [configureStsIv, writeToDevice_eq _ (by rw [image.2]; decide), overwrite, image.2,
    List.drop_of_length_le (by rw [registers.2]; decide), List.append_nil]

/-- Both registers at once. -/
theorem writeToDevice_stsBlob (registers : StsRegisters) (key iv : Bytes 16) :
    (writeToDevice registers 0 (stsBlob key iv)).1 =
      (packStsRegister key).1 ++ (packStsRegister iv).1 := by
  have hlen : ((packStsRegister key).1 ++ (packStsRegister iv).1).length = 32 := by
    rw [List.length_append, (packStsRegister key).2, (packStsRegister iv).2]
  rw [stsBlob_eq, writeToDevice_eq _ (by rw [hlen]), overwrite_zero, filledWith, hlen,
    List.drop_of_length_le (by rw [registers.2]), List.append_nil]

/-! ### What the loads need -/

/-- **The loads of a state do what they should**: the key register holds the key, byte
for byte in reverse, and both loads together leave what the combined one does. -/
structure Loads (c : StsController) : Prop where
  key : ∀ k, (loadStsKey k c).2.keyRegister = k.1.reverse
  keyIv : ∀ k iv, (loadStsKeyIv k iv c).2.registers =
    (loadStsIv iv (loadStsKey k c).2).2.registers

/-- A key that is remembered is in the register. -/
def Coherent (c : StsController) : Prop :=
  c.stsKeyValid = true → c.keyRegister = (packStsRegister c.lastStsKey).1

/-- A key is remembered if it is the last one and still valid. -/
theorem remembers_iff {c : StsController} {k : Bytes 16} :
    c.remembers k = true ↔ c.stsKeyValid = true ∧ k = c.lastStsKey := by
  rw [StsController.remembers, Bool.and_eq_true, beq_iff_eq]

/-- A load that is not skipped. -/
theorem loadStsKey_of_not_remembers {c : StsController} {k : Bytes 16}
    (h : ¬ c.remembers k = true) :
    (loadStsKey k c).2.keyRegister = (packStsRegister k).1 := by
  rw [loadStsKey, if_neg h, StsController.keyRegister, configureStsKey_eq]
  exact List.take_left' (packStsRegister k).2

/-- One load after the other. -/
theorem loadStsIv_registers (iv : Bytes 16) (c : StsController) :
    (loadStsIv iv c).2.registers.1 = c.keyRegister ++ (packStsRegister iv).1 :=
  configureStsIv_eq _ _

/-- A load of both fills both registers. -/
theorem loadStsKeyIv_registers (key iv : Bytes 16) (c : StsController) :
    (loadStsKeyIv key iv c).2.registers.1 = (packStsRegister key).1 ++ (packStsRegister iv).1 := by
  rw [← writeToDevice_stsBlob c.registers, loadStsKeyIv]
  split_ifs <;> rfl

/-- **The loads of a state do what they should exactly if a key that it remembers is
in the register.** -/
theorem loads_iff_coherent (c : StsController) : Loads c ↔ Coherent c := by
  constructor
  · intro h hvalid
    have hkey := h.key c.lastStsKey
    rwa [loadStsKey, if_pos (remembers_iff.2 ⟨hvalid, rfl⟩), ← packStsRegister_eq] at hkey
  · intro h
    have hkey (k : Bytes 16) : (loadStsKey k c).2.keyRegister = (packStsRegister k).1 := by
      by_cases hk : c.remembers k = true
      · obtain ⟨hvalid, rfl⟩ := remembers_iff.1 hk
        rw [loadStsKey, if_pos hk]
        exact h hvalid
      · exact loadStsKey_of_not_remembers hk
    refine ⟨fun k => (hkey k).trans (packStsRegister_eq k), fun k iv => Subtype.ext ?_⟩
    rw [loadStsKeyIv_registers, loadStsIv_registers, hkey]

/-! ### Runs -/

/-- The controller when the program starts; the registers may hold anything. -/
def StsController.start (registers : StsRegisters) : StsController := { registers }

/-- The call resets the hardware. -/
def StsCall.resets : StsCall → Bool
  | initializeDevice _ _ => true
  | _ => false

/-- The step does not reset the hardware while a key other than zero is remembered. -/
def KeepsKey (e : Occurrence StsController StsCall (Except StatusCode Unit)) : Prop :=
  e.input.resets = true → e.pre.stsKeyValid = true → e.pre.lastStsKey = Bytes.zero 16

/-- It can be seen from the step. -/
instance : DecidablePred KeepsKey := fun _ => inferInstanceAs (Decidable (_ → _ → _))

/-- A reset clears the registers and forgets nothing. -/
theorem initializeDevice_eq (probed initialised : Bool) (c : StsController) :
    (initializeDevice probed initialised c).2.registers = Bytes.zero 32 ∧
      (initializeDevice probed initialised c).2.lastStsKey = c.lastStsKey ∧
      (initializeDevice probed initialised c).2.stsKeyValid = c.stsKeyValid := by
  cases probed <;> cases initialised <;> exact ⟨rfl, rfl, rfl⟩

/-- Only a key of zeros is packed to zeros. -/
theorem packStsRegister_eq_zero {k : Bytes 16} :
    (packStsRegister k).1 = List.replicate 16 0 ↔ k = Bytes.zero 16 := by
  rw [packStsRegister_eq, List.reverse_eq_iff, List.reverse_replicate, Subtype.ext_iff]
  rfl

/-- A load of the IV keeps the key register. -/
theorem keyRegister_loadStsIv (iv : Bytes 16) (c : StsController) :
    (loadStsIv iv c).2.keyRegister = c.keyRegister := by
  have hlen : c.keyRegister.length = stsIvOffset := by
    rw [StsController.keyRegister, List.length_take, c.registers.2]
    rfl
  rw [StsController.keyRegister, loadStsIv_registers, List.take_left' hlen]

/-- A load of both fills the key register. -/
theorem keyRegister_loadStsKeyIv (key iv : Bytes 16) (c : StsController) :
    (loadStsKeyIv key iv c).2.keyRegister = (packStsRegister key).1 := by
  rw [StsController.keyRegister, loadStsKeyIv_registers]
  exact List.take_left' (packStsRegister key).2

/-- A load of both remembers the key. -/
theorem lastStsKey_loadStsKeyIv (key iv : Bytes 16) (c : StsController) :
    (loadStsKeyIv key iv c).2.lastStsKey = key := by
  unfold loadStsKeyIv
  dsimp only
  split_ifs with hchanged
  · rfl
  · have hk : c.remembers key = true := by simpa using hchanged
    exact (remembers_iff.1 hk).2.symm

/-- **A step keeps the remembered key in the register exactly if it does not reset
the hardware under it.** -/
theorem coherent_post_iff {e : Occurrence StsController StsCall (Except StatusCode Unit)}
    (he : stsMachine.Steps e) (h : Coherent e.pre) : Coherent e.post ↔ KeepsKey e := by
  obtain ⟨c, call, output, c'⟩ := e
  obtain rfl : (call.run c).2 = c' := congrArg Prod.fst (Option.some.inj he)
  have hkeeps (hcall : call.resets = false) : KeepsKey ⟨c, call, output, (call.run c).2⟩ :=
    fun hresets => absurd hresets (by rw [hcall]; decide)
  cases call with
  | initializeDevice probed initialised =>
    obtain ⟨hregs, hlast, hvalid⟩ := initializeDevice_eq probed initialised c
    have hkey : (initializeDevice probed initialised c).2.keyRegister = List.replicate 16 0 := by
      rw [StsController.keyRegister, hregs]
      rfl
    calc Coherent (initializeDevice probed initialised c).2
        ↔ (c.stsKeyValid = true → List.replicate 16 0 = (packStsRegister c.lastStsKey).1) := by
          rw [Coherent, hvalid, hkey, hlast]
      _ ↔ (c.stsKeyValid = true → c.lastStsKey = Bytes.zero 16) := by
          rw [eq_comm (a := List.replicate 16 0), packStsRegister_eq_zero]
      _ ↔ KeepsKey _ := ⟨fun h _ => h, fun h => h rfl⟩
  | configurePhy configured =>
    refine iff_of_true ?_ (hkeeps rfl)
    change Coherent (configurePhy configured c).2
    unfold configurePhy
    split_ifs
    · exact h
    · exact h
    · exact fun hvalid => absurd hvalid Bool.false_ne_true
  | loadStsKey key =>
    refine iff_of_true ?_ (hkeeps rfl)
    change Coherent (loadStsKey key c).2
    by_cases hk : c.remembers key = true
    · rw [loadStsKey, if_pos hk]
      exact h
    · have hlast : (loadStsKey key c).2.lastStsKey = key := by rw [loadStsKey, if_neg hk]
      intro _
      rw [loadStsKey_of_not_remembers hk, hlast]
  | loadStsIv iv =>
    refine iff_of_true (fun hvalid => ?_) (hkeeps rfl)
    exact (keyRegister_loadStsIv iv c).trans (h hvalid)
  | loadStsKeyIv key iv =>
    refine iff_of_true (fun _ => ?_) (hkeeps rfl)
    change (loadStsKeyIv key iv c).2.keyRegister =
      (packStsRegister (loadStsKeyIv key iv c).2.lastStsKey).1
    rw [keyRegister_loadStsKeyIv, lastStsKey_loadStsKeyIv]

/-- **The loads do what they should all along a run, exactly if the hardware is never
reset while a key other than zero is remembered.** -/
theorem loads_iff_resets {registers : StsRegisters} {c : StsController}
    {tr : List (Occurrence StsController StsCall (Except StatusCode Unit))}
    (h : stsMachine.Run (.start registers) tr c) :
    (Loads (.start registers) ∧ ∀ e ∈ tr, Loads e.post) ↔ ∀ e ∈ tr, KeepsKey e := by
  have h₀ : Coherent (.start registers) := fun hvalid => absurd hvalid Bool.false_ne_true
  simp only [loads_iff_coherent, h₀, true_and]
  exact h.invariant_iff h₀ fun e => coherent_post_iff

/-- A key to load. -/
def sampleStsKey : Bytes 16 := Bytes.ofList 16 [1, 2, 3]

/-- The hypotheses of `loads_iff_resets` are satisfiable: a key is loaded twice, and the
hardware reset after `configurePhy` has forgotten it. -/
theorem loads_iff_resets_sample : ∃ tr c, stsMachine.Run (.start (Bytes.zero 32)) tr c ∧
    tr.map (·.input) = [.initializeDevice true true, .configurePhy true,
      .loadStsKey sampleStsKey, .loadStsKey sampleStsKey, .configurePhy true,
      .initializeDevice true true] ∧
    ∀ e ∈ tr, Loads e.post := by
  obtain ⟨tr, c, hrun, hin, hkeeps⟩ := Machine.exists_run_of_exec (M := stsMachine)
    (s := .start (Bytes.zero 32)) (l := [.initializeDevice true true, .configurePhy true,
      .loadStsKey sampleStsKey, .loadStsKey sampleStsKey, .configurePhy true,
      .initializeDevice true true]) (p := fun tr _ => tr.all (decide <| KeepsKey ·)) (by decide)
  refine ⟨tr, c, hrun, hin, ((loads_iff_resets hrun).2 fun e he => ?_).2⟩
  exact of_decide_eq_true (List.all_eq_true.1 hkeeps e he)

/-- After a reset the load of the key that was loaded before it is skipped, and the key
register stays zero. -/
theorem not_loads_afterReset : ∃ tr c, stsMachine.Run (.start (Bytes.zero 32)) tr c ∧
    tr.map (·.input) = [.initializeDevice true true, .configurePhy true,
      .loadStsKey sampleStsKey, .initializeDevice true true, .loadStsKey sampleStsKey] ∧
    c.keyRegister = List.replicate 16 0 ∧ c.keyRegister ≠ sampleStsKey.1.reverse := by
  obtain ⟨tr, c, hrun, hin, hkey⟩ := Machine.exists_run_of_exec (M := stsMachine)
    (s := .start (Bytes.zero 32)) (l := [.initializeDevice true true, .configurePhy true,
      .loadStsKey sampleStsKey, .initializeDevice true true, .loadStsKey sampleStsKey])
    (p := fun _ c => c.keyRegister == List.replicate 16 0) (by decide)
  rw [beq_iff_eq] at hkey
  refine ⟨tr, c, hrun, hin, hkey, ?_⟩
  rw [hkey]
  decide

end Transceiver
end AliroUwb
