import KubeGuardian.Controller.Network
import KubeGuardian.Lib.Bytes
import KubeGuardian.Lib.Delimited
import Mathlib

/-!
# Addresses as they are written

The kernel hands an address over as four bytes in network order, in a `u32`.
`ipv4String_fromBe` says that the controller writes these bytes in their order in memory, on either
kind of host, and `ipv4String_fromBe_inj` that the text tells the address.
-/

namespace KubeGuardian.Controller

open Lib

/-- The bytes of a `u32` in the order in which the host keeps them. -/
def memory (host : Endian) (x : UInt32) : List UInt8 :=
  match host with
  | .little => bytesLE 4 x.toNat
  | .big => (bytesLE 4 x.toNat).reverse

def dottedQuad (bytes : List UInt8) : String := ".".intercalate (bytes.map toString)

/-! ## Reading in network order -/

/-- Swapping puts the last byte first. -/
theorem swapBytes_bytes (x : UInt32) :
    swapBytes x >>> 24 = x &&& (0xff : UInt32)
      ∧ (swapBytes x >>> 16) &&& (0xff : UInt32) = (x >>> 8) &&& (0xff : UInt32)
      ∧ (swapBytes x >>> 8) &&& (0xff : UInt32) = (x >>> 16) &&& (0xff : UInt32)
      ∧ swapBytes x &&& (0xff : UInt32) = x >>> 24 := by
  unfold swapBytes
  refine ⟨?_, ?_, ?_, ?_⟩ <;>
    · apply UInt32.toBitVec_inj.mp
      ext i hi
      simp
      interval_cases i <;> simp

/-- The four bytes of a number, as they are cut out of it and as they lie in memory. -/
theorem bytes_toString (x : UInt32) :
    [x &&& (0xff : UInt32), (x >>> 8) &&& 0xff, (x >>> 16) &&& 0xff, x >>> 24].map toString
      = (bytesLE 4 x.toNat).map toString := by
  have hlt := x.toNat_lt
  have hand : ∀ n : Nat, n &&& 255 = n % 256 := fun n => Nat.and_two_pow_sub_one_eq_mod n 8
  have hbytes : bytesLE 4 x.toNat = [UInt8.ofNat x.toNat, UInt8.ofNat (x.toNat / 256),
      UInt8.ofNat (x.toNat / 256 ^ 2), UInt8.ofNat (x.toNat / 256 ^ 3)] := by
    simp [bytesLE, List.range_succ]
  have hcut : (x &&& 0xff).toNat = x.toNat % 256 ∧ ((x >>> 8) &&& 0xff).toNat = x.toNat / 256 % 256
      ∧ ((x >>> 16) &&& 0xff).toNat = x.toNat / 256 ^ 2 % 256
      ∧ (x >>> 24).toNat = x.toNat / 256 ^ 3 % 256 := by
    simp [UInt32.toNat_and, UInt32.toNat_shiftRight, hand, Nat.shiftRight_eq_div_pow]
    omega
  have hshow : ∀ y : UInt32, toString y = toString y.toNat := fun _ => rfl
  have hshow8 : ∀ b : UInt8, toString b = toString b.toNat := fun _ => rfl
  simp only [hbytes, List.map_cons, List.map_nil, hshow, hshow8, hcut.1, hcut.2.1, hcut.2.2.1,
    hcut.2.2.2, UInt8.toNat_ofNat']

/-- **The controller writes the bytes of an address in their order in memory.** -/
theorem ipv4String_fromBe (host : Endian) (x : UInt32) :
    ipv4String (fromBe host x) = dottedQuad (memory host x) := by
  unfold ipv4String dottedQuad
  congr 1
  cases host with
  | little =>
    obtain ⟨h24, h16, h8, h0⟩ := swapBytes_bytes x
    rw [memory, ← bytes_toString, ← h24, ← h16, ← h8, ← h0]
    rfl
  | big =>
    rw [memory, List.map_reverse, ← bytes_toString]
    rfl

/-! ## Telling addresses apart -/

theorem dottedQuad_inj {bs cs : List UInt8} (hbs : bs ≠ []) (hcs : cs ≠ [])
    (h : dottedQuad bs = dottedQuad cs) : bs = cs := by
  have hfields : ∀ l : List UInt8, l ≠ [] → fields '.' (dottedQuad l) = l.map toString := by
    intro l hl
    refine fields_intercalate rfl ?_ (by simpa using hl)
    intro s hs
    obtain ⟨b, -, rfl⟩ := List.mem_map.mp hs
    exact notMem_toString (by decide) b.toNat
  have hmap := (hfields bs hbs).symm.trans ((congrArg (fields '.') h).trans (hfields cs hcs))
  refine (List.map_injective_iff.mpr fun b c hbc => ?_) hmap
  exact UInt8.toNat_inj.mp (Nat.repr_injective hbc)

theorem memory_inj {host : Endian} {x y : UInt32} (h : memory host x = memory host y) : x = y := by
  have hbytes : bytesLE 4 x.toNat = bytesLE 4 y.toNat := by
    cases host with
    | little => exact h
    | big => exact List.reverse_injective h
  exact UInt32.toNat_inj.mp (bytesLE_inj x.toNat_lt y.toNat_lt hbytes)

theorem ipv4String_fromBe_inj {host : Endian} {x y : UInt32}
    (h : ipv4String (fromBe host x) = ipv4String (fromBe host y)) : x = y := by
  have hne : ∀ z, memory host z ≠ [] := by
    intro z hz
    have hlength := congrArg List.length hz
    cases host <;> simp [memory] at hlength
  rw [ipv4String_fromBe, ipv4String_fromBe] at h
  exact memory_inj (dottedQuad_inj (hne x) (hne y) h)

end KubeGuardian.Controller
