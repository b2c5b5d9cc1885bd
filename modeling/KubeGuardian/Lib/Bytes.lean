import Mathlib.Algebra.Group.Nat.Defs
import Mathlib.Data.List.Range

/-!
# Numbers in memory

A number of `w` bytes, the lowest byte first, and the number that a run of bytes is read as.

* **`ofBytesLE_take`** — a reader that takes the number for a narrower one keeps the low bytes.
-/

namespace KubeGuardian.Lib

def bytesLE (w n : Nat) : List UInt8 := (List.range w).map fun i => UInt8.ofNat (n / 256 ^ i)

def ofBytesLE (bs : List UInt8) : Nat := bs.foldr (fun b n => b.toNat + 256 * n) 0

@[simp] theorem length_bytesLE (w n : Nat) : (bytesLE w n).length = w := by simp [bytesLE]

theorem bytesLE_succ (w n : Nat) : bytesLE (w + 1) n = UInt8.ofNat n :: bytesLE w (n / 256) := by
  unfold bytesLE
  rw [List.range_succ_eq_map, List.map_cons, List.map_map, pow_zero, Nat.div_one]
  congr 1
  refine List.map_congr_left fun i _ => ?_
  rw [Function.comp_apply, Nat.succ_eq_add_one, pow_succ', Nat.div_div_eq_div_mul]

/-- Induction on the width: one byte more is the lowest one, and the rest is `n / 256`. -/
theorem ofBytesLE_bytesLE (w n : Nat) : ofBytesLE (bytesLE w n) = n % 256 ^ w := by
  induction w generalizing n with
  | zero => simp [bytesLE, ofBytesLE, Nat.mod_one]
  | succ w ih =>
    have hbyte : (UInt8.ofNat n).toNat = n % 256 := UInt8.toNat_ofNat'
    have hcons : ofBytesLE (bytesLE (w + 1) n)
        = (UInt8.ofNat n).toNat + 256 * ofBytesLE (bytesLE w (n / 256)) := by
      rw [bytesLE_succ]; rfl
    rw [hcons, ih, hbyte, pow_succ', Nat.mod_mul]

theorem ofBytesLE_take {v w : Nat} (h : v ≤ w) (n : Nat) :
    ofBytesLE ((bytesLE w n).take v) = n % 256 ^ v := by
  have htake : (bytesLE w n).take v = bytesLE v n := by
    rw [bytesLE, ← List.map_take, List.take_range, Nat.min_eq_left h]; rfl
  rw [htake, ofBytesLE_bytesLE]

theorem bytesLE_inj {w n m : Nat} (hn : n < 256 ^ w) (hm : m < 256 ^ w)
    (h : bytesLE w n = bytesLE w m) : n = m := by
  have hread := congrArg ofBytesLE h
  rwa [ofBytesLE_bytesLE, ofBytesLE_bytesLE, Nat.mod_eq_of_lt hn, Nat.mod_eq_of_lt hm] at hread

end KubeGuardian.Lib
