import Showroom.Wire.Varint

/-!
# Showroom.Proofs.Wire.Varint

Every number of 64 bits is read back from its groups of seven bits, whatever follows it.

* `read_render`: the reader is a left inverse of the writer.
-/

namespace Showroom.Wire
namespace Varint

theorem render_ne_nil (n : Nat) : render n ≠ [] := by
  rw [render]
  split <;> simp

theorem readGroups_render {left n : Nat} (rest : Bytes) (h : n < 2 * Nat.pow 128 left) :
    readGroups (left + 1) (render n ++ rest) = some (n, rest) := by
  -- Induction on the groups that are still allowed. The last of them holds a single bit, so the
  -- bound is twice a power and not a power.
  induction left generalizing n with
  | zero =>
    have hn : n < 2 := h
    have hb : (UInt8.ofNat n).toNat = n := by
      rw [UInt8.toNat_ofNat']
      omega
    rw [render, if_pos (by omega)]
    simp [readGroups, UInt8.lt_iff_toNat_lt, UInt8.le_iff_toNat_le, hb, show n < 128 by omega,
      show ¬ 2 ≤ n by omega]
  | succ left ih =>
    rw [render]
    split
    · rename_i hn
      have hb : (UInt8.ofNat n).toNat = n := by
        rw [UInt8.toNat_ofNat']
        omega
      simp [readGroups, UInt8.lt_iff_toNat_lt, hb, hn]
    · rename_i hn
      have hb : (UInt8.ofNat (n % 128 + 128)).toNat = n % 128 + 128 := by
        rw [UInt8.toNat_ofNat']
        omega
      have hd : n / 128 < 2 * Nat.pow 128 left := by
        have hp : Nat.pow 128 (left + 1) = Nat.pow 128 left * 128 := rfl
        omega
      rw [List.cons_append, readGroups, if_neg (by
        rw [UInt8.lt_iff_toNat_lt, hb]
        exact Nat.not_lt.mpr (Nat.le_add_left 128 _)), ih hd]
      simp only [hb, Option.some.injEq, Prod.mk.injEq, and_true]
      omega

theorem read_render {n : Nat} (h : n < UInt64.size) (rest : Bytes) :
    read (render n ++ rest) = some (n, rest) :=
  readGroups_render rest h

end Varint
end Showroom.Wire
