/-!
# Bytes and byte counts

A body is a run of chunks, a chunk is a list of bytes.  Byte counts are natural numbers that
stop at the largest 64-bit word:

* `Bytes`         one chunk, or one whole body;
* `countCap`      the largest byte count, `2 ^ 64 - 1`;
* `addCount m n`  the sum of two counts, held at the cap;
* `byteCount cs`  the number of bytes in a list of chunks, held at the cap.

Held sums are the plain sum cut once at the end (`addCount_addCount`), so a running count of
chunk lengths is the capped length of their concatenation (`byteCount_snoc`), and a prefix counts
no more than the whole (`byteCount_mono`).
-/

namespace Refetch

/-- a run of bytes: one chunk, or a whole body -/
abbrev Bytes := List UInt8

def countCap : Nat := 18446744073709551615

/-- the sum of two byte counts, held at the cap -/
def addCount (m n : Nat) : Nat := min countCap (m + n)

theorem addCount_zero (m : Nat) (h : m ≤ countCap) : addCount m 0 = m := by
  simp [addCount, Nat.min_eq_right h]

theorem addCount_le (m n : Nat) : addCount m n ≤ countCap := Nat.min_le_left _ _

theorem addCount_addCount (k m n : Nat) : addCount (addCount k m) n = addCount k (m + n) := by
  simp only [addCount]
  omega

/-! ## the bytes of chunks -/

/-- the number of bytes in a list of chunks, held at the cap -/
def byteCount (cs : List Bytes) : Nat := min countCap cs.flatten.length

theorem byteCount_nil : byteCount [] = 0 := rfl

theorem byteCount_append (a b : List Bytes) :
    byteCount (a ++ b) = addCount (byteCount a) b.flatten.length := by
  simp only [byteCount, addCount, List.flatten_append, List.length_append]
  omega

theorem byteCount_snoc (cs : List Bytes) (c : Bytes) :
    byteCount (cs ++ [c]) = addCount (byteCount cs) c.length := by
  rw [byteCount_append, List.flatten_singleton]

theorem byteCount_le_length (cs : List Bytes) : byteCount cs ≤ cs.flatten.length :=
  Nat.min_le_right _ _

theorem byteCount_mono {a b : List Bytes} (h : a <+: b) : byteCount a ≤ byteCount b := by
  obtain ⟨c, rfl⟩ := h
  simp only [byteCount, List.flatten_append, List.length_append]
  omega

end Refetch
