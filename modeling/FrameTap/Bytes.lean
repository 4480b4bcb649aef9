set_option autoImplicit false

namespace FrameTap

abbrev Bytes := List UInt8

namespace Bytes

def ofNat : Nat → Nat → Bytes
  | 0, _ => []
  | width + 1, n => UInt8.ofNat (n % 256) :: ofNat width (n / 256)

def toNat : Bytes → Nat
  | [] => 0
  | byte :: rest => byte.toNat + 256 * toNat rest

def limit : Nat → Nat
  | 0 => 1
  | width + 1 => 256 * limit width

@[simp] theorem length_ofNat (width n : Nat) : (ofNat width n).length = width := by
  induction width generalizing n with
  | zero => rfl
  | succ width ih => simp [ofNat, ih]

theorem toNat_ofNat (width n : Nat) : toNat (ofNat width n) = n % limit width := by
  induction width generalizing n with
  | zero => simp [ofNat, toNat, limit, Nat.mod_one]
  | succ width ih =>
    have low : (UInt8.ofNat (n % 256)).toNat = n % 256 := by simp
    rw [ofNat, toNat, low, ih, limit, Nat.mod_mul]

theorem ofNat_toNat (bytes : Bytes) : ofNat bytes.length (toNat bytes) = bytes := by
  induction bytes with
  | nil => rfl
  | cons byte rest ih =>
    have small : byte.toNat < 256 := byte.toNat_lt
    have low : (byte.toNat + 256 * toNat rest) % 256 = byte.toNat := by omega
    have high : (byte.toNat + 256 * toNat rest) / 256 = toNat rest := by omega
    simp [ofNat, toNat, low, high, ih]

theorem toNat_lt (bytes : Bytes) : toNat bytes < limit bytes.length := by
  induction bytes with
  | nil => simp [toNat, limit]
  | cons byte rest ih =>
    have small : byte.toNat < 256 := byte.toNat_lt
    simp only [toNat, List.length_cons, limit]
    omega

def ofUInt32 (word : UInt32) : Bytes := ofNat 4 word.toNat

def ofUInt64 (word : UInt64) : Bytes := ofNat 8 word.toNat

def slice (bytes : Bytes) (offset length : Nat) : Bytes :=
  (bytes.drop offset).take length

theorem length_slice {bytes : Bytes} {offset length : Nat}
    (inside : offset + length ≤ bytes.length) : (bytes.slice offset length).length = length := by
  simp [slice]
  omega

/-- Overwrites the bytes at `offset`; what would lie past the end is dropped. -/
def overwrite (bytes : Bytes) (offset : Nat) (new : Bytes) : Bytes :=
  bytes.take offset ++ new.take (bytes.length - offset) ++ bytes.drop (offset + new.length)

@[simp] theorem length_overwrite (bytes new : Bytes) (offset : Nat) :
    (bytes.overwrite offset new).length = bytes.length := by
  simp [overwrite]
  omega

end Bytes

abbrev Patch := List (Nat × Bytes)

def Patch.apply (patch : Patch) (bytes : Bytes) : Bytes :=
  patch.foldl (fun done (offset, new) => done.overwrite offset new) bytes

end FrameTap
