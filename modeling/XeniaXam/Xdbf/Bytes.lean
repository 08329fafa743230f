import Mathlib.Tactic.Common
import Mathlib.Tactic.Ring
import Mathlib.Algebra.BigOperators.Group.List

namespace XeniaXam.Xdbf

-- Memory is seen through a pointer: a list of the bytes from the pointer to the end of
-- what may be accessed there. A read or a write that runs past the list is out of range,
-- and the model returns `none` for it.

-- The low `w` bytes of `n`, most significant first: how `xe::be<T>` lays out a field.
def beBytes : Nat → Nat → List UInt8
  | 0, _ => []
  | w + 1, n => beBytes w (n / 256) ++ [UInt8.ofNat n]

def beValue (bytes : List UInt8) : Nat :=
  bytes.foldl (fun acc b => acc * 256 + b.toNat) 0

@[simp] theorem length_beBytes (w n : Nat) : (beBytes w n).length = w := by
  induction w generalizing n <;> simp [beBytes, *]

@[simp] theorem beValue_append_singleton (bytes : List UInt8) (b : UInt8) :
    beValue (bytes ++ [b]) = beValue bytes * 256 + b.toNat := by
  simp [beValue]

theorem toNat_ofNat8 (n : Nat) : (UInt8.ofNat n).toNat = n % 256 := rfl

theorem beValue_beBytes (w n : Nat) : beValue (beBytes w n) = n % 256 ^ w := by
  induction w generalizing n with
  | zero => simp [beBytes, beValue, Nat.mod_one]
  | succ w ih =>
    rw [beBytes, beValue_append_singleton, ih, toNat_ofNat8, Nat.pow_succ', Nat.mod_mul]
    omega

-- Split a `w`-byte big-endian field off the front of a header block.
def splitBE (w : Nat) (block : List UInt8) : Nat × List UInt8 :=
  (beValue (block.take w), block.drop w)

theorem splitBE_beBytes_append (w n : Nat) (rest : List UInt8) :
    splitBE w (beBytes w n ++ rest) = (n % 256 ^ w, rest) := by
  simp [splitBE, List.take_left', List.drop_left', beValue_beBytes]

def beU16 (x : UInt16) : List UInt8 := beBytes 2 x.toNat
def beU32 (x : UInt32) : List UInt8 := beBytes 4 x.toNat
def beU64 (x : UInt64) : List UInt8 := beBytes 8 x.toNat

def splitU16 (block : List UInt8) : UInt16 × List UInt8 :=
  Prod.map UInt16.ofNat id (splitBE 2 block)
def splitU32 (block : List UInt8) : UInt32 × List UInt8 :=
  Prod.map UInt32.ofNat id (splitBE 4 block)
def splitU64 (block : List UInt8) : UInt64 × List UInt8 :=
  Prod.map UInt64.ofNat id (splitBE 8 block)

@[simp] theorem length_beU16 (x : UInt16) : (beU16 x).length = 2 := length_beBytes _ _
@[simp] theorem length_beU32 (x : UInt32) : (beU32 x).length = 4 := length_beBytes _ _
@[simp] theorem length_beU64 (x : UInt64) : (beU64 x).length = 8 := length_beBytes _ _

@[simp] theorem splitU16_beU16_append (x : UInt16) (rest : List UInt8) :
    splitU16 (beU16 x ++ rest) = (x, rest) := by
  have h : x.toNat % 256 ^ 2 = x.toNat := Nat.mod_eq_of_lt x.toNat_lt_size
  simp only [splitU16, beU16, splitBE_beBytes_append, h, Prod.map, id]
  exact congrArg (·, rest) (UInt16.toNat.inj (UInt16.toNat_ofNat_of_lt x.toNat_lt_size))

@[simp] theorem splitU32_beU32_append (x : UInt32) (rest : List UInt8) :
    splitU32 (beU32 x ++ rest) = (x, rest) := by
  have h : x.toNat % 256 ^ 4 = x.toNat := Nat.mod_eq_of_lt x.toNat_lt_size
  simp only [splitU32, beU32, splitBE_beBytes_append, h, Prod.map, id]
  exact congrArg (·, rest) (UInt32.toNat.inj (UInt32.toNat_ofNat_of_lt x.toNat_lt_size))

@[simp] theorem splitU64_beU64_append (x : UInt64) (rest : List UInt8) :
    splitU64 (beU64 x ++ rest) = (x, rest) := by
  have h : x.toNat % 256 ^ 8 = x.toNat := Nat.mod_eq_of_lt x.toNat_lt_size
  simp only [splitU64, beU64, splitBE_beBytes_append, h, Prod.map, id]
  exact congrArg (·, rest) (UInt64.toNat.inj (UInt64.toNat_ofNat_of_lt x.toNat_lt_size))

@[simp] theorem splitU16_beU16 (x : UInt16) : splitU16 (beU16 x) = (x, []) := by
  simpa using splitU16_beU16_append x []

@[simp] theorem splitU32_beU32 (x : UInt32) : splitU32 (beU32 x) = (x, []) := by
  simpa using splitU32_beU32_append x []

@[simp] theorem splitU64_beU64 (x : UInt64) : splitU64 (beU64 x) = (x, []) := by
  simpa using splitU64_beU64_append x []

-- The `n` bytes at the front of memory, as a fixed-size struct read or a `memcpy` sees them.
def readBytes (mem : List UInt8) (n : Nat) : Option (List UInt8) :=
  if n ≤ mem.length then some (mem.take n) else none

-- Overwrite the bytes at offset `p` with `bytes`.
def writeBytes (mem : List UInt8) (p : Nat) (bytes : List UInt8) : Option (List UInt8) :=
  if p + bytes.length ≤ mem.length then
    some (mem.take p ++ bytes ++ mem.drop (p + bytes.length))
  else none

-- `std::vector<uint8_t>::resize`: truncate, or pad with zero bytes.
def resize (bytes : List UInt8) (n : Nat) : List UInt8 :=
  bytes.take n ++ List.replicate (n - bytes.length) 0

theorem readBytes_eq_some {mem : List UInt8} {n : Nat} {bytes : List UInt8} :
    readBytes mem n = some bytes ↔ n ≤ mem.length ∧ bytes = mem.take n := by
  unfold readBytes
  split <;> simp [*, eq_comm]

@[simp] theorem isSome_readBytes (mem : List UInt8) (n : Nat) :
    (readBytes mem n).isSome ↔ n ≤ mem.length := by
  unfold readBytes; split <;> simp [*]

@[simp] theorem isSome_readBytes_bind {α : Type} (mem : List UInt8) (n : Nat)
    (g : List UInt8 → α) : ((readBytes mem n).bind fun p => some (g p)).isSome ↔ n ≤ mem.length := by
  unfold readBytes; split <;> simp [*]

theorem readBytes_self (bytes : List UInt8) : readBytes bytes bytes.length = some bytes := by
  simp [readBytes]

theorem readBytes_append {mem : List UInt8} {n : Nat} {bytes : List UInt8}
    (h : readBytes mem n = some bytes) (rest : List UInt8) :
    readBytes (mem ++ rest) n = some bytes := by
  obtain ⟨hn, rfl⟩ := readBytes_eq_some.mp h
  exact readBytes_eq_some.mpr ⟨by simp; omega, (List.take_append_of_le_length hn).symm⟩

@[simp] theorem readBytes_append_length (bytes rest : List UInt8) :
    readBytes (bytes ++ rest) bytes.length = some bytes := by
  simp [readBytes]

theorem writeBytes_of_le {mem : List UInt8} {p : Nat} {bytes : List UInt8}
    (h : p + bytes.length ≤ mem.length) :
    writeBytes mem p bytes = some (mem.take p ++ bytes ++ mem.drop (p + bytes.length)) := by
  simp [writeBytes, h]

theorem length_of_writeBytes {mem : List UInt8} {p : Nat} {bytes out : List UInt8}
    (h : writeBytes mem p bytes = some out) : out.length = mem.length := by
  unfold writeBytes at h
  split at h
  · cases h; simp; omega
  · cases h

-- Writing right after a prefix of memory keeps the prefix and the bytes past the write.
theorem writeBytes_append_length (pre bytes rest : List UInt8) (h : bytes.length ≤ rest.length) :
    writeBytes (pre ++ rest) pre.length bytes = some (pre ++ bytes ++ rest.drop bytes.length) := by
  rw [writeBytes_of_le (by simp; omega), List.take_left, List.drop_append_eq_append_drop]
  simp

@[simp] theorem length_resize (bytes : List UInt8) (n : Nat) : (resize bytes n).length = n := by
  simp only [resize, List.length_append, List.length_take, List.length_replicate]
  omega

-- UTF-16 text: each code unit is stored big-endian, and a string ends at a zero unit.

def unitOf (hi lo : UInt8) : UInt16 := UInt16.ofNat (beValue [hi, lo])

-- `xe::copy_and_swap<wchar_t>` of a string's code units into format byte order.
def encodeUnits (s : List UInt16) : List UInt8 := s.flatMap beU16

-- A string followed by its terminator, as `ReadNullTermString` expects it.
def encodeString (s : List UInt16) : List UInt8 := encodeUnits s ++ beU16 0

-- Scan code units until a zero unit; `none` when memory ends first.
def readNullTermString : List UInt8 → Option (List UInt16)
  | hi :: lo :: rest =>
    if unitOf hi lo = 0 then some [] else (readNullTermString rest).map (unitOf hi lo :: ·)
  | _ => none

theorem beValue_pair (hi lo : UInt8) : beValue [hi, lo] = hi.toNat * 256 + lo.toNat := by
  simp [beValue]

theorem beU16_eq (c : UInt16) :
    beU16 c = [UInt8.ofNat (c.toNat / 256), UInt8.ofNat c.toNat] := by
  simp [beU16, beBytes]

@[simp] theorem unitOf_beU16 (c : UInt16) :
    unitOf (UInt8.ofNat (c.toNat / 256)) (UInt8.ofNat c.toNat) = c := by
  apply UInt16.toNat.inj
  have hc := c.toNat_lt_size
  have hs : UInt16.size = 65536 := rfl
  rw [unitOf, beValue_pair, toNat_ofNat8, toNat_ofNat8, UInt16.toNat_ofNat_of_lt (by omega)]
  omega

theorem beU16_unitOf (hi lo : UInt8) : beU16 (unitOf hi lo) = [hi, lo] := by
  have hh := hi.toNat_lt_size
  have hl := lo.toNat_lt_size
  have hs : UInt8.size = 256 := rfl
  have hv : (unitOf hi lo).toNat = hi.toNat * 256 + lo.toNat := by
    rw [unitOf, beValue_pair, UInt16.toNat_ofNat_of_lt (by show _ < 65536; omega)]
  rw [beU16_eq, hv]
  congr 2 <;> apply UInt8.toNat.inj <;> rw [toNat_ofNat8] <;> omega

@[simp] theorem encodeUnits_nil : encodeUnits [] = [] := rfl

@[simp] theorem encodeUnits_cons (c : UInt16) (s : List UInt16) :
    encodeUnits (c :: s) = beU16 c ++ encodeUnits s := rfl

@[simp] theorem length_encodeUnits (s : List UInt16) :
    (encodeUnits s).length = 2 * s.length := by
  induction s <;> simp [*]; omega

@[simp] theorem encodeString_nil : encodeString [] = beU16 0 := rfl

@[simp] theorem encodeString_cons (c : UInt16) (s : List UInt16) :
    encodeString (c :: s) = beU16 c ++ encodeString s := by
  simp [encodeString]

@[simp] theorem length_encodeString (s : List UInt16) :
    (encodeString s).length = 2 * (s.length + 1) := by
  simp [encodeString]; omega

theorem readNullTermString_beU16_append (c : UInt16) (rest : List UInt8) :
    readNullTermString (beU16 c ++ rest) =
      if c = 0 then some [] else (readNullTermString rest).map (c :: ·) := by
  simp [beU16_eq, readNullTermString]

theorem readNullTermString_encodeString (s : List UInt16) (hs : 0 ∉ s) (rest : List UInt8) :
    readNullTermString (encodeString s ++ rest) = some s := by
  induction s with
  | nil => simp [readNullTermString_beU16_append]
  | cons c s ih =>
    simp only [List.mem_cons, not_or] at hs
    simp [readNullTermString_beU16_append, Ne.symm hs.1, ih hs.2]

-- The scan succeeds exactly on a NUL-free string followed by its terminator.
theorem readNullTermString_eq_some {mem : List UInt8} {s : List UInt16} :
    readNullTermString mem = some s ↔ 0 ∉ s ∧ ∃ tail, mem = encodeString s ++ tail := by
  constructor
  · intro h
    induction mem using readNullTermString.induct generalizing s with
    | case1 hi lo rest hz =>
      simp only [readNullTermString, hz, if_true, Option.some.injEq] at h
      subst h
      exact ⟨by simp, rest, by rw [encodeString_nil, ← hz, beU16_unitOf]; rfl⟩
    | case2 hi lo rest hz ih =>
      simp only [readNullTermString, hz, if_false, Option.map_eq_some'] at h
      obtain ⟨s', hs', rfl⟩ := h
      obtain ⟨h0, tail, rfl⟩ := ih hs'
      exact ⟨by simp [Ne.symm hz, h0], tail, by simp [beU16_unitOf]⟩
    | case3 mem hm =>
      match mem, hm with
      | [], _ | [_], _ => simp [readNullTermString] at h
      | hi :: lo :: rest, hm => exact absurd rfl (hm hi lo rest)
  · rintro ⟨hs, tail, rfl⟩
    exact readNullTermString_encodeString s hs tail

-- Past a string and its terminator, the advance of `length * 2 + 2` bytes lands on what follows.
theorem drop_append_encodeString (pre : List UInt8) (s : List UInt16) (rest : List UInt8) :
    (pre ++ encodeString s ++ rest).drop (pre.length + s.length * 2 + 2) = rest := by
  rw [List.append_assoc, show pre.length + s.length * 2 + 2 = pre.length + (encodeString s).length
    by simp; omega, List.drop_append, List.drop_left]

theorem drop_add_of_drop_eq {mem : List UInt8} {p : Nat} {s : List UInt16} {tail : List UInt8}
    (h : mem.drop p = encodeString s ++ tail) : mem.drop (p + s.length * 2 + 2) = tail := by
  rw [show p + s.length * 2 + 2 = p + (encodeString s).length by simp; omega, ← List.drop_drop, h,
    List.drop_left]

end XeniaXam.Xdbf
