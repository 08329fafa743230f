import Mathlib.Tactic.Common
import Mathlib.Tactic.Ring
import Mathlib.Algebra.BigOperators.Group.List

namespace XeniaXam.Kernel

-- What the XAM exports share: the status codes they return (xbox.h, not in src/), and their
-- stores of UTF-16 code units into a guest buffer.

def X_ERROR_SUCCESS : UInt32 := 0x00000000
def X_ERROR_PATH_NOT_FOUND : UInt32 := 0x00000003
def X_ERROR_ACCESS_DENIED : UInt32 := 0x00000005
def X_ERROR_INVALID_PARAMETER : UInt32 := 0x00000057
def X_ERROR_INSUFFICIENT_BUFFER : UInt32 := 0x0000007A
def X_ERROR_ALREADY_EXISTS : UInt32 := 0x000000B7
def X_ERROR_IO_PENDING : UInt32 := 0x000003E5
def X_ERROR_DEVICE_NOT_CONNECTED : UInt32 := 0x0000048F
def X_ERROR_NOT_LOGGED_ON : UInt32 := 0x000004DD
def X_ERROR_FUNCTION_FAILED : UInt32 := 0x0000065B
def X_E_ACCESS_DENIED : UInt32 := 0x80070005
def X_E_INVALIDARG : UInt32 := 0x80070057

-- `XSUCCEEDED`: the high bit is clear, so every X_ERROR_* code but X_ERROR_SUCCESS counts too.
def XSUCCEEDED (result : UInt32) : Bool := result &&& 0x80000000 == 0

-- A guest store of one UTF-16 code unit, `index` units past the start of a buffer.
structure UnitStore where
  index : Nat
  unit : UInt16
deriving DecidableEq, Repr

-- `store_and_swap<std::wstring>` and `copy_and_swap` (xenia/base/memory.h, not in src/): one
-- swapped store per code unit and no terminator; a caller that wants one stores it itself, as
-- `XamContentGetDeviceName` does.
def storeUnitsFrom (i : Nat) : List UInt16 → List UnitStore
  | [] => []
  | c :: s => ⟨i, c⟩ :: storeUnitsFrom (i + 1) s

def storeUnits (s : List UInt16) : List UnitStore := storeUnitsFrom 0 s

-- `std::memset(buffer, 0, buffer_length * 2)`: the byte count is a 32-bit product, so a length
-- of 2^31 units or more zeroes fewer units than it names.
def memsetUnits (bufferLength : UInt32) : List UnitStore :=
  storeUnits (List.replicate ((bufferLength * 2).toNat / 2) 0)

-- The buffer's units after the stores; a store past its end does not land in it.
def applyStores (buf : List UInt16) (stores : List UnitStore) : List UInt16 :=
  stores.foldl (fun buf st => buf.set st.index st.unit) buf

-- Every store lands among the buffer's first `bufferLength` units.
def WithinBuffer (bufferLength : Nat) (stores : List UnitStore) : Prop :=
  ∀ st ∈ stores, st.index < bufferLength

instance (bufferLength : Nat) (stores : List UnitStore) :
    Decidable (WithinBuffer bufferLength stores) :=
  inferInstanceAs (Decidable (∀ st ∈ stores, st.index < bufferLength))

@[simp] theorem storeUnitsFrom_nil (i : Nat) : storeUnitsFrom i [] = [] := rfl

@[simp] theorem storeUnitsFrom_cons (i : Nat) (c : UInt16) (s : List UInt16) :
    storeUnitsFrom i (c :: s) = ⟨i, c⟩ :: storeUnitsFrom (i + 1) s := rfl

@[simp] theorem applyStores_nil (buf : List UInt16) : applyStores buf [] = buf := rfl

@[simp] theorem applyStores_cons (buf : List UInt16) (st : UnitStore) (stores : List UnitStore) :
    applyStores buf (st :: stores) = applyStores (buf.set st.index st.unit) stores := rfl

@[simp] theorem applyStores_append (buf : List UInt16) (a b : List UnitStore) :
    applyStores buf (a ++ b) = applyStores (applyStores buf a) b :=
  List.foldl_append _ _ _ _

@[simp] theorem length_applyStores (buf : List UInt16) (stores : List UnitStore) :
    (applyStores buf stores).length = buf.length := by
  induction stores generalizing buf with
  | nil => rfl
  | cons st stores ih => simp [ih]

theorem storeUnitsFrom_succ (i : Nat) (s : List UInt16) :
    storeUnitsFrom (i + 1) s = (storeUnitsFrom i s).map fun st => ⟨st.index + 1, st.unit⟩ := by
  induction s generalizing i with
  | nil => rfl
  | cons c s ih => simp [ih]

-- Stores shifted one unit along miss the first unit.
theorem applyStores_cons_shift (b : UInt16) (rest : List UInt16) (stores : List UnitStore) :
    applyStores (b :: rest) (stores.map fun st => ⟨st.index + 1, st.unit⟩) =
      b :: applyStores rest stores := by
  induction stores generalizing rest with
  | nil => rfl
  | cons st stores ih => simp [ih]

theorem applyStores_empty (stores : List UnitStore) : applyStores [] stores = [] :=
  List.eq_nil_of_length_eq_zero (length_applyStores [] stores)

-- Storing `s` from the start of a buffer: its first units are replaced by those of `s`.
theorem applyStores_storeUnits (buf s : List UInt16) :
    applyStores buf (storeUnits s) = s.take buf.length ++ buf.drop s.length := by
  induction s generalizing buf with
  | nil => simp [storeUnits]
  | cons c s ih =>
    cases buf with
    | nil => simp [applyStores_empty]
    | cons b rest =>
      simp only [storeUnits, storeUnitsFrom_cons, applyStores_cons, List.set_cons_zero,
        storeUnitsFrom_succ, applyStores_cons_shift]
      rw [← storeUnits, ih]
      simp

theorem index_storeUnitsFrom (i : Nat) (s : List UInt16) :
    (storeUnitsFrom i s).map UnitStore.index = List.range' i s.length := by
  induction s generalizing i with
  | nil => rfl
  | cons c s ih => simp [ih, List.range'_succ]

@[simp] theorem withinBuffer_append (n : Nat) (a b : List UnitStore) :
    WithinBuffer n (a ++ b) ↔ WithinBuffer n a ∧ WithinBuffer n b :=
  List.forall_mem_append

-- A string stored from the start of the buffer stays inside it exactly when it fits.
@[simp] theorem withinBuffer_storeUnits (n : Nat) (s : List UInt16) :
    WithinBuffer n (storeUnits s) ↔ s.length ≤ n := by
  have hidx : WithinBuffer n (storeUnits s) ↔ ∀ j ∈ List.range' 0 s.length, j < n := by
    rw [← index_storeUnitsFrom, List.forall_mem_map]; rfl
  rw [hidx]
  simp only [List.mem_range'_1, zero_le, true_and, zero_add]
  constructor
  · intro h
    rcases Nat.eq_zero_or_pos s.length with h0 | hpos
    · omega
    · have := h (s.length - 1) (by omega); omega
  · intro h j hj; omega

-- The units the memset zeroes: all `buffer_length` of them below 2^31, fewer above.
theorem memsetUnits_count (bufferLength : UInt32) :
    (bufferLength * 2).toNat / 2 = bufferLength.toNat % 2 ^ 31 := by
  show bufferLength.toNat * 2 % 2 ^ 32 / 2 = _
  omega

theorem withinBuffer_memsetUnits (bufferLength : UInt32) :
    WithinBuffer bufferLength.toNat (memsetUnits bufferLength) := by
  rw [memsetUnits, withinBuffer_storeUnits, List.length_replicate, memsetUnits_count]
  exact Nat.mod_le _ _

-- Below 2^31 units the buffer is zeroed and then holds the stored string, cut to the buffer.
theorem applyStores_memsetUnits_storeUnits (bufferLength : UInt32)
    (h : bufferLength.toNat < 2 ^ 31) (buf s : List UInt16) (hbuf : buf.length = bufferLength.toNat) :
    applyStores buf (memsetUnits bufferLength ++ storeUnits s) =
      s.take bufferLength.toNat ++ List.replicate (bufferLength.toNat - s.length) 0 := by
  have hcount : (bufferLength * 2).toNat / 2 = bufferLength.toNat := by
    rw [memsetUnits_count]; exact Nat.mod_eq_of_lt h
  have hzero : applyStores buf (memsetUnits bufferLength) = List.replicate buf.length 0 := by
    rw [memsetUnits, applyStores_storeUnits, hcount, List.take_replicate, List.length_replicate,
      List.drop_eq_nil_of_le (by omega), List.append_nil, hbuf, Nat.min_self]
  rw [applyStores_append, hzero, applyStores_storeUnits, List.length_replicate, hbuf,
    List.drop_replicate]

theorem zero_mem_take_append_replicate_of_lt {s : List UInt16} {n : Nat} (h : s.length < n) :
    0 ∈ s.take n ++ List.replicate (n - s.length) 0 :=
  List.mem_append_right _ (List.mem_replicate.mpr ⟨by omega, rfl⟩)

theorem take_append_replicate_of_le {s : List UInt16} {n : Nat} (h : n ≤ s.length) :
    s.take n ++ List.replicate (n - s.length) 0 = s.take n := by
  rw [Nat.sub_eq_zero_of_le h, List.replicate_zero, List.append_nil]

-- A NUL-free string left that way is NUL-terminated inside the buffer exactly when it is
-- shorter than the buffer.
theorem zero_mem_take_append_replicate (s : List UInt16) (hs : 0 ∉ s) (n : Nat) :
    0 ∈ s.take n ++ List.replicate (n - s.length) 0 ↔ s.length < n := by
  refine ⟨fun h => ?_, zero_mem_take_append_replicate_of_lt⟩
  by_contra hlt
  rw [take_append_replicate_of_le (by omega)] at h
  exact hs (List.mem_of_mem_take h)

end XeniaXam.Kernel
