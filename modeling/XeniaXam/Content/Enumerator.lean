import XeniaXam.Content.Device

namespace XeniaXam.Content

open XeniaXam.Kernel
open XeniaXam.Xdbf (beU32 beU64 encodeUnits writeBytes)

-- The enumerators of xam_content.cc: `XamContentCreateEnumerator` over the content of a
-- device, and `XamContentCreateDeviceEnumerator` over the devices. An `XStaticEnumerator`
-- (xenumerator.h, not in src/) is modelled by its items per enumerate and the items appended to
-- it; `AppendItem` hands out a zeroed item of the item size, which the export then fills.

structure Enumerator (α : Type) where
  itemsPerEnumerate : UInt32
  items : List α
deriving DecidableEq, Repr

-- The status, the store to `*buffer_size_ptr` when that pointer is given, and the enumerator
-- whose handle is stored to `*handle_out`, when one is made.
structure EnumeratorOutcome (α : Type) where
  status : UInt32
  bufferSize : Option UInt32
  enumerator : Option (Enumerator α)
deriving DecidableEq, Repr

-- `XamContentCreateEnumerator`. `listContent` is `ContentManager::ListContent` and `kSize` is
-- `XCONTENT_DATA::kSize` (content_manager.h, not in src/); the items are the content data that
-- `XCONTENT_DATA::Write` lays out in them. Device 0 stands for the dummy device.
def xamContentCreateEnumerator {α : Type} (listContent : UInt32 → UInt32 → List α)
    (kSize deviceId contentType itemsPerEnumerate : UInt32) (bufferSizePtr handleOut : Bool) :
    EnumeratorOutcome α :=
  if (deviceId ≠ 0 ∧ deviceId &&& 0x0000000F ≠ dummyDeviceInfo.deviceId) ∨
      handleOut = false then
    ⟨X_E_INVALIDARG, if bufferSizePtr then some 0 else none, none⟩
  else
    ⟨X_ERROR_SUCCESS, if bufferSizePtr then some (kSize * itemsPerEnumerate) else none,
      some ⟨itemsPerEnumerate, listContent
        (if deviceId ≠ 0 then deviceId else dummyDeviceInfo.deviceId) contentType⟩⟩

-- `sizeof(DeviceInfo)` with the two-byte `wchar_t` of the Windows build.
def deviceInfoSize : Nat := 4 + 4 + 8 + 8 + 2 * 28

-- The id, type and sizes, big-endian: the 24 bytes before the name.
def deviceHeader (info : DeviceInfo) : List UInt8 :=
  beU32 info.deviceId ++ beU32 info.deviceType ++ beU64 info.totalBytes ++ beU64 info.freeBytes

-- The four `store_and_swap`s and `copy_and_swap(dev->name, name, 28)`. They cover the whole
-- item, so what `AppendItem` zeroed is all overwritten (`length_deviceItem`).
def deviceItem (info : DeviceInfo) : List UInt8 :=
  deviceHeader info ++ encodeUnits info.name

-- The body of `XamContentCreateDeviceEnumerator` for the device `info` it copies:
-- `AppendItem` never fails here, so the device is always its one item; the buffer size is a
-- 64-bit product stored into a 32-bit word.
def createDeviceEnumerator (info : DeviceInfo) (maxCount : UInt32) (bufferSizePtr : Bool) :
    EnumeratorOutcome (List UInt8) :=
  ⟨X_ERROR_SUCCESS,
    if bufferSizePtr then some (UInt32.ofNat (deviceInfoSize * maxCount.toNat)) else none,
    some ⟨maxCount, [deviceItem info]⟩⟩

def xamContentCreateDeviceEnumerator (maxCount : UInt32) (bufferSizePtr : Bool) :
    EnumeratorOutcome (List UInt8) :=
  createDeviceEnumerator dummyDeviceInfo maxCount bufferSizePtr

@[simp] theorem length_deviceHeader (info : DeviceInfo) : (deviceHeader info).length = 24 := by
  simp [deviceHeader]

theorem nameArray_eq {name : List UInt16} (h : name.length ≤ 28) :
    nameArray name = name ++ List.replicate (28 - name.length) 0 := by
  rw [nameArray, List.take_append_eq_append_take, List.take_of_length_le h, List.take_replicate,
    Nat.min_eq_left (Nat.sub_le _ _)]

theorem length_deviceItem (info : DeviceInfo) : (deviceItem info).length = deviceInfoSize := by
  simp [deviceItem, info.length_name, deviceInfoSize]

theorem encodeUnits_append (s t : List UInt16) :
    encodeUnits (s ++ t) = encodeUnits s ++ encodeUnits t :=
  List.flatMap_append _ _ _

theorem encodeUnits_replicate_zero (k : Nat) :
    encodeUnits (List.replicate k 0) = List.replicate (2 * k) 0 := by
  induction k with
  | zero => rfl
  | succ k ih =>
    rw [List.replicate_succ, Xdbf.encodeUnits_cons, ih, Nat.mul_succ, Nat.add_comm,
      List.replicate_add]
    rfl

theorem encodeUnits_injective : ∀ {s t : List UInt16}, encodeUnits s = encodeUnits t → s = t
  | [], [], _ => rfl
  | [], _ :: _, h => by have hlen := congrArg List.length h; simp at hlen; omega
  | _ :: _, [], h => by have hlen := congrArg List.length h; simp at hlen
  | a :: s, b :: t, h => by
    have hsplit := congrArg Xdbf.splitU16 h
    simp only [Xdbf.encodeUnits_cons, Xdbf.splitU16_beU16_append, Prod.mk.injEq] at hsplit
    rw [hsplit.1, encodeUnits_injective hsplit.2]

-- A name of at most 28 units stored over a zeroed `X_CONTENT_DEVICE_DATA` leaves the header
-- and the name's array, zero-filled.
theorem writeBytes_deviceHeader (info : DeviceInfo) {name : List UInt16} (h : name.length ≤ 28) :
    writeBytes (List.replicate contentDeviceDataSize 0) 0 (deviceHeader info ++ encodeUnits name) =
      some (deviceHeader info ++ encodeUnits (nameArray name)) := by
  have hfit : 0 + (deviceHeader info ++ encodeUnits name).length ≤
      (List.replicate contentDeviceDataSize 0).length := by
    simp only [List.length_append, length_deviceHeader, Xdbf.length_encodeUnits,
      List.length_replicate, contentDeviceDataSize]
    omega
  rw [Xdbf.writeBytes_of_le hfit, nameArray_eq h, encodeUnits_append,
    encodeUnits_replicate_zero, List.drop_replicate]
  simp only [List.take_zero, List.nil_append, List.append_assoc, List.length_append,
    length_deviceHeader, Xdbf.length_encodeUnits, contentDeviceDataSize]
  rw [show 80 - (0 + (24 + 2 * name.length)) = 2 * (28 - name.length) by omega]

-- The array is rebuilt from its C string exactly when every unit after the first NUL is zero.
theorem nameArray_takeWhile {name : List UInt16} (h : name.length = 28) :
    nameArray (name.takeWhile (· != 0)) = name ↔ ∀ u ∈ name.dropWhile (· != 0), u = 0 := by
  have hlen : (name.takeWhile (· != 0)).length ≤ 28 := h ▸ (List.takeWhile_sublist _).length_le
  have hsplit := List.takeWhile_append_dropWhile (· != 0) name
  have hdrop : (name.dropWhile (· != 0)).length = 28 - (name.takeWhile (· != 0)).length := by
    have hlens := congrArg List.length hsplit
    rw [List.length_append, h] at hlens
    omega
  rw [nameArray_eq hlen]
  conv_lhs => rhs; rw [← hsplit]
  rw [List.append_right_inj, eq_comm, List.eq_replicate_iff]
  exact and_iff_right hdrop

theorem toNat_and_0f (x : UInt32) : (x &&& 0x0000000F).toNat = x.toNat % 16 :=
  (BitVec.toNat_and _ _).trans (Nat.and_pow_two_sub_one_eq_mod x.toNat 4)

-- The device lookup masks the guest's id to its low nibble, so an id is looked up as itself
-- exactly when it is below 16.
theorem and_0f_eq_self (x : UInt32) : x &&& 0x0000000F = x ↔ x.toNat < 16 :=
  ⟨fun h => by have hmod := toNat_and_0f x; rw [h] at hmod; omega,
    fun h => UInt32.toNat.inj (by rw [toNat_and_0f]; omega)⟩

end XeniaXam.Content
