import XeniaXam.Xdbf.Headers

namespace XeniaXam.Xdbf

-- Modelled from the spec: the type codes of `X_XUSER_DATA_TYPE` (xdbf_xbox.h is not in the
-- source). §3 names the types; the codes are the console's, and any distinct codes would do.
def kInt32 : UInt16 := 1
def kInt64 : UInt16 := 2
def kDouble : UInt16 := 3
def kUnicode : UInt16 := 4
def kFloat : UInt16 := 5
def kBinary : UInt16 := 6
def kDateTime : UInt16 := 7
def kNull : UInt16 := 0xFF

namespace XUserData

-- `string.cbData` and `binary.cbData` share the first four bytes of the slot.
def cbData (v : XUserData) : UInt32 := v.high

-- Store to the first four bytes of the slot: `nData`, `fData` or a `cbData`.
def setHead (v : XUserData) (x : UInt32) : XUserData := { v with high := x }

-- Store to all eight bytes of the slot: `i64Data` or `dblData`.
def setSlot (v : XUserData) (x : UInt64) : XUserData :=
  { v with high := (x >>> 32).toUInt32, low := x.toUInt32 }

end XUserData

structure Setting where
  id : UInt32
  value : XUserData
  extraData : List UInt8
deriving DecidableEq, Repr

namespace Setting

-- The record layout `ReadGPD` reads: the header with the id and value, then the payload.
def toGPD (st : Setting) : List UInt8 := XdbfGpdSetting.toBytes ⟨st.id, st.value⟩ ++ st.extraData

-- `ReadGPD` assigns the id and the whole value, and `extraData` only for a Binary or Unicode
-- value, from the `cbData` bytes after the header.
def readGPD (st : Setting) (mem : List UInt8) : Option Setting := do
  let src ← readBytes mem XdbfGpdSetting.size
  let hdr := XdbfGpdSetting.ofBytes src
  let st := { st with id := hdr.settingId, value := hdr.value }
  if st.value.type = kBinary then
    let payload ← readBytes (mem.drop XdbfGpdSetting.size) hdr.value.cbData.toNat
    pure { st with extraData := payload }
  else if st.value.type = kUnicode then
    let payload ← readBytes (mem.drop XdbfGpdSetting.size) hdr.value.cbData.toNat
    pure { st with extraData := payload }
  else pure st

-- `ValueString()` byte-swaps a copy of `extraData` and reads it as a NUL-terminated string:
-- the scan of `extraData`'s big-endian units. `none` also when its assert fails.
def valueString (st : Setting) : Option (List UInt16) :=
  if st.value.type = kUnicode then readNullTermString st.extraData else none

section Value

-- `XPROFILEID_TYPE`, the type a setting id mandates for its value.
variable (profileIdType : UInt32 → UInt16)

-- The scalar `Value` overloads: set the type, assert it is the mandated one, store the value's
-- bits, clear `extraData`. `none` when the assert fails.
def valueScalar (type : UInt16) (store : XUserData → XUserData) (st : Setting) :
    Option Setting :=
  let value := { st.value with type := type }
  if profileIdType st.id = value.type then
    some { st with value := store value, extraData := [] }
  else none

def valueUInt32 (st : Setting) (newValue : UInt32) : Option Setting :=
  valueScalar profileIdType kInt32 (·.setHead newValue) st

-- An id that mandates DateTime takes the 64-bit value as one.
def valueUInt64 (st : Setting) (newValue : UInt64) : Option Setting :=
  valueScalar profileIdType (if profileIdType st.id = kDateTime then kDateTime else kInt64)
    (·.setSlot newValue) st

-- The float and double overloads store the value's bits.
def valueFloat (st : Setting) (newValue : UInt32) : Option Setting :=
  valueScalar profileIdType kFloat (·.setHead newValue) st

def valueDouble (st : Setting) (newValue : UInt64) : Option Setting :=
  valueScalar profileIdType kDouble (·.setSlot newValue) st

-- `Value(const std::wstring&)`: `cbData` is the 32-bit byte count with the terminator, the
-- vector is resized to it, the units are copied, and the last unit is zeroed. `none` when the
-- assert fails or a write falls outside the vector.
def valueWString (st : Setting) (newValue : List UInt16) : Option Setting := do
  let value := { st.value with type := kUnicode }
  if profileIdType st.id ≠ value.type then none
  let value := (value.setSlot 0).setHead (UInt32.ofNat ((newValue.length + 1) * 2))
  let extraData := resize st.extraData value.cbData.toNat
  let extraData ← writeBytes extraData 0 (encodeUnits newValue)
  if value.cbData.toNat < 2 then none
  let extraData ← writeBytes extraData (value.cbData.toNat - 2) (beU16 0)
  pure { st with value := value, extraData := extraData }

-- The six constructors. The members they do not set hold whatever the object's storage
-- held, given here as `storage`.

def mkDefault (storage : XUserData) : Setting :=
  { id := 0, value := { storage with type := kNull }, extraData := [] }

def ofUInt32 (storage : XUserData) (id : UInt32) (value : UInt32) : Option Setting :=
  valueUInt32 profileIdType ⟨id, storage, []⟩ value

def ofUInt64 (storage : XUserData) (id : UInt32) (value : UInt64) : Option Setting :=
  valueUInt64 profileIdType ⟨id, storage, []⟩ value

def ofFloat (storage : XUserData) (id : UInt32) (value : UInt32) : Option Setting :=
  valueFloat profileIdType ⟨id, storage, []⟩ value

def ofWString (storage : XUserData) (id : UInt32) (value : List UInt16) : Option Setting :=
  valueWString profileIdType ⟨id, storage, []⟩ value

-- The initializer-list constructor copies the bytes and sets the type, and nothing else.
def ofBinary (storage : XUserData) (id : UInt32) (value : List UInt8) : Setting :=
  { id := id, value := { storage with type := kBinary }, extraData := value }

-- `Value(...)` as one operation: C++ picks the overload by the argument's type.

inductive SettingValue
  | int32 (value : UInt32)
  | int64 (value : UInt64)
  | float (bits : UInt32)
  | double (bits : UInt64)
  | unicode (value : List UInt16)
deriving DecidableEq, Repr

def assign (st : Setting) : SettingValue → Option Setting
  | .int32 v => valueUInt32 profileIdType st v
  | .int64 v => valueUInt64 profileIdType st v
  | .float v => valueFloat profileIdType st v
  | .double v => valueDouble profileIdType st v
  | .unicode v => valueWString profileIdType st v

end Value

-- The type an id may mandate for each kind of value, as the overloads assert it.
def SettingValue.Admits (type : UInt16) : SettingValue → Prop
  | .int32 _ => type = kInt32
  | .int64 _ => type = kInt64 ∨ type = kDateTime
  | .float _ => type = kFloat
  | .double _ => type = kDouble
  | .unicode _ => type = kUnicode

-- `extraData` holds exactly the payload the value describes, and nothing for a scalar.
def Inv (st : Setting) : Prop :=
  if st.value.type = kUnicode ∨ st.value.type = kBinary then
    st.value.cbData.toNat = st.extraData.length
  else st.extraData = []

instance (st : Setting) : Decidable st.Inv :=
  inferInstanceAs (Decidable (if st.value.type = kUnicode ∨ st.value.type = kBinary then
    st.value.cbData.toNat = st.extraData.length else st.extraData = []))

section Value

variable (profileIdType : UInt32 → UInt16)

theorem valueScalar_eq_some {type : UInt16} {store : XUserData → XUserData} {st st' : Setting} :
    valueScalar profileIdType type store st = some st' ↔
      profileIdType st.id = type ∧
        st' = { st with value := store ({ st.value with type := type }), extraData := [] } := by
  by_cases h : profileIdType st.id = type <;> simp [valueScalar, h, eq_comm]

-- The length of `extraData` after `Value(wstring)` is the `cbData` it stored.
theorem valueWString_cbData {st st' : Setting} {s : List UInt16}
    (h : valueWString profileIdType st s = some st') :
    st'.value.type = kUnicode ∧ st'.value.cbData.toNat = st'.extraData.length := by
  unfold valueWString at h
  by_cases ht : profileIdType st.id ≠ ({ st.value with type := kUnicode } : XUserData).type
  · rw [if_pos ht] at h; cases h
  rw [if_neg ht] at h
  simp only [Option.bind_eq_bind, Option.pure_def, Option.some_bind, Option.bind_eq_some] at h
  obtain ⟨e1, he1, h⟩ := h
  split at h
  · cases h
  simp only [Option.some_bind, Option.bind_eq_some, Option.some.injEq] at h
  obtain ⟨e2, he2, rfl⟩ := h
  refine ⟨rfl, ?_⟩
  rw [length_of_writeBytes he2, length_of_writeBytes he1, length_resize]

-- Whenever `Value(wstring)` completes, the payload is the string and its terminator; it
-- completes when the byte count fits the 32-bit `cbData`.
theorem valueWString_eq (st : Setting) (s : List UInt16) (ht : profileIdType st.id = kUnicode)
    (hs : (s.length + 1) * 2 < 2 ^ 32) :
    valueWString profileIdType st s = some { st with
      value := ({ st.value with type := kUnicode }.setSlot 0).setHead
        (UInt32.ofNat ((s.length + 1) * 2)),
      extraData := encodeString s } := by
  have hcb : (UInt32.ofNat ((s.length + 1) * 2)).toNat = s.length * 2 + 2 := by
    rw [UInt32.toNat_ofNat_of_lt hs]; ring
  have hres := length_resize st.extraData (s.length * 2 + 2)
  have hunits := length_encodeUnits s
  have hw1 := writeBytes_append_length [] (encodeUnits s) (resize st.extraData (s.length * 2 + 2))
    (by rw [hunits, hres]; omega)
  have hw2 := writeBytes_append_length (encodeUnits s) (beU16 0)
    ((resize st.extraData (s.length * 2 + 2)).drop (encodeUnits s).length)
    (by rw [List.length_drop, hres, hunits, length_beU16]; omega)
  have hdrop : ((resize st.extraData (s.length * 2 + 2)).drop (encodeUnits s).length).drop
      (beU16 0).length = [] := by
    rw [List.drop_drop]
    exact List.drop_eq_nil_of_le (by rw [hres, hunits, length_beU16]; omega)
  simp only [List.nil_append, List.length_nil] at hw1
  simp only [valueWString, XUserData.cbData, XUserData.setHead, ht, ne_eq, not_true_eq_false,
    if_false, hcb, Option.bind_eq_bind, Option.pure_def, Option.some_bind, hw1,
    show ¬ s.length * 2 + 2 < 2 by omega,
    show s.length * 2 + 2 - 2 = (encodeUnits s).length by rw [hunits]; omega, hw2, hdrop,
    List.append_nil]
  rfl

-- Every `Value` overload that completes leaves `extraData` in step with the value.
theorem assign_inv {st st' : Setting} {v : SettingValue}
    (h : assign profileIdType st v = some st') : st'.Inv := by
  cases v with
  | unicode s =>
    obtain ⟨ht, hcb⟩ := valueWString_cbData profileIdType h
    simp [Inv, ht, hcb]
  | _ =>
    simp only [assign, valueUInt32, valueUInt64, valueFloat, valueDouble,
      valueScalar_eq_some] at h
    obtain ⟨-, rfl⟩ := h
    unfold Inv
    split_ifs <;> simp_all [XUserData.setHead, XUserData.setSlot, kInt32, kInt64, kFloat,
      kDouble, kUnicode, kBinary, kDateTime]

end Value

-- `ReadGPD` of a setting's record, into a default-constructed setting: the id and value, and
-- for a Binary or Unicode value the `cbData` bytes of the payload.
theorem readGPD_toGPD_eq (storage : XUserData) (st : Setting) :
    (mkDefault storage).readGPD st.toGPD =
      if st.value.type = kBinary ∨ st.value.type = kUnicode then
        (readBytes st.extraData st.value.cbData.toNat).map fun p => { st with extraData := p }
      else some { st with extraData := [] } := by
  have hlen := XdbfGpdSetting.length_toBytes ⟨st.id, st.value⟩
  have hread : readBytes st.toGPD XdbfGpdSetting.size = some (XdbfGpdSetting.toBytes
      ⟨st.id, st.value⟩) := by
    rw [toGPD, ← hlen]; exact readBytes_append_length _ _
  have hdrop : st.toGPD.drop XdbfGpdSetting.size = st.extraData := List.drop_left' hlen
  simp only [readGPD, hread, hdrop, XdbfGpdSetting.ofBytes_toBytes, Option.bind_eq_bind,
    Option.some_bind, Option.pure_def]
  by_cases hb : st.value.type = kBinary
  · simp only [hb, true_or, if_true]
    cases readBytes st.extraData st.value.cbData.toNat <;> rfl
  by_cases hu : st.value.type = kUnicode
  · simp only [hb, hu, or_true, if_true, if_false]
    cases readBytes st.extraData st.value.cbData.toNat <;> rfl
  · simp only [hb, hu, or_self, if_false, mkDefault]

-- A consistent setting's record reads back into a default-constructed setting as itself.
theorem readGPD_toGPD (storage : XUserData) (st : Setting) (h : st.Inv) :
    (mkDefault storage).readGPD st.toGPD = some st := by
  rw [readGPD_toGPD_eq]
  unfold Inv at h
  by_cases hpay : st.value.type = kBinary ∨ st.value.type = kUnicode
  · rw [if_pos hpay]
    rw [if_pos hpay.symm] at h
    rw [h, readBytes_self]
    rfl
  · rw [if_neg hpay]
    rw [if_neg fun h' => hpay h'.symm] at h
    rw [← h]

-- The record of a setting made by the initializer-list constructor reads back as itself
-- exactly when the `cbData` left in its storage is the payload's length.
theorem readGPD_ofBinary (storage storage' : XUserData) (id : UInt32) (v : List UInt8) :
    (mkDefault storage').readGPD (ofBinary storage id v).toGPD = some (ofBinary storage id v) ↔
      storage.cbData.toNat = v.length := by
  have hb : (ofBinary storage id v).value.type = kBinary := rfl
  rw [readGPD_toGPD_eq, if_pos (Or.inl hb)]
  simp only [Option.map_eq_some', readBytes_eq_some]
  constructor
  · rintro ⟨p, ⟨hle, rfl⟩, hp⟩
    have hle' : storage.cbData.toNat ≤ v.length := hle
    have htake : (v.take storage.cbData.toNat).length = v.length :=
      congrArg List.length (congrArg Setting.extraData hp)
    rw [List.length_take] at htake
    show storage.cbData.toNat = v.length
    omega
  · intro h
    refine ⟨v, ⟨h.le, ?_⟩, rfl⟩
    show v = v.take storage.cbData.toNat
    rw [h, List.take_length]

section Value

variable (profileIdType : UInt32 → UInt16)

-- A value the id admits, stored by `Value(...)` into any setting, reads back from its record
-- bit for bit, and a string reads back through `ValueString()`, when the string's byte count
-- fits the 32-bit `cbData`.
theorem assign_toGPD_readGPD (st : Setting) (v : SettingValue)
    (hv : v.Admits (profileIdType st.id))
    (hs : ∀ s, v = .unicode s → 0 ∉ s ∧ (s.length + 1) * 2 < 2 ^ 32) (storage : XUserData) :
    ∃ st', assign profileIdType st v = some st' ∧
      (mkDefault storage).readGPD st'.toGPD = some st' ∧
      ∀ s, v = .unicode s → st'.valueString = some s := by
  have hsome : ∃ st', assign profileIdType st v = some st' ∧
      ∀ s, v = .unicode s → st'.valueString = some s := by
    cases v with
    | int32 | float | double =>
      simp only [assign, valueUInt32, valueFloat, valueDouble]
      exact ⟨_, (valueScalar_eq_some profileIdType).mpr ⟨hv, rfl⟩, fun _ h => by cases h⟩
    | int64 =>
      simp only [assign, valueUInt64]
      refine ⟨_, (valueScalar_eq_some profileIdType).mpr ⟨?_, rfl⟩, fun _ h => by cases h⟩
      rcases hv with h | h <;> simp [h, kInt64, kDateTime]
    | unicode s =>
      obtain ⟨h0, hlen⟩ := hs s rfl
      refine ⟨_, valueWString_eq profileIdType st s hv hlen, fun s' hs' => ?_⟩
      cases hs'
      simpa [valueString, XUserData.setHead, XUserData.setSlot] using
        readNullTermString_encodeString s h0 []
  obtain ⟨st', h, hstr⟩ := hsome
  exact ⟨st', h, readGPD_toGPD storage st' (assign_inv profileIdType h), hstr⟩

end Value

-- Every `Value` overload round-trips through the record, but the initializer-list
-- constructor does not: it never stores `cbData`, so `ReadGPD` sizes the payload by whatever
-- the object's storage held. In zeroed storage, the Binary setting {1, 2, 3} reads back with no
-- payload.
theorem roundTrip_binary_broken :
    (∀ (profileIdType : UInt32 → UInt16) (st : Setting) (v : SettingValue),
      v.Admits (profileIdType st.id) →
      (∀ s, v = .unicode s → 0 ∉ s ∧ (s.length + 1) * 2 < 2 ^ 32) → ∀ storage : XUserData,
        ∃ st', assign profileIdType st v = some st' ∧
          (mkDefault storage).readGPD st'.toGPD = some st' ∧
          ∀ s, v = .unicode s → st'.valueString = some s) ∧
    (∀ (storage storage' : XUserData) (id : UInt32) (v : List UInt8),
      (mkDefault storage').readGPD (ofBinary storage id v).toGPD = some (ofBinary storage id v) ↔
        storage.cbData.toNat = v.length) ∧
    (mkDefault ⟨kNull, 0, 0⟩).readGPD (ofBinary ⟨kNull, 0, 0⟩ 0x60000001 [1, 2, 3]).toGPD =
      some ⟨0x60000001, ⟨kBinary, 0, 0⟩, []⟩ :=
  ⟨assign_toGPD_readGPD, readGPD_ofBinary, by rw [readGPD_toGPD_eq]; rfl⟩

-- Two operations leave a setting inconsistent. The initializer-list constructor never stores
-- `cbData`, which keeps whatever the storage held (zero here). `ReadGPD` of a scalar record
-- into a setting that held a string keeps the string's bytes.
theorem inv_broken :
    ¬ (ofBinary ⟨kNull, 0, 0⟩ 0x60000001 [1]).Inv ∧
      ∃ st st', ofWString (fun _ => kUnicode) ⟨kNull, 0, 0⟩ 0x40000001 [0x61] = some st ∧
        st.Inv ∧ st.readGPD (XdbfGpdSetting.toBytes ⟨0x10000001, ⟨kInt32, 5, 0⟩⟩) = some st' ∧
        ¬ st'.Inv :=
  ⟨by decide, _, _, rfl, by decide, rfl, by decide⟩

-- Where `ReadGPD` reads.

-- The header fits, and a Binary or Unicode value's `cbData` bytes follow it.
def GpdWellFormed (mem : List UInt8) : Prop :=
  XdbfGpdSetting.size ≤ mem.length ∧
    let value := (XdbfGpdSetting.ofBytes (mem.take XdbfGpdSetting.size)).value
    (value.type = kBinary ∨ value.type = kUnicode) →
      XdbfGpdSetting.size + value.cbData.toNat ≤ mem.length

theorem readGPD_isSome_iff (st : Setting) (mem : List UInt8) :
    (st.readGPD mem).isSome ↔ GpdWellFormed mem := by
  unfold GpdWellFormed readGPD
  by_cases hs : XdbfGpdSetting.size ≤ mem.length
  · rw [readBytes_eq_some.mpr ⟨hs, rfl⟩]
    simp only [Option.bind_eq_bind, Option.some_bind, hs, true_and]
    by_cases hb : (XdbfGpdSetting.ofBytes (mem.take XdbfGpdSetting.size)).value.type = kBinary
    · simp [hb, Option.pure_def]; omega
    by_cases hu : (XdbfGpdSetting.ofBytes (mem.take XdbfGpdSetting.size)).value.type = kUnicode
    · simp [hb, hu, Option.pure_def]; omega
    · simp [hb, hu]
  · simp [readBytes, hs]

-- What follows a decodable record is never read.
theorem readGPD_append {st x : Setting} {mem : List UInt8} (h : st.readGPD mem = some x)
    (rest : List UInt8) : st.readGPD (mem ++ rest) = some x := by
  rw [readGPD, Option.bind_eq_bind] at h ⊢
  obtain ⟨src, hsrc, hbody⟩ := Option.bind_eq_some.mp h
  rw [readBytes_append hsrc, Option.some_bind,
    List.drop_append_of_le_length (readBytes_eq_some.mp hsrc).1]
  dsimp only at hbody ⊢
  split_ifs at hbody ⊢
  · obtain ⟨p, hp, hx⟩ := Option.bind_eq_some.mp hbody
    rw [readBytes_append hp]; exact hx
  · obtain ⟨p, hp, hx⟩ := Option.bind_eq_some.mp hbody
    rw [readBytes_append hp]; exact hx
  · exact hbody

end Setting

end XeniaXam.Xdbf
