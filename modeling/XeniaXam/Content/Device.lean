import XeniaXam.Kernel.Shim
import XeniaXam.Xdbf.Bytes

namespace XeniaXam.Content

open XeniaXam.Kernel
open XeniaXam.Xdbf (beU32 beU64 encodeUnits writeBytes)

-- `XamContentGetDeviceName`: the name of the one (dummy) storage device, into a guest buffer
-- of `name_capacity` units.

-- `wchar_t name[28]` initialised from a shorter literal: the name, then zero units.
def nameArray (name : List UInt16) : List UInt16 := (name ++ List.replicate 28 0).take 28

theorem length_nameArray (name : List UInt16) : (nameArray name).length = 28 := by
  simp [nameArray]

structure DeviceInfo where
  deviceId : UInt32
  deviceType : UInt32
  totalBytes : UInt64
  freeBytes : UInt64
  name : List UInt16
  length_name : name.length = 28

-- `dummy_device_info_`: a 120 GiB drive with 42 GiB free, named "Dummy HDD".
def dummyDeviceInfo : DeviceInfo :=
  ⟨1, 1, 120 * 1024 * 1024 * 1024, 42 * 1024 * 1024 * 1024,
    nameArray ("Dummy HDD".toList.map (·.toNat.toUInt16)), length_nameArray _⟩

-- `std::wstring(name)`: the units before the first NUL; `none` when the array holds no NUL and
-- the constructor reads past it.
def wstringOf (name : List UInt16) : Option (List UInt16) :=
  if 0 ∈ name then some (name.takeWhile (· != 0)) else none

-- The status, and the stores into `name_buffer`; `none` is a host fault.
def xamContentGetDeviceName (deviceId nameCapacity : UInt32) : Option (UInt32 × List UnitStore) :=
  if deviceId &&& 0x0000000F ≠ dummyDeviceInfo.deviceId then
    some (X_ERROR_DEVICE_NOT_CONNECTED, [])
  else (wstringOf dummyDeviceInfo.name).map fun name =>
    if nameCapacity.toNat < name.length + 1 then (X_ERROR_INSUFFICIENT_BUFFER, [])
    else (X_ERROR_SUCCESS, storeUnits name ++ [⟨name.length, 0⟩])

-- How an export completes an overlapped: `CompleteOverlappedImmediate(result)`, or
-- `CompleteOverlappedImmediateEx(result, extended_error, length)`.
inductive Completion
  | immediate (result : UInt32)
  | immediateEx (result extendedError length : UInt32)
deriving DecidableEq, Repr

-- The status returned, and the completion of the overlapped when there is one.
def xamContentGetDeviceState (deviceId : UInt32) (overlapped : Bool) :
    UInt32 × Option Completion :=
  if deviceId &&& 0x0000000F ≠ dummyDeviceInfo.deviceId then
    if overlapped then
      (X_ERROR_SUCCESS,
        some (.immediateEx X_ERROR_FUNCTION_FAILED X_ERROR_DEVICE_NOT_CONNECTED 0))
    else (X_ERROR_DEVICE_NOT_CONNECTED, none)
  else if overlapped then (X_ERROR_IO_PENDING, some (.immediate X_ERROR_SUCCESS))
  else (X_ERROR_SUCCESS, none)

-- `sizeof(X_CONTENT_DEVICE_DATA)`.
def contentDeviceDataSize : Nat := 0x50

-- The body of `XamContentGetDeviceData` for the device `info` it reads (`device_info`): the
-- status, and the `X_CONTENT_DEVICE_DATA` bytes when they are written: zeroed, then the
-- big-endian id, type and sizes, and `std::wstring(name)` stored from offset 24 by
-- `store_and_swap`. `none` is a host fault: the name read or the store running past its array.
def getDeviceData (info : DeviceInfo) (deviceId : UInt32) : Option (UInt32 × Option (List UInt8)) :=
  if deviceId &&& 0x0000000F ≠ info.deviceId then some (X_ERROR_DEVICE_NOT_CONNECTED, none)
  else (wstringOf info.name).bind fun name =>
    (writeBytes (List.replicate contentDeviceDataSize 0) 0
      (beU32 info.deviceId ++ beU32 info.deviceType ++ beU64 info.totalBytes ++
        beU64 info.freeBytes ++ encodeUnits name)).map fun data => (X_ERROR_SUCCESS, some data)

def xamContentGetDeviceData (deviceId : UInt32) : Option (UInt32 × Option (List UInt8)) :=
  getDeviceData dummyDeviceInfo deviceId

-- `XamSwapDisc`: mount the path `SwapNext` returns at `\Device\LauncherData`, as an STFS
-- container, a host directory or a disc image, then point `d:` and `game:` at it.

-- `std::wstring::npos` for a 64-bit `size_t`.
def npos : Nat := 2 ^ 64 - 1

def lastIndexOf (c : Char) : List Char → Option Nat
  | [] => none
  | x :: s =>
    match lastIndexOf c s with
    | some i => some (i + 1)
    | none => if x = c then some 0 else none

-- `find_last_of(c)`: the index of the last `c`, or `npos`.
def findLastOf (s : List Char) (c : Char) : Nat := (lastIndexOf c s).getD npos

-- `substr(pos)`: `none` is the `std::out_of_range` it throws for a position past the end.
def substr (s : List Char) (pos : Nat) : Option (List Char) :=
  if pos ≤ s.length then some (s.drop pos) else none

inductive Device
  | stfsContainer (path : List Char)
  | hostPath (basePath : List Char)
  | discImage (path : List Char)
deriving DecidableEq, Repr

-- The calls `XamSwapDisc` makes on the virtual file system.
inductive FsOp
  | unregisterDevice (path : String)
  | registerDevice (path : String) (device : Device)
  | unregisterSymbolicLink (path : String)
  | registerSymbolicLink (path target : String)
deriving DecidableEq, Repr

-- The file-system calls made, in order, and whether `std::out_of_range` escaped; when it did,
-- the rest of `XamSwapDisc` (the relinking and the completion event) did not run.
structure SwapOutcome where
  ops : List FsOp
  threw : Bool
deriving DecidableEq, Repr

def mountPath : String := "\\Device\\LauncherData"

-- A device already at the mount path is unregistered first.
def unmount (mounted : Bool) : List FsOp :=
  if mounted then [.unregisterDevice mountPath] else []

def relink : List FsOp :=
  [.unregisterSymbolicLink "d:", .unregisterSymbolicLink "game:",
    .registerSymbolicLink "d:" mountPath, .registerSymbolicLink "game:" mountPath]

section Swap

-- `xe::kPathSeparator`, and `xe::find_base_path` (xenia/base, not in src/).
variable (pathSeparator : Char) (findBasePath : List Char → List Char)

-- Where the extension starts: the last '.', unless a separator comes after it.
def extensionStart (localPath : List Char) : Nat :=
  let lastSlash := findLastOf localPath pathSeparator
  let lastDot := findLastOf localPath '.'
  if lastDot < lastSlash then npos else lastDot

-- A naked executable mounts its directory; anything else mounts as a disc image.
def deviceFor (localPath extension : List Char) : Device :=
  if extension = ".xex".toList ∨ extension = ".elf".toList ∨ extension = ".exe".toList then
    .hostPath (findBasePath localPath)
  else .discImage localPath

-- `mounted`: whether `ResolveDevice` finds a device at the mount path.
def xamSwapDisc (localPath : List Char) (mounted : Bool) : SwapOutcome :=
  if localPath = [] then ⟨[], false⟩
  else
    let lastDot := extensionStart pathSeparator localPath
    let stfs := if lastDot = npos then [.registerDevice mountPath (.stfsContainer localPath)] else []
    match substr localPath lastDot with
    | none => ⟨unmount mounted ++ stfs, true⟩
    | some extension =>
      ⟨unmount mounted ++ stfs ++
        .registerDevice mountPath
          (deviceFor findBasePath localPath (extension.map Char.toLower)) :: relink, false⟩

end Swap

theorem lastIndexOf_append (c : Char) (l r : List Char) :
    lastIndexOf c (l ++ r) = match lastIndexOf c r with
      | some i => some (l.length + i)
      | none => lastIndexOf c l := by
  induction l with
  | nil => cases h : lastIndexOf c r <;> simp [h, lastIndexOf]
  | cons x l ih =>
    rw [List.cons_append, lastIndexOf, ih]
    cases lastIndexOf c r with
    | some i => simp only [List.length_cons]; congr 1; omega
    | none => rfl

theorem lastIndexOf_eq_none (c : Char) (s : List Char) : lastIndexOf c s = none ↔ c ∉ s := by
  induction s with
  | nil => simp [lastIndexOf]
  | cons x s ih =>
    rw [lastIndexOf]
    cases h : lastIndexOf c s with
    | some i => simp only [reduceCtorEq, false_iff, not_not]; exact List.mem_cons_of_mem _ (by
        by_contra hc; rw [ih.mpr hc] at h; cases h)
    | none =>
      have hc := ih.mp h
      by_cases hx : x = c
      · simp [hx]
      · simp only [hx, if_false, true_iff, List.mem_cons, not_or]; exact ⟨Ne.symm hx, hc⟩

theorem lastIndexOf_lt {c : Char} {s : List Char} {i : Nat} (h : lastIndexOf c s = some i) :
    i < s.length := by
  induction s generalizing i with
  | nil => cases h
  | cons x s ih =>
    rw [lastIndexOf] at h
    cases hs : lastIndexOf c s with
    | some j => rw [hs] at h; cases h; simp [ih hs]
    | none =>
      by_cases hx : x = c
      · simp only [hs, hx, if_true, Option.some.injEq] at h
        subst h
        simp
      · simp only [hs, hx, if_false, reduceCtorEq] at h

theorem findLastOf_of_not_mem {s : List Char} {c : Char} (h : c ∉ s) : findLastOf s c = npos := by
  rw [findLastOf, (lastIndexOf_eq_none c s).mpr h]; rfl

-- The last `c` of `l ++ c :: r`, when `r` holds none.
theorem findLastOf_append_cons (l r : List Char) {c : Char} (h : c ∉ r) :
    findLastOf (l ++ c :: r) c = l.length := by
  rw [findLastOf, lastIndexOf_append, lastIndexOf, (lastIndexOf_eq_none c r).mpr h]
  simp

theorem findLastOf_append_of_not_mem (l r : List Char) {c : Char} (h : c ∉ r) :
    findLastOf (l ++ r) c = findLastOf l c := by
  rw [findLastOf, findLastOf, lastIndexOf_append, (lastIndexOf_eq_none c r).mpr h]

theorem findLastOf_lt_or_eq_npos (s : List Char) (c : Char) :
    findLastOf s c < s.length ∨ findLastOf s c = npos := by
  unfold findLastOf
  cases h : lastIndexOf c s with
  | some i => exact Or.inl (lastIndexOf_lt h)
  | none => exact Or.inr rfl

-- A list holding `c` splits at its last `c`.
theorem exists_split_last {c : Char} {s : List Char} (h : c ∈ s) :
    ∃ l r, s = l ++ c :: r ∧ c ∉ r := by
  induction s with
  | nil => cases h
  | cons x s ih =>
    by_cases hs : c ∈ s
    · obtain ⟨l, r, rfl, hr⟩ := ih hs
      exact ⟨x :: l, r, rfl, hr⟩
    · have hx : x = c := by
        rcases List.mem_cons.mp h with h | h
        · exact h.symm
        · exact absurd h hs
      exact ⟨[], s, by rw [hx]; rfl, hs⟩

section Swap

variable (pathSeparator : Char) (findBasePath : List Char → List Char)

-- With no extension found, an STFS container is registered and `substr(npos)` throws.
theorem xamSwapDisc_of_npos {p : List Char} (hp : p ≠ []) (hlen : p.length < npos)
    (h : extensionStart pathSeparator p = npos) (mounted : Bool) :
    xamSwapDisc pathSeparator findBasePath p mounted =
      ⟨unmount mounted ++ [.registerDevice mountPath (.stfsContainer p)], true⟩ := by
  have hsub : substr p npos = none := by rw [substr, if_neg (by omega)]
  simp only [xamSwapDisc, hp, if_false, h, if_true, hsub]

-- With an extension found at `i`, it picks the device and the links are moved.
theorem xamSwapDisc_of_lt {p : List Char} (hp : p ≠ []) {i : Nat} (hi : i < p.length)
    (hlen : p.length < npos) (h : extensionStart pathSeparator p = i) (mounted : Bool) :
    xamSwapDisc pathSeparator findBasePath p mounted =
      ⟨unmount mounted ++ .registerDevice mountPath
        (deviceFor findBasePath p ((p.drop i).map Char.toLower)) :: relink, false⟩ := by
  have hsub : substr p i = some (p.drop i) := by rw [substr, if_pos hi.le]
  have hnpos : i ≠ npos := by omega
  simp only [xamSwapDisc, hp, if_false, h, hnpos, hsub, List.append_nil]

theorem extensionStart_eq_npos {p : List Char}
    (h : findLastOf p '.' < findLastOf p pathSeparator ∨ findLastOf p '.' = npos) :
    extensionStart pathSeparator p = npos := by
  unfold extensionStart
  dsimp only
  split_ifs with hlt
  · rfl
  · exact h.resolve_left hlt

-- Every non-empty path. One whose last component (after the last separator) holds a '.' is
-- classified by its extension from that '.', and d: and game: are relinked to the device. Any
-- other (no separator at all, or no '.' after the last one) gets an STFS container, and then
-- `substr(npos)` throws.
theorem xamSwapDisc_classifies (hsep : pathSeparator ≠ '.') :
    (∀ dir stem ext : List Char, pathSeparator ∉ stem → pathSeparator ∉ ext → '.' ∉ ext →
      (dir ++ pathSeparator :: stem ++ '.' :: ext).length < npos → ∀ mounted,
        xamSwapDisc pathSeparator findBasePath (dir ++ pathSeparator :: stem ++ '.' :: ext) mounted =
          ⟨unmount mounted ++ .registerDevice mountPath (deviceFor findBasePath
            (dir ++ pathSeparator :: stem ++ '.' :: ext) (('.' :: ext).map Char.toLower)) :: relink,
            false⟩) ∧
    (∀ p : List Char, p ≠ [] → p.length < npos →
      (∀ dir name, p = dir ++ pathSeparator :: name → pathSeparator ∉ name → '.' ∉ name) →
      ∀ mounted, xamSwapDisc pathSeparator findBasePath p mounted =
        ⟨unmount mounted ++ [.registerDevice mountPath (.stfsContainer p)], true⟩) := by
  constructor
  · intro dir stem ext hstem hext hdot hlen mounted
    have hslash : findLastOf (dir ++ pathSeparator :: stem ++ '.' :: ext) pathSeparator =
        dir.length := by
      rw [List.append_assoc, List.cons_append]
      exact findLastOf_append_cons _ _ (by simp [hstem, hext, hsep])
    have hstart : extensionStart pathSeparator (dir ++ pathSeparator :: stem ++ '.' :: ext) =
        (dir ++ pathSeparator :: stem).length := by
      unfold extensionStart
      rw [hslash, findLastOf_append_cons _ _ hdot, if_neg (by simp)]
    rw [xamSwapDisc_of_lt pathSeparator findBasePath (by simp) (by simp) hlen hstart,
      List.drop_left]
  · intro p hp hlen hno mounted
    refine xamSwapDisc_of_npos pathSeparator findBasePath hp hlen (extensionStart_eq_npos _ ?_) _
    by_cases hs : pathSeparator ∈ p
    · obtain ⟨dir, name, rfl, hname⟩ := exists_split_last hs
      have hdot : '.' ∉ pathSeparator :: name := by simp [Ne.symm hsep, hno dir name rfl hname]
      rw [findLastOf_append_cons _ _ hname, findLastOf_append_of_not_mem _ _ hdot]
      exact findLastOf_lt_or_eq_npos dir '.'
    · rw [findLastOf_of_not_mem hs]
      rcases findLastOf_lt_or_eq_npos p '.' with h | h
      · exact Or.inl (by omega)
      · exact Or.inr h

theorem xamSwapDisc_classifies_backslash :
    '\\' ≠ '.' ∧
      xamSwapDisc '\\' id ("\\games".toList ++ '\\' :: "halo".toList ++ '.' :: "iso".toList) false =
        ⟨unmount false ++ .registerDevice mountPath (deviceFor id
          ("\\games".toList ++ '\\' :: "halo".toList ++ '.' :: "iso".toList)
          (('.' :: "iso".toList).map Char.toLower)) :: relink, false⟩ :=
  ⟨by decide, (xamSwapDisc_classifies '\\' id (by decide)).1 "\\games".toList "halo".toList
    "iso".toList (by decide) (by decide) (by decide) (by decide) false⟩

-- With '\' as the separator, "\games\disc" (no extension) and "game.iso" (no separator)
-- each register an STFS container and then throw from `substr(npos)`: d: and game: are not
-- relinked, and the completion event is never set.
theorem xamSwapDisc_substr_npos (mounted : Bool) :
    xamSwapDisc '\\' findBasePath "\\games\\disc".toList mounted =
        ⟨unmount mounted ++ [.registerDevice mountPath (.stfsContainer "\\games\\disc".toList)],
          true⟩ ∧
      xamSwapDisc '\\' findBasePath "game.iso".toList mounted =
        ⟨unmount mounted ++ [.registerDevice mountPath (.stfsContainer "game.iso".toList)], true⟩ := by
  cases mounted <;> exact ⟨rfl, rfl⟩

end Swap

end XeniaXam.Content
