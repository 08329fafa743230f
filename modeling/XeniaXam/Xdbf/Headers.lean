import XeniaXam.Xdbf.Bytes

namespace XeniaXam.Xdbf

-- The fixed-size structs `X_XDBF_*` that the record decoders of xdbf.h overlay on an
-- entry's bytes. Every multi-byte field is stored big-endian (`xe::be<T>`).

-- Modelled from the spec: `X_XDBF_AVATARAWARDS_COUNTER`, declared in xdbf_xbox.h, which is
-- not in the source; §3 describes each avatar-award counter as a pair of u32 counts.
structure XdbfAvatarAwardsCounter where
  earned : UInt32
  possible : UInt32
deriving DecidableEq, Repr

-- Modelled from the spec: `X_XDBF_GPD_TITLEPLAYED`, the fixed part of a title record: the
-- fields `TitlePlayed::ReadGPD` reads, in its order, at the widths of §3 and with no padding.
structure XdbfGpdTitlePlayed where
  titleId : UInt32
  achievementsPossible : UInt32
  achievementsEarned : UInt32
  gamerscoreTotal : UInt32
  gamerscoreEarned : UInt32
  reservedAchievementCount : UInt16
  allAvatarAwards : XdbfAvatarAwardsCounter
  maleAvatarAwards : XdbfAvatarAwardsCounter
  femaleAvatarAwards : XdbfAvatarAwardsCounter
  reservedFlags : UInt32
  lastPlayed : UInt64

-- Modelled from the spec: `X_XDBF_GPD_ACHIEVEMENT`, the fixed part of an achievement record
-- with the 16-bit id, image id, gamerscore, 32-bit flags and 64-bit unlock time of §3.
structure XdbfGpdAchievement where
  id : UInt16
  imageId : UInt32
  gamerscore : UInt32
  flags : UInt32
  unlockTime : UInt64

-- Modelled from the spec: `X_XUSER_DATA`, a 2-byte type tag and the 8-byte inline slot of
-- §4.3. The slot is a union; its first four bytes are `nData`, `fData` and the `cbData` of
-- `string` and `binary`, and all eight are `i64Data` and `dblData`.
structure XUserData where
  type : UInt16
  high : UInt32
  low : UInt32
deriving DecidableEq, Repr

-- Modelled from the spec: `X_XDBF_GPD_SETTING`, the setting id followed by the value.
structure XdbfGpdSetting where
  settingId : UInt32
  value : XUserData

namespace XdbfAvatarAwardsCounter

def toBytes (c : XdbfAvatarAwardsCounter) : List UInt8 := beU32 c.earned ++ beU32 c.possible

def split (block : List UInt8) : XdbfAvatarAwardsCounter × List UInt8 :=
  let (earned, block) := splitU32 block
  let (possible, block) := splitU32 block
  (⟨earned, possible⟩, block)

@[simp] theorem length_toBytes (c : XdbfAvatarAwardsCounter) : c.toBytes.length = 8 := by
  simp [toBytes]

@[simp] theorem split_toBytes_append (c : XdbfAvatarAwardsCounter) (rest : List UInt8) :
    split (c.toBytes ++ rest) = (c, rest) := by
  simp [split, toBytes]

end XdbfAvatarAwardsCounter

namespace XdbfGpdTitlePlayed

def size : Nat := 58

def toBytes (h : XdbfGpdTitlePlayed) : List UInt8 :=
  beU32 h.titleId ++ beU32 h.achievementsPossible ++ beU32 h.achievementsEarned ++
    beU32 h.gamerscoreTotal ++ beU32 h.gamerscoreEarned ++ beU16 h.reservedAchievementCount ++
    h.allAvatarAwards.toBytes ++ h.maleAvatarAwards.toBytes ++ h.femaleAvatarAwards.toBytes ++
    beU32 h.reservedFlags ++ beU64 h.lastPlayed

def ofBytes (block : List UInt8) : XdbfGpdTitlePlayed :=
  let (titleId, block) := splitU32 block
  let (achievementsPossible, block) := splitU32 block
  let (achievementsEarned, block) := splitU32 block
  let (gamerscoreTotal, block) := splitU32 block
  let (gamerscoreEarned, block) := splitU32 block
  let (reservedAchievementCount, block) := splitU16 block
  let (allAvatarAwards, block) := XdbfAvatarAwardsCounter.split block
  let (maleAvatarAwards, block) := XdbfAvatarAwardsCounter.split block
  let (femaleAvatarAwards, block) := XdbfAvatarAwardsCounter.split block
  let (reservedFlags, block) := splitU32 block
  let (lastPlayed, _) := splitU64 block
  { titleId, achievementsPossible, achievementsEarned, gamerscoreTotal, gamerscoreEarned,
    reservedAchievementCount, allAvatarAwards, maleAvatarAwards, femaleAvatarAwards,
    reservedFlags, lastPlayed }

@[simp] theorem length_toBytes (h : XdbfGpdTitlePlayed) : h.toBytes.length = size := by
  simp [toBytes, size]

@[simp] theorem ofBytes_toBytes (h : XdbfGpdTitlePlayed) : ofBytes h.toBytes = h := by
  simp [ofBytes, toBytes]

end XdbfGpdTitlePlayed

namespace XdbfGpdAchievement

def size : Nat := 22

def toBytes (h : XdbfGpdAchievement) : List UInt8 :=
  beU16 h.id ++ beU32 h.imageId ++ beU32 h.gamerscore ++ beU32 h.flags ++ beU64 h.unlockTime

def ofBytes (block : List UInt8) : XdbfGpdAchievement :=
  let (id, block) := splitU16 block
  let (imageId, block) := splitU32 block
  let (gamerscore, block) := splitU32 block
  let (flags, block) := splitU32 block
  let (unlockTime, _) := splitU64 block
  { id, imageId, gamerscore, flags, unlockTime }

@[simp] theorem length_toBytes (h : XdbfGpdAchievement) : h.toBytes.length = size := by
  simp [toBytes, size]

@[simp] theorem ofBytes_toBytes (h : XdbfGpdAchievement) : ofBytes h.toBytes = h := by
  simp [ofBytes, toBytes]

end XdbfGpdAchievement

namespace XdbfGpdSetting

def size : Nat := 14

def toBytes (h : XdbfGpdSetting) : List UInt8 :=
  beU32 h.settingId ++ beU16 h.value.type ++ beU32 h.value.high ++ beU32 h.value.low

def ofBytes (block : List UInt8) : XdbfGpdSetting :=
  let (settingId, block) := splitU32 block
  let (type, block) := splitU16 block
  let (high, block) := splitU32 block
  let (low, _) := splitU32 block
  { settingId, value := { type, high, low } }

@[simp] theorem length_toBytes (h : XdbfGpdSetting) : h.toBytes.length = size := by
  simp [toBytes, size]

@[simp] theorem ofBytes_toBytes (h : XdbfGpdSetting) : ofBytes h.toBytes = h := by
  simp [ofBytes, toBytes]

end XdbfGpdSetting

end XeniaXam.Xdbf
