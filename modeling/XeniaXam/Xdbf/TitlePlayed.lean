import XeniaXam.Xdbf.Headers

namespace XeniaXam.Xdbf

structure TitlePlayed where
  titleId : UInt32 := 0
  titleName : List UInt16 := []
  achievementsPossible : UInt32 := 0
  achievementsEarned : UInt32 := 0
  gamerscoreTotal : UInt32 := 0
  gamerscoreEarned : UInt32 := 0
  reservedAchievementCount : UInt16 := 0
  allAvatarAwards : XdbfAvatarAwardsCounter := ⟨0, 0⟩
  maleAvatarAwards : XdbfAvatarAwardsCounter := ⟨0, 0⟩
  femaleAvatarAwards : XdbfAvatarAwardsCounter := ⟨0, 0⟩
  reservedFlags : UInt32 := 0
  lastPlayed : UInt64 := 0
deriving DecidableEq, Repr

namespace TitlePlayed

-- The header fields `WriteGPD` copies out, in its order.
def header (t : TitlePlayed) : XdbfGpdTitlePlayed :=
  { titleId := t.titleId, achievementsPossible := t.achievementsPossible,
    achievementsEarned := t.achievementsEarned, gamerscoreTotal := t.gamerscoreTotal,
    gamerscoreEarned := t.gamerscoreEarned, reservedAchievementCount := t.reservedAchievementCount,
    allAvatarAwards := t.allAvatarAwards, maleAvatarAwards := t.maleAvatarAwards,
    femaleAvatarAwards := t.femaleAvatarAwards, reservedFlags := t.reservedFlags,
    lastPlayed := t.lastPlayed }

-- The members `ReadGPD` assigns from the header, and the name read after it.
def ofHeader (hdr : XdbfGpdTitlePlayed) (titleName : List UInt16) : TitlePlayed :=
  { titleId := hdr.titleId, titleName := titleName,
    achievementsPossible := hdr.achievementsPossible,
    achievementsEarned := hdr.achievementsEarned, gamerscoreTotal := hdr.gamerscoreTotal,
    gamerscoreEarned := hdr.gamerscoreEarned,
    reservedAchievementCount := hdr.reservedAchievementCount,
    allAvatarAwards := hdr.allAvatarAwards, maleAvatarAwards := hdr.maleAvatarAwards,
    femaleAvatarAwards := hdr.femaleAvatarAwards, reservedFlags := hdr.reservedFlags,
    lastPlayed := hdr.lastPlayed }

-- `ReadGPD` assigns every member, so the result does not depend on the object it fills.
def readGPD (mem : List UInt8) : Option TitlePlayed := do
  let src ← readBytes mem XdbfGpdTitlePlayed.size
  let titleName ← readNullTermString (mem.drop XdbfGpdTitlePlayed.size)
  pure (ofHeader (XdbfGpdTitlePlayed.ofBytes src) titleName)

-- `WriteGPD` into the destination bytes: the header, then `title_name.size()` code units.
def writeGPD (t : TitlePlayed) (dest : List UInt8) : Option (List UInt8) := do
  let dest ← writeBytes dest 0 t.header.toBytes
  writeBytes dest XdbfGpdTitlePlayed.size (encodeUnits t.titleName)

@[simp] theorem ofHeader_header (t : TitlePlayed) : ofHeader t.header t.titleName = t := rfl

theorem readGPD_toBytes_append (hdr : XdbfGpdTitlePlayed) (rest : List UInt8) :
    readGPD (hdr.toBytes ++ rest) = (readNullTermString rest).map (ofHeader hdr) := by
  have hlen := XdbfGpdTitlePlayed.length_toBytes hdr
  have hread : readBytes (hdr.toBytes ++ rest) XdbfGpdTitlePlayed.size = some hdr.toBytes := by
    rw [← hlen]; exact readBytes_append_length _ _
  simp only [readGPD, hread, List.drop_left' hlen, Option.bind_eq_bind, Option.some_bind,
    XdbfGpdTitlePlayed.ofBytes_toBytes]
  cases readNullTermString rest <;> rfl

-- A header block followed by a terminated name decodes to them, whatever follows.
theorem readGPD_layout (block : List UInt8) (hblock : block.length = XdbfGpdTitlePlayed.size)
    (name : List UInt16) (hname : 0 ∉ name) (tail : List UInt8) :
    readGPD (block ++ encodeString name ++ tail) =
      some (ofHeader (XdbfGpdTitlePlayed.ofBytes block) name) := by
  have hread := readBytes_append_length block (encodeString name ++ tail)
  rw [readGPD, List.append_assoc, ← hblock, hread, List.drop_left]
  simp [readNullTermString_encodeString _ hname]

-- `ReadGPD` succeeds exactly on a header block and a terminated name, whatever follows them.
theorem readGPD_eq_some {mem : List UInt8} {x : TitlePlayed} :
    readGPD mem = some x ↔ ∃ block tail, block.length = XdbfGpdTitlePlayed.size ∧
      0 ∉ x.titleName ∧ mem = block ++ encodeString x.titleName ++ tail ∧
      x = ofHeader (XdbfGpdTitlePlayed.ofBytes block) x.titleName := by
  constructor
  · intro h
    simp only [readGPD, Option.bind_eq_bind, Option.bind_eq_some, Option.pure_def,
      Option.some.injEq] at h
    obtain ⟨src, hsrc, n, hn, rfl⟩ := h
    obtain ⟨hsize, rfl⟩ := readBytes_eq_some.mp hsrc
    obtain ⟨hn0, t, ht⟩ := readNullTermString_eq_some.mp hn
    refine ⟨mem.take XdbfGpdTitlePlayed.size, t, by simp [hsize], hn0, ?_, rfl⟩
    calc mem = mem.take XdbfGpdTitlePlayed.size ++ mem.drop XdbfGpdTitlePlayed.size :=
          (List.take_append_drop _ _).symm
      _ = _ := by rw [ht]; simp only [List.append_assoc]; rfl
  · rintro ⟨block, tail, hb, hn, rfl, hx⟩
    rw [readGPD_layout block hb _ hn tail, ← hx]

-- A header block and a name NUL-terminated inside the entry.
def GpdWellFormed (mem : List UInt8) : Prop :=
  ∃ block name tail, block.length = XdbfGpdTitlePlayed.size ∧ 0 ∉ name ∧
    mem = block ++ encodeString name ++ tail

theorem readGPD_isSome_iff (mem : List UInt8) : (readGPD mem).isSome ↔ GpdWellFormed mem := by
  constructor
  · intro h
    obtain ⟨x, hx⟩ := Option.isSome_iff_exists.mp h
    obtain ⟨block, tail, hb, hn, hmem, -⟩ := readGPD_eq_some.mp hx
    exact ⟨block, _, tail, hb, hn, hmem⟩
  · rintro ⟨block, name, tail, hb, hn, rfl⟩
    rw [readGPD_layout block hb name hn tail]; rfl

-- What follows a decodable record is never read.
theorem readGPD_append {mem : List UInt8} {x : TitlePlayed} (h : readGPD mem = some x)
    (rest : List UInt8) : readGPD (mem ++ rest) = some x := by
  obtain ⟨block, tail, hb, hn, rfl, hx⟩ := readGPD_eq_some.mp h
  exact readGPD_eq_some.mpr ⟨block, tail ++ rest, hb, hn, by simp, hx⟩

-- The output of `WriteGPD`: the header and the name's units over the front of the buffer,
-- and the buffer's own bytes after them.
theorem writeGPD_eq (t : TitlePlayed) (dest : List UInt8)
    (hlen : XdbfGpdTitlePlayed.size + 2 * t.titleName.length ≤ dest.length) :
    t.writeGPD dest = some (t.header.toBytes ++ encodeUnits t.titleName ++
      dest.drop (XdbfGpdTitlePlayed.size + 2 * t.titleName.length)) := by
  have hh := XdbfGpdTitlePlayed.length_toBytes t.header
  have first := writeBytes_append_length [] t.header.toBytes dest (by omega)
  have second := writeBytes_append_length t.header.toBytes (encodeUnits t.titleName)
    (dest.drop t.header.toBytes.length) (by simp; omega)
  simp only [List.nil_append, List.length_nil] at first
  rw [writeGPD, first, Option.bind_eq_bind, Option.some_bind, ← hh, second, List.drop_drop,
    length_encodeUnits]

-- `WriteGPD` never writes the name's terminator: whatever the buffer held in that slot is
-- still there, and the record reads back as `t` exactly when that slot is zero, as in a
-- buffer the caller has zero-filled.
theorem writeGPD_readGPD (t : TitlePlayed) (hname : 0 ∉ t.titleName) (dest : List UInt8)
    (hlen : dest.length = XdbfGpdTitlePlayed.size + 2 * (t.titleName.length + 1)) :
    ∃ out, t.writeGPD dest = some out ∧
      out.drop (XdbfGpdTitlePlayed.size + 2 * t.titleName.length) =
        dest.drop (XdbfGpdTitlePlayed.size + 2 * t.titleName.length) ∧
      (dest.drop (XdbfGpdTitlePlayed.size + 2 * t.titleName.length) = beU16 0 →
        readGPD out = some t) := by
  have hh := XdbfGpdTitlePlayed.length_toBytes t.header
  refine ⟨_, writeGPD_eq t dest (by omega), ?_, fun hz => ?_⟩
  · rw [List.drop_left' (by simp [hh])]
  · rw [hz, List.append_assoc, ← encodeString, readGPD_toBytes_append,
      ← List.append_nil (encodeString _), readNullTermString_encodeString _ hname]
    rfl

theorem writeGPD_readGPD_hi :
    ∃ (t : TitlePlayed) (dest : List UInt8),
      t = { titleId := 0x4D5307E6, titleName := [0x48, 0x69], achievementsPossible := 50,
            achievementsEarned := 12, gamerscoreTotal := 1000, gamerscoreEarned := 230,
            reservedAchievementCount := 3, allAvatarAwards := ⟨2, 1⟩,
            maleAvatarAwards := ⟨1, 1⟩, femaleAvatarAwards := ⟨1, 0⟩, reservedFlags := 7,
            lastPlayed := 0x01D5E2A0B1C2D3E4 } ∧
      dest = List.replicate 62 0xFF ++ [0, 0] ∧
      0 ∉ t.titleName ∧ dest.length = XdbfGpdTitlePlayed.size + 2 * (t.titleName.length + 1) ∧
      ∃ out, t.writeGPD dest = some out ∧
        out.drop (XdbfGpdTitlePlayed.size + 2 * t.titleName.length) =
          dest.drop (XdbfGpdTitlePlayed.size + 2 * t.titleName.length) ∧
        (dest.drop (XdbfGpdTitlePlayed.size + 2 * t.titleName.length) = beU16 0 →
          readGPD out = some t) :=
  ⟨_, _, rfl, rfl, by decide, rfl, writeGPD_readGPD _ (by decide) _ rfl⟩

-- Into a buffer whose terminator slot is not zero, the record does not read back: the
-- name scan runs off the end of the buffer.
theorem writeGPD_readGPD_unzeroed :
    ((({} : TitlePlayed).writeGPD (List.replicate 60 0xFF)).bind readGPD) = none := by
  decide

end TitlePlayed

end XeniaXam.Xdbf
