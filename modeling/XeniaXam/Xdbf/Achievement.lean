import XeniaXam.Xdbf.Headers

namespace XeniaXam.Xdbf

-- Bit masks of a 32-bit flags word, reasoned about one bit at a time.

section Masks

variable {x m k : UInt32}

theorem toBitVec_and32 (x y : UInt32) : (x &&& y).toBitVec = x.toBitVec &&& y.toBitVec := rfl
theorem toBitVec_or32 (x y : UInt32) : (x ||| y).toBitVec = x.toBitVec ||| y.toBitVec := rfl
theorem toBitVec_not32 (x : UInt32) : (~~~x).toBitVec = ~~~x.toBitVec := rfl

private theorem getLsbD_congr {x y : UInt32} (h : x = y) (i : Nat) :
    x.toBitVec.getLsbD i = y.toBitVec.getLsbD i := by rw [h]

-- Setting the bits of `m` leaves every bit that `k` selects alone when `m` and `k` are disjoint.
theorem or_and_of_and_eq_zero (h : m &&& k = 0) : (x ||| m) &&& k = x &&& k := by
  apply UInt32.eq_of_toBitVec_eq
  ext i
  have hi := getLsbD_congr h i
  simp only [toBitVec_and32, toBitVec_or32, BitVec.getLsbD_and, BitVec.getLsbD_or] at hi ⊢
  revert hi
  cases x.toBitVec.getLsbD i <;> cases m.toBitVec.getLsbD i <;> cases k.toBitVec.getLsbD i <;> simp

-- Clearing the bits of `m` leaves every bit that `k` selects alone when they are disjoint.
theorem and_not_and_of_and_eq_zero (h : m &&& k = 0) : (x &&& ~~~m) &&& k = x &&& k := by
  apply UInt32.eq_of_toBitVec_eq
  ext i
  have hi := getLsbD_congr h i
  simp only [toBitVec_and32, toBitVec_not32, BitVec.getLsbD_and, BitVec.getLsbD_not] at hi ⊢
  revert hi
  cases x.toBitVec.getLsbD i <;> cases m.toBitVec.getLsbD i <;> cases k.toBitVec.getLsbD i <;> simp

theorem or_and_self (x m : UInt32) : (x ||| m) &&& m = m := by
  apply UInt32.eq_of_toBitVec_eq
  ext i
  simp only [toBitVec_and32, toBitVec_or32, BitVec.getLsbD_and, BitVec.getLsbD_or]
  cases x.toBitVec.getLsbD i <;> cases m.toBitVec.getLsbD i <;> rfl

theorem and_not_and_self (x m : UInt32) : (x &&& ~~~m) &&& m = 0 := by
  apply UInt32.eq_of_toBitVec_eq
  ext i
  simp only [toBitVec_and32, toBitVec_not32, BitVec.getLsbD_and, BitVec.getLsbD_not]
  cases x.toBitVec.getLsbD i <;> cases m.toBitVec.getLsbD i <;> simp

end Masks

namespace AchievementFlags

def kTypeMask : UInt32 := 0x7
def kShowUnachieved : UInt32 := 0x8
def kAchievedOnline : UInt32 := 0x10000
def kAchieved : UInt32 := 0x20000
def kNotAchievable : UInt32 := 0x40000
def kWasNotAchievable : UInt32 := 0x80000
def kPlatformMask : UInt32 := 0x700000
def kColorizable : UInt32 := 0x1000000

end AchievementFlags

open AchievementFlags

structure Achievement where
  id : UInt16 := 0
  label : List UInt16 := []
  description : List UInt16 := []
  unachievedDesc : List UInt16 := []
  imageId : UInt32 := 0
  gamerscore : UInt32 := 0
  flags : UInt32 := 0
  unlockTime : UInt64 := 0
deriving DecidableEq, Repr

namespace Achievement

-- `GetType` and `GetPlatform` cast the masked bits to their enums; the model keeps the bits.
def getType (a : Achievement) : UInt32 := a.flags &&& kTypeMask

def getPlatform (a : Achievement) : UInt32 := a.flags &&& kPlatformMask

def isUnlockable (a : Achievement) : Bool :=
  a.flags &&& kNotAchievable == 0 || a.flags &&& kWasNotAchievable != 0

def isUnlocked (a : Achievement) : Bool := a.flags &&& kAchieved != 0

def isUnlockedOnline (a : Achievement) : Bool := a.flags &&& kAchievedOnline != 0

-- The members `ReadGPD` assigns from the header, and the three strings after it.
def ofHeader (hdr : XdbfGpdAchievement) (label description unachievedDesc : List UInt16) :
    Achievement :=
  { id := hdr.id, label := label, description := description, unachievedDesc := unachievedDesc,
    imageId := hdr.imageId, gamerscore := hdr.gamerscore, flags := hdr.flags,
    unlockTime := hdr.unlockTime }

-- `ReadGPD` assigns every member. It reads the strings back to back, moving its text pointer
-- on by `length() * 2 + 2` bytes after each.
def readGPD (mem : List UInt8) : Option Achievement := do
  let src ← readBytes mem XdbfGpdAchievement.size
  let txt := XdbfGpdAchievement.size
  let label ← readNullTermString (mem.drop txt)
  let txt := txt + (label.length * 2) + 2
  let description ← readNullTermString (mem.drop txt)
  let txt := txt + (description.length * 2) + 2
  let unachievedDesc ← readNullTermString (mem.drop txt)
  pure (ofHeader (XdbfGpdAchievement.ofBytes src) label description unachievedDesc)

-- `now` is the reading of `Clock::QueryHostSystemTime()`.
def unlock (a : Achievement) (online : Bool) (now : UInt64) : Achievement :=
  if !a.isUnlockable then a
  else
    let flags := a.flags ||| kAchieved
    let flags := if online then flags ||| kAchievedOnline else flags
    { a with flags := flags, unlockTime := now }

def lock (a : Achievement) : Achievement :=
  let flags := a.flags &&& ~~~kAchieved
  let flags := flags &&& ~~~kAchievedOnline
  { a with flags := flags, unlockTime := 0 }

-- Decoding an achievement record.

-- A header block followed by three terminated strings decodes to them, whatever follows.
theorem readGPD_layout (block : List UInt8) (hblock : block.length = XdbfGpdAchievement.size)
    (a b c : List UInt16) (ha : 0 ∉ a) (hb : 0 ∉ b) (hc : 0 ∉ c) (tail : List UInt8) :
    readGPD (block ++ encodeString a ++ encodeString b ++ encodeString c ++ tail) =
      some (ofHeader (XdbfGpdAchievement.ofBytes block) a b c) := by
  have hread := readBytes_append_length block (encodeString a ++ encodeString b ++
    encodeString c ++ tail)
  have h1 := drop_append_encodeString block a (encodeString b ++ encodeString c ++ tail)
  have h2 := drop_append_encodeString (block ++ encodeString a) b (encodeString c ++ tail)
  simp only [List.length_append, length_encodeString] at h2
  rw [show block.length + 2 * (a.length + 1) + b.length * 2 + 2 =
    block.length + a.length * 2 + 2 + b.length * 2 + 2 by omega] at h2
  simp only [List.append_assoc] at hread h1 h2 ⊢
  rw [readGPD, ← hblock]
  simp only [hread, List.drop_left, h1, h2, Option.bind_eq_bind, Option.some_bind,
    readNullTermString_encodeString _ ha, readNullTermString_encodeString _ hb,
    readNullTermString_encodeString _ hc]
  rfl

-- `ReadGPD` succeeds exactly on a header block and three terminated strings, whatever
-- follows them.
theorem readGPD_eq_some {mem : List UInt8} {x : Achievement} :
    readGPD mem = some x ↔ ∃ block tail, block.length = XdbfGpdAchievement.size ∧
      0 ∉ x.label ∧ 0 ∉ x.description ∧ 0 ∉ x.unachievedDesc ∧
      mem = block ++ encodeString x.label ++ encodeString x.description ++
        encodeString x.unachievedDesc ++ tail ∧
      x = ofHeader (XdbfGpdAchievement.ofBytes block) x.label x.description x.unachievedDesc := by
  constructor
  · intro h
    simp only [readGPD, Option.bind_eq_bind, Option.bind_eq_some, Option.pure_def,
      Option.some.injEq] at h
    obtain ⟨src, hsrc, l, hl, d, hd, u, hu, rfl⟩ := h
    obtain ⟨hsize, rfl⟩ := readBytes_eq_some.mp hsrc
    obtain ⟨hl0, t1, ht1⟩ := readNullTermString_eq_some.mp hl
    obtain ⟨hd0, t2, ht2⟩ := readNullTermString_eq_some.mp hd
    obtain ⟨hu0, t3, ht3⟩ := readNullTermString_eq_some.mp hu
    have e1 := drop_add_of_drop_eq ht1
    have e2 := drop_add_of_drop_eq ht2
    rw [e1] at ht2
    rw [e2] at ht3
    refine ⟨mem.take XdbfGpdAchievement.size, t3, by simp [hsize], hl0, hd0, hu0, ?_, rfl⟩
    calc mem = mem.take XdbfGpdAchievement.size ++ mem.drop XdbfGpdAchievement.size :=
          (List.take_append_drop _ _).symm
      _ = _ := by rw [ht1, ht2, ht3]; simp only [List.append_assoc]; rfl
  · rintro ⟨block, tail, hb, ha, hd, hu, rfl, hx⟩
    rw [readGPD_layout block hb _ _ _ ha hd hu tail, ← hx]

-- A header block and three strings, each NUL-terminated inside the entry.
def GpdWellFormed (mem : List UInt8) : Prop :=
  ∃ block a b c tail, block.length = XdbfGpdAchievement.size ∧ 0 ∉ a ∧ 0 ∉ b ∧ 0 ∉ c ∧
    mem = block ++ encodeString a ++ encodeString b ++ encodeString c ++ tail

theorem readGPD_isSome_iff (mem : List UInt8) : (readGPD mem).isSome ↔ GpdWellFormed mem := by
  constructor
  · intro h
    obtain ⟨x, hx⟩ := Option.isSome_iff_exists.mp h
    obtain ⟨block, tail, hb, ha, hd, hu, hmem, -⟩ := readGPD_eq_some.mp hx
    exact ⟨block, _, _, _, tail, hb, ha, hd, hu, hmem⟩
  · rintro ⟨block, a, b, c, tail, hb, ha, hd, hu, rfl⟩
    rw [readGPD_layout block hb a b c ha hd hu tail]; rfl

-- What follows a decodable record is never read.
theorem readGPD_append {mem : List UInt8} {x : Achievement} (h : readGPD mem = some x)
    (rest : List UInt8) : readGPD (mem ++ rest) = some x := by
  obtain ⟨block, tail, hb, ha, hd, hu, rfl, hx⟩ := readGPD_eq_some.mp h
  exact readGPD_eq_some.mpr ⟨block, tail ++ rest, hb, ha, hd, hu, by simp, hx⟩

theorem readGPD_length {mem : List UInt8} {x : Achievement} (h : readGPD mem = some x) :
    XdbfGpdAchievement.size +
      2 * (x.label.length + x.description.length + x.unachievedDesc.length + 3) ≤ mem.length := by
  obtain ⟨block, tail, hb, -, -, -, rfl, -⟩ := readGPD_eq_some.mp h
  simp [hb]; omega

inductive Op
  | unlock (online : Bool) (now : UInt64)
  | lock
deriving DecidableEq, Repr

def step (a : Achievement) : Op → Achievement
  | .unlock online now => a.unlock online now
  | .lock => a.lock

def run (a : Achievement) (ops : List Op) : Achievement := ops.foldl step a

-- The host clock reads nonzero at every unlock.
def Op.ClockNonzero : Op → Prop
  | .unlock _ now => now ≠ 0
  | .lock => True

-- Online implies achieved, achieved implies unlockable, and an achievement carries an
-- unlock time exactly when it is achieved.
def Inv (a : Achievement) : Prop :=
  (a.isUnlockedOnline → a.isUnlocked) ∧ (a.isUnlocked → a.isUnlockable) ∧
    (a.isUnlocked ↔ a.unlockTime ≠ 0)

instance (a : Achievement) : Decidable a.Inv :=
  inferInstanceAs (Decidable ((a.isUnlockedOnline → a.isUnlocked) ∧
    (a.isUnlocked → a.isUnlockable) ∧ (a.isUnlocked ↔ a.unlockTime ≠ 0)))

instance : DecidablePred Op.ClockNonzero
  | .unlock _ now => inferInstanceAs (Decidable (now ≠ 0))
  | .lock => isTrue trivial

-- The flags bits other than Achieved and AchievedOnline.
def otherFlags (a : Achievement) : UInt32 := a.flags &&& ~~~(kAchieved ||| kAchievedOnline)

@[simp] theorem run_nil (a : Achievement) : a.run [] = a := rfl

@[simp] theorem run_cons (a : Achievement) (op : Op) (ops : List Op) :
    a.run (op :: ops) = (a.step op).run ops := rfl

-- A step touches no flags bit outside Achieved and AchievedOnline.
theorem step_flags_and (a : Achievement) (op : Op) {k : UInt32}
    (hA : kAchieved &&& k = 0) (hO : kAchievedOnline &&& k = 0) :
    (a.step op).flags &&& k = a.flags &&& k := by
  cases op with
  | unlock online now =>
    simp only [step, unlock]
    split
    · rfl
    · cases online
      · exact or_and_of_and_eq_zero hA
      · simp only [if_true]
        rw [or_and_of_and_eq_zero hO, or_and_of_and_eq_zero hA]
  | lock =>
    simp only [step, lock]
    rw [and_not_and_of_and_eq_zero hO, and_not_and_of_and_eq_zero hA]

theorem step_isUnlockable (a : Achievement) (op : Op) :
    (a.step op).isUnlockable = a.isUnlockable := by
  simp only [isUnlockable, step_flags_and a op (k := kNotAchievable) (by decide) (by decide),
    step_flags_and a op (k := kWasNotAchievable) (by decide) (by decide)]

theorem step_otherFlags (a : Achievement) (op : Op) : (a.step op).otherFlags = a.otherFlags :=
  step_flags_and a op (by decide) (by decide)

theorem step_getType (a : Achievement) (op : Op) : (a.step op).getType = a.getType :=
  step_flags_and a op (by decide) (by decide)

theorem step_getPlatform (a : Achievement) (op : Op) : (a.step op).getPlatform = a.getPlatform :=
  step_flags_and a op (by decide) (by decide)

-- An unlock that goes through leaves the achievement achieved.
theorem isUnlocked_unlock (a : Achievement) (online : Bool) (now : UInt64)
    (h : a.isUnlockable) : (a.unlock online now).isUnlocked := by
  have hA : kAchieved ≠ 0 := by decide
  cases online <;>
    simp [unlock, h, isUnlocked, or_and_self, or_and_of_and_eq_zero (by decide : kAchievedOnline &&& kAchieved = 0), hA]

theorem isUnlockedOnline_unlock (a : Achievement) (online : Bool) (now : UInt64)
    (h : a.isUnlockable) : (a.unlock online now).isUnlockedOnline = (online || a.isUnlockedOnline) := by
  have hO : kAchievedOnline ≠ 0 := by decide
  cases online <;>
    simp [unlock, h, isUnlockedOnline, or_and_self, hO,
      or_and_of_and_eq_zero (by decide : kAchieved &&& kAchievedOnline = 0)]

@[simp] theorem unlockTime_unlock (a : Achievement) (online : Bool) (now : UInt64)
    (h : a.isUnlockable) : (a.unlock online now).unlockTime = now := by
  simp [unlock, h]

theorem unlock_of_not_unlockable (a : Achievement) (online : Bool) (now : UInt64)
    (h : ¬a.isUnlockable) : a.unlock online now = a := by
  simp [unlock, h]

@[simp] theorem unlockTime_lock (a : Achievement) : a.lock.unlockTime = 0 := rfl

@[simp] theorem isUnlocked_lock (a : Achievement) : a.lock.isUnlocked = false := by
  have hA : a.lock.flags &&& kAchieved = 0 := by
    simp only [lock]
    rw [and_not_and_of_and_eq_zero (by decide), and_not_and_self]
  simp [isUnlocked, hA]

@[simp] theorem isUnlockedOnline_lock (a : Achievement) : a.lock.isUnlockedOnline = false := by
  simp [isUnlockedOnline, lock, and_not_and_self]

theorem step_inv (a : Achievement) (op : Op) (hinv : a.Inv) (hclock : op.ClockNonzero) :
    (a.step op).Inv := by
  cases op with
  | unlock online now =>
    by_cases hu : a.isUnlockable
    · have hdone := isUnlocked_unlock a online now hu
      have hkeep := step_isUnlockable a (.unlock online now)
      simp only [step] at hkeep
      have hnow : (a.unlock online now).unlockTime ≠ 0 := by
        rw [unlockTime_unlock a online now hu]; exact hclock
      exact ⟨fun _ => hdone, fun _ => hkeep ▸ hu, ⟨fun _ => hnow, fun _ => hdone⟩⟩
    · simpa [step, unlock_of_not_unlockable a online now hu] using hinv
  | lock => simp [Inv, step]

-- From any consistent achievement, every run of Unlock and Lock keeps the achieved state
-- consistent and changes no flags bit but Achieved and AchievedOnline.
theorem run_inv (a : Achievement) (ops : List Op) (hinv : a.Inv)
    (hclock : ∀ op ∈ ops, op.ClockNonzero) :
    (a.run ops).Inv ∧ (a.run ops).otherFlags = a.otherFlags ∧
      (a.run ops).getType = a.getType ∧ (a.run ops).getPlatform = a.getPlatform ∧
      (a.run ops).isUnlockable = a.isUnlockable := by
  induction ops generalizing a with
  | nil => exact ⟨hinv, rfl, rfl, rfl, rfl⟩
  | cons op ops ih =>
    obtain ⟨hi, ho, ht, hp, hu⟩ :=
      ih (a.step op) (step_inv a op hinv (hclock op (by simp))) (fun o h => hclock o (by simp [h]))
    exact ⟨hi, ho.trans (step_otherFlags a op), ht.trans (step_getType a op),
      hp.trans (step_getPlatform a op), hu.trans (step_isUnlockable a op)⟩

-- An achievement of type 3 on platform 1, shown while unachieved and colorizable, unlocked
-- online, locked and unlocked again.
theorem run_inv_unlock_lock :
    ∃ (a : Achievement) (ops : List Op),
      a = { flags := 0x0110000B } ∧
      ops = [.unlock true 0x01D5E2A0B1C2D3E4, .lock, .unlock false 7] ∧
      a.Inv ∧ (∀ op ∈ ops, op.ClockNonzero) ∧
      (a.run ops).Inv ∧ (a.run ops).otherFlags = a.otherFlags ∧
      (a.run ops).getType = a.getType ∧ (a.run ops).getPlatform = a.getPlatform ∧
      (a.run ops).isUnlockable = a.isUnlockable :=
  ⟨_, _, rfl, rfl, by decide, by decide, run_inv _ _ (by decide) (by decide)⟩

-- What Unlock and Lock mean: an achievement is locked, or unlocked (online or not) at some
-- time. The flags-and-timestamp machine above refines this one.

inductive UnlockState
  | locked
  | unlocked (online : Bool) (time : UInt64)
deriving DecidableEq, Repr

namespace UnlockState

def online : UnlockState → Bool
  | .locked => false
  | .unlocked online _ => online

-- An unlock makes the achievement unlocked at `now`, online if this unlock or one since the
-- last lock was, and does nothing to one that cannot be unlocked; a lock forgets it all.
def step (unlockable : Bool) (s : UnlockState) : Op → UnlockState
  | .unlock online now => if unlockable then .unlocked (online || s.online) now else s
  | .lock => .locked

end UnlockState

-- The unlock state that the flags and the timestamp stand for.
def state (a : Achievement) : UnlockState :=
  if a.isUnlocked then .unlocked a.isUnlockedOnline a.unlockTime else .locked

theorem state_online (a : Achievement) (h : a.isUnlockedOnline → a.isUnlocked) :
    a.state.online = a.isUnlockedOnline := by
  unfold state
  split
  · rfl
  · rename_i hu
    cases ho : a.isUnlockedOnline
    · rfl
    · exact absurd (h ho) hu

-- No step sets AchievedOnline without Achieved.
theorem step_online_achieved (a : Achievement) (op : Op) (h : a.isUnlockedOnline → a.isUnlocked) :
    (a.step op).isUnlockedOnline → (a.step op).isUnlocked := by
  cases op with
  | unlock online now =>
    by_cases hu : a.isUnlockable
    · exact fun _ => isUnlocked_unlock a online now hu
    · simpa [step, unlock_of_not_unlockable a online now hu] using h
  | lock => simp [step]

theorem step_state (a : Achievement) (op : Op) (h : a.isUnlockedOnline → a.isUnlocked) :
    (a.step op).state = a.state.step a.isUnlockable op := by
  cases op with
  | unlock online now =>
    by_cases hu : a.isUnlockable
    · rw [step, state, if_pos (isUnlocked_unlock a online now hu),
        isUnlockedOnline_unlock a online now hu, unlockTime_unlock a online now hu,
        UnlockState.step, if_pos hu, state_online a h]
    · simp only [step, unlock_of_not_unlockable a online now hu, UnlockState.step, hu,
        Bool.false_eq_true, if_false]
  | lock => simp [step, state, UnlockState.step]

-- Every run of Unlock and Lock does what the abstract machine does, from any achievement
-- that is not marked online without being achieved.
theorem run_state (a : Achievement) (ops : List Op) (h : a.isUnlockedOnline → a.isUnlocked) :
    (a.run ops).state = ops.foldl (UnlockState.step a.isUnlockable) a.state := by
  induction ops generalizing a with
  | nil => rfl
  | cons op ops ih =>
    rw [run_cons, ih _ (step_online_achieved a op h), step_isUnlockable, step_state a op h]
    rfl

theorem run_state_online_sticks :
    (({} : Achievement).isUnlockedOnline → ({} : Achievement).isUnlocked) ∧
      (({} : Achievement).run [.unlock true 5, .unlock false 9]).state =
        [Op.unlock true 5, .unlock false 9].foldl
          (UnlockState.step ({} : Achievement).isUnlockable) ({} : Achievement).state :=
  ⟨by decide, run_state {} _ (by decide)⟩

end Achievement

end XeniaXam.Xdbf
