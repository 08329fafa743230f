import XeniaXam.Xdbf.TitlePlayed
import XeniaXam.Xdbf.Achievement
import XeniaXam.Xdbf.Setting

namespace XeniaXam.Xdbf

-- The record decoders are handed a pointer and no length. Over the bytes of an entry `d`, a
-- decoder that returns `none` has read past the end of `d`.

-- The decoders have no rejection path: on an entry `d` they stay inside `d` exactly when `d`
-- is well formed (each trailing string terminated inside `d`, a Binary or Unicode `cbData`
-- within the bytes after the header, and for `ValueString` a terminator in the copied
-- payload), and then what follows `d` is never read.
theorem decode_within_entry (d : List UInt8) :
    ((Achievement.readGPD d).isSome ↔ Achievement.GpdWellFormed d) ∧
      ((TitlePlayed.readGPD d).isSome ↔ TitlePlayed.GpdWellFormed d) ∧
      (∀ st : Setting, (st.readGPD d).isSome ↔ Setting.GpdWellFormed d) ∧
      (∀ st x : Setting, st.readGPD d = some x → x.value.type = kUnicode →
        (x.valueString.isSome ↔ ∃ s tail, 0 ∉ s ∧ x.extraData = encodeString s ++ tail)) ∧
      ∀ rest : List UInt8,
        (∀ x, Achievement.readGPD d = some x → Achievement.readGPD (d ++ rest) = some x) ∧
        (∀ x, TitlePlayed.readGPD d = some x → TitlePlayed.readGPD (d ++ rest) = some x) ∧
        (∀ st x : Setting, st.readGPD d = some x → st.readGPD (d ++ rest) = some x) := by
  refine ⟨Achievement.readGPD_isSome_iff d, TitlePlayed.readGPD_isSome_iff d,
    fun st => Setting.readGPD_isSome_iff st d, fun st x _ hu => ?_, fun rest =>
      ⟨fun _ h => Achievement.readGPD_append h rest, fun _ h => TitlePlayed.readGPD_append h rest,
        fun _ _ h => Setting.readGPD_append h rest⟩⟩
  simp only [Setting.valueString, hu, if_true, Option.isSome_iff_exists,
    readNullTermString_eq_some]
  constructor
  · rintro ⟨s, hs, tail, he⟩
    exact ⟨s, tail, hs, he⟩
  · rintro ⟨s, tail, hs, he⟩
    exact ⟨s, hs, tail, he⟩

-- Entries of exactly a header's size, or with an unterminated string, or with a `cbData`
-- larger than what follows, are read past their end.
theorem decode_reads_past_entry :
    Achievement.readGPD (List.replicate XdbfGpdAchievement.size 0) = none ∧
      TitlePlayed.readGPD (List.replicate XdbfGpdTitlePlayed.size 0 ++ [0, 0x41]) = none ∧
      (Setting.mkDefault ⟨kNull, 0, 0⟩).readGPD
        (XdbfGpdSetting.toBytes ⟨0x60000001, ⟨kBinary, 8, 0⟩⟩ ++ [1, 2, 3]) = none ∧
      ∃ x, (Setting.mkDefault ⟨kNull, 0, 0⟩).readGPD
          (XdbfGpdSetting.toBytes ⟨0x40000001, ⟨kUnicode, 2, 0⟩⟩ ++ [0, 0x41]) = some x ∧
        x.valueString = none :=
  ⟨by decide, by decide, by decide, _, rfl, by decide⟩

end XeniaXam.Xdbf
