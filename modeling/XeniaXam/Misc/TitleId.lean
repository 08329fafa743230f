import Mathlib.Tactic.Common

namespace XeniaXam.Misc

-- The title-id predicates of xam_misc.cc. A title id's high byte is its publisher's first
-- letter ('X', 0x58, for Microsoft), the next byte the second letter ('A' for arcade titles), and
-- the low half the title's number.

def xamIsSystemTitleId (titleId : UInt32) : Bool :=
  if titleId = 0 then true
  else if titleId &&& 0xFF000000 = 0x58000000 then titleId &&& 0xFF0000 != 0x410000
  else titleId >>> 16 == 0xFFFE

def xamIsXbox1TitleId (titleId : UInt32) : Bool :=
  if titleId = 0xFFFE0000 then true
  else if titleId = 0 ∨ titleId &&& 0xFF000000 = 0xFF000000 then false
  else titleId &&& 0x7FFF < 0x7D0

def xamIsSystemExperienceTitleId (titleId : UInt32) : Bool :=
  if titleId >>> 16 = 0x584A then true
  else if titleId >>> 16 = 0x5848 then true
  else titleId = 0x584E07D2 || titleId = 0x584E07D1

end XeniaXam.Misc
