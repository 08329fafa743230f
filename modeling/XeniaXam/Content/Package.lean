import XeniaXam.Content.Device

namespace XeniaXam.Content

open XeniaXam.Kernel

-- The content-package exports of xam_content.cc. Each asks `ContentManager` (not in src/)
-- for something, whose answers are the models' arguments, and hands the result to the guest.

-- The tail they share: with an overlapped, complete it with the result and return
-- X_ERROR_IO_PENDING; without one, return the result.
def completeOverlapped (overlapped : Bool) (result : UInt32) : UInt32 × Option Completion :=
  if overlapped then (X_ERROR_IO_PENDING, some (.immediate result)) else (result, none)

-- `closeResult`, `deleteResult` and `setResult` are what `CloseContent`, `DeleteContent` and
-- `SetContentThumbnail` return.
def xamContentFlush (overlapped : Bool) : UInt32 × Option Completion :=
  completeOverlapped overlapped X_ERROR_SUCCESS

def xamContentClose (closeResult : UInt32) (overlapped : Bool) : UInt32 × Option Completion :=
  completeOverlapped overlapped closeResult

def xamContentDelete (deleteResult : UInt32) (overlapped : Bool) : UInt32 × Option Completion :=
  completeOverlapped overlapped deleteResult

def xamContentSetThumbnail (setResult : UInt32) (overlapped : Bool) :
    UInt32 × Option Completion :=
  completeOverlapped overlapped setResult

-- What `XamContentGetCreator` stores: `*is_creator_ptr`, and `*creator_xuid_ptr` when that
-- pointer is given.
structure CreatorStores where
  isCreator : Option UInt32
  creatorXuid : Option UInt64
deriving DecidableEq, Repr

-- `xuid` is the signed-in profile's, `none` when there is no profile for `user_index`; saved
-- games (content type 1) are always the user's own.
def xamContentGetCreator (xuid : Option UInt64) (contentType : UInt32) (creatorXuidPtr : Bool)
    (overlapped : Bool) : CreatorStores × (UInt32 × Option Completion) :=
  match xuid with
  | none => (⟨none, none⟩, completeOverlapped overlapped X_ERROR_NOT_LOGGED_ON)
  | some xuid =>
    if contentType = 1 then
      (⟨some 1, if creatorXuidPtr then some xuid else none⟩,
        completeOverlapped overlapped X_ERROR_SUCCESS)
    else
      (⟨some 0, if creatorXuidPtr then some 0 else none⟩,
        completeOverlapped overlapped X_ERROR_SUCCESS)

-- The mask stored at `mask_ptr` (`cvars::license_mask` as `uint32_t`), and the status with the
-- overlapped's completion. A title not running from a package, other than an arcade title
-- (id 0x5841xxxx), is refused before the overlapped is touched.
def xamContentGetLicenseMask (licenseMask : UInt32) (titlePackaged : Bool) (titleId : UInt32)
    (overlapped : Bool) : UInt32 × (UInt32 × Option Completion) :=
  if !titlePackaged && titleId &&& 0xFFFF0000 != 0x58410000 then
    (licenseMask, (X_E_ACCESS_DENIED, none))
  else (licenseMask, completeOverlapped overlapped X_ERROR_SUCCESS)

-- `XamContentGetThumbnail`.

-- What the guest sees: the size stored at `buffer_size_ptr`, the bytes copied to
-- `buffer_ptr` if any, and the status with the overlapped's completion.
structure ThumbnailOutcome where
  sizeStore : UInt32
  copy : Option (List UInt8)
  status : UInt32
  completion : Option Completion
deriving DecidableEq, Repr

-- `bufferSize` is `*buffer_size_ptr` on entry, and `thumbnail` is what `GetContentThumbnail`
-- returns and fills in.
def xamContentGetThumbnail (bufferSize : UInt32) (bufferPtr overlapped : Bool)
    (thumbnail : UInt32 × List UInt8) : ThumbnailOutcome :=
  let copied : UInt32 × Option (List UInt8) :=
    if XSUCCEEDED thumbnail.1 && bufferPtr then
      if bufferSize.toNat < thumbnail.2.length then (X_ERROR_INSUFFICIENT_BUFFER, none)
      else (thumbnail.1, some thumbnail.2)
    else (thumbnail.1, none)
  let out := completeOverlapped overlapped copied.1
  ⟨UInt32.ofNat thumbnail.2.length, copied.2, out.1, out.2⟩

-- `XamContentCreateEx`: create or open a package by the disposition in `flags & 0xF`.

-- The `ContentManager` calls made.
inductive ContentCall
  | contentExists
  | deleteContent
  | createContent
  | openContent
  | loadTitleSpa
deriving DecidableEq, Repr

-- The outcome of the disposition `switch`: the result so far, whether to create or to open,
-- and the calls made.
structure Disposition where
  result : UInt32
  create : Bool
  openExisting : Bool
  calls : List ContentCall
deriving DecidableEq, Repr

-- CREATE_NEW, CREATE_ALWAYS, OPEN_EXISTING, OPEN_ALWAYS, TRUNCATE_EXISTING; any other value
-- does nothing and leaves X_ERROR_INVALID_PARAMETER. `present` is `ContentExists`' answer.
def disposition (flags : UInt32) (present : Bool) : Disposition :=
  match (flags &&& 0xF).toNat with
  | 1 =>
    if present then ⟨X_ERROR_ALREADY_EXISTS, false, false, [.contentExists]⟩
    else ⟨X_ERROR_INVALID_PARAMETER, true, false, [.contentExists]⟩
  | 2 =>
    if present then ⟨X_ERROR_INVALID_PARAMETER, true, false, [.contentExists, .deleteContent]⟩
    else ⟨X_ERROR_INVALID_PARAMETER, true, false, [.contentExists]⟩
  | 3 =>
    if !present then ⟨X_ERROR_PATH_NOT_FOUND, false, false, [.contentExists]⟩
    else ⟨X_ERROR_INVALID_PARAMETER, false, true, [.contentExists]⟩
  | 4 =>
    if !present then ⟨X_ERROR_INVALID_PARAMETER, true, false, [.contentExists]⟩
    else ⟨X_ERROR_INVALID_PARAMETER, false, true, [.contentExists]⟩
  | 5 =>
    if !present then ⟨X_ERROR_PATH_NOT_FOUND, false, false, [.contentExists]⟩
    else ⟨X_ERROR_INVALID_PARAMETER, true, false, [.contentExists, .deleteContent]⟩
  | _ => ⟨X_ERROR_INVALID_PARAMETER, false, false, []⟩

-- What `ContentManager` answers: `ContentExists`, and what `CreateContent` and `OpenContent`
-- return.
structure ContentAnswers where
  present : Bool
  createResult : UInt32
  openResult : UInt32
deriving DecidableEq, Repr

-- The guest arguments `XamContentCreateEx` acts on: `flags`, the content type in the
-- `XCONTENT_DATA`, and which of `disposition_ptr`, `license_mask_ptr` and the overlapped are
-- given.
structure CreateExArgs where
  flags : UInt32
  contentType : UInt32
  dispositionPtr : Bool
  licenseMaskPtr : Bool
  overlapped : Bool
deriving DecidableEq, Repr

-- The calls made and what the guest sees: the status, the value stored at
-- `disposition_ptr` and at `license_mask_ptr`, and the overlapped's completion.
structure CreateExOutcome where
  calls : List ContentCall
  status : UInt32
  dispositionStore : Option UInt32
  licenseMaskStore : Option UInt32
  completion : Option Completion
deriving DecidableEq, Repr

-- `XContentType::kMarketplaceContent`.
def kMarketplaceContent : UInt32 := 2

-- "1 = created, 2 = opened".
def dispositionValue (d : Disposition) : UInt32 := if d.create then 1 else 2

def xamContentCreateEx (a : CreateExArgs) (cm : ContentAnswers) : CreateExOutcome :=
  let d := disposition a.flags cm.present
  let result := if d.create then cm.createResult else if d.openExisting then cm.openResult
    else d.result
  let calls := d.calls ++ (if d.create then [.createContent]
    else if d.openExisting then [.openContent] else []) ++
    (if result = 0 ∧ a.contentType = kMarketplaceContent then [.loadTitleSpa] else [])
  ⟨calls, if a.overlapped then X_ERROR_IO_PENDING else result,
    if a.dispositionPtr then some (if a.overlapped then 0 else dispositionValue d) else none,
    if a.licenseMaskPtr && XSUCCEEDED result then some 0 else none,
    if a.overlapped then some (.immediateEx result 0 (dispositionValue d)) else none⟩

end XeniaXam.Content
