import XeniaXam.Ui.Keyboard

namespace XeniaXam.Ui

open XeniaXam.Kernel

-- `MessageBoxDialog` and `XamShowMessageBoxUI`: the guest gets the index of the button the
-- user picks, or the active button.

structure MessageBoxDialog where
  title : List UInt8
  description : List UInt8
  buttons : List (List UInt16)
  chosenButton : UInt32
  closed : Bool
deriving DecidableEq, Repr

-- What ImGui reports to one `OnDraw` of a message box: whether `BeginPopupModal` shows the
-- popup, and which of the buttons `ImGui::Button` reports clicked, by index.
structure MessageBoxFrame where
  popupOpen : Bool
  clicked : List Bool
deriving DecidableEq, Repr

namespace MessageBoxDialog

section Dialog

variable (codec : Utf8Codec)

-- The constructor converts the title and the text; an empty title becomes "Message Box", and
-- the chosen button starts as the default one.
def create (title description : List UInt16) (buttons : List (List UInt16))
    (defaultButton : UInt32) : Option MessageBoxDialog := do
  let title_ ← codec.toString title
  let description_ ← codec.toString description
  pure ⟨if title_.isEmpty then "Message Box".toList.map (·.toNat.toUInt8) else title_,
    description_, buttons, defaultButton, false⟩

-- One pass of the button loop: the button's label is converted for `ImGui::Button`, then a
-- clicked button records its index and closes the dialog.
def pressButton (clicked : List Bool) (d : MessageBoxDialog) (i : Nat) :
    Option MessageBoxDialog := do
  let _buttonName ← codec.toString (d.buttons.getD i [])
  pure <| if clicked.getD i false then { d with chosenButton := UInt32.ofNat i, closed := true }
    else d

def onDraw (d : MessageBoxDialog) (f : MessageBoxFrame) : Option MessageBoxDialog :=
  if f.popupOpen then (List.range d.buttons.length).foldlM (pressButton codec f.clicked) d
  else some { d with closed := true }

-- The frames drawn until the dialog closes.
def run : MessageBoxDialog → List MessageBoxFrame → Option MessageBoxDialog
  | d, [] => some d
  | d, f :: frames => if d.closed then some d else (onDraw codec d f).bind fun d => run d frames

end Dialog

end MessageBoxDialog

-- The guest arguments `XamShowMessageBoxUI` reads: the title (null is `none`), the text, the
-- `button_count` strings behind `button_ptrs`, the active button and whether an overlapped is
-- given.
structure MessageBoxArgs where
  title : Option (List UInt16)
  text : List UInt16
  buttons : List (List UInt16)
  activeButton : UInt32
  overlapped : Bool
deriving DecidableEq, Repr

-- What the guest sees: the status returned, the overlapped's result, the XN_SYS_UI
-- notifications, and the value stored at `result_ptr` once there is one.
structure MessageBoxResult where
  status : UInt32
  overlappedResult : Option UInt32
  sysUi : List Bool
  result : Option UInt32
deriving DecidableEq, Repr

-- Headless, the active button is the answer at once. Windowed, `frames` are the frames drawn
-- so far, and `ui_fn` stores the chosen button once the dialog has closed; the status does not
-- wait for it. `none` is a host fault: a conversion throwing.
def xamShowMessageBoxUI (codec : Utf8Codec) (headless : Bool) (frames : List MessageBoxFrame)
    (a : MessageBoxArgs) : Option MessageBoxResult :=
  let status := if a.overlapped then X_ERROR_IO_PENDING else X_ERROR_SUCCESS
  let done := if a.overlapped then some X_ERROR_SUCCESS else none
  if !headless then do
    let d ← MessageBoxDialog.create codec (a.title.getD []) a.text a.buttons a.activeButton
    let d ← MessageBoxDialog.run codec d frames
    pure <| if d.closed then ⟨status, done, [true, false], some d.chosenButton⟩
      else ⟨status, if a.overlapped then some X_ERROR_IO_PENDING else none, [true], none⟩
  else some ⟨status, done, [true, false], some a.activeButton⟩

-- `XamShowCreateProfileUI`: the same keyboard dialog, 15 bytes long, names a new profile.

-- What a call that returns gives the guest: the status, the gamertag written into the new
-- account (the first 15 units of the dialog's text), and the XN_SYS_UI notifications.
structure CreateProfileResult where
  status : UInt32
  gamertag : Option (List UInt16)
  sysUi : List Bool
deriving DecidableEq, Repr

-- `userPresent`: whether there is a profile for `user_index`. The call waits on the dialog, so
-- while `frames` have not closed it the call has not returned (`some none`); `none` is a host
-- fault.
def xamShowCreateProfileUI (codec : Utf8Codec) (userPresent : Bool) (frames : List Frame) :
    Option (Option CreateProfileResult) :=
  if !userPresent then some (some ⟨X_ERROR_ACCESS_DENIED, none, []⟩)
  else do
    let d ← KeyboardInputDialog.create codec ("Profile Creation".toList.map (·.toNat.toUInt16))
      ("Choose a gamertag".toList.map (·.toNat.toUInt16)) [] 15
    let d ← KeyboardInputDialog.run codec d frames
    pure <| if d.closed then some ⟨X_ERROR_SUCCESS, some (d.outText.take 15), [true, false]⟩
      else none

-- `XamShowDeviceSelectorUI`: it picks the dummy device of xam_content.cc at once.

-- The guest arguments `XamShowDeviceSelectorUI` checks; the content type, flags and size
-- requested are not read.
structure DeviceSelectorArgs where
  userIndex : UInt32
  deviceIdPtr : Bool
  overlapped : Bool
deriving DecidableEq, Repr

-- The status, the overlapped's result, the device id stored at `device_id_ptr`, and the
-- XN_SYS_UI notifications.
structure DeviceSelectorResult where
  status : UInt32
  overlappedResult : Option UInt32
  deviceId : Option UInt32
  sysUi : List Bool
deriving DecidableEq, Repr

def xamShowDeviceSelectorUI (a : DeviceSelectorArgs) : DeviceSelectorResult :=
  if (decide (a.userIndex > 3) && a.userIndex != 0xFF) || !a.deviceIdPtr || !a.overlapped then
    ⟨X_ERROR_INVALID_PARAMETER, if a.overlapped then some X_ERROR_INVALID_PARAMETER else none,
      none, []⟩
  else ⟨X_ERROR_IO_PENDING, some X_ERROR_SUCCESS, some 0x00000001, [true, false]⟩

end XeniaXam.Ui
