import XeniaXam.Kernel.Shim
import XeniaXam.Xdbf.Bytes

namespace XeniaXam.Ui

open XeniaXam.Kernel
open XeniaXam.Xdbf (writeBytes resize length_resize)

-- Well-formed text, which the conversions of xenia/base/string.h (not in src/) require.

def isHighSurrogate (u : UInt16) : Bool := 0xD800 ≤ u && u < 0xDC00

def isLowSurrogate (u : UInt16) : Bool := 0xDC00 ≤ u && u < 0xE000

-- Each high surrogate is followed by a low one, and no low surrogate stands alone.
def utf16Valid : List UInt16 → Bool
  | [] => true
  | [u] => !isHighSurrogate u && !isLowSurrogate u
  | u :: v :: rest =>
    if isHighSurrogate u then isLowSurrogate v && utf16Valid rest
    else !isLowSurrogate u && utf16Valid (v :: rest)

def isContinuation (b : UInt8) : Bool := 0x80 ≤ b && b < 0xC0

-- For a byte that starts a multi-byte character: the number of continuation bytes after it and
-- the range the first of them lies in, as Unicode's table of well-formed UTF-8 gives them.
def utf8Lead (b : UInt8) : Option (Nat × UInt8 × UInt8) :=
  if b < 0xC2 then none
  else if b < 0xE0 then some (1, 0x80, 0xBF)
  else if b = 0xE0 then some (2, 0xA0, 0xBF)
  else if b = 0xED then some (2, 0x80, 0x9F)
  else if b < 0xF0 then some (2, 0x80, 0xBF)
  else if b = 0xF0 then some (3, 0x90, 0xBF)
  else if b < 0xF4 then some (3, 0x80, 0xBF)
  else if b = 0xF4 then some (3, 0x80, 0x8F)
  else none

-- No overlong form, no surrogate, nothing past U+10FFFF and no character cut short.
def utf8Valid : List UInt8 → Bool
  | [] => true
  | b :: rest =>
    if b < 0x80 then utf8Valid rest
    else
      match utf8Lead b, rest with
      | some (1, lo, hi), c :: rest => (lo ≤ c && c ≤ hi) && utf8Valid rest
      | some (2, lo, hi), c :: d :: rest => (lo ≤ c && c ≤ hi) && isContinuation d && utf8Valid rest
      | some (3, lo, hi), c :: d :: e :: rest =>
        (lo ≤ c && c ≤ hi) && isContinuation d && isContinuation e && utf8Valid rest
      | _, _ => false

-- `xe::to_string` and `xe::to_wstring`: conversions through `std::wstring_convert`, which
-- throws `std::range_error` on text that is not well formed; `none` is that exception. ASCII
-- converts unit for unit, and `k` bytes of UTF-8 decode to at most `k` UTF-16 units.
structure Utf8Codec where
  toString : List UInt16 → Option (List UInt8)
  toWString : List UInt8 → Option (List UInt16)
  isSome_toString : ∀ s, (toString s).isSome = utf16Valid s
  isSome_toWString : ∀ b, (toWString b).isSome = utf8Valid b
  toString_ascii : ∀ s, (∀ u ∈ s, u < 0x80) → toString s = some (s.map UInt16.toUInt8)
  length_toWString_le : ∀ b w, toWString b = some w → w.length ≤ b.length

theorem isSurrogate_of_ascii {u : UInt16} (h : u < 0x80) :
    isHighSurrogate u = false ∧ isLowSurrogate u = false := by
  have hu : u.toNat < 128 := h
  have hh : ¬ (0xD800 : UInt16) ≤ u := fun h' => by have : 55296 ≤ u.toNat := h'; omega
  have hl : ¬ (0xDC00 : UInt16) ≤ u := fun h' => by have : 56320 ≤ u.toNat := h'; omega
  simp [isHighSurrogate, isLowSurrogate, hh, hl]

theorem utf16Valid_of_ascii : ∀ s : List UInt16, (∀ u ∈ s, u < 0x80) → utf16Valid s = true
  | [], _ => rfl
  | [u], h => by
    obtain ⟨hh, hl⟩ := isSurrogate_of_ascii (h u (List.mem_singleton_self u))
    simp [utf16Valid, hh, hl]
  | u :: v :: rest, h => by
    obtain ⟨hh, hl⟩ := isSurrogate_of_ascii (h u (List.mem_cons_self _ _))
    have ih := utf16Valid_of_ascii (v :: rest) fun w hw => h w (List.mem_cons_of_mem _ hw)
    simp [utf16Valid, hh, hl, ih]

-- A codec that is exact on ASCII text.
def Utf8Codec.ascii : Utf8Codec where
  toString s := if utf16Valid s then some (s.map UInt16.toUInt8) else none
  toWString b := if utf8Valid b then some (b.map UInt8.toUInt16) else none
  isSome_toString s := by cases h : utf16Valid s <;> simp [h]
  isSome_toWString b := by cases h : utf8Valid b <;> simp [h]
  toString_ascii s h := by simp [utf16Valid_of_ascii s h]
  length_toWString_le b w h := by
    cases hb : utf8Valid b <;> simp only [hb, if_true, Bool.false_eq_true, if_false] at h
    · cases h
    · rw [← Option.some.inj h, List.length_map]

-- What ImGui's `InputText` (third_party/imgui, not in src/) writes into its box: text built
-- from the characters typed, so well-formed UTF-8 with no NUL inside.
structure ImGuiText where
  bytes : List UInt8
  valid : utf8Valid bytes = true
  nul_free : 0 ∉ bytes

-- `KeyboardInputDialog`: the popup, the box the user types into, and the text it hands back.

-- `size_t` subtraction of one.
def sizeMinusOne (n : Nat) : Nat := (n + 2 ^ 64 - 1) % 2 ^ 64

-- `std::strncpy(dest, src, n)`: the C string of `src` cut to `n` bytes and NUL-padded to `n`,
-- over the front of `dest`; `none` when the `n` bytes run past `dest`.
def strncpy (dest src : List UInt8) (n : Nat) : Option (List UInt8) :=
  writeBytes dest 0 (resize (src.takeWhile (· != 0)) n)

-- The popup's title and description: the given title, else the description (then not shown a
-- second time), else "Keyboard Input".
def titles (title description : List UInt8) : List UInt8 × List UInt8 :=
  if title.isEmpty then
    if description.isEmpty then ("Keyboard Input".toList.map (·.toNat.toUInt8), description)
    else (description, [])
  else (title, description)

-- The box's first text: the default's UTF-8 up to a NUL, cut by the constructor's `strncpy`
-- to one byte less than the box, possibly inside a character.
def boxText (n : Nat) (text : List UInt8) : List UInt8 :=
  (text.takeWhile (· != 0)).take (sizeMinusOne n)

-- `InputText` on a box of `buf_size` bytes: an edit writes its text and NUL-fills the rest.
-- ImGui takes no text of `buf_size` bytes or more, so such an edit leaves the box as it was.
def inputText (buf : List UInt8) : Option ImGuiText → List UInt8
  | some t => if t.bytes.length < buf.length then resize t.bytes buf.length else buf
  | none => buf

-- The C string at `text_buffer_.data()`; `none` when the vector holds no NUL and the scan runs
-- past it.
def cString (buf : List UInt8) : Option (List UInt8) :=
  if 0 ∈ buf then some (buf.takeWhile (· != 0)) else none

structure KeyboardInputDialog where
  title : List UInt8
  description : List UInt8
  outText : List UInt16
  textBuffer : List UInt8
  closed : Bool
deriving DecidableEq, Repr

-- What ImGui reports to one `OnDraw`: whether `BeginPopupModal` shows the popup, the text the
-- box was edited to (`none` when `InputText` left it as it was), whether `InputText` returned
-- true (Enter), and the OK and Cancel buttons.
structure Frame where
  popupOpen : Bool
  typed : Option ImGuiText
  entered : Bool
  okClicked : Bool
  cancelClicked : Bool

namespace KeyboardInputDialog

section Dialog

variable (codec : Utf8Codec)

-- The constructor converts the three texts; the output text starts as the whole default text,
-- and the text buffer of `max_length` bytes holds the default's UTF-8 cut by `strncpy`.
def create (title description defaultText : List UInt16) (maxLength : Nat) :
    Option KeyboardInputDialog := do
  let title_ ← codec.toString title
  let description_ ← codec.toString description
  let defaultText_ ← codec.toString defaultText
  let named := titles title_ description_
  let textBuffer ← strncpy (List.replicate maxLength 0) defaultText_
    (min (sizeMinusOne maxLength) defaultText_.length)
  pure ⟨named.1, named.2, defaultText, textBuffer, false⟩

-- `Close()`.
def close (d : KeyboardInputDialog) : KeyboardInputDialog := { d with closed := true }

-- Enter and OK: the output text becomes the box's text, converted back, and the dialog closes.
def accept (d : KeyboardInputDialog) : Option KeyboardInputDialog := do
  let s ← cString d.textBuffer
  let w ← codec.toWString s
  pure (close { d with outText := w })

-- An `if` around the Enter and OK branches.
def acceptIf (b : Bool) (d : KeyboardInputDialog) : Option KeyboardInputDialog :=
  if b then accept codec d else some d

-- One `OnDraw`: the box is edited, then Enter, OK and Cancel are handled in turn; a popup no
-- longer shown closes the dialog.
def onDraw (d : KeyboardInputDialog) (f : Frame) : Option KeyboardInputDialog :=
  if f.popupOpen then
    (acceptIf codec f.entered { d with textBuffer := inputText d.textBuffer f.typed }).bind
      fun d => (acceptIf codec f.okClicked d).map fun d => if f.cancelClicked then close d else d
  else some (close d)

-- The frames drawn until the dialog closes; a closed dialog draws no more.
def run : KeyboardInputDialog → List Frame → Option KeyboardInputDialog
  | d, [] => some d
  | d, f :: frames => if d.closed then some d else (onDraw codec d f).bind fun d => run d frames

end Dialog

end KeyboardInputDialog

theorem sizeMinusOne_lt {n : Nat} (h : 0 < n) : sizeMinusOne n < n := by
  unfold sizeMinusOne
  omega

-- Copying into a zero-filled buffer of more than `n` bytes leaves a NUL after the copy.
theorem strncpy_replicate (src : List UInt8) {n m : Nat} (h : n < m) :
    strncpy (List.replicate m 0) src n =
      some (resize (src.takeWhile (· != 0)) n ++ List.replicate (m - n) 0) := by
  rw [strncpy, Xdbf.writeBytes_of_le (by simp; omega)]
  simp [List.drop_replicate]

-- The constructor's copy leaves the box holding `boxText`, then NULs.
theorem strncpy_default (src : List UInt8) {n : Nat} (hn : 0 < n) :
    strncpy (List.replicate n 0) src (min (sizeMinusOne n) src.length) =
      some (resize (boxText n src) n) := by
  have hk := sizeMinusOne_lt hn
  have hle : (src.takeWhile (· != 0)).length ≤ src.length := (List.takeWhile_sublist _).length_le
  rw [strncpy_replicate _ (lt_of_le_of_lt (min_le_left _ _) hk), boxText]
  generalize sizeMinusOne n = s at hk ⊢
  generalize src.takeWhile (· != 0) = t at hle ⊢
  simp only [resize, List.length_take, List.take_take, List.append_assoc, ← List.replicate_add,
    min_eq_right hk.le]
  rw [List.take_eq_take.mpr (by omega : min (min s src.length) t.length = min s t.length)]
  congr 3
  omega

theorem length_boxText_lt (text : List UInt8) {n : Nat} (hn : 0 < n) :
    (boxText n text).length < n :=
  lt_of_le_of_lt (List.length_take_le _ _) (sizeMinusOne_lt hn)

theorem zero_mem_resize {t : List UInt8} {n : Nat} (h : t.length < n) : 0 ∈ resize t n :=
  List.mem_append_right _ (List.mem_replicate.mpr ⟨by omega, rfl⟩)

-- A text with no NUL, in a box longer than it, reads back as itself.
theorem cString_resize {t : List UInt8} {n : Nat} (h0 : 0 ∉ t) (h : t.length < n) :
    cString (resize t n) = some t := by
  have hpos : ∀ x ∈ t, (x != 0) = true := fun x hx => by
    simpa using fun hx0 : x = 0 => h0 (hx0 ▸ hx)
  rw [cString, if_pos (zero_mem_resize h), resize, List.take_of_length_le h.le,
    List.takeWhile_append_of_pos hpos, List.takeWhile_replicate]
  simp

namespace KeyboardInputDialog

section Dialog

variable (codec : Utf8Codec) {n : Nat}

-- The constructor converts the three texts and starts with the default's UTF-8 cut by
-- `strncpy` in its box.
theorem create_eq (title description defaultText : List UInt16) (hn : 0 < n) :
    create codec title description defaultText n =
      (codec.toString title).bind fun title_ => (codec.toString description).bind
        fun description_ => (codec.toString defaultText).map fun defaultText_ =>
          ⟨(titles title_ description_).1, (titles title_ description_).2, defaultText,
            resize (boxText n defaultText_) n, false⟩ := by
  simp only [create, strncpy_default _ hn, Option.bind_eq_bind, Option.pure_def,
    Option.some_bind]
  cases codec.toString title <;> cases codec.toString description <;>
    cases codec.toString defaultText <;> rfl

end Dialog

end KeyboardInputDialog

-- `XamShowKeyboardUI`.

-- The guest arguments `XamShowKeyboardUI` reads; a null string pointer is `none`.
structure KeyboardUIArgs where
  defaultText : Option (List UInt16)
  title : Option (List UInt16)
  description : Option (List UInt16)
  bufferLength : UInt32
  overlapped : Bool
deriving DecidableEq, Repr

-- What the guest sees of a call: the status returned, the overlapped's result, the XN_SYS_UI
-- notifications broadcast, and the stores into `buffer`.
structure KeyboardUIResult where
  status : UInt32
  overlappedResult : Option UInt32
  sysUi : List Bool
  stores : List UnitStore
deriving DecidableEq, Repr

-- The headless path: zero the buffer, then echo the default text into it.
def headlessStores (bufferLength : UInt32) (defaultText : Option (List UInt16)) :
    List UnitStore :=
  memsetUnits bufferLength ++ (defaultText.map storeUnits).getD []

-- `ui_fn`, once the dialog has closed: zero the buffer, then copy
-- `min(buffer_length, out_text.size())` units of the output text.
def uiFn (bufferLength : UInt32) (outText : List UInt16) : List UnitStore :=
  memsetUnits bufferLength ++ storeUnits (outText.take bufferLength.toNat)

section Show

variable (codec : Utf8Codec)

-- `none` is a host fault: a conversion throwing, or the constructor's copy or the box's C
-- string running past the text buffer. In windowed mode, `frames` are the frames drawn so far;
-- the call's stores are made once the dialog has closed.
def xamShowKeyboardUI (headless : Bool) (frames : List Frame) (a : KeyboardUIArgs) :
    Option KeyboardUIResult :=
  if !a.overlapped then some ⟨X_ERROR_INVALID_PARAMETER, none, [], []⟩
  else if headless then
    some ⟨X_ERROR_IO_PENDING, some X_ERROR_SUCCESS, [true, false],
      headlessStores a.bufferLength a.defaultText⟩
  else do
    let d ← KeyboardInputDialog.create codec (a.title.getD []) (a.description.getD [])
      (a.defaultText.getD []) a.bufferLength.toNat
    let d ← KeyboardInputDialog.run codec d frames
    pure <| if d.closed then
        ⟨X_ERROR_IO_PENDING, some X_ERROR_SUCCESS, [true, false], uiFn a.bufferLength d.outText⟩
      else ⟨X_ERROR_IO_PENDING, some X_ERROR_IO_PENDING, [true], []⟩

-- The windowed call, from the dialog it makes and the frames' run of it.
theorem xamShowKeyboardUI_windowed (frames : List Frame) (a : KeyboardUIArgs)
    (ho : a.overlapped = true) :
    xamShowKeyboardUI codec false frames a =
      (KeyboardInputDialog.create codec (a.title.getD []) (a.description.getD [])
        (a.defaultText.getD []) a.bufferLength.toNat).bind fun d0 =>
        (KeyboardInputDialog.run codec d0 frames).map fun d => if d.closed then
          ⟨X_ERROR_IO_PENDING, some X_ERROR_SUCCESS, [true, false], uiFn a.bufferLength d.outText⟩
          else ⟨X_ERROR_IO_PENDING, some X_ERROR_IO_PENDING, [true], []⟩ := by
  simp only [xamShowKeyboardUI, ho, Bool.not_true, Bool.false_eq_true, if_false,
    Option.bind_eq_bind, Option.pure_def]
  congr 1
  funext d0
  cases KeyboardInputDialog.run codec d0 frames <;> rfl

theorem headlessStores_eq (bufferLength : UInt32) (defaultText : Option (List UInt16)) :
    headlessStores bufferLength defaultText =
      memsetUnits bufferLength ++ storeUnits (defaultText.getD []) := by
  cases defaultText <;> rfl

theorem withinBuffer_uiFn (bufferLength : UInt32) (outText : List UInt16) :
    WithinBuffer bufferLength.toNat (uiFn bufferLength outText) := by
  rw [uiFn, withinBuffer_append, withinBuffer_storeUnits, List.length_take]
  exact ⟨withinBuffer_memsetUnits _, min_le_left _ _⟩

-- Below 2^31 units, the completed buffer holds the output text cut to the buffer, then zeros.
theorem applyStores_uiFn (bufferLength : UInt32) (h : bufferLength.toNat < 2 ^ 31)
    (buf outText : List UInt16) (hbuf : buf.length = bufferLength.toNat) :
    applyStores buf (uiFn bufferLength outText) =
      outText.take bufferLength.toNat ++ List.replicate (bufferLength.toNat - outText.length) 0 := by
  rw [uiFn, applyStores_memsetUnits_storeUnits _ h _ _ hbuf, List.take_take, min_self,
    List.length_take]
  by_cases hlt : outText.length < bufferLength.toNat
  · rw [min_eq_right hlt.le]
  · rw [min_eq_left (by omega), Nat.sub_self, Nat.sub_eq_zero_of_le (by omega)]

-- Headless mode stores the whole default text, whatever the buffer's length: the stores stay
-- inside the buffer exactly when the default fits, and (below 2^31 units) the buffer is left
-- NUL-terminated exactly when the default is shorter than the buffer.
theorem headlessKeyboard_stores (frames : List Frame) (a : KeyboardUIArgs)
    (ho : a.overlapped = true) :
    ∃ r, xamShowKeyboardUI codec true frames a = some r ∧ r.status = X_ERROR_IO_PENDING ∧
      r.overlappedResult = some X_ERROR_SUCCESS ∧
      (WithinBuffer a.bufferLength.toNat r.stores ↔
        (a.defaultText.getD []).length ≤ a.bufferLength.toNat) ∧
      (a.bufferLength.toNat < 2 ^ 31 → 0 ∉ a.defaultText.getD [] →
        ∀ buf : List UInt16, buf.length = a.bufferLength.toNat →
          (0 ∈ applyStores buf r.stores ↔
            (a.defaultText.getD []).length < a.bufferLength.toNat)) := by
  refine ⟨_, by simp [xamShowKeyboardUI, ho]; rfl, rfl, rfl, ?_, fun hbl hs buf hbuf => ?_⟩
  · simp only [headlessStores_eq, withinBuffer_append, withinBuffer_storeUnits,
      withinBuffer_memsetUnits, true_and]
  · rw [headlessStores_eq, applyStores_memsetUnits_storeUnits _ hbl _ _ hbuf]
    exact zero_mem_take_append_replicate _ hs _

theorem headlessKeyboard_stores_long :
    ({ defaultText := some [0x61, 0x62], title := none, description := none, bufferLength := 1,
        overlapped := true } : KeyboardUIArgs).overlapped = true ∧
      ∃ r, xamShowKeyboardUI Utf8Codec.ascii true []
          ⟨some [0x61, 0x62], none, none, 1, true⟩ = some r ∧ r.status = X_ERROR_IO_PENDING ∧
        r.overlappedResult = some X_ERROR_SUCCESS ∧
        (WithinBuffer (1 : UInt32).toNat r.stores ↔
          ((some [0x61, 0x62] : Option (List UInt16)).getD []).length ≤ (1 : UInt32).toNat) ∧
        ((1 : UInt32).toNat < 2 ^ 31 → 0 ∉ (some [0x61, 0x62] : Option (List UInt16)).getD [] →
          ∀ buf : List UInt16, buf.length = (1 : UInt32).toNat →
            (0 ∈ applyStores buf r.stores ↔
              ((some [0x61, 0x62] : Option (List UInt16)).getD []).length < (1 : UInt32).toNat)) :=
  ⟨rfl, headlessKeyboard_stores Utf8Codec.ascii [] ⟨some [0x61, 0x62], none, none, 1, true⟩ rfl⟩

-- Headless, a one-unit buffer and the default text "ab": the echo stores its second unit past
-- the buffer. Windowed, a two-unit buffer, the default "ab" and Cancel: every store is inside
-- the buffer, but it is left holding "ab" with no NUL.
theorem keyboardUI_overrun :
    (∃ r, xamShowKeyboardUI codec true [] ⟨some [0x61, 0x62], none, none, 1, true⟩ = some r ∧
        ¬ WithinBuffer 1 r.stores) ∧
      ∃ r, xamShowKeyboardUI codec false [⟨true, none, false, false, true⟩]
          ⟨some [0x61, 0x62], none, none, 2, true⟩ = some r ∧
        WithinBuffer 2 r.stores ∧
        ∀ buf : List UInt16, buf.length = 2 → applyStores buf r.stores = [0x61, 0x62] := by
  refine ⟨⟨_, rfl, by decide⟩, ?_⟩
  have hwin := xamShowKeyboardUI_windowed codec [⟨true, none, false, false, true⟩]
    ⟨some [0x61, 0x62], none, none, 2, true⟩ rfl
  simp only [KeyboardInputDialog.create_eq codec _ _ _ (by decide : 0 < (2 : UInt32).toNat),
    codec.toString_ascii [] (by decide), codec.toString_ascii [0x61, 0x62] (by decide),
    Option.getD_none, Option.getD_some, Option.some_bind, Option.map_some'] at hwin
  refine ⟨_, hwin, ?_, fun buf hbuf => ?_⟩
  · exact withinBuffer_uiFn _ _
  · show applyStores buf (uiFn 2 [0x61, 0x62]) = _
    rw [applyStores_uiFn 2 (by decide) buf _ hbuf]
    rfl

end Show

end XeniaXam.Ui
