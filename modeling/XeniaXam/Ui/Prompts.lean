import XeniaXam.Ui.Dialogs

namespace XeniaXam.Ui

open XeniaXam.Kernel
open XeniaXam.Xdbf (resize length_resize)

-- What the two dialogs are for. A keyboard prompt holds the text of its box and stays open
-- until a frame closes it, answering with the box's text or with none; a message box answers
-- with the button picked in its closing frame or with none. The ImGui dialogs of xam_ui.cc
-- refine these prompts frame by frame, up to a host fault where a conversion throws, so the
-- guest-visible results of the exports are the prompts' answers.

-- The keyboard prompt.

-- A box of `n` bytes holds a C string: no NUL inside it, and room for one after it.
def BoxFits (n : Nat) (box : List UInt8) : Prop := 0 ∉ box ∧ box.length < n

-- The box's text after a frame's edit: ImGui keeps a typed text shorter than the box.
def boxAfter (n : Nat) (box : List UInt8) : Option ImGuiText → List UInt8
  | some t => if t.bytes.length < n then t.bytes else box
  | none => box

-- How one frame closes a keyboard prompt: a popup no longer shown closes it with no text,
-- Enter or OK with the box's text after the frame's edit, Cancel with no text; any other frame
-- leaves it open.
def keyboardFrameAnswer (n : Nat) (box : List UInt8) (f : Frame) : Option (Option (List UInt8)) :=
  if !f.popupOpen then some none
  else if f.entered || f.okClicked then some (some (boxAfter n box f.typed))
  else if f.cancelClicked then some none
  else none

-- The answer of the first frame that closes the prompt, the box carried from frame to frame;
-- `none` while it is open.
def keyboardAnswer (n : Nat) (box : List UInt8) : List Frame → Option (Option (List UInt8))
  | [] => none
  | f :: frames =>
    match keyboardFrameAnswer n box f with
    | some answer => some answer
    | none => keyboardAnswer n (boxAfter n box f.typed) frames

-- The text left by an answer: the box's text, decoded (`none` where it is not well-formed
-- UTF-8), or `text` as it was.
def promptText (codec : Utf8Codec) (text : List UInt16) :
    Option (List UInt8) → Option (List UInt16)
  | some typed => codec.toWString typed
  | none => some text

-- What the guest gets of a dialog: its output text, once it has closed.
def KeyboardInputDialog.result (d : KeyboardInputDialog) : Option (List UInt16) :=
  if d.closed then some d.outText else none

section Box

variable {n : Nat} {box : List UInt8}

theorem boxFits_nil (hn : 0 < n) : BoxFits n [] := ⟨List.not_mem_nil 0, hn⟩

theorem boxText_fits (text : List UInt8) (hn : 0 < n) : BoxFits n (boxText n text) :=
  ⟨fun h => by simpa using List.all_eq_true.mp List.all_takeWhile 0 (List.mem_of_mem_take h),
    length_boxText_lt text hn⟩

-- An edit keeps a C string in the box, and a text other than the box's is well formed.
theorem boxAfter_fits (h : BoxFits n box) (e : Option ImGuiText) :
    BoxFits n (boxAfter n box e) ∧
      (boxAfter n box e = box ∨ utf8Valid (boxAfter n box e) = true) := by
  cases e with
  | none => exact ⟨h, Or.inl rfl⟩
  | some t =>
    simp only [boxAfter]
    split
    · rename_i hlt
      exact ⟨⟨t.nul_free, hlt⟩, Or.inr t.valid⟩
    · exact ⟨h, Or.inl rfl⟩

theorem inputText_resize (box : List UInt8) (e : Option ImGuiText) :
    inputText (resize box n) e = resize (boxAfter n box e) n := by
  cases e with
  | none => rfl
  | some t => simp only [inputText, boxAfter, length_resize]; split <;> rfl

theorem keyboardFrameAnswer_text {f : Frame} {s : List UInt8}
    (e : keyboardFrameAnswer n box f = some (some s)) : s = boxAfter n box f.typed := by
  unfold keyboardFrameAnswer at e
  split at e
  · cases e
  · split at e
    · cases e; rfl
    · split at e <;> cases e

-- The text an answer carries is a C string of the box, and either the box the prompt started
-- with or well-formed UTF-8.
theorem keyboardAnswer_text (frames : List Frame) (h : BoxFits n box) {s : List UInt8}
    (e : keyboardAnswer n box frames = some (some s)) :
    BoxFits n s ∧ (s = box ∨ utf8Valid s = true) := by
  induction frames generalizing box with
  | nil => cases e
  | cons f frames ih =>
    have hafter := boxAfter_fits h f.typed
    simp only [keyboardAnswer] at e
    split at e
    · rename_i ha
      cases e
      rw [keyboardFrameAnswer_text ha]
      exact hafter
    · rcases ih hafter.1 e with ⟨hs, rfl | hv⟩
      · exact ⟨hs, hafter.2⟩
      · exact ⟨hs, Or.inr hv⟩

section Codec

variable (codec : Utf8Codec) (text : List UInt16)

theorem promptText_eq_none (answer : Option (List UInt8)) :
    promptText codec text answer = none ↔ ∃ s, answer = some s ∧ utf8Valid s = false := by
  cases answer with
  | none => simp [promptText]
  | some s =>
    rw [promptText, ← Option.not_isSome_iff_eq_none, codec.isSome_toWString]
    simp

-- The text an answer leaves is the text as it was, or shorter than the box.
theorem promptText_length (frames : List Frame) (h : BoxFits n box)
    {answer : Option (List UInt8)} (e : keyboardAnswer n box frames = some answer)
    {w : List UInt16} (hw : promptText codec text answer = some w) : w = text ∨ w.length < n := by
  cases answer with
  | none => cases hw; exact Or.inl rfl
  | some s =>
    exact Or.inr (lt_of_le_of_lt (codec.length_toWString_le s w hw)
      (keyboardAnswer_text frames h e).1.2)

-- From a well-formed box, every answer decodes.
theorem promptText_isSome (frames : List Frame) (h : BoxFits n box) (hv : utf8Valid box = true)
    {answer : Option (List UInt8)} (e : keyboardAnswer n box frames = some answer) :
    (promptText codec text answer).isSome = true := by
  cases answer with
  | none => rfl
  | some s =>
    rw [promptText, codec.isSome_toWString]
    rcases (keyboardAnswer_text frames h e).2 with rfl | hs
    · exact hv
    · exact hs

end Codec

end Box

namespace KeyboardInputDialog

section Prompt

variable (codec : Utf8Codec) {n : Nat} {box : List UInt8}

theorem run_of_closed {d : KeyboardInputDialog} (h : d.closed = true) (frames : List Frame) :
    run codec d frames = some d := by
  cases frames <;> simp [run, h]

theorem closed_of_result {d : KeyboardInputDialog} {w : List UInt16} (h : d.result = some w) :
    d.closed = true := by
  unfold result at h
  split at h
  · assumption
  · cases h

-- One frame of an open dialog whose buffer holds the box is one step of the prompt: a frame
-- that does not answer only edits the box, and one that answers closes the dialog with the
-- answer's text, or faults where that text does not decode.
theorem onDraw_answer {d : KeyboardInputDialog} (hbox : BoxFits n box)
    (hbuf : d.textBuffer = resize box n) (hopen : d.closed = false) (f : Frame) :
    match keyboardFrameAnswer n box f with
    | some answer => (onDraw codec d f).map result = (promptText codec d.outText answer).map some
    | none => onDraw codec d f = some { d with textBuffer := resize (boxAfter n box f.typed) n } := by
  have hfits := (boxAfter_fits hbox f.typed).1
  have hc : cString (resize (boxAfter n box f.typed) n) = some (boxAfter n box f.typed) :=
    cString_resize hfits.1 hfits.2
  unfold onDraw keyboardFrameAnswer
  cases hp : f.popupOpen
  · simp [result, close, promptText]
  · cases he : f.entered <;> cases ho : f.okClicked <;> cases hx : f.cancelClicked <;>
      cases hw : codec.toWString (boxAfter n box f.typed) <;>
      simp [acceptIf, accept, close, hc, hw, promptText, result, hopen, hbuf, inputText_resize]

-- Every run of frames is the prompt's: the dialog's result is the answer of the first frame
-- that closes it, the box carried along, and the run faults exactly where that answer does.
theorem run_answer (frames : List Frame) {d : KeyboardInputDialog} (hbox : BoxFits n box)
    (hbuf : d.textBuffer = resize box n) (hopen : d.closed = false) :
    (run codec d frames).map result =
      match keyboardAnswer n box frames with
      | some answer => (promptText codec d.outText answer).map some
      | none => some none := by
  induction frames generalizing d box with
  | nil => simp [run, result, hopen, keyboardAnswer]
  | cons f frames ih =>
    have hstep := onDraw_answer codec hbox hbuf hopen f
    simp only [run, hopen, Bool.false_eq_true, if_false, keyboardAnswer]
    cases ha : keyboardFrameAnswer n box f with
    | some answer =>
      rw [ha] at hstep
      dsimp only at hstep ⊢
      rw [← hstep]
      cases e : onDraw codec d f with
      | none => rfl
      | some d1 =>
        rw [e] at hstep
        obtain ⟨w, hw⟩ : ∃ w, d1.result = some w := by
          cases hp : promptText codec d.outText answer <;> simp_all
        simp [run_of_closed codec (closed_of_result hw)]
    | none =>
      rw [ha] at hstep
      rw [hstep, Option.some_bind]
      exact ih (boxAfter_fits hbox f.typed).1 rfl hopen

end Prompt

end KeyboardInputDialog

-- The message box.

-- The button loop visits the buttons in order, so of the first `count` buttons the last one
-- clicked is the one kept.
def lastClicked (clicked : List Bool) : Nat → Option Nat
  | 0 => none
  | k + 1 => if clicked.getD k false then some k else lastClicked clicked k

-- How one frame closes a message box: a popup no longer shown closes it with no button, a
-- click with the button picked; any other frame leaves it open.
def messageBoxFrameAnswer (count : Nat) (f : MessageBoxFrame) : Option (Option Nat) :=
  if !f.popupOpen then some none else (lastClicked f.clicked count).map some

def messageBoxAnswer (count : Nat) : List MessageBoxFrame → Option (Option Nat)
  | [] => none
  | f :: frames =>
    match messageBoxFrameAnswer count f with
    | some answer => some answer
    | none => messageBoxAnswer count frames

-- The value an answer leaves at `result_ptr`: the picked button's index, or `chosen` as it was.
def chosenOf (chosen : UInt32) : Option Nat → UInt32
  | some i => UInt32.ofNat i
  | none => chosen

-- Whether the first frame shows the popup, so that its button loop converts every label.
def labelsDrawn : List MessageBoxFrame → Bool
  | f :: _ => f.popupOpen
  | [] => false

-- The texts the windowed call converts are well formed: the title and the text always, the
-- labels when the first frame draws them.
def messageBoxTextsValid (a : MessageBoxArgs) (frames : List MessageBoxFrame) : Bool :=
  utf16Valid (a.title.getD []) && utf16Valid a.text &&
    (a.buttons.all utf16Valid || !labelsDrawn frames)

-- What the guest gets of a dialog: the chosen button, once it has closed.
def MessageBoxDialog.result (d : MessageBoxDialog) : Option UInt32 :=
  if d.closed then some d.chosenButton else none

theorem lastClicked_lt (clicked : List Bool) {k i : Nat} (h : lastClicked clicked k = some i) :
    i < k := by
  induction k with
  | zero => cases h
  | succ k ih =>
    unfold lastClicked at h
    split at h
    · cases h; omega
    · exact Nat.lt_succ_of_lt (ih h)

theorem messageBoxAnswer_lt {count : Nat} {frames : List MessageBoxFrame} {i : Nat}
    (h : messageBoxAnswer count frames = some (some i)) : i < count := by
  induction frames with
  | nil => cases h
  | cons f frames ih =>
    simp only [messageBoxAnswer] at h
    split at h
    · rename_i ha
      cases h
      unfold messageBoxFrameAnswer at ha
      split at ha
      · cases ha
      · obtain ⟨j, hj, hji⟩ := Option.map_eq_some'.mp ha
        cases hji
        exact lastClicked_lt _ hj
    · exact ih h

namespace MessageBoxDialog

section Prompt

variable (codec : Utf8Codec)

-- With the first `k` labels well formed the button loop keeps the last button clicked among
-- them; otherwise it faults at the first label that is not.
theorem foldlM_pressButton (clicked : List Bool) (d : MessageBoxDialog) {k : Nat}
    (hk : k ≤ d.buttons.length) :
    (List.range k).foldlM (pressButton codec clicked) d =
      if (d.buttons.take k).all utf16Valid then
        some (match lastClicked clicked k with
          | some i => { d with chosenButton := UInt32.ofNat i, closed := true }
          | none => d)
      else none := by
  induction k with
  | zero => rfl
  | succ k ih =>
    have hk' : k < d.buttons.length := hk
    have hget : d.buttons.getD k [] = d.buttons[k] := by
      rw [List.getD_eq_getElem?_getD, List.getElem?_eq_getElem hk', Option.getD_some]
    have hlabel := codec.isSome_toString d.buttons[k]
    rw [List.range_succ, List.foldlM_append, ih (by omega), List.take_succ,
      List.getElem?_eq_getElem hk', Option.toList_some, List.all_append]
    cases hv : (d.buttons.take k).all utf16Valid
    · rfl
    · cases hl : lastClicked clicked k <;> cases hc : clicked.getD k false <;>
        cases hs : codec.toString d.buttons[k] <;> rw [hs] at hlabel <;>
        simp [pressButton, hget, hs, hl, hc, lastClicked, ← hlabel, -List.getD_eq_getElem?_getD]

theorem isSome_create (title description : List UInt16) (buttons : List (List UInt16))
    (defaultButton : UInt32) :
    (create codec title description buttons defaultButton).isSome =
      (utf16Valid title && utf16Valid description) := by
  rw [← codec.isSome_toString, ← codec.isSome_toString]
  simp only [create, Option.bind_eq_bind, Option.pure_def]
  cases codec.toString title <;> cases codec.toString description <;> rfl

-- A made dialog holds the buttons, chooses the default one, and is open.
theorem create_spec {title description : List UInt16} {buttons : List (List UInt16)}
    {defaultButton : UInt32} {d : MessageBoxDialog}
    (e : create codec title description buttons defaultButton = some d) :
    d.buttons = buttons ∧ d.chosenButton = defaultButton ∧ d.closed = false := by
  simp only [create, Option.bind_eq_bind, Option.pure_def, Option.bind_eq_some,
    Option.some.injEq] at e
  obtain ⟨_, -, _, -, rfl⟩ := e
  exact ⟨rfl, rfl, rfl⟩

theorem run_of_closed {d : MessageBoxDialog} (h : d.closed = true)
    (frames : List MessageBoxFrame) : run codec d frames = some d := by
  cases frames <;> simp [run, h]

-- One frame is one step of the prompt, or a fault when it draws a label that is not well
-- formed.
theorem onDraw_answer (d : MessageBoxDialog) (f : MessageBoxFrame) :
    onDraw codec d f =
      if f.popupOpen && !d.buttons.all utf16Valid then none
      else some (match messageBoxFrameAnswer d.buttons.length f with
        | some pick => { d with chosenButton := chosenOf d.chosenButton pick, closed := true }
        | none => d) := by
  unfold onDraw messageBoxFrameAnswer
  cases f.popupOpen
  · rfl
  · rw [foldlM_pressButton codec _ d le_rfl, List.take_length]
    cases d.buttons.all utf16Valid
    · rfl
    · cases lastClicked f.clicked d.buttons.length <;> rfl

-- Every run of frames is the message box prompt's, unless its first frame draws a label that
-- is not well formed.
theorem run_answer (frames : List MessageBoxFrame) {d : MessageBoxDialog}
    (hopen : d.closed = false) :
    (run codec d frames).map result =
      if d.buttons.all utf16Valid || !labelsDrawn frames then
        some ((messageBoxAnswer d.buttons.length frames).map (chosenOf d.chosenButton))
      else none := by
  induction frames with
  | nil => simp [run, result, hopen, messageBoxAnswer, labelsDrawn]
  | cons f frames ih =>
    simp only [run, hopen, Bool.false_eq_true, if_false, onDraw_answer, labelsDrawn,
      messageBoxAnswer, messageBoxFrameAnswer]
    cases hp : f.popupOpen
    · simp [run_of_closed, result, chosenOf]
    · cases hv : d.buttons.all utf16Valid
      · rfl
      · cases hl : lastClicked f.clicked d.buttons.length
        · simpa [hv] using ih
        · simp [run_of_closed, result, chosenOf]

end Prompt

end MessageBoxDialog

-- The exports, as the prompts see them.

section Exports

variable (codec : Utf8Codec)

-- The windowed keyboard export's spec: it faults where a text it converts is not well formed,
-- and otherwise stays pending until the prompt, started on the default's cut UTF-8, answers;
-- then it copies out the answer's text, or the default text when the answer has none.
theorem xamShowKeyboardUI_windowed_answer (frames : List Frame) (a : KeyboardUIArgs)
    (ho : a.overlapped = true) (hbl : 0 < a.bufferLength.toNat) :
    xamShowKeyboardUI codec false frames a =
      (codec.toString (a.title.getD [])).bind fun _ =>
        (codec.toString (a.description.getD [])).bind fun _ =>
          (codec.toString (a.defaultText.getD [])).bind fun defaultText_ =>
            match keyboardAnswer a.bufferLength.toNat (boxText a.bufferLength.toNat defaultText_)
                frames with
            | some answer => (promptText codec (a.defaultText.getD []) answer).map fun w =>
                ⟨X_ERROR_IO_PENDING, some X_ERROR_SUCCESS, [true, false], uiFn a.bufferLength w⟩
            | none => some ⟨X_ERROR_IO_PENDING, some X_ERROR_IO_PENDING, [true], []⟩ := by
  rw [xamShowKeyboardUI_windowed codec frames a ho, KeyboardInputDialog.create_eq codec _ _ _ hbl]
  cases codec.toString (a.title.getD []) <;> cases codec.toString (a.description.getD []) <;>
    cases codec.toString (a.defaultText.getD []) <;> try rfl
  rename_i defaultText_
  have hview : (fun d : KeyboardInputDialog => if d.closed = true then
      (⟨X_ERROR_IO_PENDING, some X_ERROR_SUCCESS, [true, false], uiFn a.bufferLength d.outText⟩ :
        KeyboardUIResult)
      else ⟨X_ERROR_IO_PENDING, some X_ERROR_IO_PENDING, [true], []⟩) =
      (fun v => match v with
        | some w => ⟨X_ERROR_IO_PENDING, some X_ERROR_SUCCESS, [true, false], uiFn a.bufferLength w⟩
        | none => ⟨X_ERROR_IO_PENDING, some X_ERROR_IO_PENDING, [true], []⟩) ∘
        KeyboardInputDialog.result := by
    funext d
    cases h : d.closed <;> simp [KeyboardInputDialog.result, h]
  simp only [Option.some_bind, Option.map_some', hview, ← Option.map_map]
  rw [@KeyboardInputDialog.run_answer codec _ _ frames
    ⟨_, _, _, resize (boxText a.bufferLength.toNat defaultText_) a.bufferLength.toNat, false⟩
    (boxText_fits defaultText_ hbl) rfl rfl]
  cases keyboardAnswer a.bufferLength.toNat (boxText a.bufferLength.toNat defaultText_) frames with
  | none => rfl
  | some answer => exact Option.map_map _ _ _

-- Headless mode is the keyboard dialog dismissed before Enter or OK exactly when the default
-- text fits the buffer: the dismissed dialog copies the default cut to the buffer, while
-- headless mode copies all of it.
theorem headlessKeyboard_eq_dismissed (frames : List Frame) (a : KeyboardUIArgs)
    (ho : a.overlapped = true) (hbl : 0 < a.bufferLength.toNat) {defaultText_ : List UInt8}
    (htitle : utf16Valid (a.title.getD []) = true)
    (hdescription : utf16Valid (a.description.getD []) = true)
    (hdefault : codec.toString (a.defaultText.getD []) = some defaultText_)
    (hdismiss : keyboardAnswer a.bufferLength.toNat (boxText a.bufferLength.toNat defaultText_)
      frames = some none) (frames0 : List Frame) :
    xamShowKeyboardUI codec true frames0 a = xamShowKeyboardUI codec false frames a ↔
      (a.defaultText.getD []).length ≤ a.bufferLength.toNat := by
  obtain ⟨title_, ht⟩ := Option.isSome_iff_exists.mp ((codec.isSome_toString _).trans htitle)
  obtain ⟨description_, hd⟩ :=
    Option.isSome_iff_exists.mp ((codec.isSome_toString _).trans hdescription)
  rw [xamShowKeyboardUI_windowed_answer codec frames a ho hbl, ht, hd, hdefault]
  simp only [Option.some_bind, hdismiss, promptText, Option.map_some', xamShowKeyboardUI, ho,
    Bool.not_true, Bool.false_eq_true, if_false, if_true, Option.some.injEq,
    KeyboardUIResult.mk.injEq, true_and, headlessStores_eq, uiFn, List.append_cancel_left_eq]
  constructor
  · intro hstores
    have hfit := (withinBuffer_storeUnits a.bufferLength.toNat _).mpr
      (List.length_take_le a.bufferLength.toNat (a.defaultText.getD []))
    rw [← hstores] at hfit
    exact (withinBuffer_storeUnits _ _).mp hfit
  · intro hfit
    rw [List.take_of_length_le hfit]

-- The windowed call faults exactly where a text does not convert: a title, description or
-- default text that is not UTF-16, or an answer's text that is not UTF-8, which can only be the
-- default's cut UTF-8 the box started with. It never reads or writes past its text buffer.
theorem xamShowKeyboardUI_windowed_none (frames : List Frame) (a : KeyboardUIArgs)
    (ho : a.overlapped = true) (hbl : 0 < a.bufferLength.toNat) :
    xamShowKeyboardUI codec false frames a = none ↔
      (utf16Valid (a.title.getD []) && utf16Valid (a.description.getD []) &&
          utf16Valid (a.defaultText.getD [])) = false ∨
        ∃ defaultText_, codec.toString (a.defaultText.getD []) = some defaultText_ ∧
          keyboardAnswer a.bufferLength.toNat (boxText a.bufferLength.toNat defaultText_) frames =
            some (some (boxText a.bufferLength.toNat defaultText_)) ∧
          utf8Valid (boxText a.bufferLength.toNat defaultText_) = false := by
  have htitle := codec.isSome_toString (a.title.getD [])
  have hdescription := codec.isSome_toString (a.description.getD [])
  have hdefault := codec.isSome_toString (a.defaultText.getD [])
  rw [xamShowKeyboardUI_windowed_answer codec frames a ho hbl]
  cases e1 : codec.toString (a.title.getD []) <;> rw [e1] at htitle
  · simp [← htitle]
  cases e2 : codec.toString (a.description.getD []) <;> rw [e2] at hdescription
  · simp [← htitle, ← hdescription]
  cases e3 : codec.toString (a.defaultText.getD []) <;> rw [e3] at hdefault
  · simp [← htitle, ← hdescription, ← hdefault]
  rename_i defaultText_
  simp only [Option.some_bind, ← htitle, ← hdescription, ← hdefault, Option.isSome_some,
    Bool.and_self, Bool.true_eq_false, false_or, Option.some.injEq, exists_eq_left']
  cases hk : keyboardAnswer a.bufferLength.toNat (boxText a.bufferLength.toNat defaultText_)
    frames with
  | none => simp
  | some answer =>
    simp only [Option.map_eq_none', promptText_eq_none, Option.some.injEq]
    constructor
    · rintro ⟨s, rfl, hs⟩
      rcases (keyboardAnswer_text frames (boxText_fits _ hbl) hk).2 with hbox | hv
      · exact ⟨congrArg some hbox, hbox ▸ hs⟩
      · rw [hv] at hs; cases hs
    · rintro ⟨rfl, hs⟩
      exact ⟨_, rfl, hs⟩

-- Once the windowed call returns, every store is inside the guest buffer, and once the
-- overlapped completes the buffer holds a NUL-terminated string unless it holds exactly the
-- default text's first `buffer_length` units.
theorem xamShowKeyboardUI_windowed_stores (frames : List Frame) (a : KeyboardUIArgs)
    (ho : a.overlapped = true) (hbl : 0 < a.bufferLength.toNat) {r : KeyboardUIResult}
    (h : xamShowKeyboardUI codec false frames a = some r) :
    r.status = X_ERROR_IO_PENDING ∧ WithinBuffer a.bufferLength.toNat r.stores ∧
      (r.overlappedResult = some X_ERROR_IO_PENDING ∧ r.stores = [] ∨
        r.overlappedResult = some X_ERROR_SUCCESS ∧
          (a.bufferLength.toNat < 2 ^ 31 → ∀ buf : List UInt16, buf.length = a.bufferLength.toNat →
            0 ∈ applyStores buf r.stores ∨
              applyStores buf r.stores = (a.defaultText.getD []).take a.bufferLength.toNat)) := by
  rw [xamShowKeyboardUI_windowed_answer codec frames a ho hbl] at h
  simp only [Option.bind_eq_some] at h
  obtain ⟨_, -, _, -, defaultText_, -, h⟩ := h
  cases hk : keyboardAnswer a.bufferLength.toNat (boxText a.bufferLength.toNat defaultText_)
    frames with
  | none =>
    rw [hk] at h
    cases h
    exact ⟨rfl, (fun st hst => by cases hst), Or.inl ⟨rfl, rfl⟩⟩
  | some answer =>
    rw [hk] at h
    obtain ⟨w, hw, rfl⟩ := Option.map_eq_some'.mp h
    refine ⟨rfl, withinBuffer_uiFn _ _, Or.inr ⟨rfl, fun hsmall buf hbuf => ?_⟩⟩
    rw [applyStores_uiFn _ hsmall buf w hbuf]
    rcases promptText_length codec _ frames (boxText_fits _ hbl) hk hw with rfl | hshort
    · by_cases hlt : (a.defaultText.getD []).length < a.bufferLength.toNat
      · exact Or.inl (zero_mem_take_append_replicate_of_lt hlt)
      · exact Or.inr (take_append_replicate_of_le (by omega))
    · exact Or.inl (zero_mem_take_append_replicate_of_lt hshort)

-- The windowed message box's spec: it faults where a text it converts is not well formed, and
-- otherwise stores a value, after both notifications, exactly when the prompt has answered:
-- the picked button's index or, with none picked, the active button.
theorem xamShowMessageBoxUI_windowed_answer (frames : List MessageBoxFrame) (a : MessageBoxArgs) :
    xamShowMessageBoxUI codec false frames a =
      if messageBoxTextsValid a frames then
        some (match messageBoxAnswer a.buttons.length frames with
          | some pick => ⟨if a.overlapped then X_ERROR_IO_PENDING else X_ERROR_SUCCESS,
              if a.overlapped then some X_ERROR_SUCCESS else none, [true, false],
              some (chosenOf a.activeButton pick)⟩
          | none => ⟨if a.overlapped then X_ERROR_IO_PENDING else X_ERROR_SUCCESS,
              if a.overlapped then some X_ERROR_IO_PENDING else none, [true], none⟩)
      else none := by
  have hcreate := MessageBoxDialog.isSome_create codec (a.title.getD []) a.text a.buttons
    a.activeButton
  simp only [xamShowMessageBoxUI, messageBoxTextsValid, Bool.not_false, if_true,
    Option.bind_eq_bind, Option.pure_def]
  cases e : MessageBoxDialog.create codec (a.title.getD []) a.text a.buttons a.activeButton with
  | none =>
    rw [e] at hcreate
    simp [← hcreate]
  | some d0 =>
    rw [e] at hcreate
    obtain ⟨hbuttons, hchosen, hopen⟩ := MessageBoxDialog.create_spec codec e
    have hrun := MessageBoxDialog.run_answer codec frames hopen
    rw [hbuttons, hchosen] at hrun
    simp only [Option.some_bind, ← hcreate, Option.isSome_some, Bool.true_and]
    cases o : MessageBoxDialog.run codec d0 frames with
    | none =>
      rw [o] at hrun
      split at hrun
      · cases hrun
      · rename_i hv; simp only [hv, if_false]; rfl
    | some d =>
      rw [o] at hrun
      split at hrun
      · rename_i hv
        simp only [MessageBoxDialog.result, Option.map_some', Option.some.injEq] at hrun
        rw [if_pos hv, Option.some_bind]
        cases hans : messageBoxAnswer a.buttons.length frames <;> rw [hans] at hrun <;>
          cases hd : d.closed <;> simp_all
      · cases hrun

-- The profile dialog is the keyboard prompt over an empty 15-byte box, for every run of
-- frames: the call returns exactly when the prompt answers, with the answer's text (empty when
-- the answer has none) cut to 15 units as the gamertag.
theorem xamShowCreateProfileUI_answer (frames : List Frame) :
    xamShowCreateProfileUI codec true frames =
      match keyboardAnswer 15 [] frames with
      | some answer => (promptText codec [] answer).map fun w =>
          some ⟨X_ERROR_SUCCESS, some (w.take 15), [true, false]⟩
      | none => some none := by
  obtain ⟨d0, e0, hbuf, hout, hopen⟩ : ∃ d0, KeyboardInputDialog.create codec
      ("Profile Creation".toList.map (·.toNat.toUInt16))
      ("Choose a gamertag".toList.map (·.toNat.toUInt16)) [] 15 = some d0 ∧
      d0.textBuffer = resize [] 15 ∧ d0.outText = [] ∧ d0.closed = false := by
    rw [KeyboardInputDialog.create_eq codec _ _ _ (by decide), codec.toString_ascii _ (by decide),
      codec.toString_ascii _ (by decide), codec.toString_ascii [] (by decide)]
    exact ⟨_, rfl, rfl, rfl, rfl⟩
  have hrun := KeyboardInputDialog.run_answer codec frames (boxFits_nil (by decide)) hbuf hopen
  rw [hout] at hrun
  simp only [xamShowCreateProfileUI, Bool.not_true, Bool.false_eq_true, if_false, e0,
    Option.bind_eq_bind, Option.some_bind, Option.pure_def]
  cases hk : keyboardAnswer 15 [] frames with
  | none =>
    rw [hk] at hrun
    obtain ⟨d, o, hd⟩ := Option.map_eq_some'.mp hrun
    rw [o, Option.some_bind]
    cases hc : d.closed <;> simp_all [KeyboardInputDialog.result]
  | some answer =>
    rw [hk] at hrun
    cases o : KeyboardInputDialog.run codec d0 frames <;> rw [o] at hrun <;>
      cases hp : promptText codec [] answer <;> simp_all [KeyboardInputDialog.result]

-- For a present user and every run of frames: the call never faults, it returns exactly when
-- the 15-byte keyboard dialog's first closing frame comes, and the gamertag is that frame's
-- answer cut to 15 units.
theorem createProfile_answer (frames : List Frame) :
    xamShowCreateProfileUI codec true frames =
        (match keyboardAnswer 15 [] frames with
        | some answer => (promptText codec [] answer).map fun w =>
            some ⟨X_ERROR_SUCCESS, some (w.take 15), [true, false]⟩
        | none => some none) ∧
      ∀ answer, keyboardAnswer 15 [] frames = some answer →
        (promptText codec [] answer).isSome = true :=
  ⟨xamShowCreateProfileUI_answer codec frames,
    fun _ e => promptText_isSome codec [] frames (boxFits_nil (by decide)) rfl e⟩

-- Whatever is typed, the gamertag has at most 14 units: the dialog's box holds 14 bytes, and
-- Cancel leaves the empty default. The call never faults.
theorem createProfile_gamertag (userPresent : Bool) (frames : List Frame) :
    ∃ r, xamShowCreateProfileUI codec userPresent frames = some r ∧
      ∀ res, r = some res → ∀ tag, res.gamertag = some tag → tag.length ≤ 14 := by
  cases userPresent with
  | false => exact ⟨_, rfl, fun res hres tag htag => by cases hres; cases htag⟩
  | true =>
    rw [xamShowCreateProfileUI_answer codec frames]
    cases e : keyboardAnswer 15 [] frames with
    | none => exact ⟨none, rfl, fun res hres => by cases hres⟩
    | some answer =>
      obtain ⟨w, hw⟩ := Option.isSome_iff_exists.mp
        (promptText_isSome codec [] frames (boxFits_nil (by decide)) rfl e)
      refine ⟨_, by dsimp only; rw [hw]; rfl, fun res hres tag htag => ?_⟩
      cases hres
      cases htag
      rw [List.length_take]
      rcases promptText_length codec [] frames (boxFits_nil (by decide)) e hw with rfl | h
      · simp
      · omega

end Exports

end XeniaXam.Ui
