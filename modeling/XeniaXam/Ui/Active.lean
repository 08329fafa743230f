import Mathlib.Algebra.Order.BigOperators.Group.List
import Mathlib.Algebra.Order.Group.Int
import XeniaXam.Ui.Dialogs

namespace XeniaXam.Ui

open XeniaXam.Kernel

-- `xam_dialogs_shown_`, `XamIsUIActive` and the XN_SYS_UI notifications, over calls of the
-- UI exports made from several guest threads at once. A call is the sequence of its actions on
-- what the other calls see, and a run interleaves the calls one action at a time: the counter is
-- a `std::atomic<int>`, and a notification is one `BroadcastNotification`.

inductive UiAction
  | notify (active : Bool)
  | increment
  | decrement
deriving DecidableEq, Repr

-- A call of a UI export, by what decides the actions it takes.
inductive UiCall
  | messageBox (headless : Bool)
  | keyboard (headless overlapped : Bool)
  | deviceSelector (valid : Bool)
  | dirtyDisc (headless : Bool)
  | createProfile (userPresent : Bool)
deriving DecidableEq, Repr

-- The actions in the source's order. A windowed dialog increments the counter before its
-- dialog is posted and decrements it once the dialog's fence is signalled. The dirty-disc error
-- broadcasts nothing, and exits the process once its dialog closes (headless, at once).
def UiCall.actions : UiCall → List UiAction
  | .messageBox headless =>
    if headless then [.notify true, .notify false]
    else [.notify true, .increment, .decrement, .notify false]
  | .keyboard headless overlapped =>
    if !overlapped then []
    else if headless then [.notify true, .notify false]
    else [.notify true, .increment, .decrement, .notify false]
  | .deviceSelector valid => if valid then [.notify true, .notify false] else []
  | .dirtyDisc headless => if headless then [] else [.increment, .decrement]
  | .createProfile userPresent =>
    if userPresent then [.notify true, .increment, .decrement, .notify false] else []

def UiCall.isDirtyDisc : UiCall → Bool
  | .dirtyDisc _ => true
  | _ => false

-- A call in progress, with the number of its actions done.
structure UiThread where
  call : UiCall
  pc : Nat
deriving DecidableEq, Repr

structure UiState where
  dialogsShown : Int
  notifications : List Bool
  threads : List UiThread
deriving DecidableEq, Repr

def xamIsUIActive (s : UiState) : UInt32 := if s.dialogsShown > 0 then 1 else 0

def UiAction.apply (s : UiState) : UiAction → UiState
  | .notify active => { s with notifications := s.notifications ++ [active] }
  | .increment => { s with dialogsShown := s.dialogsShown + 1 }
  | .decrement => { s with dialogsShown := s.dialogsShown - 1 }

-- Thread `i` takes its next action; a finished thread, or no thread `i`, does nothing.
def UiState.step (s : UiState) (i : Nat) : UiState :=
  match s.threads[i]? with
  | some t =>
    match t.call.actions[t.pc]? with
    | some a => { a.apply s with threads := s.threads.set i { t with pc := t.pc + 1 } }
    | none => s
  | none => s

-- A run: the threads step in the order `schedule` names them, any interleaving.
def UiState.run (s : UiState) (schedule : List Nat) : UiState := schedule.foldl UiState.step s

def UiState.start (calls : List UiCall) : UiState := ⟨0, [], calls.map fun c => ⟨c, 0⟩⟩

def UiAction.notification? : UiAction → Option Bool
  | .notify active => some active
  | _ => none

-- The XN_SYS_UI values a call broadcasts, in order.
def UiCall.notifications (c : UiCall) : List Bool := c.actions.filterMap UiAction.notification?

-- The calls' actions agree with the exports' models: a call that has completed has
-- broadcast what its model reports, XN_SYS_UI true then false, or nothing when refused.

section Exports

variable (codec : Utf8Codec)

theorem messageBox_notifications (headless : Bool) (frames : List MessageBoxFrame)
    (a : MessageBoxArgs) {r : MessageBoxResult}
    (h : xamShowMessageBoxUI codec headless frames a = some r) (hdone : r.result.isSome) :
    r.sysUi = (UiCall.messageBox headless).notifications := by
  unfold xamShowMessageBoxUI at h
  cases headless with
  | true => cases h; rfl
  | false =>
    simp only [Bool.not_false, if_true, Option.bind_eq_bind, Option.bind_eq_some, Option.pure_def,
      Option.some.injEq] at h
    obtain ⟨d0, -, d, -, rfl⟩ := h
    by_cases hc : d.closed = true
    · rw [if_pos hc]; rfl
    · rw [if_neg hc] at hdone; cases hdone

theorem keyboard_notifications (headless : Bool) (frames : List Frame) (a : KeyboardUIArgs)
    {r : KeyboardUIResult} (h : xamShowKeyboardUI codec headless frames a = some r)
    (hdone : r.overlappedResult ≠ some X_ERROR_IO_PENDING) :
    r.sysUi = (UiCall.keyboard headless a.overlapped).notifications := by
  unfold xamShowKeyboardUI at h
  cases ho : a.overlapped
  · rw [ho] at h; cases h; rfl
  · cases headless with
    | true => rw [ho] at h; cases h; rfl
    | false =>
      simp only [ho, Bool.not_true, Bool.false_eq_true, if_false, Option.bind_eq_bind,
        Option.bind_eq_some, Option.pure_def, Option.some.injEq] at h
      obtain ⟨d0, -, d, -, rfl⟩ := h
      by_cases hc : d.closed = true
      · rw [if_pos hc]; rfl
      · rw [if_neg hc] at hdone; exact absurd rfl hdone

theorem deviceSelector_notifications (a : DeviceSelectorArgs) :
    (xamShowDeviceSelectorUI a).sysUi = (UiCall.deviceSelector
      !((decide (a.userIndex > 3) && a.userIndex != 0xFF) || !a.deviceIdPtr || !a.overlapped)
      ).notifications := by
  unfold xamShowDeviceSelectorUI
  split <;> rename_i hv <;> simp only [hv] <;> rfl

theorem createProfile_notifications (userPresent : Bool) (frames : List Frame)
    {r : CreateProfileResult}
    (h : xamShowCreateProfileUI codec userPresent frames = some (some r)) :
    r.sysUi = (UiCall.createProfile userPresent).notifications := by
  unfold xamShowCreateProfileUI at h
  cases userPresent with
  | false => cases h; rfl
  | true =>
    simp only [Bool.not_true, Bool.false_eq_true, if_false, Option.bind_eq_bind,
      Option.bind_eq_some, Option.pure_def, Option.some.injEq] at h
    obtain ⟨d0, -, d, -, hr⟩ := h
    split at hr
    · cases hr; rfl
    · cases hr

end Exports

-- The accounting: what each action adds to the counter and to the balance of XN_SYS_UI
-- trues over falses, and what each thread's actions so far add up to.

def UiAction.shownDelta : UiAction → Int
  | .increment => 1
  | .decrement => -1
  | .notify _ => 0

def UiAction.activeDelta : UiAction → Int
  | .notify true => 1
  | .notify false => -1
  | _ => 0

def balance (notifications : List Bool) : Int :=
  (notifications.map fun active => if active then 1 else -1).sum

def UiThread.shown (t : UiThread) : Int :=
  ((t.call.actions.take t.pc).map UiAction.shownDelta).sum

def UiThread.active (t : UiThread) : Int :=
  ((t.call.actions.take t.pc).map UiAction.activeDelta).sum

-- The call is waiting for its dialog to close: its next action is the decrement.
def UiThread.waiting (t : UiThread) : Bool := t.call.actions[t.pc]? == some .decrement

-- The counter and the balance are the sums of the threads' contributions (no update is
-- lost), and no thread has run past its actions.
structure UiState.Accounted (s : UiState) : Prop where
  shown : s.dialogsShown = (s.threads.map UiThread.shown).sum
  active : balance s.notifications = (s.threads.map UiThread.active).sum
  pc_le : ∀ t ∈ s.threads, t.pc ≤ t.call.actions.length

@[simp] theorem apply_dialogsShown (s : UiState) (a : UiAction) :
    (a.apply s).dialogsShown = s.dialogsShown + a.shownDelta := by
  cases a <;> simp [UiAction.apply, UiAction.shownDelta, sub_eq_add_neg]

@[simp] theorem balance_apply (s : UiState) (a : UiAction) :
    balance (a.apply s).notifications = balance s.notifications + a.activeDelta := by
  cases a with
  | notify active => cases active <;> simp [UiAction.apply, UiAction.activeDelta, balance]
  | increment | decrement => simp [UiAction.apply, UiAction.activeDelta]

theorem take_succ_of_getElem? {l : List UiAction} {n : Nat} {a : UiAction}
    (h : l[n]? = some a) : l.take (n + 1) = l.take n ++ [a] := by
  rw [List.take_succ, h]
  rfl

theorem sum_map_set {α : Type} (f : α → Int) (l : List α) {i : Nat} (hi : i < l.length)
    (x : α) : ((l.set i x).map f).sum = (l.map f).sum - f l[i] + f x := by
  rw [List.map_set, List.sum_set', dif_pos (by simpa using hi), List.getElem_map]
  ring

-- One step keeps the accounting: the action moves the counter (or the balance) by what it
-- adds to its own thread.
theorem step_accounted {s : UiState} (h : s.Accounted) (i : Nat) : (s.step i).Accounted := by
  unfold UiState.step
  split
  · rename_i t ht
    split
    · rename_i a ha
      obtain ⟨hi, rfl⟩ := List.getElem?_eq_some_iff.mp ht
      have htake := take_succ_of_getElem? ha
      have hpc : s.threads[i].pc < s.threads[i].call.actions.length :=
        (List.getElem?_eq_some_iff.mp ha).1
      refine ⟨?_, ?_, fun t' ht' => ?_⟩
      · simp only [apply_dialogsShown, sum_map_set _ _ hi, UiThread.shown, htake,
          List.map_append, List.sum_append, List.map_cons, List.map_nil, List.sum_cons,
          List.sum_nil, h.shown]
        ring
      · simp only [balance_apply, sum_map_set _ _ hi, UiThread.active, htake,
          List.map_append, List.sum_append, List.map_cons, List.map_nil, List.sum_cons,
          List.sum_nil, h.active]
        ring
      · rcases List.mem_or_eq_of_mem_set ht' with ht' | rfl
        · exact h.pc_le t' ht'
        · exact hpc
    · exact h
  · exact h

theorem run_accounted {s : UiState} (h : s.Accounted) (schedule : List Nat) :
    (s.run schedule).Accounted := by
  induction schedule generalizing s with
  | nil => exact h
  | cons i schedule ih => exact ih (step_accounted h i)

@[simp] theorem shown_mk_zero (c : UiCall) : (UiThread.mk c 0).shown = 0 := rfl

@[simp] theorem active_mk_zero (c : UiCall) : (UiThread.mk c 0).active = 0 := rfl

theorem start_accounted (calls : List UiCall) : (UiState.start calls).Accounted := by
  refine ⟨?_, ?_, fun t ht => ?_⟩
  · simp [UiState.start, Function.comp_def]
  · simp [UiState.start, Function.comp_def, balance]
  · obtain ⟨c, -, rfl⟩ := List.mem_map.mp ht
    exact Nat.zero_le _

-- What each call's actions add up to, at every point of it: a finite check over the calls.

def UiCall.all : List UiCall :=
  [true, false].flatMap fun b =>
    [.messageBox b, .keyboard b true, .keyboard b false, .deviceSelector b, .dirtyDisc b,
      .createProfile b]

theorem UiCall.mem_all (c : UiCall) : c ∈ UiCall.all := by
  cases c with
  | keyboard headless overlapped => cases headless <;> cases overlapped <;> decide
  | _ => simp [UiCall.all]

-- A waiting call adds one to the counter and any other nothing; a call other than the
-- dirty-disc error adds at least as much to the balance, which the dirty-disc error never
-- moves; and a finished call adds nothing.
@[mk_iff] structure UiThread.Contributes (t : UiThread) : Prop where
  shown_eq : t.shown = if t.waiting then 1 else 0
  active_nonneg : 0 ≤ t.active
  shown_le_active : t.call.isDirtyDisc = false → t.shown ≤ t.active
  dirtyDisc_active : t.call.isDirtyDisc = true → t.active = 0
  finished_active : t.pc = t.call.actions.length → t.active = 0

instance (t : UiThread) : Decidable t.Contributes :=
  decidable_of_iff _ (UiThread.contributes_iff t).symm

theorem UiThread.Contributes.shown_of_waiting {t : UiThread} (h : t.Contributes)
    (hw : t.waiting = true) : t.shown = 1 := by
  rw [h.shown_eq, if_pos hw]

theorem UiThread.Contributes.shown_of_not_waiting {t : UiThread} (h : t.Contributes)
    (hw : t.waiting = false) : t.shown = 0 := by
  rw [h.shown_eq, hw]
  rfl

theorem UiThread.Contributes.shown_nonneg {t : UiThread} (h : t.Contributes) : 0 ≤ t.shown := by
  rw [h.shown_eq]
  split <;> omega

theorem contributes_all :
    ∀ c ∈ UiCall.all, ∀ pc ≤ c.actions.length, (UiThread.mk c pc).Contributes := by
  decide

theorem UiThread.contributes (t : UiThread) (h : t.pc ≤ t.call.actions.length) :
    t.Contributes :=
  contributes_all t.call (UiCall.mem_all _) t.pc h

theorem sum_map_eq_zero {f : UiThread → Int} {l : List UiThread} (h : ∀ t ∈ l, f t = 0) :
    (l.map f).sum = 0 :=
  List.sum_eq_zero (List.forall_mem_map.mpr h)

theorem le_sum_map {f : UiThread → Int} {l : List UiThread} (h : ∀ t ∈ l, 0 ≤ f t)
    {t : UiThread} (ht : t ∈ l) : f t ≤ (l.map f).sum :=
  List.single_le_sum (List.forall_mem_map.mpr h) _ (List.mem_map_of_mem f ht)

-- Over every interleaving of every set of UI calls: `XamIsUIActive` reports 1 exactly while some
-- call waits for its dialog to close; while one other than the dirty-disc error waits, more
-- XN_SYS_UI trues than falses have been broadcast; and once every call has finished, the
-- counter is back at 0 and the notifications balance.
theorem uiActive_runs (calls : List UiCall) (schedule : List Nat) :
    (xamIsUIActive ((UiState.start calls).run schedule) = 1 ↔
        ∃ t ∈ ((UiState.start calls).run schedule).threads, t.waiting = true) ∧
      (∀ t ∈ ((UiState.start calls).run schedule).threads, t.waiting = true →
        t.call.isDirtyDisc = false →
          0 < balance ((UiState.start calls).run schedule).notifications) ∧
      ((∀ t ∈ ((UiState.start calls).run schedule).threads, t.pc = t.call.actions.length) →
        ((UiState.start calls).run schedule).dialogsShown = 0 ∧
          balance ((UiState.start calls).run schedule).notifications = 0) := by
  generalize hs : (UiState.start calls).run schedule = s
  have hacc : s.Accounted := hs ▸ run_accounted (start_accounted calls) schedule
  have hc : ∀ t ∈ s.threads, t.Contributes := fun t ht => t.contributes (hacc.pc_le t ht)
  refine ⟨?_, fun t ht hw hd => ?_, fun hdone => ?_⟩
  · -- the counter is the number of waiting calls
    rw [xamIsUIActive, hacc.shown]
    constructor
    · intro h
      by_contra hno
      push_neg at hno
      have hzero : ∀ t ∈ s.threads, t.shown = 0 := fun t ht =>
        (hc t ht).shown_of_not_waiting (by simpa using hno t ht)
      rw [sum_map_eq_zero hzero] at h
      exact absurd h (by decide)
    · rintro ⟨t, ht, hw⟩
      have hle := le_sum_map (fun t ht => (hc t ht).shown_nonneg) ht
      rw [(hc t ht).shown_of_waiting hw] at hle
      rw [if_pos (by omega)]
  · have hle := (hc t ht).shown_le_active hd
    rw [(hc t ht).shown_of_waiting hw] at hle
    calc 0 < t.active := by omega
      _ ≤ (s.threads.map UiThread.active).sum :=
        le_sum_map (fun t ht => (hc t ht).active_nonneg) ht
      _ = balance s.notifications := hacc.active.symm
  · have hactive : ∀ t ∈ s.threads, t.active = 0 := fun t ht =>
      (hc t ht).finished_active (hdone t ht)
    have hshown : ∀ t ∈ s.threads, t.shown = 0 := fun t ht =>
      (hc t ht).shown_of_not_waiting (by simp [UiThread.waiting, hdone t ht])
    exact ⟨hacc.shown.trans (sum_map_eq_zero hshown),
      hacc.active.trans (sum_map_eq_zero hactive)⟩

end XeniaXam.Ui
