import Mathlib.Data.List.Nodup
import Mathlib.Logic.Function.Basic
import CommitmentOptimizer.Foundations.Schedules

/-!
# The DuckDB session manager

`createDuckdbAnalyticsManager` and `createSession` of `duckdbAnalytics.ts`. A call runs up to
its first `await`; what follows an `await` is a step of its own, taken when the awaited
operation has succeeded or failed.
-/

namespace CommitmentOptimizer.Shared.DuckdbSessions

open Foundations.Schedules

set_option autoImplicit false

/-- A call of `openSession` and, from `opened` on, the session it returned. -/
inductive OpenCall where
  | absent
  | makingRoot
  | makingWorkspace
  | makingEngine
  /-- The engine has failed; the workspace is being removed. -/
  | removing
  | rejected (workspaceLeft : Bool)
  | opened
  | closingEngine
  | cleaning (failed : Bool)
  | closed (failed workspaceLeft : Bool)
  deriving DecidableEq, Repr

/-- A call of the manager's `close` and the sessions whose promises it awaits. -/
inductive CloseCall where
  | absent
  | waiting (sessions : List Nat)
  | settled
  deriving DecidableEq, Repr

/-- A session is told by the call that opened it; `engineCloses` logs the calls of
`engine.close()`. -/
structure DuckdbManager where
  calls : Nat → OpenCall
  sessions : List Nat
  closed : Bool
  closes : Nat → CloseCall
  engineCloses : List Nat

def createDuckdbAnalyticsManager : DuckdbManager where
  calls _ := .absent
  sessions := []
  closed := false
  closes _ := .absent
  engineCloses := []

namespace OpenCall

def engineCreated : OpenCall → Bool
  | opened | closingEngine | cleaning _ | closed .. => true
  | _ => false

/-- `engine.close()` has settled. -/
def engineClosed : OpenCall → Bool
  | cleaning _ | closed .. => true
  | _ => false

def hasWorkspace : OpenCall → Bool
  | makingEngine | removing | opened | closingEngine | cleaning _ => true
  | rejected left | closed _ left => left
  | _ => false

def removalFailed : OpenCall → Bool
  | rejected left | closed _ left => left
  | _ => false

/-- The session is one of the manager's set. -/
def registered : OpenCall → Bool
  | opened | closingEngine | cleaning _ => true
  | _ => false

/-- `engine.close()` has been called. -/
def closeBegun : OpenCall → Bool
  | closingEngine | cleaning _ | closed .. => true
  | _ => false

/-- The session's `close` has begun and not settled. -/
def beingClosed : OpenCall → Bool
  | closingEngine | cleaning _ => true
  | _ => false

/-- The call has made a directory and not returned. -/
def holdsWorkspace : OpenCall → Bool
  | makingEngine | removing => true
  | _ => false

end OpenCall

section Steps

def DuckdbManager.setCall (manager : DuckdbManager) (call : Nat) (status : OpenCall) :
    DuckdbManager :=
  { manager with calls := Function.update manager.calls call status }

/-- `close` of a session up to its first `await`; a second call returns at once. -/
def closeSession (manager : DuckdbManager) (session : Nat) : DuckdbManager :=
  match manager.calls session with
  | .opened =>
      { manager.setCall session .closingEngine with
        engineCloses := manager.engineCloses ++ [session] }
  | _ => manager

/-- `close` of the manager up to its `await`. -/
def closeManager (manager : DuckdbManager) (close : Nat) : DuckdbManager :=
  if manager.closed then
    { manager with closes := Function.update manager.closes close (.waiting []) }
  else
    { manager.sessions.foldl closeSession { manager with closed := true } with
      closes := Function.update manager.closes close
        (.waiting (manager.sessions.filter fun session => manager.calls session = .opened)) }

/-- `settle…` is the end of an awaited operation, which may have succeeded or not. -/
inductive Action where
  | openSession (call : Nat)
  | settleRoot (call : Nat) (succeeded : Bool)
  | settleWorkspace (call : Nat) (succeeded : Bool)
  | settleEngine (call : Nat) (succeeded : Bool)
  | settleRemoval (call : Nat) (succeeded : Bool)
  | closeSession (session : Nat)
  | settleEngineClose (session : Nat) (succeeded : Bool)
  | settleCleanup (session : Nat) (succeeded : Bool)
  | closeManager (close : Nat)
  | settleManager (close : Nat)
  deriving DecidableEq

/-- `Promise.all` fulfills with all its promises, and rejects with the first that does. -/
def promiseAllSettles (calls : Nat → OpenCall) (sessions : List Nat) : Bool :=
  (sessions.all fun session => match calls session with
    | .closed .. => true
    | _ => false) ||
  sessions.any fun session => match calls session with
    | .closed true _ => true
    | _ => false

def step (manager : DuckdbManager) : Action → Option DuckdbManager
  | .openSession call =>
      match manager.calls call with
      | .absent =>
          some (manager.setCall call (if manager.closed then .rejected false else .makingRoot))
      | _ => none
  | .settleRoot call succeeded =>
      match manager.calls call with
      | .makingRoot =>
          some (manager.setCall call (if succeeded then .makingWorkspace else .rejected false))
      | _ => none
  | .settleWorkspace call succeeded =>
      match manager.calls call with
      | .makingWorkspace =>
          some (manager.setCall call (if succeeded then .makingEngine else .rejected false))
      | _ => none
  | .settleEngine call succeeded =>
      match manager.calls call with
      | .makingEngine =>
          if succeeded then
            some { manager.setCall call .opened with sessions := manager.sessions ++ [call] }
          else some (manager.setCall call .removing)
      | _ => none
  | .settleRemoval call succeeded =>
      match manager.calls call with
      | .removing => some (manager.setCall call (.rejected !succeeded))
      | _ => none
  | .closeSession session =>
      if (manager.calls session).engineCreated then some (closeSession manager session) else none
  | .settleEngineClose session succeeded =>
      match manager.calls session with
      | .closingEngine => some (manager.setCall session (.cleaning !succeeded))
      | _ => none
  | .settleCleanup session succeeded =>
      match manager.calls session with
      | .cleaning failed =>
          some { manager.setCall session (.closed (failed || !succeeded) !succeeded) with
            sessions := manager.sessions.erase session }
      | _ => none
  | .closeManager close =>
      match manager.closes close with
      | .absent => some (closeManager manager close)
      | _ => none
  | .settleManager close =>
      match manager.closes close with
      | .waiting sessions =>
          if promiseAllSettles manager.calls sessions then
            some { manager with closes := Function.update manager.closes close .settled }
          else none
      | _ => none

end Steps

section Purpose

/-- What is promised of the manager in every state. -/
structure NoLeak (manager : DuckdbManager) : Prop where
  closedOnce : manager.engineCloses.Nodup
  failedClean : ∀ call left, manager.calls call = .rejected left → left = false
  settledClean : ∀ close, manager.closes close = .settled → ∀ call,
    ((manager.calls call).engineCreated = true → (manager.calls call).engineClosed = true) ∧
    ((manager.calls call).hasWorkspace = true → (manager.calls call).removalFailed = true) ∧
    manager.calls call ≠ .opened

/-- The close of the session fails when its workspace has been removed or not. -/
def failsWith (status : OpenCall) (succeeded : Bool) : Bool :=
  match status with
  | .cleaning failed => failed || !succeeded
  | _ => false

/-- The manager is closed when no session is being opened or closed, no call of `openSession`
gets a workspace after that, the workspace of a failed call is removed, and of the sessions
that a `close` awaits only the last to be closed fails. -/
def Orderly (manager : DuckdbManager) : Action → Prop
  | .settleWorkspace _ succeeded => succeeded = true → manager.closed = false
  | .settleRemoval _ succeeded => succeeded = true
  | .settleCleanup session succeeded =>
      failsWith (manager.calls session) succeeded = true → ∀ close sessions,
        manager.closes close = .waiting sessions → session ∈ sessions →
          ∀ other ∈ sessions, other ≠ session → (manager.calls other).beingClosed = false
  | .closeManager _ => ∀ call, (manager.calls call).holdsWorkspace = false ∧
      (manager.calls call).beingClosed = false
  | _ => True

end Purpose

section Sessions

/-- The set of sessions and the log of closed engines agree with what each call has done. -/
structure Core (calls : Nat → OpenCall) (sessions engineCloses : List Nat) : Prop where
  registered : ∀ call, call ∈ sessions ↔ (calls call).registered = true
  sessionsOnce : sessions.Nodup
  begun : ∀ call, call ∈ engineCloses ↔ (calls call).closeBegun = true
  once : engineCloses.Nodup

variable {calls : Nat → OpenCall} {sessions engineCloses : List Nat}

/-- A status read by a flag that the change at one call does not touch. -/
theorem update_flag {flag : OpenCall → Bool} {call : Nat} {status : OpenCall}
    (same : flag status = flag (calls call)) (other : Nat) :
    flag (Function.update calls call status other) = flag (calls other) := by
  by_cases here : other = call
  · rw [here, Function.update_self, same]
  · rw [Function.update_of_ne here]

/-- One more call has the flag, and one more list entry. -/
theorem append_flag {flag : OpenCall → Bool} {call : Nat} {status : OpenCall} {list : List Nat}
    (before : ∀ other, other ∈ list ↔ flag (calls other) = true) (raised : flag status = true)
    (other : Nat) :
    other ∈ list ++ [call] ↔ flag (Function.update calls call status other) = true := by
  rw [List.mem_append, List.mem_singleton]
  by_cases here : other = call
  · rw [here, Function.update_self]
    exact iff_of_true (Or.inr rfl) raised
  · rw [Function.update_of_ne here, ← before other]
    exact or_iff_left here

theorem append_nodup {list : List Nat} {call : Nat} (distinct : list.Nodup) (fresh : call ∉ list) :
    (list ++ [call]).Nodup :=
  List.nodup_append.mpr ⟨distinct, List.nodup_singleton call, fun _ member _ last =>
    fun same => fresh (List.mem_singleton.mp last ▸ same ▸ member)⟩

/-- A change of status that neither enters nor leaves the set, nor closes an engine. -/
theorem core_call (core : Core calls sessions engineCloses) {call : Nat} {status : OpenCall}
    (registered : status.registered = (calls call).registered)
    (begun : status.closeBegun = (calls call).closeBegun) :
    Core (Function.update calls call status) sessions engineCloses where
  registered other := by rw [update_flag registered, core.registered]
  sessionsOnce := core.sessionsOnce
  begun other := by rw [update_flag begun, core.begun]
  once := core.once

theorem core_opened (core : Core calls sessions engineCloses) {call : Nat}
    (making : calls call = .makingEngine) :
    Core (Function.update calls call .opened) (sessions ++ [call]) engineCloses where
  registered := append_flag core.registered rfl
  sessionsOnce := append_nodup core.sessionsOnce (by
    rw [core.registered, making]
    exact Bool.false_ne_true)
  begun other := by
    rw [@update_flag calls OpenCall.closeBegun call _ (by rw [making]; rfl), core.begun]
  once := core.once

theorem core_closed (core : Core calls sessions engineCloses) {call : Nat} {failed : Bool}
    (cleaning : calls call = .cleaning failed) (later left : Bool) :
    Core (Function.update calls call (.closed later left)) (sessions.erase call) engineCloses where
  registered other := by
    rw [core.sessionsOnce.mem_erase_iff]
    by_cases here : other = call
    · rw [here, Function.update_self]
      exact iff_of_false (fun both => both.1 rfl) Bool.false_ne_true
    · rw [Function.update_of_ne here, ← core.registered other]
      exact and_iff_right here
  sessionsOnce := core.sessionsOnce.erase call
  begun other := by
    rw [@update_flag calls OpenCall.closeBegun call _ (by rw [cleaning]; rfl), core.begun]
  once := core.once

theorem core_closing (core : Core calls sessions engineCloses) {call : Nat}
    (opened : calls call = .opened) :
    Core (Function.update calls call .closingEngine) sessions (engineCloses ++ [call]) where
  registered other := by
    rw [@update_flag calls OpenCall.registered call _ (by rw [opened]; rfl), core.registered]
  sessionsOnce := core.sessionsOnce
  begun := append_flag core.begun rfl
  once := append_nodup core.once (by
    rw [core.begun, opened]
    exact Bool.false_ne_true)

end Sessions

section Closing

variable {manager : DuckdbManager}

abbrev DuckdbManager.Sound (manager : DuckdbManager) : Prop :=
  Core manager.calls manager.sessions manager.engineCloses

theorem close_session_of_opened {session : Nat} (opened : manager.calls session = .opened) :
    closeSession manager session = { manager.setCall session .closingEngine with
      engineCloses := manager.engineCloses ++ [session] } := by
  rw [closeSession, opened]

theorem close_session_of_other {session : Nat} (other : manager.calls session ≠ .opened) :
    closeSession manager session = manager := by
  unfold closeSession
  split
  case h_1 opened => exact absurd opened other
  case h_2 => rfl

theorem sound_close_session (sound : manager.Sound) (session : Nat) :
    (closeSession manager session).Sound := by
  by_cases opened : manager.calls session = .opened
  · rw [close_session_of_opened opened]
    exact core_closing sound opened
  · rw [close_session_of_other opened]
    exact sound

theorem close_session_calls (session call : Nat) :
    (closeSession manager session).calls call =
      if call = session ∧ manager.calls call = .opened then .closingEngine
      else manager.calls call := by
  by_cases opened : manager.calls session = .opened
  · rw [close_session_of_opened opened]
    by_cases same : call = session
    · rw [if_pos ⟨same, same ▸ opened⟩, same]
      exact Function.update_self ..
    · rw [if_neg fun both => same both.1]
      exact Function.update_of_ne same ..
  · rw [close_session_of_other opened, if_neg]
    rintro ⟨rfl, inside⟩
    exact opened inside

/-- What closing several sessions makes of each call. -/
theorem close_sessions_calls (sessions : List Nat) (call : Nat) :
    (sessions.foldl closeSession manager).calls call =
      if call ∈ sessions ∧ manager.calls call = .opened then .closingEngine
      else manager.calls call := by
  induction sessions generalizing manager with
  | nil => exact (if_neg fun both => absurd both.1 List.not_mem_nil).symm
  | cons session rest induction =>
      rw [List.foldl_cons, induction, close_session_calls]
      by_cases same : call = session
      · by_cases opened : manager.calls call = .opened
        · simp [same, same ▸ opened]
        · simp [opened]
      · simp [same]

theorem sound_close_sessions (sound : manager.Sound) (sessions : List Nat) :
    (sessions.foldl closeSession manager).Sound := by
  induction sessions generalizing manager with
  | nil => exact sound
  | cons session rest induction => exact induction (sound_close_session sound session)

/-- Closing sessions leaves what is not a session alone. -/
theorem close_sessions_frame (sessions : List Nat) :
    (sessions.foldl closeSession manager).closed = manager.closed ∧
      (sessions.foldl closeSession manager).closes = manager.closes := by
  induction sessions generalizing manager with
  | nil => exact ⟨rfl, rfl⟩
  | cons session rest induction =>
      obtain ⟨closed, closes⟩ := @induction (closeSession manager session)
      rw [List.foldl_cons, closed, closes]
      by_cases opened : manager.calls session = .opened
      · rw [close_session_of_opened opened]
        exact ⟨rfl, rfl⟩
      · rw [close_session_of_other opened]
        exact ⟨rfl, rfl⟩

end Closing

section Invariants

/-- What holds in an orderly run. -/
structure Tidy (manager : DuckdbManager) : Prop where
  sound : manager.Sound
  rejected : ∀ call, manager.calls call ≠ .rejected true
  unclosed : manager.closed = false → ∀ close, manager.closes close = .absent
  shut : manager.closed = true → ∀ call, (manager.calls call).holdsWorkspace = false ∧
    manager.calls call ≠ .opened
  awaited : ∀ close sessions, manager.closes close = .waiting sessions → ∀ call,
    (manager.calls call).beingClosed = true → call ∈ sessions
  done : ∀ close, manager.closes close = .settled → ∀ call,
    (manager.calls call).beingClosed = false
  failed : ∀ close sessions, manager.closes close = .waiting sessions → ∀ call ∈ sessions,
    ∀ left, manager.calls call = .closed true left → ∀ other ∈ sessions,
      (manager.calls other).beingClosed = false

variable {manager : DuckdbManager}

theorem tidy_create : Tidy createDuckdbAnalyticsManager where
  sound := ⟨fun _ => by simp [createDuckdbAnalyticsManager, OpenCall.registered], List.nodup_nil,
    fun _ => by simp [createDuckdbAnalyticsManager, OpenCall.closeBegun], List.nodup_nil⟩
  rejected := nofun
  unclosed _ _ := rfl
  shut := nofun
  awaited := nofun
  done := nofun
  failed := nofun

/-- What a change of one call must keep to; `sound` is left to the caller. -/
structure KeepsTidy (manager : DuckdbManager) (call : Nat) (status : OpenCall) : Prop where
  rejected : status ≠ .rejected true
  shut : manager.closed = true → status.holdsWorkspace = false ∧ status ≠ .opened
  closing : status.beingClosed = true →
    (manager.calls call).beingClosed = true ∨ manager.closed = false
  last : ∀ left, status = .closed true left → ∀ close sessions,
    manager.closes close = .waiting sessions → call ∈ sessions →
      ∀ other ∈ sessions, other ≠ call → (manager.calls other).beingClosed = false

/-- A close has been called only once the manager is closed. -/
theorem closed_of_called (tidy : Tidy manager) {close : Nat} (called : manager.closes close ≠ .absent) :
    manager.closed = true := by
  by_contra unclosed
  exact called (tidy.unclosed (Bool.eq_false_iff.mpr unclosed) close)

theorem tidy_call (tidy : Tidy manager) {call : Nat} {status : OpenCall}
    (keeps : KeepsTidy manager call status) {sessions engineCloses : List Nat}
    (sound : Core (Function.update manager.calls call status) sessions engineCloses) :
    Tidy { manager.setCall call status with
      sessions := sessions, engineCloses := engineCloses } := by
  have being {other : Nat} (closed : manager.closed = true)
      (closing : (Function.update manager.calls call status other).beingClosed = true) :
      (manager.calls other).beingClosed = true := by
    by_cases here : other = call
    · rw [here, Function.update_self] at closing
      rw [here]
      exact (keeps.closing closing).resolve_right (by rw [closed]; nofun)
    · rwa [Function.update_of_ne here] at closing
  have called {close : Nat} {inside : List Nat} (waiting : manager.closes close = .waiting inside) :
      manager.closed = true := closed_of_called tidy (by rw [waiting]; nofun)
  refine ⟨sound, ?_, tidy.unclosed, ?_, ?_, ?_, ?_⟩
  · intro other
    by_cases here : other = call
    · rw [here]
      exact fun same => keeps.rejected ((Function.update_self ..).symm.trans same)
    · exact fun same => tidy.rejected other ((Function.update_of_ne here ..).symm.trans same)
  · intro closed other
    by_cases here : other = call
    · rw [here]
      dsimp only [DuckdbManager.setCall]
      rw [Function.update_self]
      exact keeps.shut closed
    · dsimp only [DuckdbManager.setCall]
      rw [Function.update_of_ne here]
      exact tidy.shut closed other
  · exact fun close inside waiting other closing =>
      tidy.awaited close inside waiting other (being (called waiting) closing)
  · intro close settled other
    by_contra closing
    have ended : manager.closes close = .settled := settled
    have closed := closed_of_called tidy (show manager.closes close ≠ .absent by rw [ended]; nofun)
    have before := being closed (Bool.not_eq_false _ ▸ closing)
    rw [tidy.done close ended other] at before
    cases before
  · intro close inside waiting first member left failed other otherMember
    by_contra closing
    have before := being (called waiting) (Bool.not_eq_false _ ▸ closing)
    dsimp only [DuckdbManager.setCall] at failed closing
    by_cases here : first = call
    · rw [here, Function.update_self] at failed
      by_cases same : other = call
      · rw [same, Function.update_self, failed] at closing
        exact closing rfl
      · rw [keeps.last left failed close inside waiting (here ▸ member) other otherMember same]
          at before
        cases before
    · rw [Function.update_of_ne here] at failed
      rw [tidy.failed close inside waiting first member left failed other otherMember] at before
      cases before

/-- A change that keeps the set of sessions and the log. -/
theorem tidy_set_call (tidy : Tidy manager) {call : Nat} {status : OpenCall}
    (keeps : KeepsTidy manager call status)
    (registered : status.registered = (manager.calls call).registered)
    (begun : status.closeBegun = (manager.calls call).closeBegun) :
    Tidy (manager.setCall call status) :=
  tidy_call tidy keeps (core_call tidy.sound registered begun)

theorem closing_begun {status : OpenCall} (closing : status.beingClosed = true) :
    status.closeBegun = true := by
  cases status <;> trivial

/-- A call that has not made its engine goes on. -/
theorem keeps_pending {call : Nat} {status : OpenCall} (rejected : status ≠ .rejected true)
    (shut : manager.closed = true → status.holdsWorkspace = false ∧ status ≠ .opened)
    (pending : status.closeBegun = false) : KeepsTidy manager call status := by
  refine ⟨rejected, shut, fun closing => ?_, ?_⟩
  · rw [closing_begun closing] at pending
    cases pending
  · rintro left rfl
    cases pending

theorem tidy_close_session (tidy : Tidy manager) (session : Nat) :
    Tidy (closeSession manager session) := by
  by_cases opened : manager.calls session = .opened
  · rw [close_session_of_opened opened]
    have running : manager.closed = false := by
      by_contra closed
      exact (tidy.shut (Bool.not_eq_false _ ▸ closed) session).2 opened
    have keeps : KeepsTidy manager session .closingEngine :=
      ⟨nofun, fun _ => ⟨rfl, nofun⟩, fun _ => Or.inr running, nofun⟩
    exact tidy_call tidy keeps (core_closing tidy.sound opened)
  · rw [close_session_of_other opened]
    exact tidy

theorem tidy_close_manager (tidy : Tidy manager) {close : Nat}
    (idle : ∀ call, (manager.calls call).holdsWorkspace = false ∧
      (manager.calls call).beingClosed = false) : Tidy (closeManager manager close) := by
  unfold closeManager
  split_ifs with closed
  · refine ⟨tidy.sound, tidy.rejected, ?_, tidy.shut, ?_, ?_, ?_⟩
    · intro running
      rw [closed] at running
      cases running
    · intro other inside _ call closing
      rw [(idle call).2] at closing
      cases closing
    · exact fun _ _ call => (idle call).2
    · exact fun _ _ _ _ _ _ _ other _ => (idle other).2
  · have running : manager.closed = false := Bool.eq_false_iff.mpr closed
    have absent := tidy.unclosed running
    have sound := @sound_close_sessions { manager with closed := true } tidy.sound
      manager.sessions
    obtain ⟨closedNow, _⟩ := @close_sessions_frame { manager with closed := true } manager.sessions
    have status (call : Nat) := @close_sessions_calls { manager with closed := true }
      manager.sessions call
    have opened {call : Nat} (isOpen : manager.calls call = .opened) : call ∈ manager.sessions := by
      rw [tidy.sound.registered, isOpen]
      rfl
    have being {call : Nat} (closing : ((manager.sessions.foldl closeSession
        { manager with closed := true }).calls call).beingClosed = true) :
        call ∈ manager.sessions ∧ manager.calls call = .opened := by
      rw [status] at closing
      by_contra other
      rw [if_neg other, (idle call).2] at closing
      cases closing
    have waits {other : Nat} {inside : List Nat}
        (waiting : Function.update manager.closes close (.waiting (manager.sessions.filter
          fun session => manager.calls session = .opened)) other = .waiting inside) :
        inside = manager.sessions.filter fun session => manager.calls session = .opened := by
      by_cases here : other = close
      · rw [here, Function.update_self] at waiting
        exact (CloseCall.waiting.inj waiting).symm
      · rw [Function.update_of_ne here, absent] at waiting
        cases waiting
    refine ⟨sound, ?_, ?_, ?_, ?_, ?_, ?_⟩
    · intro call same
      have same := (status call).symm.trans same
      split_ifs at same
      exact tidy.rejected call same
    · intro running
      rw [closedNow] at running
      cases running
    · intro _ call
      dsimp only
      rw [status]
      split_ifs with both
      · exact ⟨rfl, nofun⟩
      · exact ⟨(idle call).1, fun isOpen => both ⟨opened isOpen, isOpen⟩⟩
    · intro other inside waiting call closing
      obtain ⟨member, isOpen⟩ := being closing
      rw [waits waiting]
      exact List.mem_filter.mpr ⟨member, decide_eq_true isOpen⟩
    · intro other settled
      have settled : Function.update manager.closes close (.waiting (manager.sessions.filter
        fun session => manager.calls session = .opened)) other = .settled := settled
      by_cases here : other = close
      · rw [here, Function.update_self] at settled
        cases settled
      · rw [Function.update_of_ne here, absent] at settled
        cases settled
    · intro other inside waiting call member left failed
      rw [waits waiting] at member
      have isOpen := of_decide_eq_true (List.mem_filter.mp member).2
      have failed := (status call).symm.trans failed
      rw [if_pos ⟨opened isOpen, isOpen⟩] at failed
      cases failed

/-- A `close` settles when nothing it awaits is still being closed. -/
theorem none_being_closed (tidy : Tidy manager) {close : Nat} {sessions : List Nat}
    (waiting : manager.closes close = .waiting sessions)
    (settles : promiseAllSettles manager.calls sessions = true) (call : Nat) :
    (manager.calls call).beingClosed = false := by
  by_contra closing
  have closing : (manager.calls call).beingClosed = true := Bool.not_eq_false _ ▸ closing
  have member := tidy.awaited close sessions waiting call closing
  rcases Bool.or_eq_true_iff.mp settles with all | any
  · have finished := List.all_eq_true.mp all call member
    cases status : manager.calls call with
    | closed failed left =>
        rw [status] at closing
        cases closing
    | _ =>
        rw [status] at finished
        cases finished
  · obtain ⟨first, inside, finished⟩ := List.any_eq_true.mp any
    cases status : manager.calls first with
    | closed failed left =>
        cases failed with
        | true =>
            rw [tidy.failed close sessions waiting first inside left status call member] at closing
            cases closing
        | false =>
            rw [status] at finished
            cases finished
    | _ =>
        rw [status] at finished
        cases finished

theorem tidy_settle_manager (tidy : Tidy manager) {close : Nat} {sessions : List Nat}
    (waiting : manager.closes close = .waiting sessions)
    (settles : promiseAllSettles manager.calls sessions = true) :
    Tidy { manager with closes := Function.update manager.closes close .settled } := by
  have idle := none_being_closed tidy waiting settles
  have closed : manager.closed = true := closed_of_called tidy (by rw [waiting]; nofun)
  refine ⟨tidy.sound, tidy.rejected, ?_, tidy.shut, ?_, fun _ _ => idle, ?_⟩
  · intro running
    rw [closed] at running
    cases running
  · intro other inside _ call closing
    rw [idle call] at closing
    cases closing
  · exact fun _ _ _ _ _ _ _ other _ => idle other

end Invariants

section Runs

variable {manager next : DuckdbManager}

theorem tidy_settle_cleanup (tidy : Tidy manager) {session : Nat} {failed succeeded : Bool}
    (cleaning : manager.calls session = .cleaning failed)
    (orderly : Orderly manager (.settleCleanup session succeeded)) :
    Tidy { manager.setCall session (.closed (failed || !succeeded) !succeeded) with
      sessions := manager.sessions.erase session } := by
  have keeps : KeepsTidy manager session (.closed (failed || !succeeded) !succeeded) := by
    refine ⟨nofun, fun _ => ⟨rfl, nofun⟩, nofun, fun left fails => ?_⟩
    have failing : failsWith (manager.calls session) succeeded = true := by
      rw [cleaning]
      exact (OpenCall.closed.inj fails).1
    exact fun close sessions waiting member => orderly failing close sessions waiting member
  exact tidy_call tidy keeps (core_closed tidy.sound cleaning _ _)

/-- One step of an orderly run. -/
theorem tidy_step (manager : DuckdbManager) (action : Action) (next : DuckdbManager)
    (tidy : Tidy manager) (orderly : Orderly manager action)
    (taken : step manager action = some next) : Tidy next := by
  cases action with
  | openSession call =>
      cases status : manager.calls call <;> simp only [step, status, reduceCtorEq] at taken
      obtain rfl := Option.some.inj taken
      cases closed : manager.closed with
      | true =>
          exact tidy_set_call tidy (keeps_pending nofun (fun _ => ⟨rfl, nofun⟩) rfl)
            (by rw [status]; rfl) (by rw [status]; rfl)
      | false =>
          exact tidy_set_call tidy (keeps_pending nofun (fun _ => ⟨rfl, nofun⟩) rfl)
            (by rw [status]; rfl) (by rw [status]; rfl)
  | settleRoot call succeeded =>
      cases status : manager.calls call <;> simp only [step, status, reduceCtorEq] at taken
      obtain rfl := Option.some.inj taken
      cases succeeded <;>
        exact tidy_set_call tidy (keeps_pending nofun (fun _ => ⟨rfl, nofun⟩) rfl)
          (by rw [status]; rfl) (by rw [status]; rfl)
  | settleWorkspace call succeeded =>
      cases status : manager.calls call <;> simp only [step, status, reduceCtorEq] at taken
      obtain rfl := Option.some.inj taken
      cases succeeded with
      | true =>
          have running : manager.closed = false := orderly rfl
          refine tidy_set_call tidy (keeps_pending nofun (fun closed => ?_) rfl)
            (by rw [status]; rfl) (by rw [status]; rfl)
          rw [running] at closed
          cases closed
      | false =>
          exact tidy_set_call tidy (keeps_pending nofun (fun _ => ⟨rfl, nofun⟩) rfl)
            (by rw [status]; rfl) (by rw [status]; rfl)
  | settleEngine call succeeded =>
      cases status : manager.calls call <;> simp only [step, status, reduceCtorEq] at taken
      have running : manager.closed = true → False := by
        intro closed
        have idle := (tidy.shut closed call).1
        rw [status] at idle
        cases idle
      split_ifs at taken <;> obtain rfl := Option.some.inj taken
      · have keeps : KeepsTidy manager call .opened :=
          ⟨nofun, fun closed => (running closed).elim, nofun, nofun⟩
        exact tidy_call tidy keeps (core_opened tidy.sound status)
      · exact tidy_set_call tidy
          (keeps_pending nofun (fun closed => (running closed).elim) rfl)
          (by rw [status]; rfl) (by rw [status]; rfl)
  | settleRemoval call succeeded =>
      cases status : manager.calls call <;> simp only [step, status, reduceCtorEq] at taken
      obtain rfl := Option.some.inj taken
      obtain rfl : succeeded = true := orderly
      exact tidy_set_call tidy (keeps_pending nofun (fun _ => ⟨rfl, nofun⟩) rfl)
        (by rw [status]; rfl) (by rw [status]; rfl)
  | closeSession session =>
      simp only [step] at taken
      split_ifs at taken
      obtain rfl := Option.some.inj taken
      exact tidy_close_session tidy session
  | settleEngineClose session succeeded =>
      cases status : manager.calls session <;> simp only [step, status, reduceCtorEq] at taken
      obtain rfl := Option.some.inj taken
      have keeps : KeepsTidy manager session (.cleaning !succeeded) :=
        ⟨nofun, fun _ => ⟨rfl, nofun⟩, fun _ => Or.inl (by rw [status]; rfl), nofun⟩
      exact tidy_set_call tidy keeps (by rw [status]; rfl) (by rw [status]; rfl)
  | settleCleanup session succeeded =>
      cases status : manager.calls session <;> simp only [step, status, reduceCtorEq] at taken
      obtain rfl := Option.some.inj taken
      exact tidy_settle_cleanup tidy status orderly
  | closeManager close =>
      cases status : manager.closes close <;> simp only [step, status, reduceCtorEq] at taken
      obtain rfl := Option.some.inj taken
      exact tidy_close_manager tidy orderly
  | settleManager close =>
      cases status : manager.closes close <;> simp only [step, status, reduceCtorEq] at taken
      split_ifs at taken with settles
      obtain rfl := Option.some.inj taken
      exact tidy_settle_manager tidy status settles

theorem tidy_no_leak (tidy : Tidy manager) : NoLeak manager := by
  refine ⟨tidy.sound.once, ?_, ?_⟩
  · intro call left rejected
    cases left with
    | true => exact absurd rejected (tidy.rejected call)
    | false => rfl
  · intro close settled call
    have closed := closed_of_called tidy (show manager.closes close ≠ .absent by
      rw [settled]
      nofun)
    obtain ⟨idle, notOpen⟩ := tidy.shut closed call
    have finished := tidy.done close settled call
    refine ⟨?_, ?_, notOpen⟩
    · intro created
      cases status : manager.calls call with
      | opened => exact absurd status notOpen
      | closingEngine =>
          rw [status] at finished
          cases finished
      | cleaning _ | closed _ _ => rfl
      | _ =>
          rw [status] at created
          cases created
    · intro held
      cases status : manager.calls call with
      | opened => exact absurd status notOpen
      | makingEngine | removing =>
          rw [status] at idle
          cases idle
      | closingEngine | cleaning _ =>
          rw [status] at finished
          cases finished
      | rejected left | closed _ left =>
          rw [status] at held
          exact held
      | _ =>
          rw [status] at held
          cases held

/-- An orderly run leaks nothing. -/
theorem orderly_no_leak {schedule : List Action} {finish : DuckdbManager}
    (orderly : Along step Orderly createDuckdbAnalyticsManager schedule)
    (arrived : execute step createDuckdbAnalyticsManager schedule = some finish) :
    NoLeak finish :=
  tidy_no_leak (execute_preserves tidy_step tidy_create orderly arrived)

/-- A session is opened and the manager closed. -/
def openedAndClosed : List Action :=
  [.openSession 0, .settleRoot 0 true, .settleWorkspace 0 true, .settleEngine 0 true,
    .closeManager 0, .settleEngineClose 0 true, .settleCleanup 0 true, .settleManager 0]

theorem opened_and_closed_no_leak :
    ∃ finish, execute step createDuckdbAnalyticsManager openedAndClosed = some finish ∧
      NoLeak finish := by
  have orderly : Along step Orderly createDuckdbAnalyticsManager openedAndClosed := by
    refine ⟨trivial, fun _ taken => ?_⟩
    obtain rfl := Option.some.inj taken
    refine ⟨trivial, fun _ taken => ?_⟩
    obtain rfl := Option.some.inj taken
    refine ⟨fun _ => rfl, fun _ taken => ?_⟩
    obtain rfl := Option.some.inj taken
    refine ⟨trivial, fun _ taken => ?_⟩
    obtain rfl := Option.some.inj taken
    refine ⟨fun call => ?_, fun _ taken => ?_⟩
    · cases call <;> exact ⟨rfl, rfl⟩
    obtain rfl := Option.some.inj taken
    refine ⟨trivial, fun _ taken => ?_⟩
    obtain rfl := Option.some.inj taken
    refine ⟨nofun, fun _ taken => ?_⟩
    obtain rfl := Option.some.inj taken
    exact ⟨trivial, fun _ _ => trivial⟩
  exact ⟨_, rfl, orderly_no_leak orderly rfl⟩

/-- A session that is still being opened when the manager is closed is left behind. -/
theorem pending_session_leaks :
    ¬ ∀ (schedule : List Action) (finish : DuckdbManager),
      execute step createDuckdbAnalyticsManager schedule = some finish → NoLeak finish := by
  intro always
  have leaks := (always [.openSession 0, .closeManager 0, .settleManager 0, .settleRoot 0 true,
    .settleWorkspace 0 true, .settleEngine 0 true] _ rfl).settledClean 0 rfl 0
  exact leaks.2.2 rfl

end Runs

end CommitmentOptimizer.Shared.DuckdbSessions
