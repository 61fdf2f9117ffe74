import Mathlib.Data.List.Induction
import CommitmentOptimizer.Shared.ObjectFiles

/-!
# The local object store as a map

Interleaved calls refine a map from keys to bytes: a value appears when a put is renamed, goes
when a delete removes it, and an answered get has seen its value while it ran.
-/

namespace CommitmentOptimizer.Shared.ObjectStoreRuns

open Foundations
open Foundations.Schedules
open LocalObjects
open ObjectFiles

set_option autoImplicit false

section Invariant

/-- An inode has one name at most. -/
structure FilesSound (files : Files) (draws : Nat) : Prop where
  bounded : ∀ name inode, files.names name = some inode → inode < files.next
  injective : ∀ left right inode, files.names left = some inode →
    files.names right = some inode → left = right
  drawn : ∀ key uuid inode, files.names (.temporary key uuid) = some inode → uuid < draws

/-- No operation writes to the inode any more. -/
def Sealed (files : Files) (inode : Nat) : Prop :=
  inode < files.next ∧ ∀ key uuid, files.names (.temporary key uuid) ≠ some inode

def PhaseSound (files : Files) (operation : Operation) : Phase → Prop
  | .writing inode rest =>
      files.names operation.temporary = some inode ∧
        files.contents inode ++ rest = operation.bytes
  | .replacing => ∃ inode, files.names operation.temporary = some inode ∧
      files.contents inode = operation.bytes
  | .comparing inode => Sealed files inode ∧ some (files.contents inode) ∈ operation.seen
  | .reading inode got => Sealed files inode ∧ some (files.contents inode) ∈ operation.seen ∧
      got = (files.contents inode).take got.length
  | .answered (.bytes content) => some content ∈ operation.seen
  | .answered .notFound => none ∈ operation.seen
  | _ => True

structure OperationSound (files : Files) (draws : Nat) (operation : Operation) : Prop where
  drawn : operation.uuid < draws
  current : operation.phase.isAnswered = false → files.view operation.key ∈ operation.seen
  phase : PhaseSound files operation operation.phase

structure Sound (state : State) : Prop where
  files : FilesSound state.files state.draws
  operations : ∀ id operation, state.operations id = some operation →
    OperationSound state.files state.draws operation
  apart : ∀ left right operation other, state.operations left = some operation →
    state.operations right = some other → left ≠ right → operation.uuid ≠ other.uuid

end Invariant

section Changes

variable {files after : Files} {operation : Operation} {draws : Nat}

/-- What one call of an operation does to the files. -/
inductive FileChange (files : Files) (operation : Operation) : Files → Prop where
  | same : FileChange files operation files
  | created (free : files.names operation.temporary = none) :
      FileChange files operation (files.create operation.temporary)
  | wrote (inode : Nat) (bytes : Bytes) (own : files.names operation.temporary = some inode) :
      FileChange files operation (files.write inode bytes)
  | renamed (inode : Nat) (own : files.names operation.temporary = some inode) :
      FileChange files operation
        ((files.link (.object operation.key) (some inode)).link operation.temporary none)
  | dropped : FileChange files operation (files.link operation.temporary none)
  | removed : FileChange files operation (files.link (.object operation.key) none)

theorem link_names {name other : Name} {inode : Option Nat} :
    (files.link name inode).names other = if other = name then inode else files.names other := rfl

theorem create_names {name other : Name} :
    (files.create name).names other =
      if other = name then some files.next else files.names other := rfl

/-- Every call of the file system that an operation makes, with what follows it. -/
inductive Call (files : Files) (operation : Operation) : Phase → Files → Phase → Prop where
  | failed {phase next : Phase} (quiet : next = .cleaning ∨ next = .answered .failed) :
      Call files operation phase files next
  | prepared : Call files operation .preparing files .creating
  | created (free : files.names operation.temporary = none) :
      Call files operation .creating (files.create operation.temporary)
        (.writing files.next operation.bytes)
  | wrote (inode count : Nat) (rest : Bytes) :
      Call files operation (.writing inode rest)
        (files.write inode (files.contents inode ++ rest.take count))
        (.writing inode (rest.drop count))
  | written (inode : Nat) : Call files operation (.writing inode []) files .replacing
  | renamed (inode : Nat) (own : files.names operation.temporary = some inode) :
      Call files operation .replacing
        ((files.link (.object operation.key) (some inode)).link operation.temporary none)
        (.answered .stored)
  | cleaned : Call files operation .cleaning (files.link operation.temporary none)
      (.answered .failed)
  | missing {phase : Phase} (absent : files.names (.object operation.key) = none) :
      Call files operation phase files (.answered .notFound)
  | resolved : Call files operation .resolving files .opening
  | opened (inode : Nat) (stored : files.names (.object operation.key) = some inode) :
      Call files operation .opening files (.comparing inode)
  | compared (inode : Nat) : Call files operation (.comparing inode) files (.reading inode [])
  | readOn (inode count : Nat) (got : Bytes) :
      Call files operation (.reading inode got) files
        (.reading inode (got ++ ((files.contents inode).drop got.length).take count))
  | readAll (inode : Nat) (got : Bytes) (whole : (files.contents inode).drop got.length = []) :
      Call files operation (.reading inode got) files (.answered (.bytes got))
  | found : Call files operation .finding files .removing
  | gone : Call files operation .finding files (.answered .deleted)
  | removed : Call files operation .removing (files.link (.object operation.key) none)
      (.answered .deleted)

theorem advance_call {phase : Phase} {event : Event} {next : Files × Phase}
    (advances : advance files operation phase event = some next) :
    Call files operation phase next.1 next.2 := by
  cases phase <;> cases event
  case creating.done count =>
      unfold advance at advances
      dsimp only at advances
      split_ifs at advances with free
      · rw [← Option.some.inj advances]
        exact .created free
      · rw [← Option.some.inj advances]
        exact .failed (Or.inl rfl)
  case writing.done inode rest count =>
      unfold advance at advances
      dsimp only at advances
      split_ifs at advances with finished
      · rw [← Option.some.inj advances, finished]
        exact .written inode
      · rw [← Option.some.inj advances]
        exact .wrote inode count rest
  case replacing.done count =>
      unfold advance at advances
      dsimp only at advances
      cases own : files.names operation.temporary with
      | none =>
          rw [own] at advances
          rw [← Option.some.inj advances]
          exact .failed (Or.inl rfl)
      | some inode =>
          rw [own] at advances
          rw [← Option.some.inj advances]
          exact .renamed inode own
  case resolving.done count =>
      unfold advance at advances
      dsimp only at advances
      split_ifs at advances with absent
      · rw [← Option.some.inj advances]
        exact .missing absent
      · rw [← Option.some.inj advances]
        exact .resolved
  case opening.done count =>
      unfold advance at advances
      dsimp only at advances
      cases stored : files.names (.object operation.key) with
      | none =>
          rw [stored] at advances
          rw [← Option.some.inj advances]
          exact .missing stored
      | some inode =>
          rw [stored] at advances
          rw [← Option.some.inj advances]
          exact .opened inode stored
  case comparing.done inode count =>
      unfold advance at advances
      dsimp only at advances
      cases stored : files.names (.object operation.key) with
      | none =>
          rw [stored] at advances
          rw [← Option.some.inj advances]
          exact .missing stored
      | some current =>
          rw [stored] at advances
          dsimp only at advances
          split_ifs at advances
          · rw [← Option.some.inj advances]
            exact .compared inode
          · rw [← Option.some.inj advances]
            exact .failed (Or.inr rfl)
  case reading.done inode got count =>
      unfold advance at advances
      dsimp only at advances
      split_ifs at advances with finished
      · rw [← Option.some.inj advances]
        exact .readAll inode got finished.2
      · rw [← Option.some.inj advances]
        exact .readOn inode count got
  case finding.done count =>
      unfold advance at advances
      dsimp only at advances
      split_ifs at advances
      · rw [← Option.some.inj advances]
        exact .gone
      · rw [← Option.some.inj advances]
        exact .found
  case answered.done => cases advances
  case answered.failed => cases advances
  all_goals rw [← Option.some.inj advances]
  case preparing.done => exact .prepared
  case cleaning.done => exact .cleaned
  case removing.done => exact .removed
  case creating.failed => exact .failed (Or.inl rfl)
  case writing.failed => exact .failed (Or.inl rfl)
  case replacing.failed => exact .failed (Or.inl rfl)
  all_goals exact .failed (Or.inr rfl)

theorem call_change {phase next : Phase} (sound : PhaseSound files operation phase)
    (call : Call files operation phase after next) : FileChange files operation after := by
  cases call with
  | created free => exact .created free
  | wrote inode count rest => exact .wrote _ _ sound.1
  | renamed inode own => exact .renamed inode own
  | cleaned => exact .dropped
  | removed => exact .removed
  | _ => exact .same

theorem change_next (change : FileChange files operation after) : files.next ≤ after.next := by
  cases change with
  | created free => exact Nat.le_succ _
  | _ => exact Nat.le_refl _

/-- Temporary names of other draws stay as they are. -/
theorem change_temporary (change : FileChange files operation after) {key : ObjectPath}
    {uuid : Nat} (apart : uuid ≠ operation.uuid) :
    after.names (.temporary key uuid) = files.names (.temporary key uuid) := by
  have other : Name.temporary key uuid ≠ operation.temporary := by
    intro same
    exact apart (Name.temporary.inj same).2
  cases change with
  | same => rfl
  | created free => rw [create_names, if_neg other]
  | wrote inode bytes own => rfl
  | renamed inode own => rw [link_names, if_neg other, link_names, if_neg (by simp)]
  | dropped => rw [link_names, if_neg other]
  | removed => rw [link_names, if_neg (by simp)]

/-- Only the inode under the operation's own temporary name is written. -/
theorem change_contents (change : FileChange files operation after) {inode : Nat}
    (used : inode < files.next) (apart : files.names operation.temporary ≠ some inode) :
    after.contents inode = files.contents inode := by
  cases change with
  | created free => exact if_neg (Nat.ne_of_lt used)
  | wrote own bytes isOwn =>
      apply if_neg
      intro same
      rw [same] at apart
      exact apart isOwn
  | _ => rfl

theorem change_sealed (change : FileChange files operation after) {inode : Nat}
    (isSealed : Sealed files inode) : Sealed after inode := by
  refine ⟨Nat.lt_of_lt_of_le isSealed.1 (change_next change), fun key uuid => ?_⟩
  have unnamed := isSealed.2 key uuid
  cases change with
  | same => exact unnamed
  | created free =>
      rw [create_names]
      split_ifs
      · intro same
        exact Nat.ne_of_lt isSealed.1 (Option.some.inj same).symm
      · exact unnamed
  | wrote own bytes isOwn => exact unnamed
  | renamed own isOwn =>
      rw [link_names]
      split_ifs
      · exact (Option.some_ne_none _).symm
      · rw [link_names, if_neg (by simp)]
        exact unnamed
  | dropped =>
      rw [link_names]
      split_ifs
      · exact (Option.some_ne_none _).symm
      · exact unnamed
  | removed =>
      rw [link_names, if_neg (by simp)]
      exact unnamed

theorem sealed_contents (change : FileChange files operation after) {inode : Nat}
    (isSealed : Sealed files inode) : after.contents inode = files.contents inode :=
  change_contents change isSealed.1 (isSealed.2 _ _)

theorem link_none_sound {name : Name} (sound : FilesSound files draws) :
    FilesSound (files.link name none) draws := by
  have kept : ∀ other inode, (files.link name none).names other = some inode →
      files.names other = some inode := by
    intro other inode
    rw [link_names]
    split_ifs
    · intro linked
      cases linked
    · exact id
  exact
    { bounded := fun other inode linked => sound.bounded other inode (kept other inode linked)
      injective := fun left right inode isLeft isRight =>
        sound.injective left right inode (kept left inode isLeft) (kept right inode isRight)
      drawn := fun key uuid inode linked => sound.drawn key uuid inode (kept _ inode linked) }

theorem change_files (sound : FilesSound files draws) (drawn : operation.uuid < draws)
    (change : FileChange files operation after) : FilesSound after draws := by
  cases change with
  | same => exact sound
  | created free =>
      constructor
      · intro name inode
        rw [create_names]
        split_ifs
        · intro linked
          rw [← Option.some.inj linked]
          exact Nat.lt_succ_self _
        · intro linked
          exact Nat.lt_succ_of_lt (sound.bounded name inode linked)
      · intro left right inode
        rw [create_names, create_names]
        split_ifs with isLeft isRight isRight
        · intro _ _
          rw [isLeft, isRight]
        · intro new old
          have below := sound.bounded right inode old
          rw [← Option.some.inj new] at below
          exact absurd below (Nat.lt_irrefl _)
        · intro old new
          have below := sound.bounded left inode old
          rw [← Option.some.inj new] at below
          exact absurd below (Nat.lt_irrefl _)
        · exact sound.injective left right inode
      · intro key uuid inode
        rw [create_names]
        split_ifs with same
        · intro _
          rw [(Name.temporary.inj same).2]
          exact drawn
        · exact sound.drawn key uuid inode
  | wrote inode bytes own => exact ⟨sound.bounded, sound.injective, sound.drawn⟩
  | renamed inode own =>
      have origin : ∀ name other,
          ((files.link (.object operation.key) (some inode)).link operation.temporary none).names
            name = some other →
          (name = .object operation.key ∧ other = inode) ∨
            (name ≠ .object operation.key ∧ name ≠ operation.temporary ∧
              files.names name = some other) := by
        intro name other
        rw [link_names, link_names]
        split_ifs with isTemporary isObject
        · intro linked
          cases linked
        · intro linked
          exact Or.inl ⟨isObject, (Option.some.inj linked).symm⟩
        · intro linked
          exact Or.inr ⟨isObject, isTemporary, linked⟩
      constructor
      · intro name other linked
        rcases origin name other linked with ⟨_, same⟩ | ⟨_, _, before⟩
        · rw [same]
          exact sound.bounded _ _ own
        · exact sound.bounded _ _ before
      · intro left right other isLeft isRight
        rcases origin left other isLeft with ⟨leftName, leftInode⟩ | ⟨_, leftName, before⟩
        · rcases origin right other isRight with ⟨rightName, _⟩ | ⟨_, rightName, before⟩
          · rw [leftName, rightName]
          · rw [leftInode] at before
            exact absurd (sound.injective _ _ _ before own) rightName
        · rcases origin right other isRight with ⟨_, rightInode⟩ | ⟨_, _, alsoBefore⟩
          · rw [rightInode] at before
            exact absurd (sound.injective _ _ _ before own) leftName
          · exact sound.injective _ _ _ before alsoBefore
      · intro key uuid other linked
        rcases origin _ other linked with ⟨named, _⟩ | ⟨_, _, before⟩
        · cases named
        · exact sound.drawn key uuid other before
  | dropped => exact link_none_sound sound
  | removed => exact link_none_sound sound

end Changes

section Operations

variable {files after : Files} {operation other : Operation} {draws : Nat}

theorem notice_answered (answered : other.phase.isAnswered = true) :
    other.notice after = other := if_pos answered

theorem notice_running (running : other.phase.isAnswered = false) :
    other.notice after = { other with seen := after.view other.key :: other.seen } := by
  apply if_neg
  rw [running]
  exact Bool.false_ne_true

/-- The phase of an operation holds through the calls of the others. -/
theorem phase_sound_change (sound : FilesSound files draws)
    (change : FileChange files operation after) (apart : other.uuid ≠ operation.uuid)
    (seen : List (Option Bytes)) (grows : ∀ value ∈ other.seen, value ∈ seen)
    (known : PhaseSound files other other.phase) :
    PhaseSound after { other with seen := seen } other.phase := by
  have named : ∀ {inode}, files.names other.temporary = some inode →
      after.names other.temporary = some inode ∧ after.contents inode = files.contents inode := by
    intro inode own
    constructor
    · rw [Operation.temporary, change_temporary change apart]
      exact own
    · apply change_contents change (sound.bounded _ _ own)
      intro theirs
      exact apart (Name.temporary.inj (sound.injective _ _ _ own theirs)).2
  cases phase : other.phase with
  | writing inode rest =>
      rw [phase] at known
      obtain ⟨own, written⟩ := known
      refine ⟨(named own).1, ?_⟩
      rw [(named own).2]
      exact written
  | replacing =>
      rw [phase] at known
      obtain ⟨inode, own, written⟩ := known
      exact ⟨inode, (named own).1, (named own).2.trans written⟩
  | comparing inode =>
      rw [phase] at known
      refine ⟨change_sealed change known.1, ?_⟩
      rw [sealed_contents change known.1]
      exact grows _ known.2
  | reading inode got =>
      rw [phase] at known
      refine ⟨change_sealed change known.1, ?_⟩
      rw [sealed_contents change known.1]
      exact ⟨grows _ known.2.1, known.2.2⟩
  | answered answer =>
      rw [phase] at known
      cases answer with
      | bytes content => exact grows _ known
      | notFound => exact grows _ known
      | _ => trivial
  | _ => trivial

theorem other_sound (sound : FilesSound files draws)
    (change : FileChange files operation after) (apart : other.uuid ≠ operation.uuid)
    (known : OperationSound files draws other) :
    OperationSound after draws (other.notice after) := by
  cases answered : other.phase.isAnswered with
  | true =>
      rw [notice_answered answered]
      refine ⟨known.drawn, fun running => ?_, ?_⟩
      · rw [answered] at running
        cases running
      · exact phase_sound_change sound change apart other.seen (fun _ => id) known.phase
  | false =>
      rw [notice_running answered]
      exact ⟨known.drawn, fun _ => List.mem_cons_self,
        phase_sound_change sound change apart _ (fun _ => List.mem_cons_of_mem _) known.phase⟩

/-- An object is under no temporary name. -/
theorem object_sealed (sound : FilesSound files draws) {key : ObjectPath} {inode : Nat}
    (stored : files.names (.object key) = some inode) : Sealed files inode := by
  refine ⟨sound.bounded _ _ stored, fun other uuid temporary => ?_⟩
  cases sound.injective _ _ _ stored temporary

theorem view_some {key : ObjectPath} {inode : Nat}
    (stored : files.names (.object key) = some inode) :
    files.view key = some (files.contents inode) := by
  rw [Files.view, stored]
  rfl

theorem view_none {key : ObjectPath} (absent : files.names (.object key) = none) :
    files.view key = none := by
  rw [Files.view, absent]
  rfl

/-- Reading on in a file that is not written any more. -/
theorem read_on {content got : Bytes} (count : Nat) (beginning : got = content.take got.length) :
    got ++ (content.drop got.length).take count =
      content.take (got ++ (content.drop got.length).take count).length := by
  rw [List.length_append, List.take_add, ← beginning, List.length_take]
  congr 1
  rw [List.take_eq_take_iff]
  omega

/-- What an operation knows after its own call. -/
theorem call_phase_sound {phase next : Phase} {seen : List (Option Bytes)}
    (sound : FilesSound files draws) (current : files.view operation.key ∈ seen)
    (grows : ∀ value ∈ operation.seen, value ∈ seen)
    (known : PhaseSound files operation phase)
    (call : Call files operation phase after next) :
    PhaseSound after { operation with phase := next, seen := seen } next := by
  cases call with
  | failed quiet =>
      rcases quiet with rfl | rfl <;> trivial
  | created free =>
      refine ⟨if_pos rfl, ?_⟩
      change (if files.next = files.next then [] else files.contents files.next) ++
        operation.bytes = operation.bytes
      rw [if_pos rfl, List.nil_append]
  | wrote inode count rest =>
      refine ⟨known.1, ?_⟩
      change (if inode = inode then files.contents inode ++ rest.take count
        else files.contents inode) ++ rest.drop count = operation.bytes
      rw [if_pos rfl, List.append_assoc, List.take_append_drop]
      exact known.2
  | written inode =>
      refine ⟨inode, known.1, ?_⟩
      have whole := known.2
      rw [List.append_nil] at whole
      exact whole
  | missing absent =>
      rw [view_none absent] at current
      exact current
  | opened inode stored =>
      rw [view_some stored] at current
      exact ⟨object_sealed sound stored, current⟩
  | compared inode => exact ⟨known.1, grows _ known.2, rfl⟩
  | readOn inode count got =>
      exact ⟨known.1, grows _ known.2.1, read_on count known.2.2⟩
  | readAll inode got whole =>
      have all : got = files.contents inode := by
        have parts := List.take_append_drop got.length (files.contents inode)
        rw [whole, List.append_nil, ← known.2.2] at parts
        exact parts
      have seenWhole := known.2.1
      rw [← all] at seenWhole
      exact grows _ seenWhole
  | _ => trivial

theorem own_sound {event : Event} {next : Files × Phase} (sound : FilesSound files draws)
    (known : OperationSound files draws operation)
    (advances : advance files operation operation.phase event = some next) :
    OperationSound next.1 draws { operation with
      phase := next.2
      seen := next.1.view operation.key :: operation.seen } := by
  refine ⟨known.drawn, fun _ => List.mem_cons_self, ?_⟩
  have running : operation.phase.isAnswered = false := by
    cases phase : operation.phase with
    | answered answer =>
        rw [phase] at advances
        cases event <;> cases advances
    | _ => rfl
  exact call_phase_sound sound (List.mem_cons_of_mem _ (known.current running))
    (fun _ => List.mem_cons_of_mem _) known.phase (advance_call advances)

end Operations

section Runs

theorem sound_start : Sound start where
  files :=
    { bounded := fun _ _ linked => absurd linked.symm (Option.some_ne_none _)
      injective := fun _ _ _ linked => absurd linked.symm (Option.some_ne_none _)
      drawn := fun _ _ _ linked => absurd linked.symm (Option.some_ne_none _) }
  operations := fun _ _ found => absurd found.symm (Option.some_ne_none _)
  apart := fun _ _ _ _ found => absurd found.symm (Option.some_ne_none _)

theorem called_sound {files : Files} {draws : Nat} (key : ObjectPath) (request : Request) :
    OperationSound files (draws + 1) (request.operation files key draws) := by
  refine ⟨Nat.lt_succ_self _, fun _ => List.mem_cons_self, ?_⟩
  cases request <;> trivial

theorem phase_sound_drawn {files : Files} {draws : Nat} {operation : Operation}
    (sound : OperationSound files draws operation) :
    OperationSound files (draws + 1) operation :=
  ⟨Nat.lt_succ_of_lt sound.drawn, sound.current, sound.phase⟩

theorem notice_uuid (files : Files) (operation : Operation) :
    (operation.notice files).uuid = operation.uuid := by
  unfold Operation.notice
  split_ifs <;> rfl

/-- A call of a key that is accepted. -/
theorem call_taken {state next : State} {id : Nat} {key : List Char} {request : Request}
    (taken : step state (.call id key request) = some next) :
    ∃ path, objectPath key = some path ∧ next =
      { state with
        draws := state.draws + 1
        operations := fun other =>
          if other = id then some (request.operation state.files path state.draws)
          else state.operations other } := by
  unfold step at taken
  dsimp only at taken
  cases found : state.operations id with
  | some operation =>
      rw [found] at taken
      cases taken
  | none =>
      rw [found] at taken
      obtain ⟨path, accepted, same⟩ := Option.map_eq_some_iff.mp taken
      exact ⟨path, accepted, same.symm⟩

theorem call_sound {state next : State} {id : Nat} {key : List Char} {request : Request}
    (sound : Sound state) (taken : step state (.call id key request) = some next) :
    Sound next := by
  obtain ⟨path, _, same⟩ := call_taken taken
  rw [same]
  constructor
  · exact ⟨sound.files.bounded, sound.files.injective, fun key uuid inode linked =>
      Nat.lt_succ_of_lt (sound.files.drawn key uuid inode linked)⟩
  · intro other operation isOperation
    dsimp only at isOperation
    split_ifs at isOperation
    · rw [← Option.some.inj isOperation]
      exact called_sound path request
    · exact phase_sound_drawn (sound.operations other operation isOperation)
  · intro left right operation other isLeft isRight apart
    dsimp only at isLeft isRight
    split_ifs at isLeft isRight with leftNew rightNew rightNew
    · exact absurd (leftNew.trans rightNew.symm) apart
    · rw [← Option.some.inj isLeft]
      exact (Nat.ne_of_lt (sound.operations right other isRight).drawn).symm
    · rw [← Option.some.inj isRight]
      exact Nat.ne_of_lt (sound.operations left operation isLeft).drawn
    · exact sound.apart left right operation other isLeft isRight apart

theorem event_sound {state next : State} {id : Nat} {event : Event} (sound : Sound state)
    (taken : step state (.event id event) = some next) : Sound next := by
  obtain ⟨operation, found, moves⟩ := Option.bind_eq_some_iff.mp taken
  obtain ⟨result, advances, same⟩ := Option.map_eq_some_iff.mp moves
  have known := sound.operations id operation found
  have change := call_change known.phase (advance_call advances)
  rw [← same]
  constructor
  · exact change_files sound.files known.drawn change
  · intro other standing isStanding
    dsimp only at isStanding
    split_ifs at isStanding with own
    · rw [← Option.some.inj isStanding]
      exact own_sound sound.files known advances
    · obtain ⟨before, wasStanding, noticed⟩ := Option.map_eq_some_iff.mp isStanding
      rw [← noticed]
      exact other_sound sound.files change (sound.apart other id before operation wasStanding found
        own) (sound.operations other before wasStanding)
  · have former : ∀ other standing, (if other = id then
          some { operation with
            phase := result.2
            seen := result.1.view operation.key :: operation.seen }
        else (state.operations other).map (Operation.notice result.1)) = some standing →
        ∃ before, state.operations other = some before ∧ standing.uuid = before.uuid := by
      intro other standing isStanding
      split_ifs at isStanding with own
      · rw [← Option.some.inj isStanding, own]
        exact ⟨operation, found, rfl⟩
      · obtain ⟨before, wasStanding, noticed⟩ := Option.map_eq_some_iff.mp isStanding
        rw [← noticed]
        exact ⟨before, wasStanding, notice_uuid _ _⟩
    intro left right standing other isLeft isRight apart
    obtain ⟨leftBefore, wasLeft, leftSame⟩ := former left standing isLeft
    obtain ⟨rightBefore, wasRight, rightSame⟩ := former right other isRight
    rw [leftSame, rightSame]
    exact sound.apart left right leftBefore rightBefore wasLeft wasRight apart

theorem step_sound {state next : State} {action : Action} (sound : Sound state)
    (taken : step state action = some next) : Sound next := by
  cases action with
  | call id key request => exact call_sound sound taken
  | event id event => exact event_sound sound taken
  | stop =>
      rw [← Option.some.inj taken]
      exact ⟨sound.files, fun _ _ found => absurd found.symm (Option.some_ne_none _),
        fun _ _ _ _ found => absurd found.symm (Option.some_ne_none _)⟩

theorem reachable_sound {state : State} (reached : Reachable step start state) : Sound state :=
  reachable_preserves (fun _ _ _ sound taken => step_sound sound taken) sound_start reached

theorem step_seen {state next : State} {action : Action} {id : Nat} {operation : Operation}
    (taken : step state action = some next) (found : next.operations id = some operation)
    {value : Option Bytes} (seen : value ∈ operation.seen) :
    next.files.view operation.key = value ∨
      ∃ old, state.operations id = some old ∧ old.uuid = operation.uuid ∧
        old.key = operation.key ∧ value ∈ old.seen := by
  cases action with
  | stop =>
      rw [← Option.some.inj taken] at found
      cases found
  | call caller key request =>
      obtain ⟨_, _, same⟩ := call_taken taken
      rw [same] at found ⊢
      dsimp only at found
      split_ifs at found
      · rw [← Option.some.inj found] at seen ⊢
        exact Or.inl (List.mem_singleton.mp seen).symm
      · exact Or.inr ⟨operation, found, rfl, rfl, seen⟩
  | event caller event =>
      obtain ⟨acting, isActing, moves⟩ := Option.bind_eq_some_iff.mp taken
      obtain ⟨result, _, same⟩ := Option.map_eq_some_iff.mp moves
      rw [← same] at found ⊢
      dsimp only at found
      split_ifs at found with own
      · rw [← Option.some.inj found] at seen ⊢
        rcases List.mem_cons.mp seen with now | earlier
        · exact Or.inl now.symm
        · exact Or.inr ⟨acting, own ▸ isActing, rfl, rfl, earlier⟩
      · obtain ⟨old, isOld, noticed⟩ := Option.map_eq_some_iff.mp found
        rw [← noticed] at seen ⊢
        cases answered : old.phase.isAnswered with
        | true =>
            rw [notice_answered answered] at seen ⊢
            exact Or.inr ⟨old, isOld, rfl, rfl, seen⟩
        | false =>
            rw [notice_running answered] at seen ⊢
            rcases List.mem_cons.mp seen with now | earlier
            · exact Or.inl now.symm
            · exact Or.inr ⟨old, isOld, rfl, rfl, earlier⟩

/-- An object that keeps its name keeps its bytes. -/
theorem view_kept {files after : Files} {operation : Operation} {draws : Nat} {key : ObjectPath}
    (sound : FilesSound files draws) (change : FileChange files operation after)
    (named : after.names (.object key) = files.names (.object key)) :
    after.view key = files.view key := by
  cases stored : files.names (.object key) with
  | none => rw [view_none stored, view_none (named.trans stored)]
  | some inode =>
      rw [view_some stored, view_some (named.trans stored),
        sealed_contents change (object_sealed sound stored)]

theorem view_call {files after : Files} {draws : Nat} {operation : Operation}
    {phase next : Phase} (sound : FilesSound files draws)
    (known : PhaseSound files operation phase) (call : Call files operation phase after next) :
    (∀ key, after.view key = files.view key) ∨
      (∀ key, key ≠ operation.key → after.view key = files.view key) ∧
        ((phase = .replacing ∧ after.view operation.key = some operation.bytes ∧
            next = .answered .stored) ∨
          (phase = .removing ∧ after.view operation.key = none ∧ next = .answered .deleted)) := by
  have change := call_change known call
  have object : ∀ key, Name.object key ≠ operation.temporary := by
    intro key same
    cases same
  cases call with
  | created free =>
      left
      intro key
      apply view_kept sound change
      rw [create_names, if_neg (object key)]
  | wrote inode count rest => exact Or.inl fun key => view_kept sound change rfl
  | cleaned =>
      left
      intro key
      apply view_kept sound change
      rw [link_names, if_neg (object key)]
  | renamed inode own =>
      obtain ⟨held, isOwn, written⟩ := known
      obtain rfl := Option.some.inj (own.symm.trans isOwn)
      refine Or.inr ⟨fun key apart => view_kept sound change ?_, Or.inl ⟨rfl, ?_, rfl⟩⟩
      · rw [link_names, if_neg (object key), link_names, if_neg]
        exact fun same => apart (Name.object.inj same)
      · rw [@view_some _ _ inode]
        · exact congrArg some written
        · rw [link_names, if_neg (object _), link_names, if_pos rfl]
  | removed =>
      refine Or.inr ⟨fun key apart => view_kept sound change ?_, Or.inr ⟨rfl, ?_, rfl⟩⟩
      · rw [link_names, if_neg]
        exact fun same => apart (Name.object.inj same)
      · apply view_none
        rw [link_names, if_pos rfl]
  | _ => exact Or.inl fun _ => rfl

/-- The value of a key changes when a put of it is answered and then is what was put, or when a
delete of it is answered and then is gone. -/
theorem store_refines_map {state next : State} {action : Action}
    (reached : Reachable step start state) (taken : step state action = some next) :
    (∀ key, next.files.view key = state.files.view key) ∨
      ∃ id operation, state.operations id = some operation ∧
        (∀ key, key ≠ operation.key → next.files.view key = state.files.view key) ∧
        ((operation.phase = .replacing ∧
            next.files.view operation.key = some operation.bytes ∧
            (next.operations id).map Operation.phase = some (.answered .stored)) ∨
          (operation.phase = .removing ∧ next.files.view operation.key = none ∧
            (next.operations id).map Operation.phase = some (.answered .deleted))) := by
  have sound := reachable_sound reached
  cases action with
  | call id key request =>
      obtain ⟨_, _, same⟩ := call_taken taken
      rw [same]
      exact Or.inl fun _ => rfl
  | stop =>
      left
      rw [← Option.some.inj taken]
      exact fun _ => rfl
  | event id event =>
      obtain ⟨operation, found, moves⟩ := Option.bind_eq_some_iff.mp taken
      obtain ⟨result, advances, same⟩ := Option.map_eq_some_iff.mp moves
      rw [← same]
      have phaseNow : ((if id = id then some { operation with
          phase := result.2
          seen := result.1.view operation.key :: operation.seen }
        else (state.operations id).map (Operation.notice result.1)).map Operation.phase) =
          some result.2 := by
        rw [if_pos rfl]
        rfl
      have call := advance_call advances
      rcases view_call sound.files (sound.operations id operation found).phase call with
        kept | ⟨others, ⟨put, value, answered⟩ | ⟨delete, value, answered⟩⟩
      · exact Or.inl kept
      · exact Or.inr ⟨id, operation, found, others,
          Or.inl ⟨put, value, phaseNow.trans (congrArg some answered)⟩⟩
      · exact Or.inr ⟨id, operation, found, others,
          Or.inr ⟨delete, value, phaseNow.trans (congrArg some answered)⟩⟩

def exampleKey : List Char := ['r', 'u', 'n', 's', '/', 'o', 'n', 'e']

def examplePath : ObjectPath := [['r', 'u', 'n', 's'], ['o', 'n', 'e']]

/-- A put that has written its bytes in two calls and is about to be renamed. -/
def examplePut : List Action :=
  [.call 0 exampleKey (.put [1, 2, 3]), .event 0 (.done 0), .event 0 (.done 0), .event 0 (.done 2),
    .event 0 (.done 2), .event 0 (.done 0)]

theorem example_put_renames :
    ((execute step start examplePut).bind fun state =>
      (step state (.event 0 (.done 0))).map fun next => next.files.view examplePath) =
      some (some [1, 2, 3]) := rfl

theorem example_refines : ∃ state next, execute step start examplePut = some state ∧
    step state (.event 0 (.done 0)) = some next ∧
    ((∀ key, next.files.view key = state.files.view key) ∨
      ∃ id operation, state.operations id = some operation ∧
        ∀ key, key ≠ operation.key → next.files.view key = state.files.view key) := by
  obtain ⟨state, arrives, renames⟩ := Option.bind_eq_some_iff.mp example_put_renames
  obtain ⟨next, taken, _⟩ := Option.map_eq_some_iff.mp renames
  refine ⟨state, next, arrives, taken, ?_⟩
  rcases store_refines_map ⟨examplePut, arrives⟩ taken with kept | ⟨id, operation, found, others, _⟩
  · exact Or.inl kept
  · exact Or.inr ⟨id, operation, found, others⟩

/-- A value that an operation has seen was the value of its key in a state of the run in which
the operation was under way. -/
theorem seen_in_run {schedule : List Action} {state : State}
    (arrived : execute step start schedule = some state) {id : Nat} {operation : Operation}
    (found : state.operations id = some operation) {value : Option Bytes}
    (seen : value ∈ operation.seen) :
    ∃ before after middle earlier, schedule = before ++ after ∧
      execute step start before = some middle ∧ execute step middle after = some state ∧
      middle.operations id = some earlier ∧ earlier.uuid = operation.uuid ∧
      middle.files.view operation.key = value := by
  induction schedule using List.reverseRecOn generalizing state operation with
  | nil =>
      rw [← Option.some.inj arrived] at found
      cases found
  | append_singleton schedule action induction =>
      obtain ⟨prior, toPrior, last⟩ := execute_append_some.mp arrived
      obtain ⟨next, taken, same⟩ := execute_cons_some.mp last
      obtain rfl := Option.some.inj same
      rcases step_seen taken found seen with now | ⟨old, isOld, uuid, key, wasSeen⟩
      · exact ⟨schedule ++ [action], [], next, operation, (List.append_nil _).symm, arrived, rfl,
          found, rfl, now⟩
      · obtain ⟨before, after, middle, earlier, split, toMiddle, onward, isEarlier, sameUuid,
          held⟩ := induction toPrior isOld wasSeen
        refine ⟨before, after ++ [action], middle, earlier, ?_, toMiddle,
          execute_append_some.mpr ⟨prior, onward, last⟩, isEarlier, sameUuid.trans uuid, ?_⟩
        · rw [split, List.append_assoc]
        · rw [← key]
          exact held

/-- Every answered get returns the value that its key had at some moment of its run: the complete
bytes of one put, or nothing. -/
theorem gets_linearize {schedule : List Action} {state : State}
    (arrived : execute step start schedule = some state) {id : Nat} {operation : Operation}
    (found : state.operations id = some operation) {value : Option Bytes}
    (answers : operation.phase = .answered (value.elim .notFound .bytes)) :
    ∃ before after middle earlier, schedule = before ++ after ∧
      execute step start before = some middle ∧ execute step middle after = some state ∧
      middle.operations id = some earlier ∧ earlier.uuid = operation.uuid ∧
      middle.files.view operation.key = value := by
  have known := ((reachable_sound ⟨schedule, arrived⟩).operations id operation found).phase
  rw [answers] at known
  apply seen_in_run arrived found
  cases value with
  | none => exact known
  | some content => exact known

/-- A get that has opened its file when another put replaces the object. -/
def exampleGet : List Action :=
  examplePut ++ [.event 0 (.done 0), .call 1 exampleKey .get, .event 1 (.done 0),
    .event 1 (.done 0), .event 1 (.done 0), .call 2 exampleKey (.put [9]), .event 2 (.done 0),
    .event 2 (.done 0), .event 2 (.done 4), .event 2 (.done 0), .event 2 (.done 0),
    .event 1 (.done 2), .event 1 (.done 2), .event 1 (.done 2)]

theorem example_get_answers :
    ((execute step start exampleGet).bind fun state =>
      (state.operations 1).map fun operation => (operation.key, operation.phase)) =
      some (examplePath, .answered (.bytes [1, 2, 3])) := rfl

theorem example_linearizes : ∃ before after middle, exampleGet = before ++ after ∧
    execute step start before = some middle ∧
    middle.files.view examplePath = some [1, 2, 3] := by
  obtain ⟨state, arrives, answers⟩ := Option.bind_eq_some_iff.mp example_get_answers
  obtain ⟨operation, found, parts⟩ := Option.map_eq_some_iff.mp answers
  obtain ⟨before, after, middle, _, split, toMiddle, _, _, _, held⟩ :=
    @gets_linearize exampleGet state arrives 1 operation found (some [1, 2, 3])
      (congrArg Prod.snd parts)
  rw [show operation.key = examplePath from congrArg Prod.fst parts] at held
  exact ⟨before, after, middle, split, toMiddle, held⟩

end Runs

end CommitmentOptimizer.Shared.ObjectStoreRuns
