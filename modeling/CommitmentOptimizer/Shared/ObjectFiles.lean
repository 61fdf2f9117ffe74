import CommitmentOptimizer.Foundations.Schedules
import CommitmentOptimizer.Shared.LocalObjects

/-!
# Files of the local object store

`put`, `get` and `delete` of `objectStore.ts`, one call of the file system at a time. The file
system has no symbolic links and renames atomically; every call may fail and the process may
stop anywhere. A key lies below no other and does not end as a temporary name does, and no draw
of `randomUUID` repeats. A parent directory that does not exist holds no object.
-/

namespace CommitmentOptimizer.Shared.ObjectFiles

open Foundations.Schedules
open LocalObjects

set_option autoImplicit false

abbrev Bytes := List UInt8

/-- The path of an object, or the one with `.tmp-` and a draw of `randomUUID` behind it. -/
inductive Name where
  | object (key : ObjectPath)
  | temporary (key : ObjectPath) (uuid : Nat)
  deriving DecidableEq

/-- `next` is the first inode that has not been used. -/
structure Files where
  names : Name → Option Nat
  contents : Nat → Bytes
  next : Nat

namespace Files

variable (files : Files)

def link (name : Name) (inode : Option Nat) : Files :=
  { files with names := fun other => if other = name then inode else files.names other }

def write (inode : Nat) (bytes : Bytes) : Files :=
  { files with contents := fun other => if other = inode then bytes else files.contents other }

/-- `open` with `wx`. -/
def create (name : Name) : Files :=
  { (files.link name (some files.next)).write files.next [] with next := files.next + 1 }

/-- The object under a key. -/
def view (key : ObjectPath) : Option Bytes := (files.names (.object key)).map files.contents

end Files

inductive Answer where
  | stored | deleted | notFound | failed
  | bytes (content : Bytes)
  deriving DecidableEq

/-- The call of the file system that comes next. -/
inductive Phase where
  | preparing | creating
  | writing (inode : Nat) (rest : Bytes)
  | replacing | cleaning
  | resolving | opening
  | comparing (inode : Nat)
  | reading (inode : Nat) (got : Bytes)
  | finding | removing
  | answered (answer : Answer)
  deriving DecidableEq

/-- `seen` are the values of the key from the call of the operation on. -/
structure Operation where
  key : ObjectPath
  bytes : Bytes
  uuid : Nat
  phase : Phase
  seen : List (Option Bytes)

def Operation.temporary (operation : Operation) : Name :=
  .temporary operation.key operation.uuid

/-- `count` bounds the bytes that a call writes or reads. -/
inductive Event where
  | done (count : Nat)
  | failed

/-- `putLocalObject`, `readObjectFile` and `deleteLocalObject` between two calls. -/
def advance (files : Files) (operation : Operation) : Phase → Event → Option (Files × Phase)
  | .preparing, .done _ => some (files, .creating)
  | .preparing, .failed => some (files, .answered .failed)
  | .creating, .done _ =>
      if files.names operation.temporary = none then
        some (files.create operation.temporary, .writing files.next operation.bytes)
      else some (files, .cleaning)
  | .writing inode rest, .done count =>
      if rest = [] then some (files, .replacing)
      else some (files.write inode (files.contents inode ++ rest.take count),
        .writing inode (rest.drop count))
  | .replacing, .done _ =>
      match files.names operation.temporary with
      | none => some (files, .cleaning)
      | some inode => some
          ((files.link (.object operation.key) (some inode)).link operation.temporary none,
            .answered .stored)
  | .creating, .failed | .writing _ _, .failed | .replacing, .failed => some (files, .cleaning)
  | .cleaning, .done _ => some (files.link operation.temporary none, .answered .failed)
  | .cleaning, .failed => some (files, .answered .failed)
  | .resolving, .done _ =>
      if files.names (.object operation.key) = none then some (files, .answered .notFound)
      else some (files, .opening)
  | .opening, .done _ =>
      match files.names (.object operation.key) with
      | none => some (files, .answered .notFound)
      | some inode => some (files, .comparing inode)
  | .comparing inode, .done _ =>
      match files.names (.object operation.key) with
      | none => some (files, .answered .notFound)
      | some current =>
          if current = inode then some (files, .reading inode [])
          else some (files, .answered .failed)
  | .reading inode got, .done count =>
      if 0 < count ∧ (files.contents inode).drop got.length = [] then
        some (files, .answered (.bytes got))
      else some (files,
        .reading inode (got ++ ((files.contents inode).drop got.length).take count))
  | .finding, .done _ =>
      if files.names (.object operation.key) = none then some (files, .answered .deleted)
      else some (files, .removing)
  | .removing, .done _ => some (files.link (.object operation.key) none, .answered .deleted)
  | .resolving, .failed | .opening, .failed | .comparing _, .failed | .reading _ _, .failed
  | .finding, .failed | .removing, .failed => some (files, .answered .failed)
  | .answered _, _ => none

/-- The segments of an accepted key. `isContained` takes a first segment that begins with two
dots for one outside the root. -/
def objectPath (key : List Char) : Option ObjectPath :=
  (validateObjectKey key).filter fun path => (path.headD []).take 2 ≠ ['.', '.']

inductive Request where
  | put (bytes : Bytes)
  | get
  | delete

def Request.phase : Request → Phase
  | .put _ => .preparing
  | .get => .resolving
  | .delete => .finding

def Request.bytes : Request → Bytes
  | .put bytes => bytes
  | .get | .delete => []

/-- `draws` counts the draws of `randomUUID`. -/
structure State where
  files : Files
  draws : Nat
  operations : Nat → Option Operation

inductive Action where
  | call (id : Nat) (key : List Char) (request : Request)
  | event (id : Nat) (event : Event)
  | stop

def Phase.isAnswered : Phase → Bool
  | .answered _ => true
  | _ => false

/-- An operation under way sees what its key holds after each step. -/
def Operation.notice (files : Files) (operation : Operation) : Operation :=
  if operation.phase.isAnswered = true then operation
  else { operation with seen := files.view operation.key :: operation.seen }

def Request.operation (request : Request) (files : Files) (key : ObjectPath) (draw : Nat) :
    Operation where
  key := key
  bytes := request.bytes
  uuid := draw
  phase := request.phase
  seen := [files.view key]

def step (state : State) : Action → Option State
  | .call id key request =>
      match state.operations id with
      | some _ => none
      | none => (objectPath key).map fun path =>
          { state with
            draws := state.draws + 1
            operations := fun other =>
              if other = id then some (request.operation state.files path state.draws)
              else state.operations other }
  | .event id event => (state.operations id).bind fun operation =>
      (advance state.files operation operation.phase event).map fun next =>
        { state with
          files := next.1
          operations := fun other =>
            if other = id then
              some { operation with
                phase := next.2
                seen := next.1.view operation.key :: operation.seen }
            else (state.operations other).map (Operation.notice next.1) }
  | .stop => some { state with operations := fun _ => none }

def start : State where
  files := ⟨fun _ => none, fun _ => [], 0⟩
  draws := 0
  operations := fun _ => none

end CommitmentOptimizer.Shared.ObjectFiles
