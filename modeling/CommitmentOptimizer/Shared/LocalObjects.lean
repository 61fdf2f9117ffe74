import Mathlib.Data.List.Basic
import CommitmentOptimizer.Foundations.KeyedTable

/-!
# The local object store

`get` of `objectStore.ts` and the path checks of `objectStorePaths.ts`. A
directory exists where an object lies below it; the store makes no symbolic
links.
-/

namespace CommitmentOptimizer.Shared.LocalObjects

open Foundations

set_option autoImplicit false

abbrev Segment := List Char

abbrev ObjectPath := List Segment

structure StoredObject where
  path : ObjectPath
  bytes : List UInt8
  deriving DecidableEq

def isBelow (ancestor path : ObjectPath) : Bool :=
  ancestor.isPrefixOf path && ancestor.length < path.length

/-- No object lies below another one: a path is a file or a directory. -/
structure ObjectStore where
  objects : KeyedTable fun object : StoredObject => object.path
  apart : ∀ left ∈ objects, ∀ right ∈ objects, isBelow left.path right.path = false
  closed : Bool

/-- An error other than an `AppError` of status 400 or 404 is `failed`. -/
inductive StoreError where
  | keyInvalid | notFound | failed
  deriving DecidableEq, Repr

inductive Node where
  | file (bytes : List UInt8)
  | directory

/-- `validateObjectKey`. Segments without `..` stay below the root. -/
def validateObjectKey (key : List Char) : Option ObjectPath :=
  let segments := key.splitOn '/'
  if key = [] ∨ '\\' ∈ key ∨ key.head? = some '/' then none
  else if segments.any fun segment => segment = [] ∨ segment = ['.'] ∨ segment = ['.', '.'] then
    none
  else some segments

def ObjectStore.bytesAt (store : ObjectStore) (path : ObjectPath) : Option (List UInt8) :=
  (store.objects.find path).map fun object => object.bytes

/-- An object lies below the path. -/
def ObjectStore.hasBelow (store : ObjectStore) (path : ObjectPath) : Bool :=
  store.objects.rows.any fun object => isBelow path object.path

/-- What `lstat` finds, below an existing directory. -/
def ObjectStore.node (store : ObjectStore) (path : ObjectPath) : Option Node :=
  match store.bytesAt path with
  | some bytes => some (.file bytes)
  | none => if store.hasBelow path then some .directory else none

/-- `resolveExistingObjectPath` and `readObjectFile`, from an existing directory.
Below a file the answer is ENOTDIR, and a directory cannot be read. -/
def ObjectStore.read (store : ObjectStore) (parent : ObjectPath) :
    List Segment → Except StoreError (List UInt8)
  | [] => .error .failed
  | segment :: rest =>
      match store.node (parent ++ [segment]) with
      | none => .error .notFound
      | some (.file bytes) => if rest = [] then .ok bytes else .error .failed
      | some .directory =>
          if rest = [] then .error .failed else store.read (parent ++ [segment]) rest

def ObjectStore.get (store : ObjectStore) (key : List Char) : Except StoreError (List UInt8) :=
  if store.closed then .error .failed
  else
    match validateObjectKey key with
    | none => .error .keyInvalid
    | some path => store.read [] path

theorem valid_nonempty {key : List Char} {path : ObjectPath}
    (valid : validateObjectKey key = some path) : path ≠ [] := by
  unfold validateObjectKey at valid
  dsimp only at valid
  split_ifs at valid
  rw [← Option.some.inj valid]
  exact List.splitOn_ne_nil _ _

section Reading

variable {left right : ObjectStore}

/-- The stores agree on the objects on the way to a path, at it, and on whether
there are objects below it. -/
structure AgreeAt (left right : ObjectStore) (path : ObjectPath) : Prop where
  along : ∀ ancestor, ancestor <+: path → left.bytesAt ancestor = right.bytesAt ancestor
  below : left.hasBelow path = right.hasBelow path

theorem agree_at_symm {path : ObjectPath} (agree : AgreeAt left right path) :
    AgreeAt right left path :=
  ⟨fun ancestor isPrefix => (agree.along ancestor isPrefix).symm, agree.below.symm⟩

theorem has_below_iff {store : ObjectStore} {path : ObjectPath} :
    store.hasBelow path = true ↔
      ∃ lower, isBelow path lower = true ∧ store.bytesAt lower ≠ none := by
  rw [ObjectStore.hasBelow, List.any_eq_true]
  constructor
  · rintro ⟨object, member, isLower⟩
    refine ⟨object.path, isLower, ?_⟩
    rw [ObjectStore.bytesAt, KeyedTable.find_key member]
    simp
  · rintro ⟨lower, isLower, found⟩
    obtain ⟨bytes, same⟩ := Option.ne_none_iff_exists'.mp found
    obtain ⟨object, isObject, _⟩ := Option.map_eq_some_iff.mp same
    exact ⟨object, KeyedTable.mem_of_find isObject, KeyedTable.key_of_find isObject ▸ isLower⟩

/-- Stores with the same objects below a path. -/
theorem has_below_congr {path : ObjectPath}
    (same : ∀ lower, isBelow path lower = true → left.bytesAt lower = right.bytesAt lower) :
    left.hasBelow path = right.hasBelow path := by
  rw [Bool.eq_iff_iff, has_below_iff, has_below_iff]
  constructor
  · rintro ⟨lower, isLower, found⟩
    exact ⟨lower, isLower, same lower isLower ▸ found⟩
  · rintro ⟨lower, isLower, found⟩
    exact ⟨lower, isLower, (same lower isLower).symm ▸ found⟩

theorem has_below_of_bytes {store : ObjectStore} {ancestor path : ObjectPath}
    (isAncestor : ancestor <+: path) (shorter : ancestor.length < path.length)
    (found : store.bytesAt path ≠ none) : store.hasBelow ancestor = true := by
  refine has_below_iff.mpr ⟨path, ?_, found⟩
  simp only [isBelow, Bool.and_eq_true, List.isPrefixOf_iff_prefix, decide_eq_true_eq]
  exact ⟨isAncestor, shorter⟩

theorem has_below_mono {store : ObjectStore} {ancestor path : ObjectPath}
    (isAncestor : ancestor <+: path) (below : store.hasBelow path = true) :
    store.hasBelow ancestor = true := by
  obtain ⟨object, member, lower⟩ := List.any_eq_true.mp below
  simp only [isBelow, Bool.and_eq_true, List.isPrefixOf_iff_prefix, decide_eq_true_eq] at lower
  refine List.any_eq_true.mpr ⟨object, member, ?_⟩
  simp only [isBelow, Bool.and_eq_true, List.isPrefixOf_iff_prefix, decide_eq_true_eq]
  exact ⟨isAncestor.trans lower.1, Nat.lt_of_le_of_lt isAncestor.length_le lower.2⟩

theorem node_of_absent {store : ObjectStore} {path : ObjectPath}
    (absent : store.bytesAt path = none) :
    store.node path = if store.hasBelow path then some .directory else none := by
  rw [ObjectStore.node.eq_def, absent]

theorem node_none {store : ObjectStore} {path : ObjectPath} (none : store.node path = none) :
    store.hasBelow path = false := by
  cases found : store.bytesAt path with
  | some bytes =>
      rw [ObjectStore.node.eq_def, found] at none
      cases none
  | none =>
      rw [node_of_absent found] at none
      split_ifs at none with below
      exact Bool.eq_false_iff.mpr below

/-- Nothing at the path, on the way to it or below it: the path is not found. -/
theorem read_not_found {store : ObjectStore} {parent : ObjectPath} {rest : List Segment}
    (nonempty : rest ≠ [])
    (along : ∀ middle, middle ≠ [] → middle <+: rest → store.bytesAt (parent ++ middle) = none)
    (below : store.hasBelow (parent ++ rest) = false) :
    store.read parent rest = .error .notFound := by
  induction rest generalizing parent with
  | nil => exact absurd rfl nonempty
  | cons segment rest induction =>
      have absent := node_of_absent (along [segment] (by simp) (by simp))
      rw [ObjectStore.read, absent]
      by_cases last : rest = []
      · subst last
        rw [below]
        rfl
      · split_ifs
        · refine induction last ?_ (by simpa [List.append_assoc] using below)
          intro middle middleNonempty isPrefix
          have whole := along (segment :: middle) (by simp)
            (by rw [List.cons_prefix_cons]; exact ⟨rfl, isPrefix⟩)
          simpa [List.append_assoc] using whole
        · rfl

/-- Where an ancestor is no directory in one store, the other answers too that the
path is not found. -/
theorem read_apart {parent : ObjectPath} {rest : List Segment} (nonempty : rest ≠ [])
    (agree : AgreeAt left right (parent ++ rest)) (absent : left.node parent = none) :
    right.read parent rest = .error .notFound := by
  have nothing := node_none absent
  refine read_not_found nonempty ?_ ?_
  · intro middle middleNonempty isPrefix
    rw [← agree.along _ ((List.prefix_append_right_inj _).mpr isPrefix)]
    by_contra found
    have below := has_below_of_bytes (List.prefix_append parent middle)
      (by simp [List.length_pos_of_ne_nil middleNonempty]) found
    rw [nothing] at below
    cases below
  · rw [← agree.below]
    cases found : left.hasBelow (parent ++ rest) with
    | false => rfl
    | true =>
        have below := has_below_mono (List.prefix_append parent rest) found
        rw [nothing] at below
        cases below

/-- Stores with the same object at a path differ there by a directory at most. -/
theorem node_cases {path : ObjectPath} (same : left.bytesAt path = right.bytesAt path) :
    left.node path = right.node path ∨
      (left.node path = none ∧ right.node path = some .directory) ∨
      (left.node path = some .directory ∧ right.node path = none) := by
  cases found : left.bytesAt path with
  | some bytes =>
      rw [ObjectStore.node.eq_def, ObjectStore.node.eq_def, ← same, found]
      exact Or.inl rfl
  | none =>
      rw [node_of_absent found, node_of_absent (same ▸ found)]
      cases left.hasBelow path <;> cases right.hasBelow path <;> simp

theorem read_agrees {parent : ObjectPath} {rest : List Segment}
    (agree : AgreeAt left right (parent ++ rest)) :
    left.read parent rest = right.read parent rest := by
  induction rest generalizing parent with
  | nil => rfl
  | cons segment rest induction =>
      have onWay : parent ++ [segment] <+: parent ++ segment :: rest := by
        rw [List.prefix_append_right_inj, List.cons_prefix_cons]
        exact ⟨rfl, List.nil_prefix⟩
      have bytes := agree.along _ onWay
      rw [ObjectStore.read, ObjectStore.read]
      by_cases last : rest = []
      · subst last
        have same : left.node (parent ++ [segment]) = right.node (parent ++ [segment]) := by
          rw [ObjectStore.node.eq_def, ObjectStore.node.eq_def, bytes, agree.below]
        rw [same]
        rfl
      · have agreeBelow : AgreeAt left right (parent ++ [segment] ++ rest) := by simpa using agree
        simp only [if_neg last]
        rcases node_cases bytes with same | ⟨leftNone, rightDirectory⟩ | ⟨leftDirectory, rightNone⟩
        · rw [same, induction agreeBelow]
        · rw [leftNone, rightDirectory]
          exact (read_apart last agreeBelow leftNone).symm
        · rw [leftDirectory, rightNone]
          exact read_apart last (agree_at_symm agreeBelow) rightNone

/-- Stores that agree at the path of a key give the same answer for it. -/
theorem get_agrees {key : List Char} (closed : left.closed = right.closed)
    (agree : ∀ path, validateObjectKey key = some path → AgreeAt left right path) :
    left.get key = right.get key := by
  unfold ObjectStore.get
  rw [closed]
  split_ifs
  · rfl
  · cases valid : validateObjectKey key with
    | none => rfl
    | some path => exact read_agrees (agree path valid)

/-- The store holds the object at the path and nothing else. -/
def singleStore (path : ObjectPath) (bytes : List UInt8) : ObjectStore where
  objects := KeyedTable.empty.insert ⟨path, bytes⟩
  apart := by
    intro left leftMember right rightMember
    have only : ∀ object, object ∈ (KeyedTable.empty.insert ⟨path, bytes⟩ :
        KeyedTable fun object : StoredObject => object.path) → object = ⟨path, bytes⟩ := by
      intro object member
      rcases KeyedTable.mem_of_mem_insert member with old | same
      · exact absurd old (KeyedTable.not_mem_empty object)
      · exact same
    rw [only left leftMember, only right rightMember]
    simp [isBelow]
  closed := false

def emptyStore : ObjectStore where
  objects := KeyedTable.empty
  apart left member := absurd member (KeyedTable.not_mem_empty left)
  closed := false

theorem bytes_at_single (path other : ObjectPath) (bytes : List UInt8) :
    (singleStore path bytes).bytesAt other = if other = path then some bytes else none := by
  unfold ObjectStore.bytesAt singleStore
  rw [KeyedTable.find_insert]
  by_cases same : other = path
  · simp [same]
  · simp [same, Ne.symm same]

theorem has_below_single {path other : ObjectPath} {bytes : List UInt8} :
    (singleStore path bytes).hasBelow other = isBelow other path := by
  have rows : (singleStore path bytes).objects.rows = [⟨path, bytes⟩] := rfl
  rw [ObjectStore.hasBelow, rows]
  simp

/-- A key at, above or below the only object is answered otherwise than a missing
one. -/
theorem read_single_found {path parent : ObjectPath} {bytes : List UInt8}
    {rest onward : List Segment} (whole : path = parent ++ onward) (nonempty : rest ≠ [])
    (objectNonempty : onward ≠ []) (related : onward <+: rest ∨ rest <+: onward) :
    (singleStore path bytes).read parent rest ≠ .error .notFound := by
  induction rest generalizing parent onward with
  | nil => exact absurd rfl nonempty
  | cons segment rest induction =>
      obtain ⟨next, onward, rfl⟩ := List.exists_cons_of_ne_nil objectNonempty
      obtain ⟨rfl, relatedRest⟩ : next = segment ∧ (onward <+: rest ∨ rest <+: onward) := by
        rcases related with shorter | longer
        · obtain ⟨same, inner⟩ := List.cons_prefix_cons.mp shorter
          exact ⟨same, Or.inl inner⟩
        · obtain ⟨same, inner⟩ := List.cons_prefix_cons.mp longer
          exact ⟨same.symm, Or.inr inner⟩
      rw [ObjectStore.read, ObjectStore.node.eq_def, bytes_at_single, has_below_single, whole]
      by_cases last : onward = []
      · subst last
        rw [if_pos rfl]
        dsimp only
        split_ifs <;> simp
      · have apart : parent ++ [next] ≠ parent ++ next :: onward := by simpa using Ne.symm last
        have below : isBelow (parent ++ [next]) (parent ++ next :: onward) = true := by
          simp only [isBelow, Bool.and_eq_true, List.isPrefixOf_iff_prefix, decide_eq_true_eq,
            List.prefix_append_right_inj, List.cons_prefix_cons, List.nil_prefix, and_self,
            true_and, List.length_append, List.length_cons, List.length_nil]
          have := List.length_pos_of_ne_nil last
          omega
        rw [if_neg apart, below]
        dsimp only
        by_cases done : rest = []
        · simp [done]
        · rw [if_neg done]
          have onwardWhole : path = parent ++ [next] ++ onward := by simpa using whole
          have found := induction onwardWhole done last relatedRest
          rw [whole] at found
          simpa using found

end Reading

end CommitmentOptimizer.Shared.LocalObjects
