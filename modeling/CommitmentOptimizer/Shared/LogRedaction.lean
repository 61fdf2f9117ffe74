import Mathlib.Data.Fintype.Card
import Mathlib.Data.Fintype.EquivFin
import Mathlib.Logic.Relation
import Mathlib.Order.WellFounded
import CommitmentOptimizer.Foundations.KeyPatterns
import CommitmentOptimizer.Imports.UsageParsers

/-!
# What a log record shows

`redactRecord` of `logger.ts` on a graph of attributes. The visited set holds objects and no
arrays, so an array that holds itself is never left.
-/

namespace CommitmentOptimizer.Shared.LogRedaction

open Foundations.KeyPatterns
open Imports.UsageParsers (foldCase)
open Relation (ReflTransGen TransGen)

set_option autoImplicit false

section Graphs

/-- A value of a graph; objects, arrays and errors are told by their identity. -/
inductive AttributeValue (Id Primitive : Type) where
  | primitive (value : Primitive)
  | string (text : String)
  | reference (id : Id)

inductive AttributeNode (Id Primitive : Type) where
  | object (entries : List (String × AttributeValue Id Primitive))
  | array (items : List (AttributeValue Id Primitive))
  | error (name : String)

variable {Id Primitive : Type}

def AttributeNode.isObject : AttributeNode Id Primitive → Bool
  | object _ => true
  | array _ | error _ => false

/-- `Object.entries` of an object, which arrays and errors do not come to. -/
def AttributeNode.entries : AttributeNode Id Primitive → List (String × AttributeValue Id Primitive)
  | object entries => entries
  | array _ | error _ => []

/-- The attributes of a record. -/
structure AttributeGraph (Id Primitive : Type) where
  node : Id → AttributeNode Id Primitive
  root : Id
  record : (node root).isObject = true

end Graphs

section Redaction

def sensitiveWords : List (String × String) :=
  [("authorization", ""), ("cookie", ""), ("set", "cookie"), ("password", ""), ("passwd", ""),
    ("secret", ""), ("token", ""), ("csrf", ""), ("digest", ""), ("phc", ""), ("claim", ""),
    ("header", ""), ("request", "body"), ("email", ""), ("client", "ip"), ("raw", "ip"),
    ("api", "key"), ("dsn", ""), ("database", "url"), ("redis", "url"), ("connection", "url"),
    ("private", "key")]

/-- `SENSITIVE_KEY.test(key)`. -/
def isSensitiveKey (key : String) : Bool := matchesAny foldCase sensitiveWords key

variable {Id Primitive : Type}

inductive Redacted (Primitive : Type) where
  | primitive (value : Primitive)
  | string (text : String)
  | array (items : List (Redacted Primitive))
  | object (entries : List (String × Redacted Primitive))

/-- What a value becomes and the visited objects; `none` where the calls do not return. -/
abbrev Redactor (Id Primitive : Type) :=
  List Id → AttributeValue Id Primitive → Option (Redacted Primitive × List Id)

/-- `value.map((item) => redactValue(item, seen))`. -/
def redactItems (redact : Redactor Id Primitive) :
    List Id → List (AttributeValue Id Primitive) → Option (List (Redacted Primitive) × List Id)
  | seen, [] => some ([], seen)
  | seen, item :: rest =>
      (redact seen item).bind fun shown =>
        (redactItems redact shown.2 rest).map fun others => (shown.1 :: others.1, others.2)

/-- The loop of `redactObject`; `output["__proto__"] = value` makes no entry. -/
def redactEntries (redact : Redactor Id Primitive) :
    List Id → List (String × AttributeValue Id Primitive) →
      Option (List (String × Redacted Primitive) × List Id)
  | seen, [] => some ([], seen)
  | seen, (key, value) :: rest =>
      if isSensitiveKey key then
        (redactEntries redact seen rest).map fun others =>
          ((key, .string "[REDACTED]") :: others.1, others.2)
      else
        (redact seen value).bind fun shown =>
          (redactEntries redact shown.2 rest).map fun others =>
            (if key = "__proto__" then others.1 else (key, shown.1) :: others.1, others.2)

variable [DecidableEq Id] (redactString : String → String) (graph : AttributeGraph Id Primitive)

def redactObject (redact : Redactor Id Primitive) (seen : List Id) (input : Id) :
    Option (Redacted Primitive × List Id) :=
  if input ∈ seen then some (.object [("circular", .string "[REDACTED]")], seen)
  else
    (redactEntries redact (input :: seen) (graph.node input).entries).map fun shown =>
      (.object shown.1, shown.2)

/-- The first argument bounds the depth of the calls. -/
def redactValue : Nat → Redactor Id Primitive
  | 0, _, _ => none
  | depth + 1, seen, value =>
      match value with
      | .primitive value => some (.primitive value, seen)
      | .string text => some (.string (redactString text), seen)
      | .reference id =>
          match graph.node id with
          | .error name =>
              some (.object [("name", .string name), ("message", .string "[REDACTED_ERROR]")], seen)
          | .array items =>
              (redactItems (redactValue depth) seen items).map fun shown =>
                (.array shown.1, shown.2)
          | .object _ => redactObject graph (redactValue depth) seen id

def redactRecord (depth : Nat) : Option (Redacted Primitive) :=
  (redactObject graph (redactValue redactString graph depth) [] graph.root).map Prod.fst

end Redaction

section Purpose

variable {Id Primitive : Type} (graph : AttributeGraph Id Primitive)

/-- The values of a node that no sensitive key stands in front of. -/
def plainValues : AttributeNode Id Primitive → List (AttributeValue Id Primitive)
  | .object entries => (entries.filter fun entry => !isSensitiveKey entry.1).map Prod.snd
  | .array items => items
  | .error _ => []

def Refers (left right : Id) : Prop := .reference right ∈ plainValues (graph.node left)

/-- A path without sensitive keys leads from the root to the node. -/
def PlainReachable (id : Id) : Prop := ReflTransGen (Refers graph) graph.root id

def IsArray (id : Id) : Prop := ∃ items, graph.node id = .array items

/-- An array is an item of the other. -/
def Nests (left right : Id) : Prop := IsArray graph left ∧ IsArray graph right ∧ Refers graph left right

/-- Arrays that are items of each other are reached without a sensitive key. -/
def ArrayCycle : Prop := ∃ id, PlainReachable graph id ∧ TransGen (Nests graph) id id

inductive Leaf (Primitive : Type) where
  | primitive (value : Primitive)
  | string (text : String)

/-- The leaf stands somewhere in the redacted value. -/
inductive Shows : Redacted Primitive → Leaf Primitive → Prop where
  | primitive (value : Primitive) : Shows (.primitive value) (.primitive value)
  | string (text : String) : Shows (.string text) (.string text)
  | item {items : List (Redacted Primitive)} {item : Redacted Primitive} {leaf : Leaf Primitive} :
      item ∈ items → Shows item leaf → Shows (.array items) leaf
  | entry {entries : List (String × Redacted Primitive)} {entry : String × Redacted Primitive}
      {leaf : Leaf Primitive} :
      entry ∈ entries → Shows entry.2 leaf → Shows (.object entries) leaf

/-- The leaf is a placeholder, or comes from a value on a path without sensitive keys. -/
inductive Plain (redactString : String → String) : Leaf Primitive → Prop where
  | redacted : Plain redactString (.string "[REDACTED]")
  | redactedError : Plain redactString (.string "[REDACTED_ERROR]")
  | primitive {id : Id} {value : Primitive} : PlainReachable graph id →
      .primitive value ∈ plainValues (graph.node id) → Plain redactString (.primitive value)
  | string {id : Id} {text : String} : PlainReachable graph id →
      .string text ∈ plainValues (graph.node id) →
      Plain redactString (.string (redactString text))
  | error {id : Id} {name : String} : PlainReachable graph id →
      graph.node id = .error name → Plain redactString (.string name)

/-- A redacted value directly holds the other. -/
inductive Holds : Redacted Primitive → Redacted Primitive → Prop where
  | item {items : List (Redacted Primitive)} {item : Redacted Primitive} :
      item ∈ items → Holds (.array items) item
  | entry {entries : List (String × Redacted Primitive)} {entry : String × Redacted Primitive} :
      entry ∈ entries → Holds (.object entries) entry.2

/-- An entry without the value behind a sensitive key. -/
def mask (entry : String × AttributeValue Id Primitive) :
    String × Option (AttributeValue Id Primitive) :=
  (entry.1, if isSensitiveKey entry.1 then none else some entry.2)

/-- The nodes differ behind sensitive keys only. -/
inductive AlikeNodes : AttributeNode Id Primitive → AttributeNode Id Primitive → Prop where
  | object {left right : List (String × AttributeValue Id Primitive)} :
      left.map mask = right.map mask → AlikeNodes (.object left) (.object right)
  | array (items : List (AttributeValue Id Primitive)) : AlikeNodes (.array items) (.array items)
  | error (name : String) : AlikeNodes (.error name) (.error name)

/-- The graphs differ behind sensitive keys only. -/
structure Alike (left right : AttributeGraph Id Primitive) : Prop where
  root : left.root = right.root
  nodes : ∀ id, PlainReachable left id → AlikeNodes (left.node id) (right.node id)

end Purpose

section Depth

variable {Id Primitive : Type} {first second : Redactor Id Primitive}

theorem redact_items_mono (more : ∀ seen value shown, first seen value = some shown →
    second seen value = some shown) {items : List (AttributeValue Id Primitive)} {seen : List Id}
    {shown : List (Redacted Primitive) × List Id}
    (redacted : redactItems first seen items = some shown) :
    redactItems second seen items = some shown := by
  induction items generalizing seen shown with
  | nil => exact redacted
  | cons item rest induction =>
      obtain ⟨head, one, tail⟩ := Option.bind_eq_some_iff.mp redacted
      obtain ⟨others, later, same⟩ := Option.map_eq_some_iff.mp tail
      rw [redactItems, more _ _ _ one, Option.bind_some, induction later, Option.map_some, same]

theorem redact_entries_mono (more : ∀ seen value shown, first seen value = some shown →
    second seen value = some shown) {entries : List (String × AttributeValue Id Primitive)}
    {seen : List Id} {shown : List (String × Redacted Primitive) × List Id}
    (redacted : redactEntries first seen entries = some shown) :
    redactEntries second seen entries = some shown := by
  induction entries generalizing seen shown with
  | nil => exact redacted
  | cons entry rest induction =>
      rw [redactEntries] at redacted ⊢
      by_cases sensitive : isSensitiveKey entry.1 = true
      · rw [if_pos sensitive] at redacted ⊢
        obtain ⟨others, later, same⟩ := Option.map_eq_some_iff.mp redacted
        rw [induction later, Option.map_some, same]
      · rw [if_neg sensitive] at redacted ⊢
        obtain ⟨head, one, tail⟩ := Option.bind_eq_some_iff.mp redacted
        obtain ⟨others, later, same⟩ := Option.map_eq_some_iff.mp tail
        rw [more _ _ _ one, Option.bind_some, induction later, Option.map_some, same]

variable [DecidableEq Id] {redactString : String → String} {graph : AttributeGraph Id Primitive}

theorem redact_object_mono (more : ∀ seen value shown, first seen value = some shown →
    second seen value = some shown) {seen : List Id} {input : Id}
    {shown : Redacted Primitive × List Id}
    (redacted : redactObject graph first seen input = some shown) :
    redactObject graph second seen input = some shown := by
  unfold redactObject at redacted ⊢
  split_ifs at redacted ⊢
  · exact redacted
  · obtain ⟨others, later, same⟩ := Option.map_eq_some_iff.mp redacted
    rw [redact_entries_mono more later, Option.map_some, same]

theorem redact_error {depth : Nat} {seen : List Id} {id : Id} {name : String}
    (node : graph.node id = .error name) :
    redactValue redactString graph (depth + 1) seen (.reference id) =
      some (.object [("name", .string name), ("message", .string "[REDACTED_ERROR]")], seen) := by
  simp only [redactValue, node]

theorem redact_array {depth : Nat} {seen : List Id} {id : Id}
    {items : List (AttributeValue Id Primitive)} (node : graph.node id = .array items) :
    redactValue redactString graph (depth + 1) seen (.reference id) =
      (redactItems (redactValue redactString graph depth) seen items).map fun shown =>
        (.array shown.1, shown.2) := by
  simp only [redactValue, node]

theorem redact_reference {depth : Nat} {seen : List Id} {id : Id}
    {entries : List (String × AttributeValue Id Primitive)} (node : graph.node id = .object entries) :
    redactValue redactString graph (depth + 1) seen (.reference id) =
      redactObject graph (redactValue redactString graph depth) seen id := by
  simp only [redactValue, node]

/-- More depth changes nothing once the calls return. -/
theorem redact_value_succ {depth : Nat} {seen : List Id} {value : AttributeValue Id Primitive}
    {shown : Redacted Primitive × List Id}
    (redacted : redactValue redactString graph depth seen value = some shown) :
    redactValue redactString graph (depth + 1) seen value = some shown := by
  induction depth generalizing seen value shown with
  | zero => cases redacted
  | succ depth induction =>
      have more : ∀ seen value shown, redactValue redactString graph depth seen value = some shown →
          redactValue redactString graph (depth + 1) seen value = some shown :=
        fun _ _ _ => induction
      cases value with
      | primitive value | string text => exact redacted
      | reference id =>
          cases node : graph.node id with
          | error name =>
              rw [redact_error node] at redacted ⊢
              exact redacted
          | array items =>
              rw [redact_array node] at redacted ⊢
              obtain ⟨others, later, same⟩ := Option.map_eq_some_iff.mp redacted
              rw [redact_items_mono more later, Option.map_some, same]
          | object entries =>
              rw [redact_reference node] at redacted ⊢
              exact redact_object_mono more redacted

theorem redact_value_mono {depth deeper : Nat} (below : depth ≤ deeper) {seen : List Id}
    {value : AttributeValue Id Primitive} {shown : Redacted Primitive × List Id}
    (redacted : redactValue redactString graph depth seen value = some shown) :
    redactValue redactString graph deeper seen value = some shown := by
  induction below with
  | refl => exact redacted
  | step _ induction => exact redact_value_succ induction

end Depth

section Termination

variable {Id Primitive : Type} [DecidableEq Id] {redactString : String → String}
  {graph : AttributeGraph Id Primitive}

/-- The calls for a value return, and forget no visited object. -/
def Returns (redactString : String → String) (graph : AttributeGraph Id Primitive)
    (seen : List Id) (value : AttributeValue Id Primitive) : Prop :=
  ∃ depth shown, redactValue redactString graph depth seen value = some shown ∧ seen ⊆ shown.2

theorem items_return {items : List (AttributeValue Id Primitive)} {seen : List Id}
    (each : ∀ item ∈ items, ∀ later, seen ⊆ later → Returns redactString graph later item) :
    ∃ depth shown, redactItems (redactValue redactString graph depth) seen items = some shown ∧
      seen ⊆ shown.2 := by
  induction items generalizing seen with
  | nil => exact ⟨0, _, rfl, List.Subset.refl seen⟩
  | cons item rest induction =>
      obtain ⟨first, head, one, grown⟩ := each item List.mem_cons_self seen (List.Subset.refl seen)
      obtain ⟨second, others, tail, further⟩ := @induction head.2 fun other member later subset =>
        each other (List.mem_cons_of_mem _ member) later (List.Subset.trans grown subset)
      have deepHead := redact_value_mono (Nat.le_max_left first second) one
      have deepTail := redact_items_mono
        (fun _ _ _ => redact_value_mono (Nat.le_max_right first second)) tail
      refine ⟨max first second, (head.1 :: others.1, others.2), ?_, List.Subset.trans grown further⟩
      rw [redactItems, deepHead, Option.bind_some, deepTail, Option.map_some]

theorem entries_return {entries : List (String × AttributeValue Id Primitive)} {seen : List Id}
    (each : ∀ entry ∈ entries, isSensitiveKey entry.1 = false → ∀ later, seen ⊆ later →
      Returns redactString graph later entry.2) :
    ∃ depth shown, redactEntries (redactValue redactString graph depth) seen entries = some shown ∧
      seen ⊆ shown.2 := by
  induction entries generalizing seen with
  | nil => exact ⟨0, _, rfl, List.Subset.refl seen⟩
  | cons entry rest induction =>
      by_cases sensitive : isSensitiveKey entry.1 = true
      · obtain ⟨depth, others, tail, grown⟩ := @induction seen fun other member =>
          each other (List.mem_cons_of_mem _ member)
        refine ⟨depth, ((entry.1, .string "[REDACTED]") :: others.1, others.2), ?_, grown⟩
        rw [redactEntries, if_pos sensitive, tail, Option.map_some]
      · obtain ⟨first, head, one, grown⟩ := each entry List.mem_cons_self
          (Bool.eq_false_iff.mpr sensitive) seen (List.Subset.refl seen)
        obtain ⟨second, others, tail, further⟩ := @induction head.2
          fun other member plain later subset =>
            each other (List.mem_cons_of_mem _ member) plain later (List.Subset.trans grown subset)
        have deepHead := redact_value_mono (Nat.le_max_left first second) one
        have deepTail := redact_entries_mono
          (fun _ _ _ => redact_value_mono (Nat.le_max_right first second)) tail
        refine ⟨max first second, (if entry.1 = "__proto__" then others.1
          else (entry.1, head.1) :: others.1, others.2), ?_, List.Subset.trans grown further⟩
        rw [redactEntries, if_neg sensitive, deepHead, Option.bind_some, deepTail, Option.map_some]

theorem object_returns {seen : List Id} {input : Id}
    (each : input ∉ seen → ∀ value ∈ plainValues (graph.node input), ∀ later,
      input :: seen ⊆ later → Returns redactString graph later value)
    (isObject : (graph.node input).isObject = true) :
    ∃ depth shown, redactObject graph (redactValue redactString graph depth) seen input =
      some shown ∧ seen ⊆ shown.2 := by
  by_cases visited : input ∈ seen
  · exact ⟨0, _, if_pos visited, List.Subset.refl seen⟩
  · cases node : graph.node input with
    | array items | error name =>
        rw [node] at isObject
        cases isObject
    | object entries =>
        obtain ⟨depth, shown, redacted, grown⟩ := @entries_return Id Primitive _ redactString graph
          entries (input :: seen) fun entry member plain later subset => by
            refine each visited entry.2 ?_ later subset
            rw [node]
            exact List.mem_map_of_mem (List.mem_filter.mpr ⟨member, by rw [plain]; rfl⟩)
        refine ⟨depth, (.object shown.1, shown.2), ?_, List.Subset.trans (List.subset_cons_self _ _) grown⟩
        rw [redactObject, if_neg visited, node]
        exact Option.map_eq_some_iff.mpr ⟨shown, redacted, rfl⟩

variable [Fintype Id]

/-- The objects that are not visited yet. -/
def unseen (seen : List Id) : Nat := (Finset.univ.filter fun id => id ∉ seen).card

theorem unseen_mono {seen later : List Id} (subset : seen ⊆ later) : unseen later ≤ unseen seen :=
  Finset.card_le_card fun id member => by
    have fresh := (Finset.mem_filter.mp member).2
    exact Finset.mem_filter.mpr ⟨Finset.mem_univ id, fun visited => fresh (subset visited)⟩

theorem unseen_cons_lt {seen : List Id} {id : Id} (fresh : id ∉ seen) :
    unseen (id :: seen) < unseen seen := by
  refine Finset.card_lt_card ⟨fun other member => ?_, fun back => ?_⟩
  · have apart := (Finset.mem_filter.mp member).2
    exact Finset.mem_filter.mpr ⟨Finset.mem_univ other, fun visited =>
      apart (List.mem_cons_of_mem _ visited)⟩
  · have kept := back (Finset.mem_filter.mpr ⟨Finset.mem_univ id, fresh⟩)
    exact (Finset.mem_filter.mp kept).2 List.mem_cons_self

omit [DecidableEq Id] in
/-- Without a cycle, the arrays behind a node come to an end. -/
theorem nests_well_founded (acyclic : ¬ ArrayCycle graph) :
    WellFounded fun inner outer => PlainReachable graph outer ∧ Nests graph outer inner := by
  let below := fun inner outer : Id =>
    TransGen (fun left right => PlainReachable graph left ∧ Nests graph left right) outer inner
  have trans : IsTrans Id below := ⟨fun _ _ _ first second => second.trans first⟩
  have irrefl : Std.Irrefl below := ⟨fun id cycle => acyclic ⟨id, by
    obtain ⟨next, step, _⟩ := TransGen.head'_iff.mp cycle
    exact step.1, TransGen.mono (fun _ _ step => step.2) _ _ cycle⟩⟩
  have inside {inner outer : Id} (step : PlainReachable graph outer ∧ Nests graph outer inner) :
      below inner outer := TransGen.single step
  exact Subrelation.wf inside (Finite.wellFounded_of_trans_of_irrefl below)

omit [Fintype Id] in
theorem leaf_returns {seen : List Id} {value : AttributeValue Id Primitive}
    (leaf : ∀ id, value ≠ .reference id) : Returns redactString graph seen value := by
  cases value with
  | primitive value => exact ⟨1, (.primitive value, seen), rfl, List.Subset.refl seen⟩
  | string text => exact ⟨1, (.string (redactString text), seen), rfl, List.Subset.refl seen⟩
  | reference id => exact absurd rfl (leaf id)

/-- An object returns where the values behind it do, with more objects visited. -/
theorem visit_returns {count : Nat} (smaller : ∀ fewer < count, ∀ id seen,
      PlainReachable graph id → unseen seen ≤ fewer →
        Returns redactString graph seen (.reference id))
    {id : Id} {seen : List Id} (reachable : PlainReachable graph id) (few : unseen seen ≤ count)
    {entries : List (String × AttributeValue Id Primitive)}
    (node : graph.node id = .object entries) : Returns redactString graph seen (.reference id) := by
  obtain ⟨depth, shown, redacted, grown⟩ := @object_returns Id Primitive _ redactString graph seen
    id (fun fresh value plain later subset => by
      cases value with
      | primitive value => exact leaf_returns nofun
      | string text => exact leaf_returns nofun
      | reference next =>
          have fewer : unseen later < count :=
            ((unseen_mono subset).trans_lt (unseen_cons_lt fresh)).trans_le few
          exact smaller _ fewer next later (reachable.tail plain) (le_refl _)) (by rw [node]; rfl)
  exact ⟨depth + 1, shown, by rw [redact_reference node, redacted], grown⟩

theorem reachable_returns (acyclic : ¬ ArrayCycle graph) (count : Nat) :
    ∀ id seen, PlainReachable graph id → unseen seen ≤ count →
      Returns redactString graph seen (.reference id) := by
  induction count using Nat.strong_induction_on with
  | _ count induction =>
  intro id
  -- among as many visited objects, the arrays behind a node come to an end
  induction id using (nests_well_founded acyclic).induction with
  | _ id inner =>
  intro seen reachable few
  cases node : graph.node id with
  | error name => exact ⟨1, _, redact_error node, List.Subset.refl seen⟩
  | array items =>
      obtain ⟨depth, shown, redacted, grown⟩ := @items_return Id Primitive _ redactString graph
        items seen fun item member later subset => by
          cases item with
          | primitive value => exact leaf_returns nofun
          | string text => exact leaf_returns nofun
          | reference next =>
              have refers : Refers graph id next := by
                rw [Refers, node]
                exact member
              have fewer : unseen later ≤ count := (unseen_mono subset).trans few
              cases nextNode : graph.node next with
              | array others =>
                  exact inner next ⟨reachable, ⟨items, node⟩, ⟨others, nextNode⟩, refers⟩ later
                    (reachable.tail refers) fewer
              | error name => exact ⟨1, _, redact_error nextNode, List.Subset.refl later⟩
              | object entries => exact visit_returns induction (reachable.tail refers) fewer nextNode
      exact ⟨depth + 1, _, by rw [redact_array node, redacted, Option.map_some], grown⟩
  | object entries => exact visit_returns induction reachable few node

end Termination

section Coverage

variable {Id Primitive : Type} [DecidableEq Id] {redactString : String → String}
  {graph : AttributeGraph Id Primitive}

/-- The calls for the value have returned, with these objects visited. -/
def Done (redactString : String → String) (graph : AttributeGraph Id Primitive) (final : List Id)
    (value : AttributeValue Id Primitive) : Prop :=
  ∃ depth earlier one, redactValue redactString graph depth earlier value = some one ∧
    one.2 ⊆ final

def Covered (redactString : String → String) (graph : AttributeGraph Id Primitive)
    (final : List Id) (id : Id) : Prop :=
  ∀ value ∈ plainValues (graph.node id), Done redactString graph final value

theorem covered_mono {final later : List Id} (subset : final ⊆ later) {id : Id}
    (covered : Covered redactString graph final id) : Covered redactString graph later id :=
  fun value member => by
    obtain ⟨depth, earlier, one, redacted, within⟩ := covered value member
    exact ⟨depth, earlier, one, redacted, List.Subset.trans within subset⟩

/-- What returned calls have visited, and that they have left nothing behind it out. -/
structure Explored (redactString : String → String) (graph : AttributeGraph Id Primitive)
    (seen after : List Id) : Prop where
  grown : seen ⊆ after
  covered : ∀ id ∈ after, id ∈ seen ∨ Covered redactString graph after id

theorem Explored.refl (seen : List Id) : Explored redactString graph seen seen :=
  ⟨List.Subset.refl seen, fun _ member => Or.inl member⟩

theorem Explored.trans {seen middle after : List Id}
    (first : Explored redactString graph seen middle)
    (second : Explored redactString graph middle after) : Explored redactString graph seen after :=
  ⟨List.Subset.trans first.grown second.grown, fun id member => by
    rcases second.covered id member with visited | covered
    · exact (first.covered id visited).imp_right (covered_mono second.grown)
    · exact Or.inr covered⟩

variable {redact : Redactor Id Primitive}

theorem items_explored (each : ∀ seen value one, redact seen value = some one →
      Explored redactString graph seen one.2)
    {items : List (AttributeValue Id Primitive)} {seen : List Id}
    {shown : List (Redacted Primitive) × List Id}
    (redacted : redactItems redact seen items = some shown) :
    Explored redactString graph seen shown.2 ∧
      ∀ item ∈ items, ∃ earlier one, redact earlier item = some one ∧ one.2 ⊆ shown.2 := by
  induction items generalizing seen shown with
  | nil =>
      obtain rfl := Option.some.inj redacted
      exact ⟨Explored.refl seen, nofun⟩
  | cons item rest induction =>
      obtain ⟨head, one, tail⟩ := Option.bind_eq_some_iff.mp redacted
      obtain ⟨others, later, rfl⟩ := Option.map_eq_some_iff.mp tail
      obtain ⟨explored, members⟩ := induction later
      exact ⟨(each _ _ _ one).trans explored,
        List.forall_mem_cons.mpr ⟨⟨seen, head, one, explored.grown⟩, members⟩⟩

theorem entries_explored (each : ∀ seen value one, redact seen value = some one →
      Explored redactString graph seen one.2)
    {entries : List (String × AttributeValue Id Primitive)} {seen : List Id}
    {shown : List (String × Redacted Primitive) × List Id}
    (redacted : redactEntries redact seen entries = some shown) :
    Explored redactString graph seen shown.2 ∧
      ∀ entry ∈ entries, isSensitiveKey entry.1 = false →
        ∃ earlier one, redact earlier entry.2 = some one ∧ one.2 ⊆ shown.2 := by
  induction entries generalizing seen shown with
  | nil =>
      obtain rfl := Option.some.inj redacted
      exact ⟨Explored.refl seen, nofun⟩
  | cons entry rest induction =>
      rw [redactEntries] at redacted
      by_cases sensitive : isSensitiveKey entry.1 = true
      · rw [if_pos sensitive] at redacted
        obtain ⟨others, later, rfl⟩ := Option.map_eq_some_iff.mp redacted
        obtain ⟨explored, members⟩ := induction later
        refine ⟨explored, List.forall_mem_cons.mpr ⟨fun plain => ?_, members⟩⟩
        rw [sensitive] at plain
        cases plain
      · rw [if_neg sensitive] at redacted
        obtain ⟨head, one, tail⟩ := Option.bind_eq_some_iff.mp redacted
        obtain ⟨others, later, rfl⟩ := Option.map_eq_some_iff.mp tail
        obtain ⟨explored, members⟩ := induction later
        exact ⟨(each _ _ _ one).trans explored,
          List.forall_mem_cons.mpr ⟨fun _ => ⟨seen, head, one, explored.grown⟩, members⟩⟩

theorem object_explored {depth : Nat}
    (each : ∀ seen value one, redactValue redactString graph depth seen value = some one →
      Explored redactString graph seen one.2) {seen : List Id} {input : Id}
    {shown : Redacted Primitive × List Id}
    (redacted : redactObject graph (redactValue redactString graph depth) seen input = some shown)
    (isObject : (graph.node input).isObject = true) :
    Explored redactString graph seen shown.2 ∧ input ∈ shown.2 := by
  unfold redactObject at redacted
  split_ifs at redacted with visited
  · obtain rfl := Option.some.inj redacted
    exact ⟨Explored.refl seen, visited⟩
  · obtain ⟨others, later, rfl⟩ := Option.map_eq_some_iff.mp redacted
    obtain ⟨explored, members⟩ := entries_explored each later
    refine ⟨⟨List.Subset.trans (List.subset_cons_self _ _) explored.grown, fun id member => ?_⟩,
      explored.grown List.mem_cons_self⟩
    rcases explored.covered id member with within | covered
    · rcases List.mem_cons.mp within with rfl | earlier
      · refine Or.inr fun value plain => ?_
        cases node : graph.node id with
        | array items | error name =>
            rw [node] at isObject
            cases isObject
        | object entries =>
            rw [node] at plain
            obtain ⟨entry, kept, rfl⟩ := List.mem_map.mp plain
            obtain ⟨inside, harmless⟩ := List.mem_filter.mp kept
            rw [node] at members
            obtain ⟨before, one, redacted, subset⟩ :=
              members entry inside (by simpa using harmless)
            exact ⟨depth, before, one, redacted, subset⟩
      · exact Or.inl earlier
    · exact Or.inr covered

theorem value_explored {depth : Nat} {seen : List Id} {value : AttributeValue Id Primitive}
    {one : Redacted Primitive × List Id}
    (redacted : redactValue redactString graph depth seen value = some one) :
    Explored redactString graph seen one.2 := by
  induction depth generalizing seen value one with
  | zero => cases redacted
  | succ depth induction =>
      have each : ∀ seen value one, redactValue redactString graph depth seen value = some one →
          Explored redactString graph seen one.2 := fun _ _ _ => induction
      cases value with
      | primitive value | string text =>
          obtain rfl := Option.some.inj redacted
          exact Explored.refl seen
      | reference id =>
          cases node : graph.node id with
          | error name =>
              rw [redact_error node] at redacted
              obtain rfl := Option.some.inj redacted
              exact Explored.refl seen
          | array items =>
              rw [redact_array node] at redacted
              obtain ⟨others, later, rfl⟩ := Option.map_eq_some_iff.mp redacted
              exact (items_explored each later).1
          | object entries =>
              rw [redact_reference node] at redacted
              exact (object_explored each redacted (by rw [node]; rfl)).1

/-- The items of an array that is done are done. -/
theorem done_items {final : List Id} {id : Id} {items : List (AttributeValue Id Primitive)}
    (node : graph.node id = .array items) (done : Done redactString graph final (.reference id)) :
    ∀ item ∈ items, Done redactString graph final item := by
  intro item member
  obtain ⟨depth, earlier, one, redacted, within⟩ := done
  cases depth with
  | zero => cases redacted
  | succ depth =>
      rw [redact_array node] at redacted
      obtain ⟨others, later, rfl⟩ := Option.map_eq_some_iff.mp redacted
      obtain ⟨before, each, redacted, subset⟩ :=
        (items_explored (fun _ _ _ => value_explored) later).2 item member
      exact ⟨depth, before, each, redacted, List.Subset.trans subset within⟩

theorem done_visited {final : List Id} {id : Id} (isObject : (graph.node id).isObject = true)
    (done : Done redactString graph final (.reference id)) : id ∈ final := by
  obtain ⟨depth, earlier, one, redacted, within⟩ := done
  cases depth with
  | zero => cases redacted
  | succ depth =>
      cases node : graph.node id with
      | array items | error name =>
          rw [node] at isObject
          cases isObject
      | object entries =>
          rw [redact_reference node] at redacted
          exact within (object_explored (fun _ _ _ => value_explored) redacted isObject).2

/-- Calls for an array that holds itself do not return. -/
theorem cycle_not_done {depth : Nat} {id : Id} (cycle : TransGen (Nests graph) id id)
    {seen : List Id} {one : Redacted Primitive × List Id} :
    redactValue redactString graph depth seen (.reference id) ≠ some one := by
  induction depth generalizing id seen one with
  | zero => exact nofun
  | succ depth induction =>
      intro redacted
      obtain ⟨next, step, back⟩ := TransGen.head'_iff.mp cycle
      have onward := TransGen.tail' back step
      obtain ⟨⟨items, node⟩, _, refers⟩ := step
      rw [redact_array node] at redacted
      obtain ⟨others, later, rfl⟩ := Option.map_eq_some_iff.mp redacted
      rw [Refers, node] at refers
      obtain ⟨before, inner, again, _⟩ :=
        (items_explored (fun _ _ _ => value_explored) later).2 _ refers
      exact induction onward again

/-- A record that is redacted reaches no array that holds itself. -/
theorem redacted_acyclic {depth : Nat} {output : Redacted Primitive}
    (redacted : redactRecord redactString graph depth = some output) : ¬ ArrayCycle graph := by
  obtain ⟨shown, ran, _⟩ := Option.map_eq_some_iff.mp redacted
  obtain ⟨explored, visited⟩ := object_explored (fun _ _ _ => value_explored) ran graph.record
  have reached {id : Id} (reachable : PlainReachable graph id) :
      ((graph.node id).isObject = true → id ∈ shown.2) ∧
        (IsArray graph id → Done redactString graph shown.2 (.reference id)) := by
    induction reachable with
    | refl =>
        refine ⟨fun _ => visited, fun isArray => ?_⟩
        obtain ⟨items, node⟩ := isArray
        have record := graph.record
        rw [node] at record
        cases record
    | @tail outer inner _ refers induction =>
        have done : Done redactString graph shown.2 (.reference inner) := by
          cases node : graph.node outer with
          | object entries =>
              have member := induction.1 (by rw [node]; rfl)
              rcases explored.covered outer member with none | covered
              · cases none
              · exact covered _ refers
          | array items =>
              rw [Refers, node] at refers
              exact done_items node (induction.2 ⟨items, node⟩) _ refers
          | error name =>
              rw [Refers, node] at refers
              cases refers
        exact ⟨fun isObject => done_visited isObject done, fun _ => done⟩
  rintro ⟨id, reachable, cycle⟩
  obtain ⟨next, step, _⟩ := TransGen.head'_iff.mp cycle
  obtain ⟨depth, earlier, one, again, _⟩ := (reached reachable).2 step.1
  exact cycle_not_done cycle again

end Coverage

section Hiding

variable {Id Primitive : Type} {redact : Redactor Id Primitive}

theorem items_shown {items : List (AttributeValue Id Primitive)} {seen : List Id}
    {shown : List (Redacted Primitive) × List Id}
    (redacted : redactItems redact seen items = some shown) :
    ∀ part ∈ shown.1, ∃ item ∈ items, ∃ earlier one, redact earlier item = some one ∧
      one.1 = part := by
  induction items generalizing seen shown with
  | nil =>
      obtain rfl := Option.some.inj redacted
      exact nofun
  | cons item rest induction =>
      obtain ⟨head, one, tail⟩ := Option.bind_eq_some_iff.mp redacted
      obtain ⟨others, later, rfl⟩ := Option.map_eq_some_iff.mp tail
      refine List.forall_mem_cons.mpr ⟨⟨item, List.mem_cons_self, seen, head, one, rfl⟩, ?_⟩
      intro part member
      obtain ⟨source, inside, call⟩ := induction later part member
      exact ⟨source, List.mem_cons_of_mem _ inside, call⟩

theorem entries_shown {entries : List (String × AttributeValue Id Primitive)} {seen : List Id}
    {shown : List (String × Redacted Primitive) × List Id}
    (redacted : redactEntries redact seen entries = some shown) :
    ∀ part ∈ shown.1, part.2 = .string "[REDACTED]" ∨
      ∃ entry ∈ entries, isSensitiveKey entry.1 = false ∧
        ∃ earlier one, redact earlier entry.2 = some one ∧ one.1 = part.2 := by
  induction entries generalizing seen shown with
  | nil =>
      obtain rfl := Option.some.inj redacted
      exact nofun
  | cons entry rest induction =>
      have onward {others : List (String × Redacted Primitive) × List Id} {seen : List Id}
          (later : redactEntries redact seen rest = some others) : ∀ part ∈ others.1,
          part.2 = .string "[REDACTED]" ∨ ∃ source ∈ entry :: rest,
            isSensitiveKey source.1 = false ∧
              ∃ earlier one, redact earlier source.2 = some one ∧ one.1 = part.2 := by
        intro part member
        refine (induction later part member).imp_right ?_
        rintro ⟨source, inside, call⟩
        exact ⟨source, List.mem_cons_of_mem _ inside, call⟩
      rw [redactEntries] at redacted
      by_cases sensitive : isSensitiveKey entry.1 = true
      · rw [if_pos sensitive] at redacted
        obtain ⟨others, later, rfl⟩ := Option.map_eq_some_iff.mp redacted
        exact List.forall_mem_cons.mpr ⟨Or.inl rfl, onward later⟩
      · rw [if_neg sensitive] at redacted
        obtain ⟨head, one, tail⟩ := Option.bind_eq_some_iff.mp redacted
        obtain ⟨others, later, rfl⟩ := Option.map_eq_some_iff.mp tail
        dsimp only
        split_ifs
        · exact onward later
        · exact List.forall_mem_cons.mpr ⟨Or.inr ⟨entry, List.mem_cons_self,
            Bool.eq_false_iff.mpr sensitive, seen, head, one, rfl⟩, onward later⟩

variable [DecidableEq Id] {redactString : String → String} {graph : AttributeGraph Id Primitive}

/-- The value belongs to a node on a path without sensitive keys. -/
def Sourced (graph : AttributeGraph Id Primitive) (value : AttributeValue Id Primitive) : Prop :=
  ∃ id, PlainReachable graph id ∧ value ∈ plainValues (graph.node id)

omit [DecidableEq Id] in
theorem plain_entry {entries : List (String × AttributeValue Id Primitive)}
    {entry : String × AttributeValue Id Primitive} (member : entry ∈ entries)
    (harmless : isSensitiveKey entry.1 = false) : entry.2 ∈ plainValues (.object entries) :=
  List.mem_map_of_mem (List.mem_filter.mpr ⟨member, by rw [harmless]; rfl⟩)

theorem object_shows_plain {depth : Nat}
    (each : ∀ seen value one, Sourced graph value →
      redactValue redactString graph depth seen value = some one →
        ∀ leaf, Shows one.1 leaf → Plain graph redactString leaf) {seen : List Id} {id : Id}
    (reachable : PlainReachable graph id) {one : Redacted Primitive × List Id}
    (redacted : redactObject graph (redactValue redactString graph depth) seen id = some one) :
    ∀ leaf, Shows one.1 leaf → Plain graph redactString leaf := by
  intro leaf shows
  unfold redactObject at redacted
  split_ifs at redacted
  · obtain rfl := Option.some.inj redacted
    cases shows with
    | entry member inside =>
        obtain rfl := List.mem_singleton.mp member
        cases inside
        exact .redacted
  · obtain ⟨others, later, rfl⟩ := Option.map_eq_some_iff.mp redacted
    cases shows with
    | entry member inside =>
        rcases entries_shown later _ member with placeholder | ⟨source, within, harmless, call⟩
        · rw [placeholder] at inside
          cases inside
          exact .redacted
        · obtain ⟨earlier, part, redacted, same⟩ := call
          rw [← same] at inside
          refine each earlier source.2 part ⟨id, reachable, ?_⟩ redacted leaf inside
          cases node : graph.node id with
          | object entries =>
              rw [node] at within
              exact plain_entry within harmless
          | array items | error name =>
              rw [node] at within
              cases within

/-- Nothing behind a sensitive key is shown. -/
theorem value_shows_plain {depth : Nat} {seen : List Id} {value : AttributeValue Id Primitive}
    {one : Redacted Primitive × List Id} (sourced : Sourced graph value)
    (redacted : redactValue redactString graph depth seen value = some one) :
    ∀ leaf, Shows one.1 leaf → Plain graph redactString leaf := by
  induction depth generalizing seen value one with
  | zero => cases redacted
  | succ depth induction =>
      obtain ⟨owner, reachable, member⟩ := sourced
      intro leaf shows
      cases value with
      | primitive value =>
          obtain rfl := Option.some.inj redacted
          cases shows
          exact .primitive reachable member
      | string text =>
          obtain rfl := Option.some.inj redacted
          cases shows
          exact .string reachable member
      | reference id =>
          have inner : PlainReachable graph id := reachable.tail member
          cases node : graph.node id with
          | error name =>
              rw [redact_error node] at redacted
              obtain rfl := Option.some.inj redacted
              cases shows with
              | entry part inside =>
                  simp only [List.mem_cons, List.not_mem_nil, or_false] at part
                  rcases part with rfl | rfl
                  · cases inside
                    exact .error inner node
                  · cases inside
                    exact .redactedError
          | array items =>
              rw [redact_array node] at redacted
              obtain ⟨others, later, rfl⟩ := Option.map_eq_some_iff.mp redacted
              cases shows with
              | item part inside =>
                  obtain ⟨source, within, earlier, call, redacted, rfl⟩ := items_shown later _ part
                  refine induction ⟨id, inner, ?_⟩ redacted leaf inside
                  rw [node]
                  exact within
          | object entries =>
              rw [redact_reference node] at redacted
              exact object_shows_plain (fun _ _ _ sourced => induction sourced) inner redacted leaf
                shows

end Hiding

section Blindness

variable {Id Primitive : Type} {first second : Redactor Id Primitive}

theorem items_congr {items : List (AttributeValue Id Primitive)}
    (same : ∀ item ∈ items, ∀ seen, first seen item = second seen item) (seen : List Id) :
    redactItems first seen items = redactItems second seen items := by
  induction items generalizing seen with
  | nil => rfl
  | cons item rest induction =>
      obtain ⟨head, tail⟩ := List.forall_mem_cons.mp same
      rw [redactItems, redactItems, head seen]
      exact congrArg _ (funext fun shown => by rw [induction tail])

theorem entries_congr {left right : List (String × AttributeValue Id Primitive)}
    (masked : left.map mask = right.map mask)
    (same : ∀ entry ∈ left, isSensitiveKey entry.1 = false →
      ∀ seen, first seen entry.2 = second seen entry.2) (seen : List Id) :
    redactEntries first seen left = redactEntries second seen right := by
  induction left generalizing right seen with
  | nil =>
      obtain rfl := List.map_eq_nil_iff.mp masked.symm
      rfl
  | cons entry rest induction =>
      obtain ⟨other, others, rfl, sameEntry, sameRest⟩ := List.map_eq_cons_iff.mp masked.symm
      obtain ⟨head, tail⟩ := List.forall_mem_cons.mp same
      obtain ⟨sameKey, sameValue⟩ := Prod.mk.inj sameEntry
      rw [redactEntries, redactEntries, sameKey]
      by_cases sensitive : isSensitiveKey entry.1 = true
      · rw [if_pos sensitive, if_pos sensitive, induction sameRest.symm tail]
      · rw [sameKey, if_neg sensitive, if_neg sensitive] at sameValue
        rw [if_neg sensitive, if_neg sensitive, head (Bool.eq_false_iff.mpr sensitive) seen,
          Option.some.inj sameValue]
        exact congrArg _ (funext fun shown => by rw [induction sameRest.symm tail])

variable [DecidableEq Id] {redactString : String → String} {left right : AttributeGraph Id Primitive}

theorem object_alike (alike : Alike left right)
    (same : ∀ value, Sourced left value → ∀ seen, first seen value = second seen value) {id : Id}
    (reachable : PlainReachable left id) (seen : List Id) :
    redactObject left first seen id = redactObject right second seen id := by
  have entries (seen : List Id) : redactEntries first seen (left.node id).entries =
      redactEntries second seen (right.node id).entries := by
    have sourced : ∀ value ∈ plainValues (left.node id), ∀ seen,
        first seen value = second seen value := fun value member =>
      same value ⟨id, reachable, member⟩
    have nodes := alike.nodes id reachable
    generalize left.node id = leftNode at *
    generalize right.node id = rightNode at *
    cases nodes with
    | object masked =>
        exact entries_congr masked (fun entry member harmless =>
          sourced entry.2 (plain_entry member harmless)) seen
    | array items => rfl
    | error name => rfl
  rw [redactObject, redactObject, entries]

/-- What is behind sensitive keys makes no difference. -/
theorem value_alike (alike : Alike left right) (depth : Nat) :
    ∀ value, Sourced left value → ∀ seen,
      redactValue redactString left depth seen value =
        redactValue redactString right depth seen value := by
  induction depth with
  | zero => exact fun _ _ _ => rfl
  | succ depth induction =>
      rintro value ⟨owner, reachable, member⟩ seen
      cases value with
      | primitive value | string text => rfl
      | reference id =>
          have inner : PlainReachable left id := reachable.tail member
          have nodes := alike.nodes id inner
          cases leftNode : left.node id with
          | error name =>
              cases rightNode : right.node id <;> rw [leftNode, rightNode] at nodes <;> cases nodes
              rw [redact_error leftNode, redact_error rightNode]
          | array items =>
              cases rightNode : right.node id <;> rw [leftNode, rightNode] at nodes <;> cases nodes
              rw [redact_array leftNode, redact_array rightNode, items_congr fun item within =>
                induction item ⟨id, inner, by rw [leftNode]; exact within⟩]
          | object entries =>
              cases rightNode : right.node id <;> rw [leftNode, rightNode] at nodes <;> cases nodes
              rw [redact_reference leftNode, redact_reference rightNode,
                object_alike alike induction inner]

end Blindness

section Records

variable {Id Primitive : Type} [DecidableEq Id] (redactString : String → String)
  (graph : AttributeGraph Id Primitive)

/-- What is promised of the redaction of a record. -/
structure RedactsSafely : Prop where
  terminates : ∃ depth output, redactRecord redactString graph depth = some output
  acyclic : ∀ depth output, redactRecord redactString graph depth = some output →
    ∀ part, (part = output ∨ TransGen Holds output part) → ¬ TransGen Holds part part
  hides : ∀ depth output, redactRecord redactString graph depth = some output →
    ∀ leaf, Shows output leaf → Plain graph redactString leaf
  blind : ∀ other, Alike graph other → ∀ depth,
    redactRecord redactString graph depth = redactRecord redactString other depth

theorem holds_smaller {outer inner : Redacted Primitive} (holds : Holds outer inner) :
    sizeOf inner < sizeOf outer := by
  cases holds with
  | item member =>
      have below := List.sizeOf_lt_of_mem member
      rw [Redacted.array.sizeOf_spec]
      omega
  | @entry entries entry member =>
      have below := List.sizeOf_lt_of_mem member
      have part : sizeOf entry.2 < sizeOf entry := by
        rw [show sizeOf entry = 1 + sizeOf entry.1 + sizeOf entry.2 from rfl]
        omega
      rw [Redacted.object.sizeOf_spec]
      omega

theorem holds_acyclic (part : Redacted Primitive) : ¬ TransGen Holds part part := by
  intro cycle
  have smaller {outer inner : Redacted Primitive} (chain : TransGen Holds outer inner) :
      sizeOf inner < sizeOf outer := by
    induction chain with
    | single step => exact holds_smaller step
    | tail _ step induction => exact (holds_smaller step).trans induction
  exact lt_irrefl _ (smaller cycle)

/-- A record is redacted, and what is behind sensitive keys hidden, exactly when no array
that holds itself through arrays is reached without a sensitive key. -/
theorem redacts_safely_iff [Fintype Id] :
    RedactsSafely redactString graph ↔ ¬ ArrayCycle graph := by
  have root : PlainReachable graph graph.root := .refl
  constructor
  · rintro ⟨⟨depth, output, redacted⟩, _⟩
    exact redacted_acyclic redacted
  · intro acyclic
    refine ⟨?_, fun _ _ _ part _ => holds_acyclic part, ?_, ?_⟩
    · obtain ⟨depth, shown, redacted, _⟩ :=
        @object_returns Id Primitive _ redactString graph [] graph.root
          (fun _ value plain later _ => by
            cases value with
            | primitive value => exact leaf_returns nofun
            | string text => exact leaf_returns nofun
            | reference next =>
                exact reachable_returns acyclic _ next later (root.tail plain) (le_refl _))
          graph.record
      exact ⟨depth, shown.1, Option.map_eq_some_iff.mpr ⟨shown, redacted, rfl⟩⟩
    · intro depth output redacted
      obtain ⟨shown, ran, rfl⟩ := Option.map_eq_some_iff.mp redacted
      exact object_shows_plain (fun _ _ _ => value_shows_plain) root ran
    · intro other alike depth
      rw [redactRecord, redactRecord, ← alike.root,
        object_alike alike (value_alike alike depth) root]

/-- Attributes with an array that is its own item. -/
def selfItem : AttributeGraph Bool Unit where
  node id := if id then .object [("items", .reference false)] else .array [.reference false]
  root := true
  record := rfl

theorem self_item_never_redacted :
    ¬ ∀ (Id Primitive : Type) (_ : Fintype Id) (_ : DecidableEq Id)
      (redactString : String → String) (graph : AttributeGraph Id Primitive),
      RedactsSafely redactString graph := by
  intro always
  obtain ⟨depth, output, redacted⟩ := (always Bool Unit inferInstance inferInstance id selfItem).terminates
  refine redacted_acyclic redacted ⟨false, .single ?_, .single ⟨⟨_, rfl⟩, ⟨_, rfl⟩, ?_⟩⟩
  · have plain : isSensitiveKey "items" = false := by decide
    exact @plain_entry Bool Unit _ ("items", .reference false) List.mem_cons_self plain
  · exact List.mem_cons_self

end Records

end CommitmentOptimizer.Shared.LogRedaction
