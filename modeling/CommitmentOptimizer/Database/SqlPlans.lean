import CommitmentOptimizer.Foundations.AscendingLists
import CommitmentOptimizer.Foundations.IsoInstants
import CommitmentOptimizer.Foundations.PartialLists
import CommitmentOptimizer.Foundations.Utf8Decoding

/-!
# Plans of SQL files

`sql-plan.ts`. A directory is what `readdir` and `readFile` say of it; the digest and
`localeCompare` are parameters. The `path` of a file is not kept.
-/

namespace CommitmentOptimizer.Database.SqlPlans

open Foundations
open Foundations.AscendingLists
open Foundations.BigIntText
open Foundations.IsoInstants
open Foundations.PartialLists
open Foundations.SqlConstraints
open Foundations.Utf8Decoding

set_option autoImplicit false

inductive SqlPlanKind where
  | migration | setup
  deriving DecidableEq

/-- The kind's own text, which `planLabel` gives too. -/
def planLabel : SqlPlanKind → String
  | .migration => "migration"
  | .setup => "setup"

structure Dirent where
  name : String
  isFile : Bool

structure SqlDirectory where
  path : String
  entries : Except String (List Dirent)
  content : String → Except String (List UInt8)

inductive SqlPlanError where
  | migrationPlanError (message : String)
  | unreadable (message : String)
  deriving DecidableEq

def isNameStart (character : Char) : Bool := character.isLower || character.isDigit

def isNameCharacter (character : Char) : Bool :=
  isNameStart character || character = '_' || character = '-'

/-- `/^(\d{4,})_([a-z0-9][a-z0-9_-]*)\.sql$/u`, with its two groups. -/
def matchSqlFilename (filename : String) : Option (String × String) :=
  let version := filename.toList.takeWhile Char.isDigit
  match filename.toList.dropWhile Char.isDigit with
  | '_' :: described =>
      let name := described.takeWhile isNameCharacter
      if 4 ≤ version.length ∧ name.head?.any isNameStart = true ∧
          described.dropWhile isNameCharacter = ".sql".toList then
        some (String.ofList version, String.ofList name)
      else none
  | _ => none

structure SqlFile where
  version : String
  name : String
  filename : String
  checksum : String
  sql : String
  named : matchSqlFilename filename = some (version, name)
  deriving DecidableEq

/-- `BigInt(file.version)`. -/
def SqlFile.number (file : SqlFile) : Nat := digitsValue file.version.toList

section Discovery

variable (sha256 : List UInt8 → String) (localeCompare : String → String → Int)

def isSqlEntry (entry : Dirent) : Bool := entry.isFile && entry.name.endsWith ".sql"

def validateSqlEntries (entries : List Dirent) (directory : String) (kind : SqlPlanKind) :
    Except SqlPlanError (List Dirent) :=
  let sqlEntries := entries.filter isSqlEntry
  match sqlEntries.find? fun entry => (matchSqlFilename entry.name).isNone with
  | some malformed => .error (.migrationPlanError
      s!"Invalid {planLabel kind} filename {malformed.name}; expected NNNN_description.sql.")
  | none =>
      if sqlEntries = [] then
        .error (.migrationPlanError s!"No {planLabel kind} files found in {directory}.")
      else .ok sqlEntries

def loadSqlFile (directory : SqlDirectory) (kind : SqlPlanKind) (entry : Dirent) :
    Except SqlPlanError SqlFile :=
  match named : matchSqlFilename entry.name with
  | none => .error (.migrationPlanError s!"Invalid {planLabel kind} filename {entry.name}.")
  | some (version, name) =>
      match directory.content entry.name with
      | .error message => .error (.unreadable message)
      | .ok content => .ok
          { version := version, name := name, filename := entry.name, checksum := sha256 content,
            sql := String.ofList (decodeUtf8 content), named := named }

def compareSqlFiles (left right : SqlFile) : Int :=
  if left.number < right.number then -1
  else if right.number < left.number then 1
  else localeCompare left.filename right.filename

def validateUniqueVersions (kind : SqlPlanKind) : List SqlFile → Except SqlPlanError Unit
  | previous :: current :: rest =>
      if previous.number = current.number then
        .error (.migrationPlanError (s!"Duplicate {planLabel kind} version {current.version}: " ++
          s!"{previous.filename} and {current.filename}."))
      else validateUniqueVersions kind (current :: rest)
  | _ => .ok ()

/-- Of several files that cannot be read, the first listed one is reported. -/
def discoverSqlFiles (directory : SqlDirectory) (kind : SqlPlanKind) :
    Except SqlPlanError (List SqlFile) :=
  match directory.entries with
  | .error message => .error (.migrationPlanError
      s!"Cannot read {planLabel kind} directory {directory.path}: {message}")
  | .ok listed => do
      let entries ← validateSqlEntries listed directory.path kind
      let loaded ← entries.mapM (loadSqlFile sha256 directory kind)
      let files := loaded.insertionSort fun left right =>
        compareSqlFiles localeCompare left right ≤ 0
      validateUniqueVersions kind files
      return files

end Discovery

theorem version_read (file : SqlFile) :
    file.version.toList = file.filename.toList.takeWhile Char.isDigit ∧
      4 ≤ file.version.toList.length := by
  have named := file.named
  unfold matchSqlFilename at named
  split at named
  · dsimp only at named
    split_ifs at named with holds
    have version : String.ofList (file.filename.toList.takeWhile Char.isDigit) = file.version :=
      congrArg Prod.fst (Option.some.inj named)
    rw [← version, String.toList_ofList]
    exact ⟨rfl, holds.1⟩
  · cases named

theorem version_digits (file : SqlFile) :
    ∀ character ∈ file.version.toList, character.isDigit = true := by
  rw [(version_read file).1]
  exact fun character member => List.mem_takeWhile_imp member

theorem version_nonempty (file : SqlFile) : file.version.toList ≠ [] := by
  intro empty
  have long := (version_read file).2
  rw [empty] at long
  exact absurd long (by decide)

theorem big_int_of_version (file : SqlFile) :
    bigIntOfString file.version = some (file.number : Int) :=
  big_int_of_digits (version_nonempty file) (version_digits file)

/-- The version is read off the filename. -/
theorem version_of_filename {left right : SqlFile} (same : left.filename = right.filename) :
    left.version = right.version := by
  have named := left.named
  rw [same, right.named] at named
  exact (congrArg Prod.fst (Option.some.inj named)).symm

section Discovered

variable {sha256 : List UInt8 → String} {localeCompare : String → String → Int}
  {directory : SqlDirectory} {kind : SqlPlanKind} {files : List SqlFile}

/-- The file holds what the directory has under its filename. -/
def Loaded (sha256 : List UInt8 → String) (directory : SqlDirectory) (file : SqlFile) : Prop :=
  ∃ content, directory.content file.filename = .ok content ∧ file.checksum = sha256 content ∧
    file.sql = String.ofList (decodeUtf8 content)

theorem load_ok {entry : Dirent} {file : SqlFile} :
    loadSqlFile sha256 directory kind entry = .ok file ↔
      file.filename = entry.name ∧ Loaded sha256 directory file := by
  unfold loadSqlFile
  split
  case h_1 unnamed =>
    constructor
    · intro loaded
      cases loaded
    · intro ⟨same, _⟩
      have named := file.named
      rw [same, unnamed] at named
      cases named
  case h_2 version name named =>
    cases read : directory.content entry.name with
    | error message =>
        constructor
        · intro loaded
          cases loaded
        · intro ⟨same, content, found, _⟩
          rw [same, read] at found
          cases found
    | ok content =>
        constructor
        · intro loaded
          cases loaded
          exact ⟨rfl, content, read, rfl, rfl⟩
        · intro ⟨same, other, found, checksum, sql⟩
          rw [same, read] at found
          cases found
          have alsoNamed := file.named
          rw [same, named] at alsoNamed
          cases file
          cases alsoNamed
          cases same
          cases checksum
          cases sql
          rfl

theorem loaded_files_iff {entries : List Dirent} :
    entries.mapM (loadSqlFile sha256 directory kind) = .ok files ↔
      files.map SqlFile.filename = entries.map Dirent.name ∧
        ∀ file ∈ files, Loaded sha256 directory file := by
  rw [map_m_ok_iff]
  induction entries generalizing files with
  | nil =>
      rw [List.forall₂_nil_left_iff, List.map_nil, List.map_eq_nil_iff]
      constructor
      · intro empty
        rw [empty]
        exact ⟨rfl, fun file member => absurd member List.not_mem_nil⟩
      · exact And.left
  | cons entry entries induction =>
      cases files with
      | nil => simp
      | cons file files =>
          rw [List.forall₂_cons, load_ok, induction, List.map_cons, List.map_cons, List.cons.injEq,
            List.forall_mem_cons]
          tauto

theorem validate_entries_ok {entries sqlEntries : List Dirent} {path : String} :
    validateSqlEntries entries path kind = .ok sqlEntries ↔
      sqlEntries = entries.filter isSqlEntry ∧ sqlEntries ≠ [] ∧
        ∀ entry ∈ sqlEntries, (matchSqlFilename entry.name).isSome = true := by
  unfold validateSqlEntries
  cases malformed : (entries.filter isSqlEntry).find?
      fun entry => (matchSqlFilename entry.name).isNone with
  | some entry =>
      have found := List.find?_some malformed
      have member := List.mem_of_find?_eq_some malformed
      simp only [malformed]
      constructor
      · intro valid
        cases valid
      · intro ⟨same, _, every⟩
        have matched := every entry (by rw [same]; exact member)
        rw [← Option.not_isNone, found] at matched
        cases matched
  | none =>
      have every : ∀ entry ∈ entries.filter isSqlEntry,
          (matchSqlFilename entry.name).isSome = true := by
        intro entry member
        have matched := List.find?_eq_none.mp malformed entry member
        cases named : matchSqlFilename entry.name with
        | none => rw [named] at matched; exact absurd rfl matched
        | some groups => rfl
      simp only [malformed]
      split_ifs with empty
      · constructor
        · intro valid
          cases valid
        · intro ⟨same, nonempty, _⟩
          exact absurd (same.trans empty) nonempty
      · constructor
        · intro valid
          cases valid
          exact ⟨rfl, empty, every⟩
        · intro ⟨same, _, _⟩
          rw [same]

theorem unique_versions_iff :
    validateUniqueVersions kind files = .ok () ↔
      files.IsChain fun previous current => previous.number ≠ current.number := by
  fun_induction validateUniqueVersions kind files with
  | case1 previous current rest same => simp [same]
  | case2 previous current rest differ induction => simp [differ, induction]
  | case3 files short =>
      cases files with
      | nil => simp
      | cons first rest =>
          cases rest with
          | nil => simp
          | cons second rest => exact absurd rfl (short first second rest)

theorem sorted_by_version (loaded : List SqlFile) :
    (loaded.insertionSort fun left right => compareSqlFiles localeCompare left right ≤ 0).Pairwise
      fun earlier later => earlier.number ≤ later.number := by
  apply sorted_by_number
  · intro left right less
    rw [compareSqlFiles, if_pos less]
    decide
  · intro left right less
    rw [compareSqlFiles, if_neg (by omega), if_pos less]
    decide

theorem unique_of_ascending (ascending : Ascending SqlFile.number files) :
    validateUniqueVersions kind files = .ok () := by
  apply unique_versions_iff.mpr
  apply List.IsChain.imp _ (List.Pairwise.isChain ascending)
  intro earlier later less
  exact Nat.ne_of_lt less

theorem discovered_ascending
    (discovered : discoverSqlFiles sha256 localeCompare directory kind = .ok files) :
    Ascending SqlFile.number files := by
  unfold discoverSqlFiles at discovered
  cases listed : directory.entries with
  | error message =>
      rw [listed] at discovered
      cases discovered
  | ok entries =>
      rw [listed] at discovered
      obtain ⟨_, _, loading⟩ := bind_ok.mp discovered
      obtain ⟨loaded, _, sorting⟩ := bind_ok.mp loading
      obtain ⟨_, unique, result⟩ := bind_ok.mp sorting
      rw [← Except.ok.inj result]
      exact ascending_of_neighbours (sorted_by_version loaded) (unique_versions_iff.mp unique)

/-- What is discovered: the SQL files of the directory in ascending order of their versions,
whatever the order in which the directory lists them and whatever the locale. -/
theorem discovered_iff :
    discoverSqlFiles sha256 localeCompare directory kind = .ok files ↔
      Ascending SqlFile.number files ∧ files ≠ [] ∧
        (∀ file ∈ files, Loaded sha256 directory file) ∧
        ∃ listed, directory.entries = .ok listed ∧
          (files.map SqlFile.filename).Perm ((listed.filter isSqlEntry).map Dirent.name) := by
  unfold discoverSqlFiles
  cases directory.entries with
  | error message =>
      constructor
      · intro discovered
        cases discovered
      · intro ⟨_, _, _, listed, same, _⟩
        cases same
  | ok listed =>
      simp only [bind_ok, validate_entries_ok, loaded_files_iff]
      constructor
      · intro ⟨entries, ⟨same, nonempty, _⟩, loaded, ⟨names, each⟩, _, unique, result⟩
        have result := Except.ok.inj result
        have sorting := List.perm_insertionSort
          (fun left right => compareSqlFiles localeCompare left right ≤ 0) loaded
        have sorted := @sorted_by_version localeCompare loaded
        rw [result] at sorting sorted unique
        refine ⟨ascending_of_neighbours sorted (unique_versions_iff.mp unique), ?_,
          fun file member => each file (sorting.mem_iff.mp member), listed, rfl, ?_⟩
        · intro empty
          rw [empty] at sorting
          rw [sorting.nil_eq.symm] at names
          exact nonempty (List.map_eq_nil_iff.mp names.symm)
        · rw [← same, ← names]
          exact sorting.map _
      · intro ⟨ascending, nonempty, each, _, same, names⟩
        obtain rfl := Except.ok.inj same
        have own : List.Forall₂ (fun (name : String) (file : SqlFile) => file.filename = name)
            (files.map SqlFile.filename) files := by
          rw [List.forall₂_map_left_iff]
          exact List.forall₂_same.mpr fun file _ => rfl
        obtain ⟨loaded, named, order⟩ := List.perm_comp_forall₂ names.symm own
        have renamed : loaded.map SqlFile.filename =
            (listed.filter isSqlEntry).map Dirent.name := by
          rw [← List.forall₂_eq_eq_eq, List.forall₂_map_left_iff]
          exact named.flip
        have sorting := List.perm_insertionSort
          (fun left right => compareSqlFiles localeCompare left right ≤ 0) loaded
        have sorts := sorted_eq_of_perm ascending (sorted_by_version loaded) (sorting.trans order)
        refine ⟨listed.filter isSqlEntry, ⟨rfl, ?_, ?_⟩, loaded,
          ⟨renamed, fun file member => each file (order.mem_iff.mp member)⟩, (),
          by rw [sorts]; exact unique_of_ascending ascending, by rw [sorts]; rfl⟩
        · intro empty
          rw [empty] at names
          exact nonempty (List.map_eq_nil_iff.mp names.eq_nil)
        · intro entry member
          obtain ⟨file, _, same⟩ := List.mem_map.mp
            (names.mem_iff.mpr (List.mem_map_of_mem member))
          rw [← same, file.named]
          rfl

end Discovered


end CommitmentOptimizer.Database.SqlPlans
