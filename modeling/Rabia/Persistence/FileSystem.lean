import Rabia.Core.Types
import Rabia.Lib.FileSystem
import Mathlib.Data.String.Basic

/-!
# Persistence in the file system

`rabia-persistence/src/file_system.rs`. The process may end at any point of a
`save_state`, between any two pieces in which the temporary file is written, and be
started again on the same directory. Renaming is atomic, and what was done before the
end stays done, in order.
-/

namespace Rabia

open Rabia.Lib

namespace FileSystemPersistence

/-- `state_file_path`, within the data directory. -/
def stateFile : String := "state.dat"

/-- `state_file_path.with_extension("tmp")`. -/
def tempFile : String := "state.tmp"

/-- The data directory, none when it does not exist. -/
abbrev Disk := Option (Directory String)

/-- `FileSystemPersistence::new`, with the outcome of `create_dir_all`. -/
def new (createDir : Except String Unit) (disk : Disk) : Except RabiaError Unit × Disk :=
  match disk, createDir with
  | some files, _ => (.ok (), some files)
  | none, .ok () => (.ok (), some ∅)
  | none, .error e => (.error (.persistence s!"Failed to create data directory: {e}"), none)

/-- The pieces in which a write reaches the disk, by their lengths. -/
def pieces : List Nat → Bytes → List Bytes
  | [], state => [state]
  | n :: cuts, state => state.take n :: pieces cuts (state.drop n)

@[simp] theorem flatten_pieces (cuts : List Nat) (state : Bytes) :
    (pieces cuts state).flatten = state := by
  induction cuts generalizing state with
  | nil => simp [pieces]
  | cons n cuts ih => simp [pieces, ih]

/-- How a `save_state` ends. -/
inductive Ending where
  | completes
  /-- The process ends after so many operations on the disk. -/
  | crashes (operations : Nat)
  /-- `fs::write` fails after so many operations. -/
  | writeFails (operations : Nat) (e : String)
  | renameFails (e : String)

/-- What a whole `save_state` does to the disk. -/
def saveOps (cuts : List Nat) (state : Bytes) : List (FileOp String) :=
  FileOp.replaceFile tempFile stateFile (pieces cuts state)

/-- `save_state`; no result when the process ends. -/
def saveState (cuts : List Nat) (ending : Ending) (state : Bytes) (disk : Disk) :
    Option (Except RabiaError Unit) × Disk :=
  let write := FileOp.writeFile tempFile (pieces cuts state)
  match ending with
  | .completes => (some (.ok ()), disk.map (FileOp.performAll (saveOps cuts state)))
  | .crashes operations =>
    (none, disk.map (FileOp.performAll ((saveOps cuts state).take operations)))
  | .writeFails operations e =>
    (some (.error (.persistence s!"Failed to write state to temp file: {e}")),
      disk.map (FileOp.performAll (write.take operations)))
  -- nothing removes the temporary file
  | .renameFails e =>
    (some (.error (.persistence s!"Failed to rename temp file to state file: {e}")),
      disk.map (FileOp.performAll write))

/-- `load_state`, with the error of `fs::read` if it fails. -/
def loadState (fault : Option String) (disk : Disk) : Except RabiaError (Option Bytes) :=
  match disk.bind (Finmap.lookup stateFile), fault with
  | none, _ => .ok none
  | some data, none => .ok (some data)
  | some _, some e => .error (.persistence s!"Failed to read state file: {e}")

/-! ## Histories -/

/-- What happens on a directory. -/
inductive Occurrence where
  | save (cuts : List Nat) (ending : Ending) (state : Bytes)
  /-- A new instance is created. -/
  | restart (createDir : Except String Unit)

/-- The disk after an occurrence. -/
def Occurrence.leaves (disk : Disk) : Occurrence → Disk
  | .save cuts ending state => (saveState cuts ending state disk).2
  | .restart createDir => (new createDir disk).2

/-- The disk after a history. -/
def aftermath (disk : Disk) (history : List Occurrence) : Disk :=
  history.foldl Occurrence.leaves disk

/-- The save got as far as its rename. -/
def Ending.Renames (cuts : List Nat) (state : Bytes) : Ending → Prop
  | .completes => True
  | .crashes operations => (saveOps cuts state).length ≤ operations
  | .writeFails _ _ | .renameFails _ => False

instance (cuts : List Nat) (state : Bytes) (ending : Ending) :
    Decidable (ending.Renames cuts state) := by
  cases ending <;> unfold Ending.Renames <;> infer_instance

/-- The bytes that an occurrence put in place. -/
def Occurrence.renamed : Occurrence → Option Bytes
  | .save cuts ending state => if ending.Renames cuts state then some state else none
  | .restart _ => none

/-- The bytes of the last save whose rename took effect. -/
def lastRenamed (history : List Occurrence) : Option Bytes :=
  (history.filterMap Occurrence.renamed).getLast?

theorem stateFile_leaves (files : Directory String) (occurrence : Occurrence) :
    ∃ files', occurrence.leaves (some files) = some files' ∧
      files'.lookup stateFile = occurrence.renamed.or (files.lookup stateFile) := by
  have distinct : tempFile ≠ stateFile := by decide
  cases occurrence with
  | restart createDir => exact ⟨files, rfl, rfl⟩
  | save cuts ending state =>
      cases ending with
      | completes =>
          refine ⟨_, rfl, ?_⟩
          rw [saveOps, FileOp.lookup_replaceFile, flatten_pieces]
          rfl
      | crashes operations =>
          refine ⟨_, rfl, ?_⟩
          rw [saveOps, FileOp.lookup_take_replaceFile distinct, flatten_pieces]
          show _ = Option.or
            (if (saveOps cuts state).length ≤ operations then some state else none) _
          rw [saveOps]
          split <;> rfl
      -- without a rename only the temporary file has changed
      | writeFails operations e =>
          refine ⟨_, rfl, ?_⟩
          apply FileOp.lookup_performAll
          intro op member
          exact FileOp.spares_writeFile distinct _ op (List.mem_of_mem_take member)
      | renameFails e =>
          refine ⟨_, rfl, ?_⟩
          exact FileOp.lookup_performAll (FileOp.spares_writeFile distinct _) files

theorem lastRenamed_cons (occurrence : Occurrence) (history : List Occurrence) :
    lastRenamed (occurrence :: history) = (lastRenamed history).or occurrence.renamed := by
  unfold lastRenamed
  rw [List.filterMap_cons]
  cases renamed : occurrence.renamed with
  | none => simp
  | some state => simp [List.getLast?_cons]

theorem stateFile_aftermath (files : Directory String) (history : List Occurrence) :
    (aftermath (some files) history).bind (Finmap.lookup stateFile) =
      (lastRenamed history).or (files.lookup stateFile) := by
  induction history generalizing files with
  | nil => rfl
  | cons occurrence history ih =>
      obtain ⟨files', left, shown⟩ := stateFile_leaves files occurrence
      show (aftermath (occurrence.leaves (some files)) history).bind _ = _
      rw [left, ih, shown, lastRenamed_cons, Option.or_assoc]

/-- Whatever happened in a data directory since an instance was created on it, `load_state`
returns the bytes of the last save whose rename took effect, and where there was none what
the directory held as state before, or nothing. -/
theorem loadState_last_renamed (disk : Disk) (history : List Occurrence) :
    loadState none (aftermath (new (.ok ()) disk).2 history) =
      .ok ((lastRenamed history).or (disk.bind (Finmap.lookup stateFile))) := by
  have loaded : ∀ d : Disk, loadState none d = .ok (d.bind (Finmap.lookup stateFile)) := by
    intro d
    unfold loadState
    cases d.bind (Finmap.lookup stateFile) <;> rfl
  rw [loaded]
  cases disk with
  | some files => exact congrArg _ (stateFile_aftermath files history)
  | none => exact congrArg _ (stateFile_aftermath ∅ history)

end FileSystemPersistence

end Rabia
