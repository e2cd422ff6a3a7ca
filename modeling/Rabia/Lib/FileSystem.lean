import Rabia.Lib.Table

/-!
# Files and crashes

A directory as a table of contents, changed by operations each of which happens whole
or not at all. A program that may be cut off at any point leaves a prefix of its
operations behind. `replaceFile` is the usual way to change a file under that threat:
write another file, then rename it; `lookup_take_replaceFile` says that the target has
its old contents until the rename and the new ones from then on, whatever the other
file held before.
-/

namespace Rabia.Lib

/-- The files of a directory with their contents. -/
abbrev Directory (κ : Type*) := Table κ (List UInt8)

/-- What a program does to a directory. -/
inductive FileOp (κ : Type*) where
  /-- Open a file for writing: it is there, and empty. -/
  | create (file : κ)
  | append (file : κ) (bytes : List UInt8)
  /-- Take the place of another file. -/
  | rename (source target : κ)

namespace FileOp

variable {κ : Type*} [DecidableEq κ]

/-- The directory after an operation. -/
def perform : FileOp κ → Directory κ → Directory κ
  | .create file, d => d.insert file []
  | .append file bytes, d => Table.update file (· ++ bytes) d
  | .rename source target, d =>
    match d.lookup source with
    | some contents => (d.erase source).insert target contents
    | none => d

/-- The directory after a sequence of operations. -/
def performAll (ops : List (FileOp κ)) (d : Directory κ) : Directory κ :=
  ops.foldl (fun d op => op.perform d) d

/-- The operation leaves the file alone. -/
def Spares (file : κ) : FileOp κ → Prop
  | .create f | .append f _ => f ≠ file
  | .rename source target => source ≠ file ∧ target ≠ file

theorem performAll_append (ops ops' : List (FileOp κ)) (d : Directory κ) :
    performAll (ops ++ ops') d = performAll ops' (performAll ops d) := List.foldl_append

theorem perform_rename {source : κ} (target : κ) {d : Directory κ} {contents : List UInt8}
    (held : d.lookup source = some contents) :
    (FileOp.rename source target).perform d = (d.erase source).insert target contents := by
  simp [perform, held]

theorem lookup_perform {file : κ} {op : FileOp κ} (spares : op.Spares file) (d : Directory κ) :
    (op.perform d).lookup file = d.lookup file := by
  cases op with
  | create f => exact Finmap.lookup_insert_of_ne d spares.symm
  | append f bytes =>
      show (Table.update f _ d).lookup file = _
      rw [Table.lookup_update, if_neg spares.symm]
  | rename source target =>
      show (match d.lookup source with | some contents => _ | none => d).lookup file = _
      cases d.lookup source with
      | none => rfl
      | some contents =>
          show ((d.erase source).insert target contents).lookup file = _
          rw [Finmap.lookup_insert_of_ne _ spares.2.symm, Finmap.lookup_erase_ne spares.1.symm]

/-- A file that no operation touches keeps its contents. -/
theorem lookup_performAll {file : κ} {ops : List (FileOp κ)}
    (spared : ∀ op ∈ ops, op.Spares file) (d : Directory κ) :
    (performAll ops d).lookup file = d.lookup file := by
  induction ops generalizing d with
  | nil => rfl
  | cons op ops ih =>
      show (performAll ops (op.perform d)).lookup file = _
      rw [ih fun op' member => spared op' (List.mem_cons_of_mem op member)]
      exact lookup_perform (spared op List.mem_cons_self) d

/-! ## Writing and replacing a file -/

/-- Write a file piece by piece. -/
def writeFile (file : κ) (pieces : List (List UInt8)) : List (FileOp κ) :=
  .create file :: pieces.map (.append file)

/-- Write a temporary file, then rename it. -/
def replaceFile (temp target : κ) (pieces : List (List UInt8)) : List (FileOp κ) :=
  writeFile temp pieces ++ [.rename temp target]

omit [DecidableEq κ] in
theorem spares_writeFile {file other : κ} (distinct : file ≠ other) (pieces : List (List UInt8)) :
    ∀ op ∈ writeFile file pieces, op.Spares other := by
  intro op member
  rcases List.mem_cons.mp member with rfl | member
  · exact distinct
  · obtain ⟨piece, -, rfl⟩ := List.mem_map.mp member
    exact distinct

theorem lookup_append_pieces (file : κ) (pieces : List (List UInt8)) {d : Directory κ}
    {contents : List UInt8} (held : d.lookup file = some contents) :
    (performAll (pieces.map (.append file)) d).lookup file = some (contents ++ pieces.flatten) := by
  induction pieces generalizing d contents with
  | nil => simpa [performAll] using held
  | cons piece pieces ih =>
      have extended : ((FileOp.append file piece).perform d).lookup file =
          some (contents ++ piece) := by
        show (Table.update file _ d).lookup file = _
        rw [Table.lookup_update, if_pos rfl, held]
        rfl
      show (performAll (pieces.map (.append file)) (perform _ d)).lookup file = _
      rw [ih extended]
      simp

/-- A file that was written holds what was written, whatever it held before. -/
theorem lookup_writeFile (file : κ) (pieces : List (List UInt8)) (d : Directory κ) :
    (performAll (writeFile file pieces) d).lookup file = some pieces.flatten := by
  have opened : ((FileOp.create file).perform d).lookup file = some [] := Finmap.lookup_insert d
  exact lookup_append_pieces file pieces opened

theorem lookup_replaceFile (temp target : κ) (pieces : List (List UInt8)) (d : Directory κ) :
    (performAll (replaceFile temp target pieces) d).lookup target = some pieces.flatten := by
  have written := lookup_writeFile temp pieces d
  rw [replaceFile, performAll_append]
  show (perform (.rename temp target) (performAll (writeFile temp pieces) d)).lookup target = _
  rw [perform_rename target written]
  exact Finmap.lookup_insert _

/-- Cut off at any point, a replacement has left the target as it was or is complete. -/
theorem lookup_take_replaceFile {temp target : κ} (distinct : temp ≠ target)
    (pieces : List (List UInt8)) (count : Nat) (d : Directory κ) :
    (performAll ((replaceFile temp target pieces).take count) d).lookup target =
      if (replaceFile temp target pieces).length ≤ count then some pieces.flatten
      else d.lookup target := by
  by_cases complete : (replaceFile temp target pieces).length ≤ count
  · rw [if_pos complete, List.take_of_length_le complete, lookup_replaceFile]
  · -- a proper prefix ends before the rename
    have inside : count ≤ (writeFile temp pieces).length := by
      simp only [replaceFile, List.length_append, List.length_singleton] at complete
      omega
    rw [if_neg complete, replaceFile, List.take_append_of_le_length inside]
    apply lookup_performAll
    intro op member
    exact spares_writeFile distinct pieces op (List.mem_of_mem_take member)

end FileOp

end Rabia.Lib
