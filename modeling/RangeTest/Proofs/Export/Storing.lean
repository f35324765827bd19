import RangeTest.Export.File
import RangeTest.Proofs.Export.RoundTrip

namespace RangeTest

/-- How an action ends that is to leave other files behind: with these, or with the reason why they
cannot be made and the files that there were before. -/
inductive Act.Stored (part : σ → FileTree) (before : FileTree) (expected : Except ε FileTree) :
    Except ε α × σ → Prop
  | made {value : α} {after : σ} : expected = .ok (part after) →
      Stored part before expected (.ok value, after)
  | refused {error : ε} {after : σ} : expected = .error error → part after = before →
      Stored part before expected (.error error, after)

/-- From every state an action makes files as they are expected, or leaves the files alone. -/
def Act.Stores (part : σ → FileTree) (act : Act σ ε α) (expected : σ → Except ε FileTree) : Prop :=
  ∀ state, Stored part (part state) (expected state) (Act.from act state)

section
variable {part : σ → FileTree} {act : Act σ ε α} {expected : σ → Except ε FileTree}

theorem Act.Stores.of_ok (stores : Stores part act expected) {state : σ} {files : FileTree}
    (makes : expected state = .ok files) :
    ∃ value after, Act.from act state = (.ok value, after) ∧ part after = files := by
  have stored := stores state
  generalize Act.from act state = reached at stored
  cases stored with
  | made made => exact ⟨_, _, rfl, Except.ok.inj (made.symm.trans makes)⟩
  | refused fails _ => cases makes.symm.trans fails

theorem Act.Stores.of_error (stores : Stores part act expected) {state : σ} {error : ε}
    (fails : expected state = .error error) :
    ∃ after, Act.from act state = (.error error, after) ∧ part after = part state := by
  have stored := stores state
  generalize Act.from act state = reached at stored
  cases stored with
  | made makes => cases makes.symm.trans fails
  | refused refuses same =>
    cases refuses.symm.trans fails
    exact ⟨_, rfl, same⟩

theorem Act.Stores.mapError (stores : Stores part act expected) (f : ε → ε') :
    Stores part (Act.mapError f act) fun state => (expected state).mapError f := by
  intro state
  rw [from_mapError]
  have stored := stores state
  generalize Act.from act state = reached at stored
  cases stored with
  | made makes => exact .made (congrArg (Except.mapError f) makes)
  | refused fails same => exact .refused (congrArg (Except.mapError f) fails) same

/-- An action on a part of a state that holds all files. -/
theorem Act.Stores.zoom (stores : Stores part act expected) {view : τ → σ} {update : σ → τ → τ}
    {whole : τ → FileTree} (seen : ∀ state, part (view state) = whole state)
    (kept : ∀ changed state, whole (update changed state) = part changed) :
    Stores whole (Act.zoom view update act) fun state => expected (view state) := by
  intro state
  rw [from_zoom, ← seen]
  have stored := stores (view state)
  generalize Act.from act (view state) = reached at stored
  cases stored with
  | made makes => exact .made (makes.trans (congrArg Except.ok (kept _ _).symm))
  | refused fails same => exact .refused fails ((kept _ _).trans same)

/-- What is done once the files are made touches none of them. -/
theorem Act.Stores.bind_quiet (stores : Stores part act expected) {next : α → Act σ ε β}
    (quiet : ∀ value state, ∃ result after, Act.from (next value) state = (.ok result, after) ∧
      part after = part state) : Stores part (act >>= next) expected := by
  intro state
  rw [from_bind]
  have stored := stores state
  generalize Act.from act state = reached at stored
  cases stored with
  | made makes =>
    rename_i value middle
    obtain ⟨result, after, ends, same⟩ := quiet value middle
    dsimp only
    rw [ends]
    exact .made (by rw [makes, same])
  | refused fails same => exact .refused fails same

end

@[simp] theorem Workspace.from_notify (notices : List Notice) (w : Workspace) :
    Act.from (notify notices : Act Workspace ε Unit) w =
      (.ok (), ⟨w.files, w.notices ++ notices⟩) :=
  rfl

theorem Workspace.create_stores {output : Act Sink ExportError Unit} {content : ByteArray}
    (delivers : Act.from output .unlimited = (.ok (), ⟨none, content⟩)) (path : String) :
    Act.Stores files (create path output) fun w => (w.files.write path content).mapError .io := by
  intro w
  rw [create, delivers]
  dsimp only
  rw [Act.from_bind, Act.from_mapError, from_inspect]
  dsimp only
  cases w.files.write path content with
  | error error => exact .refused rfl rfl
  | ok files => exact .made rfl

/-- If a file can be made for a table, it holds the header and all rows. -/
theorem Row.exportTo_stores {rows : List Row} (even : ∀ row ∈ rows, row.length = header.length)
    (path : String) :
    Act.Stores Workspace.files (exportTo path rows) fun w =>
      (w.files.write path (Csv.text (header :: rows)).toUTF8).mapError .io := by
  have written : Act.Stores Workspace.files (do
      Workspace.create path (Csv.write header rows)
      Workspace.notify [.rowsWritten rows.length path]
      return rows.length) fun w =>
        (w.files.write path (Csv.text (header :: rows)).toUTF8).mapError .io := by
    have created := Workspace.create_stores (Csv.write_unlimited even) path
    exact created.bind_quiet fun _ w =>
      ⟨rows.length, ⟨w.files, w.notices ++ [.rowsWritten rows.length path]⟩, rfl, rfl⟩
  intro w
  unfold exportTo
  dsimp only
  split
  · rw [Act.from_bind, Workspace.from_notify]
    exact written ⟨w.files, w.notices ++ [.nothingToExport path]⟩
  · exact written w

/-- All rows are made before the file is touched, and none is written if one of them cannot be
made. -/
theorem Analysis.exportRows_stores (a : Analysis) (resolver : Option (Resolver σ))
    (lengthField : UInt32) (path : String) :
    Act.Stores (fun state => state.2.files) (a.exportRows resolver lengthField path)
      fun (source, w) =>
        (Act.from (a.rows resolver lengthField) source).1 >>= fun rows =>
          (w.files.write path (Csv.text (Row.header :: rows)).toUTF8).mapError .io := by
  rintro ⟨source, w⟩
  rw [exportRows, Act.from_bind, Act.from_zoom]
  dsimp only
  cases built : Act.from (a.rows resolver lengthField) source with
  | mk outcome source' =>
    cases outcome with
    | error error => exact .refused rfl rfl
    | ok rows =>
      -- A row of another length would be refused only after the file was made.
      have even := Row.length_of_shown (rows_show built)
      have stores : Act.Stores (fun state => state.2.files)
          (Act.zoom Prod.snd (fun w whole => (whole.1, w)) (Row.exportTo path rows) :
            Act (σ × Workspace) ExportError Nat) _ :=
        (Row.exportTo_stores even path).zoom (fun _ => rfl) fun _ _ => rfl
      exact stores (source', w)

theorem Analysis.exportSummary_stores (a : Analysis) (rxLog txLog path : String) :
    Act.Stores Workspace.files (a.exportSummary rxLog txLog path) fun w =>
      (w.files.write path (Summary.text rxLog txLog a).toUTF8).mapError .io := by
  have delivers := (Summary.write_writes rxLog txLog a).from_unlimited
  exact (Workspace.create_stores delivers path).bind_quiet fun _ _ => ⟨_, _, rfl, rfl⟩

end RangeTest
