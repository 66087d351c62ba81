import FactoryGen.Command.Execution
import FactoryGen.Proofs.Delivery
import FactoryGen.Proofs.Loading

/-! A check and a dry run say what a real run would do.

All three begin alike, with the manifest and the report on its symbols, and that is the
only place where a check or a dry run can fail. A real run can fail later, when the file
tree refuses something. If it does not, it ends with the summary of the dry run, and the
tree has every file of the report where the summary says (`rehearsal`). -/
namespace FactoryGen.Run

/-- A check and a generation found the same. -/
structure Agree (checked : CheckSummary) (planned : GenerationSummary) : Prop where
  symbols : checked.symbols = planned.symbols
  errors : checked.errors = planned.errors
  warnings : checked.warnings = planned.warnings
  diagnostics : checked.diagnostics = planned.diagnostics
  valid : checked.valid = planned.files.length
  account : checked.valid + checked.errors = checked.symbols
  exitCode : checked.exitCode = planned.exitCode

section
variable {tree : FileTree} {path directory : String}

theorem check_eq (tree : FileTree) (path : String) :
    check tree path =
      (process path (tree.reading path)).map (CheckSummary.ofProcessed path) := rfl

theorem generate_dry (tree : FileTree) (path directory : String) :
    generate tree ⟨path, directory, true⟩ =
      (tree, (process path (tree.reading path)).map (dryRun ⟨path, directory, true⟩)) := by
  unfold generate
  cases process path (tree.reading path) <;> rfl

/-- A report has what its delivery needs: places of their own, made of names. -/
theorem deliverable {processed : Processed}
    (h : process path (tree.reading path) = .ok processed) :
    (processed.report.files.map SourceFile.place).Nodup ∧
      ∀ file ∈ processed.report.files, ∀ name ∈ file.names, Path.IsName name := by
  obtain ⟨_, generator, _, hreport⟩ := (process_eq_ok_iff processed).1 h
  rw [hreport]
  refine ⟨generator.report_places_nodup _, fun file hmem => ?_⟩
  obtain ⟨_, _, _, hwrites⟩ := generator.exists_writes_of_mem hmem
  exact hwrites.isName

/-- A check and a dry run on the same report agree. -/
theorem agree {processed : Processed} (h : process path (tree.reading path) = .ok processed) :
    Agree (.ofProcessed path processed) (dryRun ⟨path, directory, true⟩ processed) := by
  obtain ⟨_, generator, _, hreport⟩ := (process_eq_ok_iff processed).1 h
  refine ⟨rfl, rfl, rfl, rfl, (List.length_map _).symm, ?_, rfl⟩
  have haccount := generator.length_files_add_errorCount processed.manifest.symbols
  rw [← hreport] at haccount
  exact haccount

/-- A real run that succeeds has delivered the files of its report. -/
theorem generate_ok {later : FileTree} {performed : GenerationSummary}
    (h : generate tree ⟨path, directory, false⟩ = (later, .ok performed)) :
    ∃ processed, process path (tree.reading path) = .ok processed ∧
      tree.Delivered directory processed.report.files later ∧
      performed = .ofProcessed ⟨path, directory, false⟩ processed
        (processed.report.files.map (·.pathIn directory)) := by
  unfold generate at h
  dsimp only at h
  split at h
  · cases h
  · next processed hprocess =>
    rw [if_neg Bool.false_ne_true] at h
    obtain ⟨hlater, hconclude⟩ := Prod.mk.inj h
    obtain ⟨hplaces, hnames⟩ := deliverable hprocess
    unfold conclude at hconclude
    split at hconclude
    · cases hconclude
    · next files hfiles =>
      cases hconclude
      have hall : tree.deliverAll directory processed.report.files = (later, .ok files) :=
        Prod.ext hlater hfiles
      obtain ⟨rfl, hdelivered⟩ := FileTree.deliverAll_ok hnames hplaces hall
      exact ⟨processed, hprocess, hdelivered, rfl⟩

end

/-- **A check and a dry run say what a real run would do.** They fail together and in the
same way, and they agree in everything they count; neither changes the tree. If the real
run succeeds, then its summary is that of the dry run, each path in it holds the text of
its file, and every file that no path leads to is what it was. -/
theorem rehearsal (tree : FileTree) (path directory : String) :
    (∀ colours format, (Command.execute tree colours format (.check path)).1 = tree) ∧
    (generate tree ⟨path, directory, true⟩).1 = tree ∧
    (∀ failure, check tree path = .error failure ↔
      (generate tree ⟨path, directory, true⟩).2 = .error failure) ∧
    ((∃ checked, check tree path = .ok checked) ↔
      ∃ planned, (generate tree ⟨path, directory, true⟩).2 = .ok planned) ∧
    (∀ checked planned, check tree path = .ok checked →
      (generate tree ⟨path, directory, true⟩).2 = .ok planned → Agree checked planned) ∧
    (∀ later performed, generate tree ⟨path, directory, false⟩ = (later, .ok performed) →
      ∃ planned processed, (generate tree ⟨path, directory, true⟩).2 = .ok planned ∧
        performed = { planned with dry := false } ∧
        process path (tree.reading path) = .ok processed ∧
        performed.files = processed.report.files.map (·.pathIn directory) ∧
        (∀ file ∈ processed.report.files,
          later.readText (file.pathIn directory) = .ok file.text) ∧
        ∀ location content, (∀ listed ∈ performed.files, later.location? listed ≠ some location) →
          (later.find? location = some (.file content) ↔
            tree.find? location = some (.file content))) := by
  rw [check_eq, generate_dry]
  refine ⟨fun _ _ => rfl, rfl, ?_, ?_, ?_, ?_⟩
  · intro failure
    cases process path (tree.reading path) with
    | error problem => simp only [Except.map, Except.error.injEq]
    | ok processed => exact ⟨nofun, nofun⟩
  · cases process path (tree.reading path) with
    | error problem => exact ⟨nofun, nofun⟩
    | ok processed => exact ⟨fun _ => ⟨_, rfl⟩, fun _ => ⟨_, rfl⟩⟩
  · intro checked planned hchecked hplanned
    cases hprocess : process path (tree.reading path) with
    | error problem =>
      rw [hprocess] at hchecked
      cases hchecked
    | ok processed =>
      rw [hprocess] at hchecked hplanned
      cases hchecked
      cases hplanned
      exact agree hprocess
  · intro later performed hperformed
    obtain ⟨processed, hprocess, hdelivered, rfl⟩ := generate_ok hperformed
    rw [hprocess]
    refine ⟨_, processed, rfl, rfl, rfl, rfl, fun file hmem => ?_, ?_⟩
    · obtain ⟨location, hlocate⟩ := hdelivered.holds file hmem
      rw [FileTree.readText, hlocate]
    · intro location content hfree
      exact hdelivered.others location content fun file hmem =>
        hfree _ (List.mem_map.2 ⟨file, hmem, rfl⟩)

end FactoryGen.Run
