import FactoryGen.Proofs.Batch
import FactoryGen.Proofs.Source
import FactoryGen.Run.Loading

/-! What a run begins with.

A manifest is there once its text was read, its data decoded and its settings checked
(`Manifest.Loads`). If not, either the tree does not give the text (`Manifest.Unreadable`)
or the text is of no use (`Manifest.Unusable`); which of the three it is can be told from
what loading gives, and from a failure by its problem. The generator checks the settings
once more, which never fails then: a run that has its manifest has its report
(`Run.process_of_load`). -/
namespace FactoryGen

namespace Manifest

/-- The tree does not give the text of a manifest. -/
def Unreadable (tree : FileTree) (path : String) : Prop :=
  ∃ refusal, tree.readText path = .error refusal

/-- The text is there, but it is no manifest, or one with settings that break a rule. -/
def Unusable (tree : FileTree) (path : String) : Prop :=
  ∃ text, tree.readText path = .ok text ∧
    ((∃ mismatch, (formatAt path).decode record.decoder text = .error mismatch) ∨
      ∃ manifest, (formatAt path).decode record.decoder text = .ok manifest ∧
        manifest.settings.defect? ≠ none)

/-- The text is there, and it is a manifest with settings that can be used. -/
def Loads (tree : FileTree) (path : String) (manifest : Manifest) : Prop :=
  ∃ text, tree.readText path = .ok text ∧
    (formatAt path).decode record.decoder text = .ok manifest ∧
      manifest.settings.defect? = none

/-- Loading, step by step. -/
theorem load_eq (tree : FileTree) (path : String) :
    load tree path =
      match tree.readText path with
      | .error refusal => .error (.input path refusal.message)
      | .ok text =>
        match (formatAt path).decode record.decoder text with
        | .error mismatch =>
          .error (.configuration (complaint (formatAt path) ++ mismatch.message))
        | .ok manifest =>
          match manifest.settings.defect? with
          | none => .ok manifest
          | some defect => .error (.configuration defect.message) := by
  unfold load ofReading FileTree.reading
  cases tree.readText path with
  | error refusal => rfl
  | ok text =>
    show Manifest.read (formatAt path) text = _
    simp only [Manifest.read]
    cases (formatAt path).decode record.decoder text with
    | error mismatch => rfl
    | ok manifest =>
      dsimp only [Settings.check]
      cases manifest.settings.defect? <;> rfl

section
variable (tree : FileTree) (path : String)

theorem unreadable_iff :
    Unreadable tree path ↔ ∃ source, load tree path = .error (.input path source) := by
  rw [load_eq]
  unfold Unreadable
  cases tree.readText path with
  | error refusal => exact ⟨fun _ => ⟨_, rfl⟩, fun _ => ⟨_, rfl⟩⟩
  | ok text =>
    dsimp only
    cases (formatAt path).decode record.decoder text with
    | error mismatch => simp
    | ok manifest => cases hdefect : manifest.settings.defect? <;> simp [hdefect]

theorem unusable_iff :
    Unusable tree path ↔ ∃ detail, load tree path = .error (.configuration detail) := by
  rw [load_eq]
  unfold Unusable
  cases tree.readText path with
  | error refusal => simp
  | ok text =>
    dsimp only
    cases hdecode : (formatAt path).decode record.decoder text with
    | error mismatch => simp [hdecode]
    | ok manifest => cases hdefect : manifest.settings.defect? <;> simp [hdecode, hdefect]

theorem loads_iff (manifest : Manifest) :
    Loads tree path manifest ↔ load tree path = .ok manifest := by
  rw [load_eq]
  unfold Loads
  cases tree.readText path with
  | error refusal => simp
  | ok text =>
    dsimp only
    cases hdecode : (formatAt path).decode record.decoder text with
    | error mismatch => simp [hdecode]
    | ok decoded =>
      cases hdefect : decoded.settings.defect? with
      | none =>
        simp only [hdefect, Except.ok.injEq, exists_eq_left', hdecode, and_iff_left_iff_imp]
        rintro rfl
        exact hdefect
      | some defect =>
        simp only [hdefect, Except.ok.injEq, exists_eq_left', hdecode, reduceCtorEq, iff_false]
        rintro ⟨rfl, hsound⟩
        rw [hdefect] at hsound
        cases hsound

end

/-- A manifest is refused for want of its text, or because the text is of no use. -/
theorem load_error_cases {tree : FileTree} {path : String} {problem : Problem}
    (h : load tree path = .error problem) :
    (∃ source, problem = .input path source) ∨ ∃ detail, problem = .configuration detail := by
  rw [load_eq] at h
  split at h
  · cases h
    exact .inl ⟨_, rfl⟩
  · split at h
    · cases h
      exact .inr ⟨_, rfl⟩
    · split at h
      · cases h
      · cases h
        exact .inr ⟨_, rfl⟩

/-- With a manifest, there is a generator. -/
theorem exists_generator {tree : FileTree} {path : String} {manifest : Manifest}
    (h : load tree path = .ok manifest) :
    ∃ generator, Generator.ofSettings manifest.settings = .ok generator := by
  obtain ⟨_, _, _, hsound⟩ := (loads_iff tree path manifest).2 h
  exact ⟨_, Generator.ofSettings_of_sound hsound _⟩

end Manifest

namespace Run
variable {tree : FileTree} {path : String}

/-- With a manifest, a run has the report on its symbols. -/
theorem process_of_load {manifest : Manifest} {generator : Generator}
    (h : Manifest.load tree path = .ok manifest)
    (hgenerator : Generator.ofSettings manifest.settings = .ok generator) :
    process path (tree.reading path) = .ok ⟨manifest, generator.report manifest.symbols⟩ := by
  rw [Manifest.load] at h
  simp only [process, h, hgenerator]

/-- Without one it fails, and for nothing else. -/
theorem process_of_load_error {problem : Problem} (h : Manifest.load tree path = .error problem) :
    process path (tree.reading path) =
      .error ⟨["failed to load manifest " ++ path], problem⟩ := by
  rw [Manifest.load] at h
  simp only [process, h]

theorem process_eq_ok_iff (processed : Processed) :
    process path (tree.reading path) = .ok processed ↔
      Manifest.load tree path = .ok processed.manifest ∧
        ∃ generator, Generator.ofSettings processed.manifest.settings = .ok generator ∧
          processed.report = generator.report processed.manifest.symbols := by
  constructor
  · intro h
    cases hload : Manifest.load tree path with
    | error problem =>
      rw [process_of_load_error hload] at h
      cases h
    | ok manifest =>
      obtain ⟨generator, hgenerator⟩ := Manifest.exists_generator hload
      rw [process_of_load hload hgenerator] at h
      cases h
      exact ⟨rfl, generator, hgenerator, rfl⟩
  · rintro ⟨hload, generator, hgenerator, hreport⟩
    rw [process_of_load hload hgenerator, ← hreport]

end Run
end FactoryGen
