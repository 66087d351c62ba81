import FactoryGen.Proofs.Rehearsal

/-! How a run ends.

What decides the exit code of a run is told without the run (`Command.Ends`): the format
of output is asked for first, then the manifest has to load, then the files have to be
delivered if they are wanted, and in the end it counts whether every symbol was given a
file. One of the ways always leads somewhere (`exists_ends`), and the run ends where a way
leads (`carryOut_of_ends`), so there is no other code than the one a way leads to.

That only rejected symbols end a run with the code for them rests on the second check of
the settings: it comes after the one of loading, and it never fails. -/
namespace FactoryGen

/-- In lower case, a text is the name of a format. -/
def Output.Format.Means (text : String) (format : Format) : Prop :=
  text.toList.map asciiLower = format.name.toList

theorem Output.Format.means_of_parse {text : String} {format : Format}
    (h : parse text = .ok format) : Means text format := by
  unfold parse at h
  split at h
  · next found hfound =>
    cases h
    have hnamed := List.find?_some hfound
    exact (beq_iff_eq.1 hnamed).symm
  · cases h

theorem Output.Format.parse_error {text : String} {problem : Problem}
    (h : parse text = .error problem) :
    problem.exitCode = .invalidInput ∧ ¬∃ format, Means text format := by
  unfold parse at h
  split at h
  · cases h
  · next hnone =>
    cases h
    refine ⟨rfl, ?_⟩
    rintro ⟨format, hmeans⟩
    refine List.find?_eq_none.1 hnone format ?_ (beq_iff_eq.2 hmeans.symm)
    cases format <;> decide

namespace Generator
variable (generator : Generator) (symbols : List Symbol)

/-- Every symbol is given a file, in view of the report on those before it. -/
def AcceptsAll : Prop :=
  ∀ before symbol after, symbols = before ++ symbol :: after →
    ∃ file, generator.file (generator.report before) symbol = .ok file

/-- Some symbol is given an error and no file. -/
def RejectsSome : Prop :=
  ∃ before symbol after problem, symbols = before ++ symbol :: after ∧
    generator.file (generator.report before) symbol = .error problem

theorem rejectsSome_iff_not_acceptsAll :
    generator.RejectsSome symbols ↔ ¬generator.AcceptsAll symbols := by
  constructor
  · rintro ⟨before, symbol, after, problem, hsplit, herror⟩ haccepts
    obtain ⟨file, hfile⟩ := haccepts before symbol after hsplit
    rw [herror] at hfile
    cases hfile
  · intro h
    simp only [AcceptsAll, Classical.not_forall] at h
    obtain ⟨before, symbol, after, hsplit, hnone⟩ := h
    cases hfile : generator.file (generator.report before) symbol with
    | error problem => exact ⟨before, symbol, after, problem, hsplit, hfile⟩
    | ok file => exact absurd ⟨file, hfile⟩ hnone

/-- The number of errors tells whether every symbol was given a file. -/
theorem errorCount_report_eq_zero_iff :
    (generator.report symbols).errorCount = 0 ↔ generator.AcceptsAll symbols := by
  have h := generator.errorCount_foldl_eq_zero_iff symbols {}
  rw [show ({} : Report).errorCount = 0 from rfl] at h
  exact h.trans (and_iff_right rfl)

end Generator

/-- There is a manifest to work on, and a generator with the settings in it. -/
structure Run.Ready (tree : FileTree) (path : String) (manifest : Manifest)
    (generator : Generator) : Prop where
  loads : Manifest.Loads tree path manifest
  generator : Generator.ofSettings manifest.settings = .ok generator

/-- The built-in template can be read. -/
theorem Template.ofChars_builtIn : ofChars BuiltIn.chars = some builtIn := by
  have hnodes : (ofChars BuiltIn.chars).getD [] = BuiltIn.nodes := BuiltIn.builtIn_eq_nodes
  unfold builtIn
  cases h : ofChars BuiltIn.chars with
  | none =>
    rw [h] at hnodes
    cases hnodes
  | some template => rfl

namespace Run
variable {tree : FileTree} {path : String} {failure : Failure}

theorem exitCode_of_process (h : process path (tree.reading path) = .error failure) :
    failure.exitCode ≠ .diagnostics := by
  cases hload : Manifest.load tree path with
  | error problem =>
    rw [process_of_load_error hload] at h
    cases h
    rcases Manifest.load_error_cases hload with ⟨source, rfl⟩ | ⟨detail, rfl⟩ <;> exact nofun
  | ok manifest =>
    obtain ⟨generator, hgenerator⟩ := Manifest.exists_generator hload
    rw [process_of_load hload hgenerator] at h
    cases h

/-- A check does not fail for rejected symbols, -/
theorem exitCode_of_check (h : check tree path = .error failure) :
    failure.exitCode ≠ .diagnostics := by
  rw [check_eq] at h
  cases hprocess : process path (tree.reading path) with
  | error cause =>
    rw [hprocess] at h
    cases h
    exact exitCode_of_process hprocess
  | ok processed =>
    rw [hprocess] at h
    cases h

/-- and neither does a generation. -/
theorem exitCode_of_generate {order : Order} (h : (generate tree order).2 = .error failure) :
    failure.exitCode ≠ .diagnostics := by
  unfold generate at h
  split at h
  · next hprocess =>
    cases h
    exact exitCode_of_process hprocess
  · next processed _ =>
    split at h
    · cases h
    · unfold conclude at h
      dsimp only at h
      split at h
      · next problem hproblem =>
        cases h
        have hcode := FileTree.exitCode_of_deliverAll hproblem
        rw [Failure.exitCode, hcode]
        exact nofun
      · cases h

end Run

namespace Command

/-- The manifest that a request is about. -/
def Request.manifest? : Request → Option String
  | .generate order => some order.manifest
  | .check manifest => some manifest
  | .complete _ => none

/-- A request wants some files delivered, and the tree does not take them. -/
def Request.Blocked (request : Request) (tree : FileTree) (files : List SourceFile) : Prop :=
  match request with
  | .generate order => order.dry = false ∧ tree.Blocks order.directory files
  | _ => False

/-- There is a format that an invocation means. -/
def Invocation.HasFormat (invocation : Invocation) : Prop :=
  ∃ format, Output.Format.Means invocation.format format

/-- The ways in which an invocation with a manifest can end, and the exit codes that they
lead to. A manifest counts as loaded only if the format is known, as it is not even read
before. -/
inductive Ends (tree : FileTree) (path : String) (invocation : Invocation) : Nat → Prop
  /-- The format of output is none. -/
  | formatUnknown (hformat : ¬invocation.HasFormat) : Ends tree path invocation 2
  /-- The manifest can be read, but not decoded, or its settings cannot be used. -/
  | unusable (hunusable : Manifest.Unusable tree path) : Ends tree path invocation 2
  /-- The manifest cannot be read as text. -/
  | unreadable (hformat : invocation.HasFormat) (hunreadable : Manifest.Unreadable tree path) :
    Ends tree path invocation 3
  /-- The manifest loads, but a directory cannot be made or a file cannot be written. -/
  | blocked {manifest : Manifest} {generator : Generator} (hformat : invocation.HasFormat)
    (hready : Run.Ready tree path manifest generator)
    (hblocked : invocation.request.Blocked tree (generator.report manifest.symbols).files) :
    Ends tree path invocation 3
  /-- All is done, but for a symbol that was rejected. -/
  | rejected {manifest : Manifest} {generator : Generator} (hformat : invocation.HasFormat)
    (hready : Run.Ready tree path manifest generator)
    (hfree : ¬invocation.request.Blocked tree (generator.report manifest.symbols).files)
    (hrejects : generator.RejectsSome manifest.symbols) : Ends tree path invocation 1
  /-- All is done, and every symbol was given a file. -/
  | accepted {manifest : Manifest} {generator : Generator} (hformat : invocation.HasFormat)
    (hready : Run.Ready tree path manifest generator)
    (hfree : ¬invocation.request.Blocked tree (generator.report manifest.symbols).files)
    (haccepts : generator.AcceptsAll manifest.symbols) : Ends tree path invocation 0

section
variable {tree : FileTree} {path : String}

/-- Some way leads to an end. -/
theorem exists_ends (tree : FileTree) (path : String) (invocation : Invocation) :
    ∃ number, Ends tree path invocation number := by
  by_cases hformat : invocation.HasFormat
  · cases hload : Manifest.load tree path with
    | error problem =>
      rcases Manifest.load_error_cases hload with ⟨source, rfl⟩ | ⟨detail, rfl⟩
      · exact ⟨3, .unreadable hformat ((Manifest.unreadable_iff tree path).2 ⟨source, hload⟩)⟩
      · exact ⟨2, .unusable ((Manifest.unusable_iff tree path).2 ⟨detail, hload⟩)⟩
    | ok manifest =>
      obtain ⟨generator, hgenerator⟩ := Manifest.exists_generator hload
      have hready : Run.Ready tree path manifest generator :=
        ⟨(Manifest.loads_iff tree path manifest).2 hload, hgenerator⟩
      by_cases hblocked :
        invocation.request.Blocked tree (generator.report manifest.symbols).files
      · exact ⟨3, .blocked hformat hready hblocked⟩
      · by_cases haccepts : generator.AcceptsAll manifest.symbols
        · exact ⟨0, .accepted hformat hready hblocked haccepts⟩
        · exact ⟨1, .rejected hformat hready hblocked
            ((generator.rejectsSome_iff_not_acceptsAll _).2 haccepts)⟩
  · exact ⟨2, .formatUnknown hformat⟩

/-! ### One request -/

variable {request : Request} {manifest : Manifest} {generator : Generator}

/-- Without its manifest, a request fails. -/
theorem execute_of_load_error {problem : Problem} (hpath : request.manifest? = some path)
    (hload : Manifest.load tree path = .error problem) (colours : Bool)
    (format : Output.Format) :
    execute tree colours format request =
      (tree, .finished (.ofFailure ⟨["failed to load manifest " ++ path], problem⟩)) := by
  have hprocess := Run.process_of_load_error hload
  cases request with
  | generate order =>
    cases hpath
    simp only [execute, Run.generate, hprocess, Outcome.ofGeneration]
  | check manifest =>
    cases hpath
    simp only [execute, Run.check, Run.checkReading, hprocess, Except.map, Outcome.ofCheck]
  | complete shell => cases hpath

/-- A request whose files the tree does not take fails for that. -/
theorem execute_of_blocked (hpath : request.manifest? = some path)
    (hready : Run.Ready tree path manifest generator)
    (hblocked : request.Blocked tree (generator.report manifest.symbols).files) (colours : Bool)
    (format : Output.Format) :
    ∃ later failure, execute tree colours format request =
        (later, .finished (.ofFailure failure)) ∧
      failure.exitCode = .inputOutput := by
  have hprocess :=
    Run.process_of_load ((Manifest.loads_iff tree path manifest).1 hready.loads) hready.generator
  cases request with
  | generate order =>
    cases hpath
    obtain ⟨hdry, hblocks⟩ := hblocked
    obtain ⟨problem, hproblem⟩ := FileTree.deliverAll_error_iff.2 hblocks
    simp only [execute, Run.generate, hprocess, hdry, Bool.false_eq_true, if_false, hproblem,
      Run.conclude, Outcome.ofGeneration]
    exact ⟨_, _, rfl, FileTree.exitCode_of_deliverAll hproblem⟩
  | check manifest => exact hblocked.elim
  | complete shell => exact hblocked.elim

/-- A request whose files the tree takes ends with the code of its report. -/
theorem execute_of_free (hpath : request.manifest? = some path)
    (hready : Run.Ready tree path manifest generator)
    (hfree : ¬request.Blocked tree (generator.report manifest.symbols).files) (colours : Bool)
    (format : Output.Format) :
    ∃ later outcome, execute tree colours format request = (later, .finished outcome) ∧
      outcome.code =
        if 0 < (generator.report manifest.symbols).errorCount then .diagnostics
        else .success := by
  have hprocess :=
    Run.process_of_load ((Manifest.loads_iff tree path manifest).1 hready.loads) hready.generator
  cases request with
  | generate order =>
    cases hpath
    cases hdry : order.dry with
    | true =>
      simp only [execute, Run.generate, hprocess, hdry, if_true, Outcome.ofGeneration]
      exact ⟨_, _, rfl, rfl⟩
    | false =>
      cases hdelivered : (tree.deliverAll order.directory
          (generator.report manifest.symbols).files).2 with
      | error problem =>
        exact absurd ⟨hdry, FileTree.deliverAll_error_iff.1 ⟨problem, hdelivered⟩⟩ hfree
      | ok files =>
        simp only [execute, Run.generate, hprocess, hdry, Bool.false_eq_true, if_false,
          hdelivered, Run.conclude, Outcome.ofGeneration]
        exact ⟨_, _, rfl, rfl⟩
  | check manifest =>
    cases hpath
    simp only [execute, Run.check, Run.checkReading, hprocess, Except.map, Outcome.ofCheck]
    exact ⟨_, _, rfl, rfl⟩
  | complete shell => cases hpath

/-! ### A whole run -/

/-- A run ends where a way leads. -/
theorem carryOut_of_ends {invocation : Invocation} {number : Nat}
    (hpath : invocation.request.manifest? = some path)
    (h : Ends tree path invocation number) (colours : Bool) :
    ∃ later outcome, carryOut tree colours invocation = (later, .finished outcome) ∧
      outcome.code.number = number ∧
      (number = 2 ∨ number = 3 → outcome.output = "") ∧ (number = 2 → later = tree) := by
  unfold carryOut
  cases hparse : Output.Format.parse invocation.format with
  | error problem =>
    obtain ⟨hcode, hunknown⟩ := Output.Format.parse_error hparse
    have hnumber : number = 2 := by
      cases h with
      | formatUnknown | unusable => rfl
      | unreadable hformat | blocked hformat | rejected hformat | accepted hformat =>
        exact absurd hformat hunknown
    refine ⟨tree, .ofFailure ⟨[], problem⟩, rfl, ?_, fun _ => rfl, fun _ => rfl⟩
    rw [hnumber]
    exact congrArg ExitCode.number hcode
  | ok format =>
    cases h with
    | formatUnknown hunknown => exact absurd ⟨format, Output.Format.means_of_parse hparse⟩ hunknown
    | unusable hunusable =>
      obtain ⟨detail, hload⟩ := (Manifest.unusable_iff tree path).1 hunusable
      exact ⟨_, _, execute_of_load_error hpath hload colours format, rfl, fun _ => rfl,
        fun _ => rfl⟩
    | unreadable _ hunreadable =>
      obtain ⟨source, hload⟩ := (Manifest.unreadable_iff tree path).1 hunreadable
      exact ⟨_, _, execute_of_load_error hpath hload colours format, rfl, fun _ => rfl,
        fun _ => rfl⟩
    | blocked _ hready hblocked =>
      obtain ⟨later, failure, hexecute, hcode⟩ :=
        execute_of_blocked hpath hready hblocked colours format
      exact ⟨_, _, hexecute, congrArg ExitCode.number hcode, fun _ => rfl, nofun⟩
    | @rejected manifest generator _ hready hfree hrejects =>
      obtain ⟨later, outcome, hexecute, hcode⟩ := execute_of_free hpath hready hfree colours format
      refine ⟨_, _, hexecute, ?_, nofun, nofun⟩
      rw [generator.rejectsSome_iff_not_acceptsAll,
        ← generator.errorCount_report_eq_zero_iff] at hrejects
      rw [hcode, if_pos (Nat.pos_of_ne_zero hrejects)]
      rfl
    | @accepted manifest generator _ hready hfree haccepts =>
      obtain ⟨later, outcome, hexecute, hcode⟩ := execute_of_free hpath hready hfree colours format
      refine ⟨_, _, hexecute, ?_, nofun, nofun⟩
      rw [← generator.errorCount_report_eq_zero_iff] at haccepts
      rw [hcode, haccepts, if_neg (Nat.lt_irrefl 0)]
      rfl

end

/-- **What the exit code says.** A command line with a manifest ends in just one of the
ways, and with the exit code that this way leads to. With the codes 2 and 3 there is no
output, and with 2 the tree is what it was; if the format is unknown, the outcome is the
same whatever the tree has. Rejected symbols are the only reason for the code 1: no failure
of a check or a generation has it, as a manifest that loads has settings for a generator
and the built-in template can be read. -/
theorem exit_code_account {arguments : List String} {invocation : Invocation} {path : String}
    (hread : Invocation.read arguments = .ok invocation)
    (hpath : invocation.request.manifest? = some path) (tree : FileTree) (colours : Bool) :
    ∃ later outcome, run tree colours arguments = (later, .finished outcome) ∧
      (∀ number, Ends tree path invocation number ↔ outcome.code.number = number) ∧
      (outcome.code.number = 2 ∨ outcome.code.number = 3 → outcome.output = "") ∧
      (outcome.code.number = 2 → later = tree) ∧
      (¬invocation.HasFormat →
        ∀ other colours, run other colours arguments = (other, .finished outcome)) ∧
      (∀ failure, Run.check tree path = .error failure → failure.exitCode.number ≠ 1) ∧
      (∀ order failure, (Run.generate tree order).2 = .error failure →
        failure.exitCode.number ≠ 1) ∧
      (∀ manifest, Manifest.load tree path = .ok manifest →
        ∃ generator, Generator.ofSettings manifest.settings = .ok generator) ∧
      Template.ofChars Template.BuiltIn.chars = some Template.builtIn := by
  have hrun (tree : FileTree) (colours : Bool) :
      run tree colours arguments = carryOut tree colours invocation := by
    unfold run
    rw [hread]
  have hnumber {code : ExitCode} (h : code ≠ .diagnostics) : code.number ≠ 1 := by
    cases code with
    | success | invalidInput | inputOutput => exact nofun
    | diagnostics => exact absurd rfl h
  obtain ⟨number, hends⟩ := exists_ends tree path invocation
  obtain ⟨later, outcome, hcarried, rfl, houtput, htree⟩ := carryOut_of_ends hpath hends colours
  refine ⟨later, outcome, (hrun tree colours).trans hcarried, ?_, houtput, htree, ?_,
    fun failure h => hnumber (Run.exitCode_of_check h),
    fun order failure h => hnumber (Run.exitCode_of_generate h),
    fun manifest => Manifest.exists_generator, Template.ofChars_builtIn⟩
  · intro number
    constructor
    · intro h
      obtain ⟨_, outcome', hcarried', hcode, _⟩ := carryOut_of_ends hpath h colours
      rw [hcarried] at hcarried'
      cases hcarried'
      exact hcode
    · rintro rfl
      exact hends
  · intro hunknown other colours'
    cases hparse : Output.Format.parse invocation.format with
    | ok format => exact absurd ⟨format, Output.Format.means_of_parse hparse⟩ hunknown
    | error problem =>
      rw [hrun]
      unfold carryOut at hcarried ⊢
      rw [hparse] at hcarried ⊢
      cases hcarried
      rfl

/-- Of two classes, the second one does not extend the base type. The file of the first one is
written into a directory that has to be made, beside the working directory. -/
theorem exit_code_account_of_rejected_class :
    let manifest := "\x7b\"symbols\": [\x7b\"name\": \"A\", " ++
      "\"supertype\": \"androidx.lifecycle.ViewModel\"\x7d, \x7b\"name\": \"B\"\x7d]\x7d"
    let tree : FileTree :=
      { entries := [(["home"], .directory), (["m.json"], .file (.text manifest))]
        workplace := ["home"] }
    let arguments := ["generate", "-m", "/m.json", "--out", "../out", "--format", "text"]
    let invocation : Invocation := ⟨.generate ⟨"/m.json", "../out", false⟩, "text", false⟩
    Invocation.read arguments = .ok invocation ∧
      invocation.request.manifest? = some "/m.json" ∧
      ∃ later outcome, run tree false arguments = (later, .finished outcome) ∧
        outcome.code.number = 1 ∧ Ends tree "/m.json" invocation 1 ∧
        (later.readText "/out/AFactory.kt").isOk := by
  dsimp only
  generalize htree : FileTree.mk _ _ = tree
  generalize harguments : "generate" :: _ = arguments
  generalize hinvocation : Invocation.mk _ _ _ = invocation
  have hread : Invocation.read arguments = .ok invocation := by
    subst harguments hinvocation
    rfl
  have hpath : invocation.request.manifest? = some "/m.json" := by
    subst hinvocation
    rfl
  obtain ⟨later, outcome, hrun, hends, _⟩ := exit_code_account hread hpath tree false
  -- The run is computed once, for what it answers and for what it leaves.
  generalize hfirst : run tree false arguments = first at hrun ⊢
  have hresult : (match first.2 with
      | .finished outcome => outcome.code.number
      | _ => 0) = 1 ∧ (first.1.readText "/out/AFactory.kt").isOk := by
    subst hfirst htree harguments
    decide +kernel
  subst hrun
  exact ⟨hread, rfl, later, outcome, rfl, hresult.1, (hends 1).2 hresult.1, hresult.2⟩

end Command
end FactoryGen
