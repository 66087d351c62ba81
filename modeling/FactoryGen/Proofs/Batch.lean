import FactoryGen.Report

/-! What comes of a batch.

Processing looks at the report built so far: a class is refused if its place, which
is the name of its factory and its package, is that of a file already there. What
becomes of a symbol can be told without the run that leads up to it. A place is taken
(`taken`) if a file of the first report has it, or if an earlier symbol of the batch
passes the gate, can be rendered and belongs there, whether or not that symbol was
itself refused as a duplicate. `outcome` decides by that alone, and `batch_account`
says that a run appends exactly what the outcomes say.

The invariant of a run is `Tracks`: the places that the report covers are the places
taken. One symbol keeps it (`Tracks.process`). -/
namespace FactoryGen

/-- Where a file belongs. -/
def SourceFile.place (file : SourceFile) : String × String := (file.name, file.package)

/-- Where the factory for a class belongs. -/
def Shape.place (shape : Shape) : String × String := (shape.factoryName, shape.package)

/-- The problem of a class that has its file already. -/
def Shape.duplicate (shape : Shape) : Problem :=
  .invalidShape shape.className ("duplicate symbol '" ++ shape.qualifiedName ++ "'")

theorem Report.covers_eq (report : Report) (shape : Shape) :
    report.covers shape = report.files.any (·.place == shape.place) := by
  simp only [Report.covers, SourceFile.place, Shape.place]
  rfl

namespace Generator

/-- A symbol comes through the gate with a shape, and a file is the factory for it. -/
structure Writes (generator : Generator) (symbol : Symbol) (shape : Shape) (file : SourceFile) :
    Prop where
  passes : symbol.shape generator.settings.baseType = .ok shape
  renders : generator.render shape = .ok file

/-- The place of a symbol that comes through the gate and can be rendered. -/
def place? (generator : Generator) (symbol : Symbol) : Option (String × String) :=
  match symbol.shape generator.settings.baseType with
  | .error _ => none
  | .ok shape =>
    match generator.render shape with
    | .error _ => none
    | .ok _ => some shape.place

/-- Whether a place is taken after some symbols were added to a report. -/
def taken (generator : Generator) (report : Report) (earlier : List Symbol)
    (place : String × String) : Bool :=
  report.files.any (·.place == place) || earlier.any (generator.place? · == some place)

/-- What becomes of a symbol that comes after others. The gate is asked first, then
whether the place is taken, and only then is the factory rendered. -/
def outcome (generator : Generator) (report : Report) (earlier : List Symbol) (symbol : Symbol) :
    Except Problem SourceFile :=
  match symbol.shape generator.settings.baseType with
  | .error problem => .error problem
  | .ok shape =>
    if generator.taken report earlier shape.place then .error shape.duplicate
    else generator.render shape

/-- What becomes of each symbol of a batch that comes after others. A symbol is judged
by the ones in front of it. -/
def outcomes (generator : Generator) (report : Report) (earlier symbols : List Symbol) :
    List (Symbol × Except Problem SourceFile) :=
  symbols.mapIdx fun index symbol =>
    (symbol, generator.outcome report (earlier ++ symbols.take index) symbol)

/-- The file of a symbol. -/
def made : Symbol × Except Problem SourceFile → Option SourceFile
  | (_, .error _) => none
  | (_, .ok file) => some file

/-- What there is to say about a symbol: an error without a file, and a warning if
there is a file but no constructor. -/
def remarks : Symbol × Except Problem SourceFile → List Diagnostic
  | (symbol, .error problem) =>
    [⟨.error, .ofProblem problem, symbol.qualifiedName, problem.message⟩]
  | (symbol, .ok _) =>
    if symbol.parameters.isNone then
      [⟨.warning, .missingConstructor, symbol.qualifiedName,
        (Problem.missingConstructor symbol.name).message⟩]
    else []

section
variable (generator : Generator)

theorem place?_eq_some_iff (symbol : Symbol) (place : String × String) :
    generator.place? symbol = some place ↔
      ∃ shape file, generator.Writes symbol shape file ∧ shape.place = place := by
  constructor
  · intro h
    unfold place? at h
    split at h
    · cases h
    · next shape hpasses =>
      split at h
      · cases h
      · next file hrenders => exact ⟨shape, file, ⟨hpasses, hrenders⟩, Option.some.inj h⟩
  · rintro ⟨shape, file, ⟨hpasses, hrenders⟩, rfl⟩
    simp only [place?, hpasses, hrenders]

theorem taken_iff (report : Report) (earlier : List Symbol) (place : String × String) :
    generator.taken report earlier place = true ↔
      (∃ file ∈ report.files, file.place = place) ∨
        ∃ symbol ∈ earlier, ∃ shape file, generator.Writes symbol shape file ∧
          shape.place = place := by
  simp only [taken, Bool.or_eq_true, List.any_eq_true, beq_iff_eq, place?_eq_some_iff]

/-- A file is made for a place that is free, and for no other. -/
theorem outcome_eq_ok_iff (report : Report) (earlier : List Symbol) (symbol : Symbol)
    (file : SourceFile) :
    generator.outcome report earlier symbol = .ok file ↔
      ∃ shape, generator.Writes symbol shape file ∧
        generator.taken report earlier shape.place = false := by
  constructor
  · intro h
    unfold outcome at h
    split at h
    · cases h
    · next shape hpasses =>
      split at h
      · cases h
      · next hfree => exact ⟨shape, ⟨hpasses, h⟩, by simpa using hfree⟩
  · rintro ⟨shape, ⟨hpasses, hrenders⟩, hfree⟩
    simp only [outcome, hpasses, hfree, hrenders, Bool.false_eq_true, if_false]

/-- Without a file there is one cause: the gate, else a taken place, else rendering. -/
theorem outcome_eq_error_iff (report : Report) (earlier : List Symbol) (symbol : Symbol)
    (problem : Problem) :
    generator.outcome report earlier symbol = .error problem ↔
      symbol.shape generator.settings.baseType = .error problem ∨
        ∃ shape, symbol.shape generator.settings.baseType = .ok shape ∧
          if generator.taken report earlier shape.place then problem = shape.duplicate
          else generator.render shape = .error problem := by
  unfold outcome
  cases symbol.shape generator.settings.baseType with
  | error cause =>
    simp only [Except.error.injEq, reduceCtorEq, false_and, exists_false, or_false]
  | ok shape =>
    cases htaken : generator.taken report earlier shape.place <;>
      simp only [reduceCtorEq, false_or, Except.ok.injEq, exists_eq_left', htaken, if_true,
        Bool.false_eq_true, if_false, Except.error.injEq, eq_comm]

/-! ### Problems of symbols are errors -/

theorem shape_severity {symbol : Symbol} {baseType : String} {problem : Problem}
    (h : symbol.shape baseType = .error problem) (name : String) :
    (Diagnostic.ofProblem name problem).severity = .error := by
  unfold Symbol.shape at h
  split at h
  · cases h; rfl
  · split at h
    · cases h; rfl
    · dsimp only at h
      split at h
      · cases h
      · cases h; rfl

/-- A rendered file belongs where its class does. -/
theorem place_of_render {shape : Shape} {file : SourceFile}
    (h : generator.render shape = .ok file) : file.place = shape.place := by
  rw [render_eq] at h
  cases htext : generator.library.render Library.factoryName
      (Factory.ofShape generator.settings shape).toJson with
  | error problem => rw [htext] at h; cases h
  | ok text => rw [htext] at h; cases h; rfl

theorem render_severity {shape : Shape} {problem : Problem}
    (h : generator.render shape = .error problem) (name : String) :
    (Diagnostic.ofProblem name problem).severity = .error := by
  rw [render_eq] at h
  unfold Library.render at h
  split at h
  · cases h; rfl
  · next rendering _ =>
    cases hfault : rendering (Factory.ofShape generator.settings shape).toJson with
    | error fault => rw [hfault] at h; cases h; rfl
    | ok text => rw [hfault] at h; cases h

theorem outcome_severity {report : Report} {earlier : List Symbol} {symbol : Symbol}
    {problem : Problem} (h : generator.outcome report earlier symbol = .error problem)
    (name : String) : (Diagnostic.ofProblem name problem).severity = .error := by
  rcases (generator.outcome_eq_error_iff _ _ _ _).1 h with h | ⟨shape, _, h⟩
  · exact shape_severity h name
  · split at h
    · subst h; rfl
    · exact generator.render_severity h name

/-! ### One symbol -/

/-- A report that has files in just the places that are taken. -/
def Tracks (report : Report) (earlier : List Symbol) (reached : Report) : Prop :=
  ∀ place, reached.files.any (·.place == place) = generator.taken report earlier place

variable {generator} {report reached : Report} {earlier : List Symbol}

theorem Tracks.start : generator.Tracks report [] report := by
  intro place
  simp only [taken, List.any_nil, Bool.or_false]

/-- In view of such a report, a symbol's file is its outcome. -/
theorem Tracks.file_eq (h : generator.Tracks report earlier reached) (symbol : Symbol) :
    generator.file reached symbol = generator.outcome report earlier symbol := by
  unfold outcome
  simp only [file, bind, Except.bind]
  cases symbol.shape generator.settings.baseType with
  | error problem => rfl
  | ok shape =>
    simp only [Report.covers_eq, h shape.place]
    rfl

/-- One symbol appends its file, if it has one, and what there is to say. -/
theorem Tracks.process_eq (h : generator.Tracks report earlier reached) (symbol : Symbol) :
    generator.process reached symbol =
      ⟨reached.files ++ (made (symbol, generator.outcome report earlier symbol)).toList,
       reached.diagnostics ++ remarks (symbol, generator.outcome report earlier symbol)⟩ := by
  unfold process
  rw [h.file_eq symbol]
  cases houtcome : generator.outcome report earlier symbol with
  | error problem =>
    have hseverity := generator.outcome_severity houtcome symbol.qualifiedName
    have hdiagnostic : Diagnostic.ofProblem symbol.qualifiedName problem =
        ⟨.error, .ofProblem problem, symbol.qualifiedName, problem.message⟩ := by
      rw [← hseverity]
      rfl
    simp only [Report.note, hdiagnostic, made, remarks, Option.toList_none, List.append_nil]
  | ok file =>
    simp only [made, remarks]
    split
    · rfl
    · simp only [Report.add, Option.toList_some, List.append_nil]

theorem place?_of_writes {symbol : Symbol} {shape : Shape} {file : SourceFile}
    (h : generator.Writes symbol shape file) : generator.place? symbol = some shape.place :=
  (generator.place?_eq_some_iff symbol shape.place).2 ⟨shape, file, h, rfl⟩

/-- What a symbol adds to the places taken is the place of its file: a symbol without a
file has no place, or one that was taken before. -/
theorem taken_concat (symbol : Symbol) (place : String × String) :
    generator.taken report (earlier ++ [symbol]) place =
      (generator.taken report earlier place ||
        (made (symbol, generator.outcome report earlier symbol)).toList.any
          (·.place == place)) := by
  have happend : generator.taken report (earlier ++ [symbol]) place =
      (generator.taken report earlier place || generator.place? symbol == some place) := by
    simp only [taken, List.any_append, List.any_cons, List.any_nil, Bool.or_false, Bool.or_assoc]
  rw [happend]
  cases houtcome : generator.outcome report earlier symbol with
  | ok file =>
    obtain ⟨shape, hwrites, _⟩ := (generator.outcome_eq_ok_iff _ _ _ _).1 houtcome
    rw [place?_of_writes hwrites, ← generator.place_of_render hwrites.renders]
    simp [made]
  | error problem =>
    simp only [made, Option.toList_none, List.any_nil, Bool.or_false]
    cases hplace : generator.place? symbol == some place with
    | false => exact Bool.or_false _
    | true =>
      -- The symbol has the place but no file, so the place was taken.
      obtain ⟨shape, file, hwrites, rfl⟩ :=
        (generator.place?_eq_some_iff symbol place).1 (beq_iff_eq.1 hplace)
      cases htaken : generator.taken report earlier shape.place with
      | true => rfl
      | false =>
        have hok := (generator.outcome_eq_ok_iff _ _ _ _).2 ⟨shape, hwrites, htaken⟩
        rw [houtcome] at hok
        cases hok

/-- One symbol keeps the report in step with the places taken. -/
theorem Tracks.process (h : generator.Tracks report earlier reached) (symbol : Symbol) :
    generator.Tracks report (earlier ++ [symbol]) (generator.process reached symbol) := by
  intro place
  rw [h.process_eq symbol, taken_concat, List.any_append, h place]

/-! ### A batch -/

theorem outcomes_cons (symbol : Symbol) (rest : List Symbol) :
    generator.outcomes report earlier (symbol :: rest) =
      (symbol, generator.outcome report earlier symbol) ::
        generator.outcomes report (earlier ++ [symbol]) rest := by
  simp only [outcomes, List.mapIdx_cons, List.take_zero, List.append_nil, List.take_succ_cons,
    List.append_assoc, List.singleton_append]

/-- From any point of a batch to its end. -/
theorem Tracks.foldl_process (h : generator.Tracks report earlier reached)
    (symbols : List Symbol) :
    symbols.foldl generator.process reached =
      ⟨reached.files ++ (generator.outcomes report earlier symbols).filterMap made,
       reached.diagnostics ++ (generator.outcomes report earlier symbols).flatMap remarks⟩ := by
  induction symbols generalizing earlier reached with
  | nil =>
    simp only [List.foldl_nil, outcomes, List.mapIdx_nil, List.filterMap_nil, List.flatMap_nil,
      List.append_nil]
  | cons symbol rest ih =>
    rw [List.foldl_cons, ih (h.process symbol), h.process_eq symbol, outcomes_cons]
    cases generator.outcome report earlier symbol <;>
      simp only [made, Option.toList_none, Option.toList_some, List.append_nil,
        List.filterMap_cons, List.flatMap_cons, List.append_assoc, List.singleton_append]

theorem length_outcomes (symbols : List Symbol) :
    (generator.outcomes report earlier symbols).length = symbols.length := by
  simp only [outcomes, List.length_mapIdx]

theorem errors_remarks_ok (symbol : Symbol) (file : SourceFile) :
    (remarks (symbol, .ok file)).filter (·.isError) = [] := by
  simp only [remarks]
  split <;> rfl

/-- Each symbol has a file or an error. -/
theorem length_made_add_errors (results : List (Symbol × Except Problem SourceFile)) :
    (results.filterMap made).length +
      ((results.flatMap remarks).filter (·.isError)).length = results.length := by
  induction results with
  | nil => rfl
  | cons result rest ih =>
    obtain ⟨symbol, problem | file⟩ := result
    · have herror : ((remarks (symbol, .error problem)).filter (·.isError)).length = 1 := rfl
      simp only [List.filterMap_cons, made, List.flatMap_cons, List.filter_append,
        List.length_append, List.length_cons, herror]
      omega
    · simp only [List.filterMap_cons, made, List.flatMap_cons, List.filter_append,
        List.length_append, List.length_cons, errors_remarks_ok, List.length_nil]
      omega

/-- Each warning belongs to a symbol with a file and without a constructor. -/
theorem length_warnings (results : List (Symbol × Except Problem SourceFile)) :
    ((results.flatMap remarks).filter (·.severity == .warning)).length =
      (results.filter fun result =>
        (made result).isSome && result.1.parameters.isNone).length := by
  induction results with
  | nil => rfl
  | cons result rest ih =>
    rw [List.flatMap_cons, List.filter_append, List.length_append, ih, List.filter_cons]
    obtain ⟨symbol, problem | file⟩ := result
    · exact Nat.zero_add _
    · simp only [made, remarks, Option.isSome_some, Bool.true_and]
      cases symbol.parameters.isNone
      · exact Nat.zero_add _
      · exact Nat.add_comm _ _

/-! ### The files of a report -/

/-- A symbol adds no file, or one in a place that was free. -/
theorem files_process (generator : Generator) (report : Report) (symbol : Symbol) :
    (generator.process report symbol).files = report.files ∨
      ∃ shape file, generator.Writes symbol shape file ∧
        file.place ∉ report.files.map SourceFile.place ∧
        (generator.process report symbol).files = report.files ++ [file] := by
  rw [Tracks.start.process_eq symbol]
  cases houtcome : generator.outcome report [] symbol with
  | error problem => exact .inl (List.append_nil _)
  | ok file =>
    obtain ⟨shape, hwrites, hfree⟩ := (generator.outcome_eq_ok_iff _ _ _ _).1 houtcome
    refine .inr ⟨shape, file, hwrites, ?_, rfl⟩
    rw [generator.place_of_render hwrites.renders]
    intro hmem
    obtain ⟨given, hgiven, hplace⟩ := List.mem_map.1 hmem
    have htaken := (generator.taken_iff report [] shape.place).2 (.inl ⟨given, hgiven, hplace⟩)
    rw [hfree] at htaken
    cases htaken

theorem files_foldl_process (generator : Generator) (symbols : List Symbol) (report : Report)
    (hplaces : (report.files.map SourceFile.place).Nodup) :
    ((symbols.foldl generator.process report).files.map SourceFile.place).Nodup ∧
      ∀ file ∈ (symbols.foldl generator.process report).files, file ∈ report.files ∨
        ∃ symbol ∈ symbols, ∃ shape, generator.Writes symbol shape file := by
  induction symbols generalizing report with
  | nil => exact ⟨hplaces, fun file hmem => .inl hmem⟩
  | cons symbol rest ih =>
    rw [List.foldl_cons]
    rcases generator.files_process report symbol with hsame | ⟨shape, added, hwrites, hfree, hmore⟩
    · have hrest := ih (generator.process report symbol) (by rwa [hsame])
      refine ⟨hrest.1, fun file hmem => ?_⟩
      rcases hrest.2 file hmem with h | ⟨other, hother, h⟩
      · exact .inl (by rwa [hsame] at h)
      · exact .inr ⟨other, List.mem_cons_of_mem _ hother, h⟩
    · have hnew : ((generator.process report symbol).files.map SourceFile.place).Nodup := by
        rw [hmore, List.map_append, List.map_singleton, List.nodup_append]
        refine ⟨hplaces, by simp, ?_⟩
        rintro place hmem _ hadded rfl
        rw [List.mem_singleton.1 hadded] at hmem
        exact hfree hmem
      have hrest := ih _ hnew
      refine ⟨hrest.1, fun file hmem => ?_⟩
      rcases hrest.2 file hmem with h | ⟨other, hother, h⟩
      · rw [hmore, List.mem_append, List.mem_singleton] at h
        rcases h with h | rfl
        · exact .inl h
        · exact .inr ⟨symbol, List.mem_cons_self .., shape, hwrites⟩
      · exact .inr ⟨other, List.mem_cons_of_mem _ hother, h⟩

/-- No two files of a report belong in the same place. -/
theorem report_places_nodup (generator : Generator) (symbols : List Symbol) :
    ((generator.report symbols).files.map SourceFile.place).Nodup :=
  (generator.files_foldl_process symbols {} List.nodup_nil).1

/-- Each file of a report is the factory for one of the symbols. -/
theorem exists_writes_of_mem (generator : Generator) {symbols : List Symbol} {file : SourceFile}
    (h : file ∈ (generator.report symbols).files) :
    ∃ symbol ∈ symbols, ∃ shape, generator.Writes symbol shape file := by
  rcases (generator.files_foldl_process symbols {} List.nodup_nil).2 file h with h | h
  · cases h
  · exact h

/-! ### Counting -/

/-- Each symbol of a report has a file or an error. -/
theorem length_files_add_errorCount (generator : Generator) (symbols : List Symbol) :
    (generator.report symbols).files.length + (generator.report symbols).errorCount =
      symbols.length := by
  have hbatch : generator.report symbols =
      ⟨(generator.outcomes {} [] symbols).filterMap made,
       (generator.outcomes {} [] symbols).flatMap remarks⟩ :=
    Tracks.start.foldl_process symbols
  rw [hbatch, Report.errorCount, Report.errors, length_made_add_errors, length_outcomes]

/-- A symbol adds an error just if it is given no file. -/
theorem errorCount_process (generator : Generator) (report : Report) (symbol : Symbol) :
    (generator.process report symbol).errorCount =
      report.errorCount +
        match generator.file report symbol with
        | .error _ => 1
        | .ok _ => 0 := by
  rw [Tracks.start.process_eq symbol, Tracks.start.file_eq symbol, Report.errorCount,
    Report.errors, List.filter_append, List.length_append]
  cases generator.outcome report [] symbol with
  | error problem => rfl
  | ok file =>
    rw [errors_remarks_ok]
    rfl

/-- There are no errors just if every symbol is given a file, in view of the report on the
symbols before it. -/
theorem errorCount_foldl_eq_zero_iff (generator : Generator) (symbols : List Symbol)
    (report : Report) :
    (symbols.foldl generator.process report).errorCount = 0 ↔
      report.errorCount = 0 ∧
        ∀ before symbol after, symbols = before ++ symbol :: after →
          ∃ file, generator.file (before.foldl generator.process report) symbol = .ok file := by
  induction symbols generalizing report with
  | nil => simp
  | cons first rest ih =>
    rw [List.foldl_cons, ih, errorCount_process]
    constructor
    · rintro ⟨hcount, hrest⟩
      obtain ⟨file, hfile⟩ : ∃ file, generator.file report first = .ok file := by
        cases hfile : generator.file report first with
        | error problem => simp [hfile] at hcount
        | ok file => exact ⟨file, rfl⟩
      refine ⟨by omega, ?_⟩
      intro before symbol after hsplit
      cases before with
      | nil =>
        cases hsplit
        exact ⟨file, hfile⟩
      | cons head before =>
        cases hsplit
        exact hrest before symbol after rfl
    · rintro ⟨hcount, hall⟩
      obtain ⟨file, hfile⟩ := hall [] first rest rfl
      have hfirst : generator.file report first = .ok file := hfile
      rw [hfirst]
      refine ⟨hcount, ?_⟩
      intro before symbol after hsplit
      exact hall (first :: before) symbol after (by rw [hsplit, List.cons_append])

/-- **The account of a batch.** From any report on, a batch appends the files and the
remarks of its outcomes, in order, behind what was there. A symbol is given a file just
if it comes through the gate, its factory can be rendered, no file of the first report
is in its place, and no earlier symbol belongs there that comes through the gate and can
be rendered; the file is the rendered one. Otherwise the first cause counts: the gate,
then the place, then rendering. So a batch on its own has as many files and errors as
symbols, and a warning for each file without a constructor. -/
theorem batch_account (generator : Generator) (report : Report) (symbols : List Symbol) :
    symbols.foldl generator.process report =
      ⟨report.files ++ (generator.outcomes report [] symbols).filterMap made,
       report.diagnostics ++ (generator.outcomes report [] symbols).flatMap remarks⟩ ∧
    (∀ earlier symbol file, generator.outcome report earlier symbol = .ok file ↔
      ∃ shape, symbol.shape generator.settings.baseType = .ok shape ∧
        generator.render shape = .ok file ∧
        (¬ ∃ given ∈ report.files,
          given.name = shape.factoryName ∧ given.package = shape.package) ∧
        ¬ ∃ other ∈ earlier, ∃ shape' file',
          other.shape generator.settings.baseType = .ok shape' ∧
          generator.render shape' = .ok file' ∧
          shape'.factoryName = shape.factoryName ∧ shape'.package = shape.package) ∧
    (∀ earlier symbol problem, generator.outcome report earlier symbol = .error problem ↔
      symbol.shape generator.settings.baseType = .error problem ∨
        ∃ shape, symbol.shape generator.settings.baseType = .ok shape ∧
          if generator.taken report earlier shape.place then problem = shape.duplicate
          else generator.render shape = .error problem) ∧
    (generator.report symbols).files.length + (generator.report symbols).errorCount =
      symbols.length ∧
    (generator.report symbols).warningCount =
      ((generator.outcomes {} [] symbols).filter fun result =>
        (made result).isSome && result.1.parameters.isNone).length := by
  have hbatch : generator.report symbols =
      ⟨(generator.outcomes {} [] symbols).filterMap made,
       (generator.outcomes {} [] symbols).flatMap remarks⟩ :=
    Tracks.start.foldl_process symbols
  refine ⟨Tracks.start.foldl_process symbols, fun earlier symbol file => ?_,
    generator.outcome_eq_error_iff report, ?_, ?_⟩
  · simp only [outcome_eq_ok_iff, ← Bool.not_eq_true, taken_iff, not_or]
    constructor
    · rintro ⟨shape, ⟨hpasses, hrenders⟩, hgiven, hother⟩
      refine ⟨shape, hpasses, hrenders, ?_, ?_⟩
      · rintro ⟨given, hmem, hname, hpackage⟩
        exact hgiven ⟨given, hmem, Prod.ext hname hpackage⟩
      · rintro ⟨other, hmem, shape', file', hpasses', hrenders', hname, hpackage⟩
        exact hother ⟨other, hmem, shape', file', ⟨hpasses', hrenders'⟩,
          Prod.ext hname hpackage⟩
    · rintro ⟨shape, hpasses, hrenders, hgiven, hother⟩
      refine ⟨shape, ⟨hpasses, hrenders⟩, ?_, ?_⟩
      · rintro ⟨given, hmem, hplace⟩
        exact hgiven ⟨given, hmem, Prod.mk.inj hplace⟩
      · rintro ⟨other, hmem, shape', file', ⟨hpasses', hrenders'⟩, hplace⟩
        exact hother ⟨other, hmem, shape', file', hpasses', hrenders', Prod.mk.inj hplace⟩
  · rw [hbatch, Report.errorCount, Report.errors, length_made_add_errors, length_outcomes]
  · rw [hbatch, Report.warningCount, length_warnings]

end
end Generator
end FactoryGen
