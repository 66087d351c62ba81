import FactoryGen.Proofs.Descent
import FactoryGen.Proofs.Rehearsal

/-! Generating twice.

A second run meets the directories and the files that the first one made. A path that leads
to a file leads there through directories (`locate_parent`), so there is no room to make,
and a write puts back what is there already. A delivery that was made can thus be made
again, and leaves the very same tree (`Delivered.again`). As long as the first run did not
write over its own manifest, the second one has the same report to deliver
(`regeneration`). -/
namespace FactoryGen
namespace FileTree
variable {tree later : FileTree} {location : Location} {path : String}

/-! ### Nothing left to do -/

theorem set_of_lookup {entry : Entry} {entries : List (Location × Entry)}
    (h : lookup location entries = some entry) : set location entry entries = entries := by
  induction entries with
  | nil => cases h
  | cons first rest ih =>
    obtain ⟨l, e⟩ := first
    by_cases hl : l = location
    · rw [lookup, if_pos hl, Option.some.injEq] at h
      rw [set, if_pos hl, h]
    · rw [lookup, if_neg hl] at h
      rw [set, if_neg hl, ih h]

/-- Putting something where it is changes nothing. -/
theorem put_of_find? {entry : Entry} (hne : location ≠ [])
    (h : tree.find? location = some entry) : tree.put location entry = tree := by
  cases location with
  | nil => exact absurd rfl hne
  | cons name above =>
    rw [put, set_of_lookup h]

theorem makeRoom_of_file {content : Content} (h : tree.locate path = .ok (.file location content)) :
    tree.makeRoom path = (tree, .ok ()) := by
  unfold makeRoom
  split
  · rfl
  · next parent hparent =>
    have hmade : tree.makeDirectories parent = (tree, .ok ()) := by
      by_cases hne : parent = ""
      · rw [hne]
        rfl
      · obtain ⟨base, hbase⟩ := locate_parent hparent hne h
        exact makeDirectories_of_directory hbase
    rw [hmade]

/-- A file can be written again, and that changes nothing. -/
theorem writeFile_again {content : Content} (h : tree.locate path = .ok (.file location content)) :
    tree.writeFile path content = .ok tree := by
  obtain ⟨hne, hheld⟩ := standsIn_of_walk (locate_eq_ok_iff.1 h).2.2
  rw [writeFile_eq_ok_iff]
  exact ⟨_, h, trivial, (put_of_find? hne hheld).symm⟩

/-! ### Delivering again -/

variable {directory : String}

theorem deliver_again {file : SourceFile}
    (h : tree.locate (file.pathIn directory) = .ok (.file location (.text file.text))) :
    tree.deliver directory file = (tree, .ok (file.pathIn directory)) := by
  unfold deliver
  dsimp only
  rw [makeRoom_of_file h]
  dsimp only
  rw [writeFile_again h]

theorem deliverAll_again {files : List SourceFile}
    (h : ∀ file ∈ files, ∃ location,
      tree.locate (file.pathIn directory) = .ok (.file location (.text file.text))) :
    tree.deliverAll directory files = (tree, .ok (files.map (·.pathIn directory))) := by
  induction files with
  | nil => rfl
  | cons file rest ih =>
    obtain ⟨location, hfile⟩ := h file (List.mem_cons_self ..)
    rw [deliverAll_cons, deliver_again hfile]
    dsimp only
    rw [ih fun other hmem => h other (List.mem_cons_of_mem _ hmem)]
    rfl

/-- **What was delivered can be delivered again**, and the tree stays as it is. -/
theorem Delivered.again {files : List SourceFile} (h : tree.Delivered directory files later) :
    later.deliverAll directory files = (later, .ok (files.map (·.pathIn directory))) :=
  deliverAll_again h.holds

end FileTree

namespace Run
variable {tree later : FileTree} {path directory : String} {performed : GenerationSummary}

theorem readText_of_kept (hgrows : tree.Extends later) {text : String}
    (hread : tree.readText path = .ok text)
    (hkept : ∀ location content, tree.locate path = .ok (.file location content) →
      later.find? location = some (.file content)) :
    later.readText path = .ok text := by
  unfold FileTree.readText at hread
  split at hread
  all_goals cases hread
  next location hlocate =>
    have hlater := FileTree.locate_file_of_extends hgrows hlocate trivial (hkept location _ hlocate)
    rw [FileTree.readText, hlater]

/-- **Generating again changes nothing.** If a run succeeds and its manifest still holds the
same bytes, then the same run on the tree that came of it succeeds with the same summary, and
leaves that tree as it is, directories and files alike. -/
theorem regeneration (h : generate tree ⟨path, directory, false⟩ = (later, .ok performed))
    (hkept : ∀ location content, tree.locate path = .ok (.file location content) →
      later.find? location = some (.file content)) :
    generate later ⟨path, directory, false⟩ = (later, .ok performed) := by
  obtain ⟨processed, hprocess, hdelivered, rfl⟩ := generate_ok h
  obtain ⟨hload, _⟩ := (process_eq_ok_iff processed).1 hprocess
  obtain ⟨text, hread, _⟩ := (Manifest.loads_iff tree path processed.manifest).2 hload
  have hreading : later.reading path = tree.reading path := by
    rw [FileTree.reading, FileTree.reading, readText_of_kept hdelivered.grows hread hkept, hread]
  unfold generate
  dsimp only
  rw [hreading, hprocess]
  dsimp only
  rw [if_neg Bool.false_ne_true, hdelivered.again]
  rfl

/-- The first run makes the directories that the second one finds, away from the working
directory. -/
theorem regeneration_of_new_directories :
    ∃ (manifest : Content) (tree : FileTree) (order : Order),
      manifest = .text ("\x7b\"symbols\": [\x7b\"name\": \"A\", \"package\": \"p.q\", " ++
        "\"supertype\": \"androidx.lifecycle.ViewModel\"\x7d, \x7b\"name\": \"B\"\x7d]\x7d") ∧
      tree = { entries := [(["home"], .directory), (["m.json"], .file manifest)]
               workplace := ["home"] } ∧
      order = ⟨"/m.json", "/out", false⟩ ∧
      ∃ later performed, generate tree order = (later, .ok performed) ∧
        performed.files = ["/out/p/q/AFactory.kt"] ∧ performed.errors = 1 ∧
        later.find? ["p", "out"] = some .directory ∧
        tree.locate "/m.json" = .ok (.file ["m.json"] manifest) ∧
        later.find? ["m.json"] = some (.file manifest) ∧
        generate later order = (later, .ok performed) := by
  refine ⟨_, _, _, rfl, rfl, rfl, ?_⟩
  generalize hmanifest : Content.text _ = manifest
  generalize htree : FileTree.mk _ _ = tree
  generalize hrun : generate tree _ = first
  have hlocate : tree.locate "/m.json" = .ok (.file ["m.json"] manifest) := by
    subst htree
    rfl
  have hfirst : (first.2.toOption.any fun performed =>
      decide (performed.files = ["/out/p/q/AFactory.kt"] ∧ performed.errors = 1 ∧
        first.1.find? ["p", "out"] = some .directory ∧
        first.1.find? ["m.json"] = some (.file manifest))) = true := by
    subst hrun htree hmanifest
    decide +kernel
  obtain ⟨later, failure | performed⟩ := first
  · cases hfirst
  · obtain ⟨hfiles, herrors, hmade, hkept⟩ := of_decide_eq_true hfirst
    refine ⟨later, performed, rfl, hfiles, herrors, hmade, hlocate, hkept, regeneration hrun ?_⟩
    intro location content h
    rw [hlocate] at h
    cases h
    exact hkept

end Run
end FactoryGen
