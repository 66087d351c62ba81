import FactoryGen.Document.Decoding

/-! What a table says about a structure.

Entries are looked at one after the other, and what has been seen is remembered for the sake
of keys that come twice and of fields that are missing. `Record.Fills` is the same account
for a reading that succeeds, with a case for each thing an entry can be. As long as the
fields of a structure keep out of each other's way (`Record.IsRegular`), nothing but the
values under the known keys counts: not the order of the entries (`Fills.perm`), not the
entries under other keys, and not an entry that says what would be taken anyway
(`fills_default_iff`). A table of the first fields in order says the same as the list of
their values (`decoder_entriesOf_iff`). -/
namespace FactoryGen

/-- Storing two fields in the other order comes to the same. -/
def Field.Commutes {α : Type} (field other : Field α) : Prop :=
  ∀ dialect document document' value next result,
    field.store dialect document value = .ok next →
    other.store dialect document' next = .ok result →
    ∃ swapped, other.store dialect document' value = .ok swapped ∧
      field.store dialect document swapped = .ok result

/-- What a field takes from one document, it takes from the other one. -/
def Field.Carries {α : Type} (field : Field α) (dialect dialect' : Dialect)
    (document document' : Document) : Prop :=
  ∀ value result, field.store dialect document value = .ok result →
    field.store dialect' document' value = .ok result

/-- Whatever is stored in a field, something stays true. -/
def Field.Keeps {α : Type} (field : Field α) (dialect : Dialect) (P : α → Prop) : Prop :=
  ∀ document value next, P value → field.store dialect document value = .ok next → P next

/-- A field that a decoder gives is stored if the decoder finds a value. -/
theorem Field.of_store_eq_ok_iff {α β : Type} {name : String} {required : Bool}
    {decoder : Decoder β} {update : β → α → α} {dialect : Dialect} {document : Document}
    {value result : α} :
    (Field.of name required decoder update).store dialect document value = .ok result ↔
      ∃ part, decoder dialect document = .ok part ∧ update part value = result := by
  show (decoder dialect document >>= fun part => .ok (update part value)) = .ok result ↔ _
  cases decoder dialect document <;> simp [Bind.bind, Except.bind]

namespace Record
variable {α : Type}

def field? (record : Record α) (name : String) : Option (Field α) :=
  record.fields.find? fun field => field.name == name

/-- The fields have names of their own, and none of them touches what another one stores. -/
structure IsRegular (record : Record α) : Prop where
  names : (record.fields.map (·.name)).Nodup
  commutes : ∀ field ∈ record.fields, ∀ other ∈ record.fields, field.name ≠ other.name →
    field.Commutes other

/-- Entries, looked at with some names seen before, make one value out of another. -/
inductive Fills (record : Record α) (dialect : Dialect) :
    List (Option String × Document) → List String → α → α → Prop where
  /-- Nothing is left, and no required field is missing. -/
  | done {seen : List String} {value : α}
      (hseen : ∀ field ∈ record.fields, field.required = true → field.name ∈ seen) :
      Fills record dialect [] seen value value
  /-- An entry that no field asks for only has to be well formed. -/
  | unknown {name : String} {document : Document} {rest : List (Option String × Document)}
      {seen : List String} {value result : α} (hname : record.field? name = none)
      (hwhole : document.whole = true) (hrest : Fills record dialect rest seen value result) :
      Fills record dialect ((some name, document) :: rest) seen value result
  /-- An entry for a field that was not given before is stored. -/
  | known {name : String} {document : Document} {rest : List (Option String × Document)}
      {seen : List String} {field : Field α} {value next result : α}
      (hname : record.field? name = some field) (hnew : name ∉ seen)
      (hstore : field.store dialect document value = .ok next)
      (hrest : Fills record dialect rest (name :: seen) next result) :
      Fills record dialect ((some name, document) :: rest) seen value result

section
variable {record : Record α} {dialect : Dialect}
variable {entries rest : List (Option String × Document)} {seen : List String}
variable {value result : α} {name : String} {document : Document} {field : Field α}

theorem find?_missing_eq_none_iff :
    (record.fields.find? fun field => field.required && !seen.contains field.name) = none ↔
      ∀ field ∈ record.fields, field.required = true → field.name ∈ seen := by
  simp [List.find?_eq_none]

/-- The account of a reading that succeeds. -/
theorem fills_iff :
    record.Fills dialect entries seen value result ↔
      record.ofEntries dialect entries seen value = .ok result := by
  constructor
  · intro h
    induction h with
    | done hseen => rw [ofEntries, find?_missing_eq_none_iff.2 hseen]
    | unknown hname hwhole _ ih =>
      rw [field?] at hname
      simp only [ofEntries, hname, hwhole, if_true, ih]
    | known hname hnew hstore _ ih =>
      rw [field?] at hname
      simp only [ofEntries, hname, List.contains_iff_mem, hnew, if_false, hstore, ih]
  · intro h
    fun_induction ofEntries record dialect entries seen value with
    | case2 seen value hnone =>
      cases h
      exact .done (find?_missing_eq_none_iff.1 hnone)
    | case4 name document rest seen value hname hwhole ih => exact .unknown hname hwhole (ih h)
    | case7 name document rest seen value field hname hnew next hstore ih =>
      exact .known hname (by simpa using hnew) hstore (ih h)
    | _ => cases h

/-! ### Fields -/

theorem mem_of_field? (h : record.field? name = some field) :
    field ∈ record.fields ∧ field.name = name := by
  rw [field?] at h
  exact ⟨List.mem_of_find?_eq_some h, by simpa using List.find?_some h⟩

/-- Every field is found by its name. -/
theorem field?_eq (hnames : (record.fields.map (·.name)).Nodup) (hmem : field ∈ record.fields) :
    record.field? field.name = some field := by
  rw [field?]
  generalize record.fields = fields at hmem hnames
  induction fields with
  | nil => cases hmem
  | cons first fields ih =>
    rw [List.map_cons, List.nodup_cons] at hnames
    rcases List.mem_cons.1 hmem with rfl | hmem
    · exact List.find?_cons_of_pos (beq_self_eq_true _)
    · rw [List.find?_cons_of_neg, ih hmem hnames.2]
      intro hsame
      exact hnames.1 (beq_iff_eq.1 hsame ▸ List.mem_map_of_mem hmem)

/-! ### What was seen before -/

/-- It only matters which of the names still to come were seen, and which required ones. -/
theorem Fills.seen_congr {seen' : List String} (h : record.Fills dialect entries seen value result)
    (hrequired : ∀ field ∈ record.fields, field.required = true → field.name ∈ seen →
      field.name ∈ seen')
    (hcoming : ∀ name, some name ∈ entries.map (·.1) → name ∈ seen' → name ∈ seen) :
    record.Fills dialect entries seen' value result := by
  induction h generalizing seen' with
  | done hseen =>
    exact .done fun field hmem hreq => hrequired field hmem hreq (hseen field hmem hreq)
  | unknown hname hwhole _ ih =>
    exact .unknown hname hwhole
      (ih hrequired fun name hmem => hcoming name (List.mem_cons_of_mem _ hmem))
  | known hname hnew hstore _ ih =>
    refine .known hname ?_ hstore (ih ?_ ?_)
    · exact fun hmem => hnew (hcoming _ (List.mem_cons_self ..) hmem)
    · intro field hmem hreq hseen
      rcases List.mem_cons.1 hseen with heq | hseen
      · exact heq ▸ List.mem_cons_self ..
      · exact List.mem_cons_of_mem _ (hrequired field hmem hreq hseen)
    · intro name hmem hseen
      rcases List.mem_cons.1 hseen with rfl | hseen
      · exact List.mem_cons_self ..
      · exact List.mem_cons_of_mem _ (hcoming name (List.mem_cons_of_mem _ hmem) hseen)

/-! ### The order of entries -/

/-- Two entries next to each other can change places. -/
theorem Fills.swap {first second : Option String × Document} (hregular : record.IsRegular)
    (hne : first.1 ≠ second.1)
    (h : record.Fills dialect (first :: second :: rest) seen value result) :
    record.Fills dialect (second :: first :: rest) seen value result := by
  cases h with
  | unknown hname hwhole h =>
    cases h with
    | unknown hname' hwhole' hrest => exact .unknown hname' hwhole' (.unknown hname hwhole hrest)
    | known hname' hnew hstore hrest =>
      exact .known hname' hnew hstore (.unknown hname hwhole hrest)
  | known hname hnew hstore h =>
    cases h with
    | unknown hname' hwhole' hrest => exact .unknown hname' hwhole' (.known hname hnew hstore hrest)
    | known hname' hnew' hstore' hrest =>
      obtain ⟨hmem, rfl⟩ := mem_of_field? hname
      obtain ⟨hmem', rfl⟩ := mem_of_field? hname'
      have hnames := fun heq => hne (congrArg some heq)
      obtain ⟨swapped, hfirst, hsecond⟩ :=
        hregular.commutes _ hmem _ hmem' hnames _ _ _ _ _ _ hstore hstore'
      refine .known hname' (fun hseen => hnew' (List.mem_cons_of_mem _ hseen)) hfirst
        (.known hname ?_ hsecond (hrest.seen_congr ?_ ?_))
      · exact fun hseen => (List.mem_cons.1 hseen).elim hnames hnew
      · intro _ _ _ hseen
        simpa only [List.mem_cons, or_left_comm] using hseen
      · intro _ _ hseen
        simpa only [List.mem_cons, or_left_comm] using hseen

/-- **The order of entries does not matter.** -/
theorem Fills.perm {entries' : List (Option String × Document)} (hregular : record.IsRegular)
    (hperm : entries.Perm entries') (hkeys : (entries.map (·.1)).Nodup)
    (h : record.Fills dialect entries seen value result) :
    record.Fills dialect entries' seen value result := by
  induction hperm generalizing seen value with
  | nil => exact h
  | cons entry _ ih =>
    have hrest := (List.nodup_cons.1 hkeys).2
    cases h with
    | unknown hname hwhole h => exact .unknown hname hwhole (ih hrest h)
    | known hname hnew hstore h => exact .known hname hnew hstore (ih hrest h)
  | swap second first rest =>
    refine h.swap hregular fun heq => ?_
    exact (List.nodup_cons.1 hkeys).1 (List.mem_cons.2 (.inl heq))
  | trans hperm _ ih ih' => exact ih' ((hperm.map _).nodup_iff.1 hkeys) (ih hkeys h)

/-! ### Entries that change nothing -/

theorem fills_known_iff (hname : record.field? name = some field) (hnew : name ∉ seen) :
    record.Fills dialect ((some name, document) :: rest) seen value result ↔
      ∃ next, field.store dialect document value = .ok next ∧
        record.Fills dialect rest (name :: seen) next result := by
  constructor
  · intro h
    cases h with
    | unknown hname' _ _ => exact nomatch hname.symm.trans hname'
    | known hname' _ hstore hrest =>
      obtain rfl := Option.some.inj (hname.symm.trans hname')
      exact ⟨_, hstore, hrest⟩
  · rintro ⟨next, hstore, hrest⟩
    exact .known hname hnew hstore hrest

theorem fills_unknown_iff (hname : record.field? name = none) (hwhole : document.whole = true) :
    record.Fills dialect ((some name, document) :: rest) seen value result ↔
      record.Fills dialect rest seen value result := by
  constructor
  · intro h
    cases h with
    | unknown _ _ hrest => exact hrest
    | known hname' _ _ _ => exact nomatch hname.symm.trans hname'
  · exact .unknown hname hwhole

/-- An entry that stores what is there already may as well be missing. -/
theorem fills_default_iff (hnames : (record.fields.map (·.name)).Nodup)
    (hmem : field ∈ record.fields) (hrequired : field.required = false)
    (hstore : field.store dialect document value = .ok value)
    (hfresh : some field.name ∉ rest.map (·.1)) (hnew : field.name ∉ seen) :
    record.Fills dialect ((some field.name, document) :: rest) seen value result ↔
      record.Fills dialect rest seen value result := by
  have hname := field?_eq hnames hmem
  rw [fills_known_iff hname hnew]
  constructor
  · rintro ⟨next, hstore', hrest⟩
    rw [hstore, Except.ok.injEq] at hstore'
    subst hstore'
    refine hrest.seen_congr ?_ fun _ _ => List.mem_cons_of_mem _
    intro other hother hreq hseen
    rcases List.mem_cons.1 hseen with heq | hseen
    · have hsame := field?_eq hnames hother
      rw [heq, hname, Option.some.injEq] at hsame
      rw [← hsame, hrequired] at hreq
      cases hreq
    · exact hseen
  · intro hrest
    refine ⟨value, hstore, hrest.seen_congr (fun _ _ _ => List.mem_cons_of_mem _) ?_⟩
    intro name hcoming hseen
    rcases List.mem_cons.1 hseen with rfl | hseen
    · exact absurd hcoming hfresh
    · exact hseen

/-! ### Other documents under the same keys -/

/-- One document can stand in for another one. -/
theorem Fills.replace {front back : List (Option String × Document)} {document' : Document}
    (h : record.Fills dialect (front ++ (some name, document) :: back) seen value result)
    (hwhole : record.field? name = none → document.whole = true → document'.whole = true)
    (hfield : ∀ field, record.field? name = some field →
      field.Carries dialect dialect document document') :
    record.Fills dialect (front ++ (some name, document') :: back) seen value result := by
  induction front generalizing seen value with
  | nil =>
    cases h with
    | unknown hname h hrest => exact .unknown hname (hwhole hname h) hrest
    | known hname hnew hstore hrest =>
      exact .known hname hnew (hfield _ hname _ _ hstore) hrest
  | cons entry front ih =>
    cases h with
    | unknown hname h hrest => exact .unknown hname h (ih hrest)
    | known hname hnew hstore hrest => exact .known hname hnew hstore (ih hrest)

theorem Fills.replace_value {front back : List (Option String × Document)} {document' : Document}
    (hname : record.field? name = some field)
    (hfield : field.Carries dialect dialect document document')
    (h : record.Fills dialect (front ++ (some name, document) :: back) seen value result) :
    record.Fills dialect (front ++ (some name, document') :: back) seen value result := by
  refine h.replace (fun hnone => nomatch hname.symm.trans hnone) fun field' hname' => ?_
  obtain rfl := Option.some.inj (hname.symm.trans hname')
  exact hfield

/-- So can one format for another one. -/
theorem Fills.transfer {dialect' : Dialect} (h : record.Fills dialect entries seen value result)
    (hfields : ∀ field ∈ record.fields, ∀ entry ∈ entries,
      field.Carries dialect dialect' entry.2 entry.2) :
    record.Fills dialect' entries seen value result := by
  induction h with
  | done hseen => exact .done hseen
  | unknown hname hwhole _ ih =>
    exact .unknown hname hwhole (ih fun field hmem entry hentry =>
      hfields field hmem entry (List.mem_cons_of_mem _ hentry))
  | known hname hnew hstore _ ih =>
    refine .known hname hnew ?_ (ih fun field hmem entry hentry =>
      hfields field hmem entry (List.mem_cons_of_mem _ hentry))
    exact hfields _ (mem_of_field? hname).1 _ (List.mem_cons_self ..) _ _ hstore

/-- What no field in the entries touches stays as it is. -/
theorem Fills.preserves (P : α → Prop) (h : record.Fills dialect entries seen value result)
    (hfields : ∀ field ∈ record.fields, some field.name ∈ entries.map (·.1) →
      field.Keeps dialect P) (hvalue : P value) : P result := by
  induction h with
  | done _ => exact hvalue
  | unknown _ _ _ ih =>
    exact ih (fun field hmem hkey => hfields field hmem (List.mem_cons_of_mem _ hkey)) hvalue
  | known hname _ hstore _ ih =>
    obtain ⟨hmem, rfl⟩ := mem_of_field? hname
    exact ih (fun field hmem hkey => hfields field hmem (List.mem_cons_of_mem _ hkey))
      (hfields _ hmem (List.mem_cons_self ..) _ _ _ hvalue hstore)

/-- What was stored under a name stays as it is, if no other field touches it. -/
theorem Fills.stores (P : α → Prop) (h : record.Fills dialect entries seen value result)
    (hkeys : (entries.map (·.1)).Nodup) (hname : record.field? name = some field)
    (hmem : (some name, document) ∈ entries)
    (hstore : ∀ value next, field.store dialect document value = .ok next → P next)
    (hothers : ∀ other ∈ record.fields, other.name ≠ name → other.Keeps dialect P) :
    P result := by
  induction h with
  | done _ => cases hmem
  | unknown hname' _ _ ih =>
    rcases List.mem_cons.1 hmem with heq | hmem
    · cases heq
      exact nomatch hname.symm.trans hname'
    · exact ih (List.nodup_cons.1 hkeys).2 hmem
  | known hname' _ hstore' hrest ih =>
    obtain ⟨hfirst, hkeys⟩ := List.nodup_cons.1 hkeys
    rcases List.mem_cons.1 hmem with heq | hmem
    · cases heq
      obtain rfl := Option.some.inj (hname.symm.trans hname')
      refine hrest.preserves P (fun other hother hkey => ?_) (hstore _ _ hstore')
      exact hothers other hother fun hsame => hfirst (hsame ▸ hkey)
    · exact ih hkeys hmem

/-! ### Lists of fields -/

theorem ofItems_nil_iff {fields : List (Field α)} {index : Nat} :
    record.ofItems dialect fields index [] value = .ok result ↔
      value = result ∧ ∀ field ∈ fields, field.required = false := by
  induction fields generalizing index with
  | nil => simp [ofItems]
  | cons field fields ih => cases hrequired : field.required <;> simp [ofItems, hrequired, ih]

theorem ofItems_cons_iff {fields : List (Field α)} {index : Nat} {items : List Document} :
    record.ofItems dialect (field :: fields) index (document :: items) value = .ok result ↔
      ∃ next, field.store dialect document value = .ok next ∧
        record.ofItems dialect fields (index + 1) items next = .ok result := by
  rw [ofItems]
  cases field.store dialect document value <;> simp

theorem ofItems_end {index : Nat} {items : List Document}
    (h : record.ofItems dialect [] index items value = .ok result) : value = result := by
  rw [ofItems] at h
  split at h
  · exact Except.ok.inj h
  · cases h

theorem ofItems_replace {fields : List (Field α)} {index : Nat} {front back : List Document}
    {document' : Document}
    (h : record.ofItems dialect fields index (front ++ document :: back) value = .ok result)
    (hfield : ∀ field, fields[front.length]? = some field →
      field.Carries dialect dialect document document') :
    record.ofItems dialect fields index (front ++ document' :: back) value = .ok result := by
  induction front generalizing fields index value with
  | nil =>
    cases fields with
    | nil => exact h
    | cons field fields =>
      obtain ⟨next, hstore, hrest⟩ := ofItems_cons_iff.1 h
      exact ofItems_cons_iff.2 ⟨next, hfield field rfl _ _ hstore, hrest⟩
  | cons item front ih =>
    cases fields with
    | nil => exact h
    | cons field fields =>
      obtain ⟨next, hstore, hrest⟩ := ofItems_cons_iff.1 h
      exact ofItems_cons_iff.2 ⟨next, hstore, ih hrest fun other hother => hfield other (by simpa)⟩

theorem ofItems_replace_value {fields : List (Field α)} {index : Nat} {front back : List Document}
    {document' : Document} (hat : fields[front.length]? = some field)
    (hfield : field.Carries dialect dialect document document')
    (h : record.ofItems dialect fields index (front ++ document :: back) value = .ok result) :
    record.ofItems dialect fields index (front ++ document' :: back) value = .ok result := by
  refine ofItems_replace h fun field' hat' => ?_
  obtain rfl := Option.some.inj (hat.symm.trans hat')
  exact hfield

theorem ofItems_transfer {dialect' : Dialect} {fields : List (Field α)} {index : Nat}
    {items : List Document} (h : record.ofItems dialect fields index items value = .ok result)
    (hsurplus : dialect.ignoresSurplus = true → dialect'.ignoresSurplus = true)
    (hfields : ∀ field ∈ fields, ∀ item ∈ items, field.Carries dialect dialect' item item) :
    record.ofItems dialect' fields index items value = .ok result := by
  induction fields generalizing index items value with
  | nil =>
    rw [ofItems] at h ⊢
    split at h
    · next hend =>
      rw [if_pos]
      · exact h
      · exact (Bool.or_eq_true_iff.1 hend).elim (fun h => by simp [h]) fun h => by simp [hsurplus h]
    · cases h
  | cons field fields ih =>
    cases items with
    | nil => exact ofItems_nil_iff.2 (ofItems_nil_iff.1 h)
    | cons item items =>
      obtain ⟨next, hstore, hrest⟩ := ofItems_cons_iff.1 h
      refine ofItems_cons_iff.2 ⟨next, ?_, ih hrest ?_⟩
      · exact hfields field (List.mem_cons_self ..) item (List.mem_cons_self ..) _ _ hstore
      · exact fun other hother item hitem =>
          hfields other (List.mem_cons_of_mem _ hother) item (List.mem_cons_of_mem _ hitem)

theorem ofItems_preserves (P : α → Prop) {fields : List (Field α)} {index : Nat}
    {items : List Document} (h : record.ofItems dialect fields index items value = .ok result)
    (hfields : ∀ field ∈ fields.take items.length, field.Keeps dialect P) (hvalue : P value) :
    P result := by
  induction items generalizing fields index value with
  | nil => exact (ofItems_nil_iff.1 h).1 ▸ hvalue
  | cons item items ih =>
    cases fields with
    | nil => exact ofItems_end h ▸ hvalue
    | cons field fields =>
      obtain ⟨next, hstore, hrest⟩ := ofItems_cons_iff.1 h
      obtain ⟨hfield, hfields⟩ := List.forall_mem_cons.1 hfields
      exact ih hrest hfields (hfield _ _ _ hvalue hstore)

theorem ofItems_stores (P : α → Prop) {fields front back : List (Field α)} {index : Nat}
    {items : List Document} (h : record.ofItems dialect fields index items value = .ok result)
    (hfields : fields = front ++ field :: back) (hitem : items[front.length]? = some document)
    (hstore : ∀ value next, field.store dialect document value = .ok next → P next)
    (hback : ∀ other ∈ back, other.Keeps dialect P) : P result := by
  subst hfields
  induction front generalizing items index value with
  | nil =>
    cases items with
    | nil => cases hitem
    | cons item items =>
      cases hitem
      obtain ⟨next, hnext, hrest⟩ := ofItems_cons_iff.1 h
      exact ofItems_preserves P hrest (fun other hmem => hback other (List.mem_of_mem_take hmem))
        (hstore _ _ hnext)
  | cons first front ih =>
    cases items with
    | nil => cases hitem
    | cons item items =>
      obtain ⟨next, _, hrest⟩ := ofItems_cons_iff.1 h
      exact ih (by simpa using hitem) hrest

/-- Documents as the entries of the first fields. -/
def entriesOf (fields : List (Field α)) (documents : List Document) :
    List (Option String × Document) :=
  fields.zipWith (fun field document => (some field.name, document)) documents

theorem fills_nil_iff :
    record.Fills dialect [] seen value result ↔
      value = result ∧ ∀ field ∈ record.fields, field.required = true → field.name ∈ seen := by
  constructor
  · intro h
    cases h with
    | done hseen => exact ⟨rfl, hseen⟩
  · rintro ⟨rfl, hseen⟩
    exact .done hseen

/-- From any field on, as long as the fields before were seen and no others. -/
theorem fills_entriesOf_iff_of_seen (hnames : (record.fields.map (·.name)).Nodup)
    {pending : List (Field α)} {documents : List Document} {index : Nat}
    (hpending : ∀ field ∈ pending, field ∈ record.fields ∧ field.name ∉ seen)
    (hdistinct : (pending.map (·.name)).Nodup)
    (hseen : ∀ field ∈ record.fields, field ∈ pending ∨ field.name ∈ seen)
    (hlength : documents.length ≤ pending.length) :
    record.Fills dialect (entriesOf pending documents) seen value result ↔
      record.ofItems dialect pending index documents value = .ok result := by
  induction documents generalizing pending seen index value with
  | nil =>
    rw [entriesOf, List.zipWith_nil_right, fills_nil_iff, ofItems_nil_iff, and_congr_right_iff]
    intro _
    constructor
    · intro hrequired field hmem
      rw [Bool.eq_false_iff]
      exact fun hreq => (hpending field hmem).2 (hrequired field (hpending field hmem).1 hreq)
    · intro hoptional field hmem hreq
      refine (hseen field hmem).resolve_left fun hleft => ?_
      rw [hoptional field hleft] at hreq
      cases hreq
  | cons document documents ih =>
    cases pending with
    | nil => cases hlength
    | cons field pending =>
      obtain ⟨hmem, hnew⟩ := hpending field (List.mem_cons_self ..)
      obtain ⟨hfirst, hdistinct⟩ := List.nodup_cons.1 hdistinct
      have hrest (next : α) := @ih (field.name :: seen) next pending (index + 1) (by
        intro other hother
        obtain ⟨hmem, hnew⟩ := hpending other (List.mem_cons_of_mem _ hother)
        refine ⟨hmem, fun hseen => ?_⟩
        rcases List.mem_cons.1 hseen with hsame | hseen
        · exact hfirst (List.mem_map.2 ⟨other, hother, hsame⟩)
        · exact hnew hseen) hdistinct (by
        intro other hother
        rcases hseen other hother with hother | hother
        · rcases List.mem_cons.1 hother with rfl | hother
          · exact .inr (List.mem_cons_self ..)
          · exact .inl hother
        · exact .inr (List.mem_cons_of_mem _ hother)) (Nat.le_of_succ_le_succ hlength)
      rw [ofItems_cons_iff, entriesOf, List.zipWith_cons_cons, ← entriesOf]
      simp only [← hrest]
      exact fills_known_iff (field?_eq hnames hmem) hnew

/-- **The first fields in order say the same as the list of their values.** -/
theorem decoder_entriesOf_iff (hnames : (record.fields.map (·.name)).Nodup)
    {documents : List Document} (hlength : documents.length ≤ record.fields.length) :
    record.decoder dialect (.table (entriesOf record.fields documents)) = .ok value ↔
      record.decoder dialect (.list documents) = .ok value := by
  simp only [decoder, ← fills_iff]
  exact fills_entriesOf_iff_of_seen hnames (fun _ hmem => ⟨hmem, List.not_mem_nil⟩) hnames
    (fun _ => .inl) hlength

end
end Record
end FactoryGen
