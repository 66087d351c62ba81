import FactoryGen.Template.Rendering

/-! How a template renders, node by node.

A node that renders to a text can be put in front of nodes that do
(`renderNodes_cons`), so what a template gives is read off its nodes one at a time. A
condition shows one of two texts. A loop over a list shows a text for each item, and
the only thing an item has to know about the others is whether it is the last
(`rounds`): that is how separators between items come about. -/
namespace FactoryGen.Template

/-- The reference to a member of the value in view. -/
def Reference.member (name : String) : Reference := ⟨name, .view 0, [name]⟩

/-- The reference to a mark of the innermost loop. -/
def Reference.mark (name : String) : Reference := ⟨"@" ++ name, .loop 0, [name]⟩

/-- The texts of a loop's rounds, where a round knows whether it is the last. -/
def rounds {α : Type} (text : α → Bool → String) : List α → List String
  | [] => []
  | [item] => [text item true]
  | item :: next :: rest => text item false :: rounds text (next :: rest)

section
variable {root : Json} {frames : List Frame}

/-! ### References -/

theorem findSome?_named (hnamed : ∀ frame ∈ frames, frame.named = []) (name : String) :
    (frames.findSome? fun frame => Json.lookup? name frame.named) = none := by
  rw [List.findSome?_eq_none_iff]
  intro frame hmem
  rw [hnamed frame hmem]
  rfl

theorem resolve_member {members : List (String × Json)}
    (hview : inView root frames 0 = .object members)
    (hnamed : ∀ frame ∈ frames, frame.named = []) (name : String) :
    (Reference.member name).resolve root frames = .ok (Json.lookup? name members) := by
  simp only [Reference.member, Reference.resolve, findSome?_named hnamed name, hview, follow]
  cases Json.lookup? name members <;> rfl

theorem resolve_mark (frame : Frame) (name : String) :
    (Reference.mark name).resolve root (frame :: frames) =
      .ok (Json.lookup? name frame.marks) := rfl

/-! ### Nodes in a row -/

theorem renderNodes_nil : renderNodes root frames [] = .ok (String.join []) := by
  rw [String.join_nil, renderNodes]

theorem renderNodes_cons {node : Node} {rest : List Node} {text : String} {others : List String}
    (h : renderNode root frames node = .ok text)
    (hrest : renderNodes root frames rest = .ok (String.join others)) :
    renderNodes root frames (node :: rest) = .ok (String.join (text :: others)) := by
  simp only [renderNodes, h, hrest, Except.map, String.join_cons]

theorem renderNodes_text {text : String} {rest : List Node} {others : List String}
    (hrest : renderNodes root frames rest = .ok (String.join others)) :
    renderNodes root frames (.text text :: rest) = .ok (String.join (text :: others)) :=
  renderNodes_cons (by rw [renderNode]) hrest

theorem renderNodes_member {name value : String} {rest : List Node} {others : List String}
    (h : (Reference.member name).resolve root frames = .ok (some (.text value)))
    (hrest : renderNodes root frames rest = .ok (String.join others)) :
    renderNodes root frames (.value (Reference.member name) :: rest) =
      .ok (String.join (value :: others)) :=
  renderNodes_cons (by simp only [renderNode, h, shown]) hrest

theorem renderNodes_singleton {node : Node} {text : String}
    (h : renderNode root frames node = .ok text) : renderNodes root frames [node] = .ok text := by
  rw [renderNodes_cons h renderNodes_nil, String.join_cons, String.join_nil, String.append_empty]

theorem renderNodes_append {front back : List Node} {text others : String}
    (h : renderNodes root frames front = .ok text)
    (hback : renderNodes root frames back = .ok others) :
    renderNodes root frames (front ++ back) = .ok (text ++ others) := by
  induction front generalizing text with
  | nil =>
    rw [renderNodes] at h
    cases h
    rw [List.nil_append, hback, String.empty_append]
  | cons node rest ih =>
    rw [renderNodes] at h
    split at h
    · cases h
    · next first hfirst =>
      cases hrest : renderNodes root frames rest with
      | error fault => rw [hrest] at h; cases h
      | ok following =>
        rw [hrest] at h
        cases h
        simp only [List.cons_append, renderNodes, hfirst, ih hrest, Except.map, String.append_assoc]

/-! ### Blocks -/

variable {helper : Helper} {subject : Reference} {body : List Node}

theorem renderNode_body {names : List String} {alternative : Option (List Node)}
    {value : Option Json} {added : List (List Frame)} {texts : List String}
    (h : subject.resolve root frames = .ok value) (hplan : helper.plan names value = .body added)
    (htexts : added.mapM (fun inner => renderNodes root (inner ++ frames) body) = .ok texts) :
    renderNode root frames (.block helper subject names body alternative) =
      .ok (String.join texts) := by
  simp only [renderNode, h]
  rw [hplan]
  simp only [htexts, Except.map]

theorem renderNode_alternative {names : List String} {alternative : Option (List Node)}
    {value : Option Json} {required : Bool} (h : subject.resolve root frames = .ok value)
    (hplan : helper.plan names value = .alternative required) :
    renderNode root frames (.block helper subject names body alternative) =
      renderAlternative root frames required subject.written alternative := by
  simp only [renderNode, h]
  rw [hplan]

/-- A body shown once, with nothing new in view. -/
theorem mapM_once {text : String} (hbody : renderNodes root frames body = .ok text) :
    [[]].mapM (fun inner => renderNodes root (inner ++ frames) body) = .ok [text] := by
  simp only [List.mapM_cons, List.mapM_nil, List.nil_append, hbody]
  rfl

theorem join_singleton (text : String) : String.join [text] = text := by
  rw [String.join_cons, String.join_nil, String.append_empty]

/-! ### Conditions -/

theorem renderNode_given {value : Json} {alternative : Option (List Node)} {text : String}
    (h : subject.resolve root frames = .ok (some value))
    (hbody : value.isTruthy = true → renderNodes root frames body = .ok text)
    (hother : value.isTruthy = false →
      renderAlternative root frames false subject.written alternative = .ok text) :
    renderNode root frames (.block .given subject [] body alternative) = .ok text := by
  cases htruthy : value.isTruthy with
  | true =>
    have hplan : Helper.given.plan [] (some value) = .body [[]] := by
      simp only [Helper.plan, Option.any_some, htruthy, if_true]
    rw [renderNode_body h hplan (mapM_once (hbody htruthy)), join_singleton]
  | false =>
    have hplan : Helper.given.plan [] (some value) = .alternative false := by
      simp only [Helper.plan, Option.any_some, htruthy, Bool.false_eq_true, if_false]
    rw [renderNode_alternative h hplan, hother htruthy]

theorem renderNode_absent {value : Json} {text : String}
    (h : subject.resolve root frames = .ok (some value))
    (hbody : renderNodes root frames body = .ok text) :
    renderNode root frames (.block .absent subject [] body none) =
      .ok (if value.isTruthy then "" else text) := by
  cases htruthy : value.isTruthy with
  | true =>
    have hplan : Helper.absent.plan [] (some value) = .alternative false := by
      simp only [Helper.plan, Option.any_some, htruthy, if_true]
    rw [renderNode_alternative h hplan]
    rfl
  | false =>
    have hplan : Helper.absent.plan [] (some value) = .body [[]] := by
      simp only [Helper.plan, Option.any_some, htruthy, Bool.false_eq_true, if_false]
    rw [renderNode_body h hplan (mapM_once hbody), join_singleton, if_neg Bool.false_ne_true]

/-! ### Loops -/

variable {α : Type} {view : α → Json} {text : α → Bool → String}

/-- The rounds of a loop from some index on. Only the mark of the last round tells one
round from another, and it depends on how many are left. -/
theorem mapM_loopFrames
    (hround : ∀ item marks last, Json.lookup? "last" marks = some (.bool last) →
      renderNodes root (⟨view item, marks, []⟩ :: frames) body = .ok (text item last))
    (items : List α) (entries : List (Json × Json))
    (hentries : entries.map (·.2) = items.map view) (index count : Nat)
    (hcount : index + items.length = count) :
    (loopFrames [] false count index entries).mapM
      (fun inner => renderNodes root (inner ++ frames) body) = .ok (rounds text items) := by
  induction items generalizing entries index with
  | nil =>
    obtain rfl : entries = [] := List.map_eq_nil_iff.1 hentries
    rfl
  | cons item rest ih =>
    obtain _ | ⟨⟨key, value⟩, others⟩ := entries
    · cases hentries
    · simp only [List.map_cons, List.cons.injEq] at hentries
      obtain ⟨rfl, hothers⟩ := hentries
      have htail := ih others hothers (index + 1)
        (by rw [← hcount, List.length_cons]; omega)
      have hhead := hround item
        [("first", .bool (index == 0)), ("last", .bool (index + 1 == count)),
          ("index", Json.ofNat index)] (index + 1 == count) rfl
      simp only [loopFrames, bind, Bool.false_eq_true, if_false, List.append_nil,
        List.mapM_cons, List.singleton_append]
      rw [hhead, htail]
      cases rest with
      | nil =>
        have hlast : (index + 1 == count) = true := by
          rw [← hcount]
          exact beq_self_eq_true _
        rw [hlast]
        rfl
      | cons next rest =>
        have hlast : (index + 1 == count) = false := by
          apply beq_eq_false_iff_ne.mpr
          rw [← hcount, List.length_cons, List.length_cons]
          omega
        rw [hlast]
        rfl

theorem loopEntries_values (items : List Json) :
    (loopEntries (.list items)).map (·.2) = items := by
  apply List.ext_getElem?
  intro index
  simp only [loopEntries, List.getElem?_map, List.getElem?_mapIdx, Option.map_map]
  exact Option.map_id_apply

theorem plan_each (items : List Json) :
    Helper.each.plan [] (some (.list items)) =
      if items.isEmpty then .alternative false
      else .body (loopFrames [] false items.length 0 (loopEntries (.list items))) := by
  have hlength : (loopEntries (.list items)).length = items.length := by
    rw [← List.length_map (·.2), loopEntries_values]
  have hempty : (loopEntries (.list items)).isEmpty = items.isEmpty := by
    rw [← List.isEmpty_map (f := (·.2)), loopEntries_values]
  simp only [Helper.plan, Option.getD_some, hlength, hempty]
  rfl

/-- A loop over a list shows its rounds. -/
theorem renderNode_each (items : List α)
    (h : subject.resolve root frames = .ok (some (.list (items.map view))))
    (hround : ∀ item marks last, Json.lookup? "last" marks = some (.bool last) →
      renderNodes root (⟨view item, marks, []⟩ :: frames) body = .ok (text item last)) :
    renderNode root frames (.block .each subject [] body none) =
      .ok (String.join (rounds text items)) := by
  cases items with
  | nil => exact renderNode_alternative h (plan_each [])
  | cons item rest =>
    have hrounds := mapM_loopFrames hround (item :: rest) _ (loopEntries_values _) 0 _ rfl
    rw [Nat.zero_add, ← List.length_map view] at hrounds
    exact renderNode_body h (plan_each _) hrounds

end

/-! ### Texts of loops -/

theorem join_rounds {α : Type} (text : α → String) (items : List α) :
    String.join (rounds (fun item _ => text item) items) = String.join (items.map text) := by
  fun_induction rounds (fun item (_ : Bool) => text item) items with
  | case1 => rfl
  | case2 item => rfl
  | case3 item next rest ih => rw [List.map_cons, String.join_cons, String.join_cons, ih]

/-- A separator behind every round but the last stands between the rounds. -/
theorem join_rounds_separated {α : Type} (separator : String) (text : α → String)
    (items : List α) :
    String.join (rounds (fun item last => text item ++ if last then "" else separator) items) =
      separator.intercalate (items.map text) := by
  fun_induction rounds (fun item last => text item ++ if last then "" else separator) items with
  | case1 => rfl
  | case2 item => simp [String.join_cons]
  | case3 item next rest ih =>
    rw [String.join_cons, ih]
    simp [String.append_assoc]

end FactoryGen.Template
