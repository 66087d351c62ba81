import FactoryGen.Output.Format
import FactoryGen.Proofs.Numerals
import Mathlib.Data.List.Infix

/-! What the form for people can tell apart.

Texts and keys stand between quotation marks as they are, so one that has a quotation mark and
then what stands behind a value or a key looks as if it ended there (`SeemsToEnd`). Then another
value may be written alike (`pretty_of_imitations`). If no text and no key does (`isLegible`),
what is written tells the value. Its first character tells its kind (`sameKind_of_eq`), a text
ends at one quotation mark only (`close_inj`), a number goes on until something else begins
(`number_inj`), and so, by induction on the value, any value can be told from any other and from
what stands behind it (`told`). -/
namespace FactoryGen

namespace Output

/-- What stands behind a value at some depth: the next item, or the end of what holds it. -/
def ends : Nat → List (List Char)
  | 0 => []
  | depth + 1 => [Json.newline depth, ',' :: Json.newline (depth + 1)]

/-- What stands behind a key. -/
def keyEnds : List (List Char) := [[':', ' ']]

/-- A text seems to end before it does. -/
def SeemsToEnd (ends : List (List Char)) (text : List Char) : Prop :=
  ∃ stop ∈ ends, '"' :: stop <:+: text

instance (ends : List (List Char)) (text : List Char) : Decidable (SeemsToEnd ends text) :=
  inferInstanceAs (Decidable (∃ stop ∈ ends, '"' :: stop <:+: text))

mutual

/-- Whether every text and every key of a value ends where it seems to, and its numbers are
those of JSON. -/
def isLegible (depth : Nat) : Json → Bool
  | .null => true
  | .bool _ => true
  | .number value => decide value.IsFinite
  | .text value => !decide (SeemsToEnd (ends depth) value.toList)
  | .list items => areLegible (depth + 1) items
  | .object members => haveLegible (depth + 1) members

def areLegible (depth : Nat) : List Json → Bool
  | [] => true
  | item :: rest => isLegible depth item && areLegible depth rest

def haveLegible (depth : Nat) : List (String × Json) → Bool
  | [] => true
  | (key, value) :: rest =>
    !decide (SeemsToEnd keyEnds key.toList) && isLegible depth value && haveLegible depth rest

end

/-! ### Texts between quotation marks -/

section
variable {ends : List (List Char)} {text text' rest rest' : List Char}

/-- Nothing, or what may stand behind a value. -/
def IsRest (ends : List (List Char)) (rest : List Char) : Prop :=
  rest = [] ∨ ∃ stop ∈ ends, stop <+: rest

theorem front_of_front_append {stop : List Char} (hstop : '"' ∉ stop)
    (h : stop <+: text ++ '"' :: rest) : stop <+: text := by
  rcases List.prefix_or_prefix_of_prefix h (List.prefix_append text ('"' :: rest)) with
    hfront | ⟨others, rfl⟩
  · exact hfront
  · cases others with
    | nil => rw [List.append_nil]
    | cons c others =>
      rw [List.prefix_append_right_inj, List.cons_prefix_cons] at h
      exact absurd (List.mem_append_right text (h.1 ▸ List.mem_cons_self)) hstop

/-- A text that goes on behind its end seems to end there. -/
theorem eq_nil_of_close (hends : ∀ stop ∈ ends, '"' ∉ stop) {others : List Char}
    (htext : ¬SeemsToEnd ends (text ++ others)) (hrest : IsRest ends rest)
    (h : '"' :: rest = others ++ '"' :: rest') : others = [] := by
  cases others with
  | nil => rfl
  | cons c others =>
    obtain ⟨rfl, rfl⟩ := List.cons.inj h
    rcases hrest with hnil | ⟨stop, hstop, hfront⟩
    · exact absurd hnil (List.append_ne_nil_of_right_ne_nil others (List.cons_ne_nil _ _))
    · obtain ⟨behind, rfl⟩ := front_of_front_append (hends stop hstop) hfront
      exact absurd ⟨stop, hstop, text, behind, by simp⟩ htext

/-- A text ends at one quotation mark only. -/
theorem close_inj (hends : ∀ stop ∈ ends, '"' ∉ stop) (htext : ¬SeemsToEnd ends text)
    (htext' : ¬SeemsToEnd ends text') (hrest : IsRest ends rest) (hrest' : IsRest ends rest')
    (h : text ++ '"' :: rest = text' ++ '"' :: rest') : text = text' ∧ rest = rest' := by
  rcases List.append_eq_append_iff.1 h with ⟨others, rfl, hothers⟩ | ⟨others, rfl, hothers⟩
  · cases eq_nil_of_close hends htext' hrest hothers
    exact ⟨(List.append_nil text).symm, (List.cons.inj hothers).2⟩
  · cases eq_nil_of_close hends htext hrest' hothers
    exact ⟨List.append_nil text', (List.cons.inj hothers).2.symm⟩

end

/-! ### Kinds of values -/

/-- Values of one kind; only those of the last four kinds can differ. -/
inductive SameKind : Json → Json → Prop where
  | null : SameKind .null .null
  | bool (value : Bool) : SameKind (.bool value) (.bool value)
  | number (value other : Numeral) : SameKind (.number value) (.number other)
  | text (value other : String) : SameKind (.text value) (.text other)
  | list (items others : List Json) : SameKind (.list items) (.list others)
  | object (members others : List (String × Json)) : SameKind (.object members) (.object others)

/-- What a value of some kind begins with; numbers begin with any of their characters. -/
def mark : Json → Char
  | .null => 'n'
  | .bool true => 't'
  | .bool false => 'f'
  | .number _ => '0'
  | .text _ => '"'
  | .list _ => '['
  | .object _ => '\x7b'

theorem sameKind_of_mark {value other : Json} (h : mark value = mark other) :
    SameKind value other := by
  rcases value with _ | (_ | _) | _ | _ | _ | _ <;>
    rcases other with _ | (_ | _) | _ | _ | _ | _ <;>
      first
      | constructor
      | exact absurd h (by simp [mark])

theorem paint_plain (style : Style) (text : List Char) : style.paint false text = text := rfl

variable {value other : Json} {depth : Nat} {rest rest' : List Char}

theorem exists_mark (h : isLegible depth value = true) :
    ∃ c others, prettyChars false depth value = c :: others ∧
      mark value = if Number.Layout.isNumberChar c then '0' else c := by
  match value with
  | .null => exact ⟨_, _, rfl, rfl⟩
  | .bool true => exact ⟨_, _, rfl, rfl⟩
  | .bool false => exact ⟨_, _, rfl, rfl⟩
  | .number value =>
    have hfinite : value.IsFinite := of_decide_eq_true h
    obtain ⟨c, others, htext⟩ := List.exists_cons_of_ne_nil (Numeral.text_ne_nil hfinite)
    have hused := Numeral.isNumberChar_of_mem_text hfinite (htext ▸ List.mem_cons_self)
    exact ⟨c, others, htext, by rw [if_pos hused, mark]⟩
  | .text value => exact ⟨_, _, rfl, rfl⟩
  | .list [] => exact ⟨_, _, rfl, rfl⟩
  | .list (_ :: _) => exact ⟨_, _, rfl, rfl⟩
  | .object [] => exact ⟨_, _, rfl, rfl⟩
  | .object (_ :: _) => exact ⟨_, _, rfl, rfl⟩

theorem sameKind_of_eq (h : isLegible depth value = true) (h' : isLegible depth other = true)
    (heq : prettyChars false depth value ++ rest = prettyChars false depth other ++ rest') :
    SameKind value other := by
  obtain ⟨c, others, hchars, hmark⟩ := exists_mark h
  obtain ⟨c', others', hchars', hmark'⟩ := exists_mark h'
  rw [hchars, hchars', List.cons_append, List.cons_append] at heq
  rw [(List.cons.inj heq).1] at hmark
  exact sameKind_of_mark (hmark.trans hmark'.symm)

/-! ### Where values end -/

theorem quote_not_mem_ends {stop : List Char} (h : stop ∈ ends depth) : '"' ∉ stop := by
  have hspaces (n : Nat) : '"' ∉ List.replicate n ' ' := by
    intro hc
    cases List.eq_of_mem_replicate hc
  match depth with
  | 0 => cases h
  | depth + 1 =>
    simp only [ends, List.mem_cons, List.not_mem_nil, or_false] at h
    rcases h with rfl | rfl <;> simp [Json.newline]

theorem quote_not_mem_keyEnds {stop : List Char} (h : stop ∈ keyEnds) : '"' ∉ stop := by
  cases List.eq_of_mem_singleton h
  decide

theorem isRest_items (items : List Json) (rest : List Char) :
    IsRest (ends (depth + 1)) (prettyItems false depth items ++ rest) := by
  cases items with
  | nil =>
    refine .inr ⟨Json.newline depth, List.mem_cons_self, ?_⟩
    rw [prettyItems, List.append_assoc]
    exact List.prefix_append _ _
  | cons item items =>
    refine .inr ⟨',' :: Json.newline (depth + 1), List.mem_cons_of_mem _ List.mem_cons_self, ?_⟩
    rw [prettyItems, List.append_assoc, List.cons_append, List.append_assoc]
    exact List.prefix_append (',' :: Json.newline (depth + 1)) _

theorem isRest_members (members : List (String × Json)) (rest : List Char) :
    IsRest (ends (depth + 1)) (prettyMembers false depth members ++ rest) := by
  match members with
  | [] =>
    refine .inr ⟨Json.newline depth, List.mem_cons_self, ?_⟩
    rw [prettyMembers, List.append_assoc]
    exact List.prefix_append _ _
  | (key, value) :: members =>
    refine .inr ⟨',' :: Json.newline (depth + 1), List.mem_cons_of_mem _ List.mem_cons_self, ?_⟩
    rw [prettyMembers, List.cons_append, List.append_assoc]
    exact List.prefix_append (',' :: Json.newline (depth + 1)) _

/-- Where a value ends there is no character of a number. -/
theorem takeWhile_of_isRest (h : IsRest (ends depth) rest) :
    rest.takeWhile Number.Layout.isNumberChar = [] := by
  rcases h with rfl | ⟨stop, hstop, others, rfl⟩
  · rfl
  · match depth with
    | 0 => cases hstop
    | depth + 1 =>
      simp only [ends, List.mem_cons, List.not_mem_nil, or_false] at hstop
      rcases hstop with rfl | rfl
      · exact List.takeWhile_cons_of_neg (by decide)
      · exact List.takeWhile_cons_of_neg (by decide)

theorem number_inj {value other : Numeral} (h : value.IsFinite) (h' : other.IsFinite)
    (hrest : IsRest (ends depth) rest) (hrest' : IsRest (ends depth) rest')
    (heq : value.text.toList ++ rest = other.text.toList ++ rest') :
    value = other ∧ rest = rest' := by
  have htext := congrArg (List.takeWhile Number.Layout.isNumberChar) heq
  rw [List.takeWhile_append_of_pos fun _ => Numeral.isNumberChar_of_mem_text h,
    List.takeWhile_append_of_pos fun _ => Numeral.isNumberChar_of_mem_text h',
    takeWhile_of_isRest hrest, takeWhile_of_isRest hrest', List.append_nil, List.append_nil,
    String.toList_inj] at htext
  rw [htext] at heq
  exact ⟨Numeral.text_inj h h' htext, List.append_cancel_left heq⟩

/-! ### Values -/

/-- Whatever stands behind it, a value at some depth can be told from any other. -/
def IsTold (depth : Nat) (value : Json) : Prop :=
  ∀ {other : Json} {rest rest' : List Char}, isLegible depth value = true →
    isLegible depth other = true → IsRest (ends depth) rest → IsRest (ends depth) rest' →
    prettyChars false depth value ++ rest = prettyChars false depth other ++ rest' →
      value = other ∧ rest = rest'

/-- So can the items behind a first one. -/
def AreTold (depth : Nat) (items : List Json) : Prop :=
  ∀ {others : List Json} {rest rest' : List Char}, areLegible (depth + 1) items = true →
    areLegible (depth + 1) others = true →
    prettyItems false depth items ++ rest = prettyItems false depth others ++ rest' →
      items = others ∧ rest = rest'

/-- So can the members behind a first one. -/
def HaveTold (depth : Nat) (members : List (String × Json)) : Prop :=
  ∀ {others : List (String × Json)} {rest rest' : List Char},
    haveLegible (depth + 1) members = true → haveLegible (depth + 1) others = true →
    prettyMembers false depth members ++ rest = prettyMembers false depth others ++ rest' →
      members = others ∧ rest = rest'

/-- The first item can be told if it can alone, and so can the others. -/
theorem AreTold.cons {item item' : Json} {items items' : List Json}
    (hitem : IsTold (depth + 1) item) (hitems : AreTold depth items)
    (h : areLegible (depth + 1) (item :: items) = true)
    (h' : areLegible (depth + 1) (item' :: items') = true)
    (heq : prettyChars false (depth + 1) item ++ (prettyItems false depth items ++ rest) =
      prettyChars false (depth + 1) item' ++ (prettyItems false depth items' ++ rest')) :
    item :: items = item' :: items' ∧ rest = rest' := by
  obtain ⟨hfirst, hothers⟩ := Bool.and_eq_true_iff.1 h
  obtain ⟨hfirst', hothers'⟩ := Bool.and_eq_true_iff.1 h'
  obtain ⟨rfl, htail⟩ :=
    hitem hfirst hfirst' (isRest_items items rest) (isRest_items items' rest') heq
  obtain ⟨rfl, rfl⟩ := hitems hothers hothers' htail
  exact ⟨rfl, rfl⟩

theorem HaveTold.cons {key key' : String} {item item' : Json}
    {members members' : List (String × Json)}
    (hitem : IsTold (depth + 1) item) (hmembers : HaveTold depth members)
    (h : haveLegible (depth + 1) ((key, item) :: members) = true)
    (h' : haveLegible (depth + 1) ((key', item') :: members') = true)
    (heq : key.toList ++ '"' :: ':' :: ' ' ::
        (prettyChars false (depth + 1) item ++ (prettyMembers false depth members ++ rest)) =
      key'.toList ++ '"' :: ':' :: ' ' ::
        (prettyChars false (depth + 1) item' ++ (prettyMembers false depth members' ++ rest'))) :
    (key, item) :: members = (key', item') :: members' ∧ rest = rest' := by
  simp only [haveLegible, Bool.and_eq_true, Bool.not_eq_true', decide_eq_false_iff_not] at h h'
  obtain ⟨⟨hkey, hfirst⟩, hothers⟩ := h
  obtain ⟨⟨hkey', hfirst'⟩, hothers'⟩ := h'
  have hbehind (others : List Char) : IsRest keyEnds (':' :: ' ' :: others) :=
    .inr ⟨[':', ' '], List.mem_cons_self, others, rfl⟩
  obtain ⟨hkeys, htail⟩ :=
    close_inj (fun _ => quote_not_mem_keyEnds) hkey hkey' (hbehind _) (hbehind _) heq
  simp only [List.cons.injEq, true_and] at htail
  obtain ⟨rfl, hmore⟩ :=
    hitem hfirst hfirst' (isRest_members members rest) (isRest_members members' rest') htail
  obtain ⟨rfl, rfl⟩ := hmembers hothers hothers' hmore
  rw [String.toList_inj.1 hkeys]
  exact ⟨rfl, rfl⟩

section
variable (depth : Nat) (item : Json) (items : List Json) (key : String)
  (members : List (String × Json)) (rest : List Char)

theorem list_chars :
    prettyChars false depth (.list (item :: items)) ++ rest =
      '[' :: (Json.newline (depth + 1) ++
        (prettyChars false (depth + 1) item ++ (prettyItems false depth items ++ rest))) := by
  simp [prettyChars]

theorem items_chars :
    prettyItems false depth (item :: items) ++ rest =
      ',' :: (Json.newline (depth + 1) ++
        (prettyChars false (depth + 1) item ++ (prettyItems false depth items ++ rest))) := by
  simp [prettyItems]

theorem object_chars :
    prettyChars false depth (.object ((key, item) :: members)) ++ rest =
      '\x7b' :: (Json.newline (depth + 1) ++ '"' :: (key.toList ++ '"' :: ':' :: ' ' ::
        (prettyChars false (depth + 1) item ++ (prettyMembers false depth members ++ rest)))) := by
  simp [prettyChars, paint_plain]

theorem members_chars :
    prettyMembers false depth ((key, item) :: members) ++ rest =
      ',' :: (Json.newline (depth + 1) ++ '"' :: (key.toList ++ '"' :: ':' :: ' ' ::
        (prettyChars false (depth + 1) item ++ (prettyMembers false depth members ++ rest)))) := by
  simp [prettyMembers, paint_plain]

end

/-- By induction on the value: what is written before a part is the same for both values, so the
parts are written alike. -/
theorem told :
    (∀ depth value, IsTold depth value) ∧ (∀ depth members, HaveTold depth members) ∧
      ∀ depth items, AreTold depth items := by
  refine prettyChars.mutual_induct IsTold HaveTold AreTold ?null ?bool ?number ?text ?emptyList
    ?list ?emptyObject ?object ?noItem ?moreItems ?noMember ?moreMembers
  case null =>
    intro depth other rest rest' h h' hrest hrest' heq
    cases sameKind_of_eq h h' heq
    exact ⟨rfl, List.append_cancel_left heq⟩
  case bool =>
    intro depth value other rest rest' h h' hrest hrest' heq
    cases sameKind_of_eq h h' heq
    exact ⟨rfl, List.append_cancel_left heq⟩
  case number =>
    intro depth value other rest rest' h h' hrest hrest' heq
    cases sameKind_of_eq h h' heq with
    | number value other =>
      obtain ⟨rfl, hcut⟩ := number_inj (of_decide_eq_true h) (of_decide_eq_true h') hrest hrest' heq
      exact ⟨rfl, hcut⟩
  case text =>
    intro depth value other rest rest' h h' hrest hrest' heq
    cases sameKind_of_eq h h' heq with
    | text value other =>
      simp only [isLegible, Bool.not_eq_true', decide_eq_false_iff_not] at h h'
      simp only [prettyChars, paint_plain, List.cons_append, List.append_assoc, List.nil_append,
        List.cons.injEq, true_and] at heq
      obtain ⟨htext, hcut⟩ := close_inj (fun _ => quote_not_mem_ends) h h' hrest hrest' heq
      rw [String.toList_inj.1 htext]
      exact ⟨rfl, hcut⟩
  case emptyList =>
    intro depth other rest rest' h h' hrest hrest' heq
    cases sameKind_of_eq h h' heq with
    | list items others =>
      cases others with
      | nil => exact ⟨rfl, List.append_cancel_left heq⟩
      | cons item others =>
        rw [list_chars] at heq
        cases (List.cons.inj heq).2
  case list =>
    intro depth item items hitem hitems other rest rest' h h' hrest hrest' heq
    cases sameKind_of_eq h h' heq with
    | list items others =>
      rw [list_chars] at heq
      cases others with
      | nil => cases (List.cons.inj heq).2
      | cons item' items' =>
        rw [list_chars] at heq
        obtain ⟨hall, hcut⟩ :=
          hitems.cons hitem h h' (List.append_cancel_left (List.cons.inj heq).2)
        exact ⟨congrArg Json.list hall, hcut⟩
  case emptyObject =>
    intro depth other rest rest' h h' hrest hrest' heq
    cases sameKind_of_eq h h' heq with
    | object members others =>
      cases others with
      | nil => exact ⟨rfl, List.append_cancel_left heq⟩
      | cons member others =>
        rw [object_chars] at heq
        cases (List.cons.inj heq).2
  case object =>
    intro depth key value members hvalue hmembers other rest rest' h h' hrest hrest' heq
    cases sameKind_of_eq h h' heq with
    | object members others =>
      rw [object_chars] at heq
      cases others with
      | nil => cases (List.cons.inj heq).2
      | cons member others =>
        rw [object_chars] at heq
        obtain ⟨hall, hcut⟩ := hmembers.cons hvalue h h'
          (List.cons.inj (List.append_cancel_left (List.cons.inj heq).2)).2
        exact ⟨congrArg Json.object hall, hcut⟩
  case noItem =>
    intro depth others rest rest' h h' heq
    cases others with
    | nil => exact ⟨rfl, List.append_cancel_left heq⟩
    | cons item others =>
      rw [items_chars] at heq
      cases heq
  case moreItems =>
    intro depth item items hitem hitems others rest rest' h h' heq
    rw [items_chars] at heq
    cases others with
    | nil => cases heq
    | cons item' others =>
      rw [items_chars] at heq
      exact hitems.cons hitem h h' (List.append_cancel_left (List.cons.inj heq).2)
  case noMember =>
    intro depth others rest rest' h h' heq
    cases others with
    | nil => exact ⟨rfl, List.append_cancel_left heq⟩
    | cons member others =>
      rw [members_chars] at heq
      cases heq
  case moreMembers =>
    intro depth key value members hvalue hmembers others rest rest' h h' heq
    rw [members_chars] at heq
    cases others with
    | nil => cases heq
    | cons member others =>
      rw [members_chars] at heq
      exact hmembers.cons hvalue h h'
        (List.cons.inj (List.append_cancel_left (List.cons.inj heq).2)).2

/-! ### Members in order -/

theorem mem_insertMember {key : String} {value : Json} {members : List (String × Json)}
    {member : String × Json} (h : member ∈ Json.insertMember key value members) :
    member = (key, value) ∨ member ∈ members := by
  induction members with
  | nil => exact .inl (List.eq_of_mem_singleton h)
  | cons first members ih =>
    rw [Json.insertMember] at h
    split at h
    · rcases List.mem_cons.1 h with h | h
      · exact .inl h
      · exact .inr (List.mem_cons_of_mem first h)
    · split at h
      · exact List.mem_cons.1 h
      · rcases List.mem_cons.1 h with h | h
        · exact .inr (List.mem_cons.2 (.inl h))
        · exact (ih h).imp_right (List.mem_cons_of_mem first)

theorem mem_foldl_insertMember {members sorted : List (String × Json)} {member : String × Json}
    (h : member ∈ members.foldl (fun sorted other => Json.insertMember other.1 other.2 sorted)
      sorted) : member ∈ members ∨ member ∈ sorted := by
  induction members generalizing sorted with
  | nil => exact .inr h
  | cons first members ih =>
    rcases ih h with h | h
    · exact .inl (List.mem_cons_of_mem first h)
    · rcases mem_insertMember h with rfl | h
      · exact .inl List.mem_cons_self
      · exact .inr h

theorem mem_sortMembers {members : List (String × Json)} {member : String × Json}
    (h : member ∈ Json.sortMembers members) : member ∈ members :=
  (mem_foldl_insertMember h).resolve_right List.not_mem_nil

theorem haveLegible_iff {members : List (String × Json)} :
    haveLegible depth members = true ↔ ∀ member ∈ members,
      ¬SeemsToEnd keyEnds member.1.toList ∧ isLegible depth member.2 = true := by
  induction members with
  | nil => simp [haveLegible]
  | cons member members ih => simp [haveLegible, ih, and_assoc]

/-- Putting members in order leaves texts and keys as they are. -/
theorem isLegible_sorted (h : isLegible depth value = true) :
    isLegible depth value.sorted = true := by
  refine (Json.sorted.mutual_induct
    (fun value => ∀ depth, isLegible depth value = true → isLegible depth value.sorted = true)
    (fun members => ∀ depth, haveLegible depth members = true →
      haveLegible depth (Json.sortedMembers members) = true)
    (fun items => ∀ depth, areLegible depth items = true →
      areLegible depth (Json.sortedItems items) = true)
    ?list ?object ?other ?noItem ?items ?noMember ?members).1 value depth h
  case list => exact fun items ih depth h => ih (depth + 1) h
  case object =>
    intro members ih depth h
    rw [Json.sorted, isLegible, haveLegible_iff]
    intro member hmember
    exact haveLegible_iff.1 (ih (depth + 1) h) member (mem_sortMembers hmember)
  case other =>
    intro value hlist hobject depth h
    rwa [Json.sorted.eq_3 value hlist hobject]
  case noItem | noMember => exact fun _ _ => rfl
  case items =>
    intro item rest ih ih' depth h
    obtain ⟨hitem, hrest⟩ := Bool.and_eq_true_iff.1 h
    rw [Json.sortedItems, areLegible, ih depth hitem, ih' depth hrest, Bool.true_and]
  case members =>
    intro key value rest ih ih' depth h
    rw [haveLegible, Bool.and_eq_true_iff, Bool.and_eq_true_iff] at h
    rw [Json.sortedMembers, haveLegible, h.1.1, ih depth h.1.2, ih' depth h.2, Bool.true_and,
      Bool.true_and]

/-- **The form for people tells values apart**, as long as no text and no key seems to end
before it does: two such values are written alike just if they are the same but for the order of
members. -/
theorem pretty_eq_iff {value other : Json} (h : isLegible 0 value = true)
    (h' : isLegible 0 other = true) :
    Format.pretty.write false value = Format.pretty.write false other ↔
      value.sorted = other.sorted := by
  constructor
  · intro heq
    have hchars : prettyChars false 0 value.sorted ++ [] =
        prettyChars false 0 other.sorted ++ [] := by
      rw [List.append_nil, List.append_nil]
      exact String.ofList_inj.1 heq
    exact (told.1 0 value.sorted (isLegible_sorted h) (isLegible_sorted h') (.inl rfl) (.inl rfl)
      hchars).1
  · intro hsorted
    show pretty false value = pretty false other
    rw [pretty, pretty, hsorted]

/-- Quotation marks alone do not matter. -/
theorem pretty_eq_iff_of_quotes :
    ∃ value other : Json,
      value = .list [.text "a\", \"b", .number (.binary (.ofRatio false 1 10))] ∧
      other = .list [.text "a", .text "b", .number (.binary (.ofRatio false 1 10))] ∧
      isLegible 0 value = true ∧ isLegible 0 other = true ∧
      Format.pretty.write false value ≠ Format.pretty.write false other := by
  refine ⟨_, _, rfl, rfl, by decide +kernel, by decide +kernel, ?_⟩
  rw [Ne, pretty_eq_iff (by decide +kernel) (by decide +kernel)]
  exact fun h => absurd (congrArg Json.compact h) (by decide +kernel)

/-- Two different values are written alike. -/
def AreConfused (value other : Json) : Prop :=
  value.sorted ≠ other.sorted ∧ Format.pretty.write false value = Format.pretty.write false other

/-- A text that imitates the end of an item, one that imitates the end of a list, and a key that
imitates the end of a key. -/
theorem pretty_of_imitations :
    AreConfused (.list [.text "a\",\n  \"b"]) (.list [.text "a", .text "b"]) ∧
    AreConfused (.list [.list [.text "a\"\n  ],\n  [\n    \"b"]])
      (.list [.list [.text "a"], .list [.text "b"]]) ∧
    AreConfused (.object [("a\": null,\n  \"b", .null)])
      (.object [("a", .null), ("b", .null)]) := by
  refine ⟨⟨?_, by decide +kernel⟩, ⟨?_, by decide +kernel⟩, ⟨?_, by decide +kernel⟩⟩
  · exact fun h => absurd (congrArg Json.compact h) (by decide +kernel)
  · exact fun h => absurd (congrArg Json.compact h) (by decide +kernel)
  · exact fun h => absurd (congrArg Json.compact h) (by decide +kernel)

end Output
end FactoryGen
