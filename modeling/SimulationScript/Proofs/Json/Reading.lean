import SimulationScript.Proofs.Json.Grammar
import SimulationScript.Proofs.Json.Readable
import SimulationScript.Proofs.Json.Layout
import SimulationScript.Proofs.Json.Token

/-! # Written text read back

Both layouts of a value write texts that spell the value, if all its numbers are integers and it is
not nested too deeply.
-/

namespace SimulationScript.Json

variable {depth : Nat} {c : Char} {cs more rest gap : List Char} {value : Json}

/-! ## Marks found -/

/-- White space and the marks of arrays and objects end a number. -/
theorem endsNumber_gap (blank : ∀ c ∈ gap, isSpace c) (mark : c ∈ [',', ']', '}'])
    (cs : List Char) : EndsNumber (gap ++ c :: cs) := by
  have enders : ∀ d, isSpace d ∨ d ∈ [',', ']', '}'] → ¬ d.isDigit ∧ d ∉ ['.', 'e', 'E'] := by
    intro d ender
    simp only [isSpace, Bool.or_eq_true, beq_iff_eq, List.mem_cons, List.not_mem_nil, or_false] at ender
    rcases ender with (((rfl | rfl) | rfl) | rfl) | rfl | rfl | rfl <;> decide
  intro d hd
  cases gap with
  | nil =>
      cases hd
      exact enders c (.inr mark)
  | cons _ others =>
      cases hd
      exact enders d (.inl (blank d List.mem_cons_self))

theorem endsNumber_mark (mark : c ∈ [',', ']', '}']) (cs : List Char) : EndsNumber (c :: cs) := by
  have noGap : ∀ c ∈ [], isSpace c := by simp
  exact endsNumber_gap noGap mark cs

theorem nextItem_lead (first : Bool) (starts : skipSpace cs = c :: more) (opens : c ≠ ']') :
    nextItem first (lead first cs) = .ok (.next (skipSpace cs)) := by
  cases first with
  | true => simp [lead, nextItem, starts, opens]
  | false =>
      have comma : skipSpace (',' :: cs) = ',' :: cs := skipSpace_cons (by decide)
      simp [lead, nextItem, starts, opens, comma]

theorem nextItem_closing (first : Bool) (blank : ∀ c ∈ gap, isSpace c) (rest : List Char) :
    nextItem first (gap ++ ']' :: rest) = .ok (.closed rest) := by
  simp [nextItem, skipSpace_gap blank (show isSpace ']' = false by decide)]

theorem nextName_lead (first : Bool) (blank : ∀ c ∈ gap, isSpace c) (cs : List Char) :
    nextName first (lead first (gap ++ '"' :: cs)) = .ok (.next cs) := by
  have starts : skipSpace (gap ++ '"' :: cs) = '"' :: cs := skipSpace_gap blank (by decide)
  cases first with
  | true => simp [lead, nextName, starts]
  | false =>
      have comma : skipSpace (',' :: (gap ++ '"' :: cs)) = ',' :: (gap ++ '"' :: cs) :=
        skipSpace_cons (by decide)
      simp [lead, nextName, starts, comma]

theorem nextName_closing (first : Bool) (blank : ∀ c ∈ gap, isSpace c) (rest : List Char) :
    nextName first (gap ++ '}' :: rest) = .ok (.closed rest) := by
  simp [nextName, skipSpace_gap blank (show isSpace '}' = false by decide)]

theorem skipMark_colon (cs : List Char) : skipMark ':' (':' :: cs) = .ok cs := by
  simp [skipMark, skipSpace_cons (show isSpace ':' = false by decide)]

/-! ## What written text spells -/

theorem Spells.starts (spelled : Spells depth cs value rest) :
    ∃ c more, Json.skipSpace cs = c :: more ∧ c ≠ ']' := by
  rcases spelled.forms with token | ⟨_, more, _, _, _, starts, _⟩ | ⟨_, more, _, _, _, starts, _⟩
  · obtain ⟨c, more, starts, initial⟩ := token.starts
    exact ⟨c, more, starts, initial.ne (by decide)⟩
  · exact ⟨'[', more, starts, by decide⟩
  · exact ⟨'{', more, starts, by decide⟩

theorem SpelledScalar.spells (token : SpelledScalar cs value rest) (depth : Nat) :
    Spells depth cs value rest := by
  have visible : Json.skipSpace cs = cs := by
    obtain ⟨c, more, rfl, initial⟩ := token.starts
    exact skipSpace_cons initial.visible
  cases depth with
  | zero => exact .scalar visible token
  | succ depth => exact .scalar visible token

theorem spells_array {items : List Json}
    (spelled : SpelledItems (Spells depth) true more items rest) :
    Spells (depth + 1) ('[' :: more) (.arr items) rest :=
  .array rfl (skipSpace_cons (by decide)) spelled

theorem spells_object {members : List (String × Json)}
    (spelled : SpelledMembers (Spells depth) true more members rest)
    (distinct : Entries.Distinct members) : Spells (depth + 1) ('{' :: more) (.obj members) rest :=
  .object rfl (skipSpace_cons (by decide)) spelled distinct

theorem spells_integer (depth : Nat) (n : Int) (isWord : IsWord n) (ends : EndsNumber rest) :
    Spells depth (Text.integer n ++ rest) (.num (.integer n isWord)) rest := by
  have read := readNumber_integer n isWord ends
  obtain ⟨c, more, shape, initial⟩ := Text.integer_starts n
  rw [shape, List.cons_append] at read ⊢
  exact (SpelledScalar.number initial read).spells depth

theorem spells_string (depth : Nat) (s : String) (rest : List Char) :
    Spells depth (quote s.toList ++ rest) (.str s) rest := by
  have token := SpelledScalar.string (readString_escaped s.toList rest)
  rw [String.ofList_toList] at token
  simpa [quote] using token.spells depth

theorem endsNumber_items (spacing : Spacing) (style : Style) (level : Nat) (items : List Json)
    (blank : ∀ c ∈ gap, isSpace c) (rest : List Char) :
    EndsNumber (laidOutItems spacing style level false items ++ (gap ++ ']' :: rest)) := by
  cases items with
  | nil => exact endsNumber_gap blank (by decide) rest
  | cons => exact endsNumber_mark (by decide) _

theorem endsNumber_members (spacing : Spacing) (style : Style) (level : Nat)
    (members : List (String × Json)) (blank : ∀ c ∈ gap, isSpace c) (rest : List Char) :
    EndsNumber (laidOutMembers spacing style level false members ++ (gap ++ '}' :: rest)) := by
  cases members with
  | nil => exact endsNumber_gap blank (by decide) rest
  | cons => exact endsNumber_mark (by decide) _

/-- An item that stands first or after a comma, behind a gap. -/
theorem spelledItems_lead {first : Bool} {after : List Char} {items : List Json}
    (blank : ∀ c ∈ gap, isSpace c) (spelled : Spells depth cs value after)
    (others : SpelledItems (Spells depth) false after items rest) :
    SpelledItems (Spells depth) first (lead first (gap ++ cs)) (value :: items) rest := by
  obtain ⟨c, more, starts, opens⟩ := spelled.starts
  have place := nextItem_lead first ((skipSpace_append blank cs).trans starts) opens
  rw [skipSpace_append blank] at place
  exact .next place spelled.skipSpace others

/-- A member that stands first or after a comma, behind a gap. -/
theorem spelledMembers_lead {first : Bool} {after : List Char} {members : List (String × Json)}
    (key : String) (blank : ∀ c ∈ gap, isSpace c) (spelled : Spells depth cs value after)
    (others : SpelledMembers (Spells depth) false after members rest) :
    SpelledMembers (Spells depth) first (lead first (gap ++ (quote key.toList ++ ':' :: cs)))
      ((key, value) :: members) rest := by
  have quoted : quote key.toList ++ ':' :: cs = '"' :: (key.toList.flatMap escape ++ '"' :: ':' :: cs) := by
    simp [quote]
  have named := readString_escaped key.toList (':' :: cs)
  have member := SpelledMembers.next (nextName_lead first blank _) named (skipMark_colon cs) spelled
    others
  rwa [String.ofList_toList, ← quoted] at member

mutual

theorem spells_laidOut (spacing : Spacing) (level depth : Nat) : ∀ value : Json,
    Readable depth value → ∀ rest, EndsNumber rest →
      Spells depth (value.laidOut spacing .document level ++ rest) value rest
  | .null, _, rest, _ => (SpelledScalar.null rfl).spells depth
  | .bool true, _, rest, _ => (SpelledScalar.true rfl).spells depth
  | .bool false, _, rest, _ => (SpelledScalar.false rfl).spells depth
  | .num (.integer n isWord), _, rest, ends => spells_integer depth n isWord ends
  | .num (.float x), readable, _, _ => by
      have whole : (Number.float x).isInteger := readable.integers _ (List.mem_singleton_self _)
      cases whole
  | .str s, _, rest, _ => spells_string depth s rest
  | .arr items, readable, rest, _ => by
      obtain ⟨depth, rfl⟩ := readable.exists_pred (Nat.succ_pos _)
      have spelled := spelledItems_laidOut spacing (level + 1) depth items
        (readable_arr_iff.mp readable) true
      cases items with
      | nil =>
          have noGap : ∀ c ∈ [], isSpace c := by simp
          exact spells_array (spelled noGap rest)
      | cons => simpa [laidOut] using spells_array (spelled (spacing.blankLine level) rest)
  | .obj members, readable, rest, _ => by
      obtain ⟨depth, rfl⟩ := readable.exists_pred (Nat.succ_pos _)
      obtain ⟨distinct, readableMembers⟩ := readable_obj_iff.mp readable
      have spelled := spelledMembers_laidOut spacing (level + 1) depth members readableMembers true
      cases members with
      | nil =>
          have noGap : ∀ c ∈ [], isSpace c := by simp
          exact spells_object (spelled noGap rest) distinct
      | cons =>
          simpa [laidOut] using spells_object (spelled (spacing.blankLine level) rest) distinct

theorem spelledItems_laidOut (spacing : Spacing) (level depth : Nat) : ∀ items : List Json,
    (∀ item ∈ items, Readable depth item) → ∀ first ⦃gap⦄, (∀ c ∈ gap, isSpace c) → ∀ rest,
      SpelledItems (Spells depth) first
        (laidOutItems spacing .document level first items ++ (gap ++ ']' :: rest)) items rest
  | [], _, first, _, blank, rest => .closed (nextItem_closing first blank rest)
  | item :: others, readable, first, gap, blank, rest => by
      obtain ⟨readableItem, readableOthers⟩ := List.forall_mem_cons.mp readable
      have onward := spelledItems_laidOut spacing level depth others readableOthers false blank rest
      have here := spells_laidOut spacing level depth item readableItem _
        (endsNumber_items spacing .document level others blank rest)
      rw [laidOutItems, lead_append, List.append_assoc, List.append_assoc]
      exact spelledItems_lead (spacing.blankLine level) here onward

theorem spelledMembers_laidOut (spacing : Spacing) (level depth : Nat) :
    ∀ members : List (String × Json), (∀ member ∈ members, Readable depth member.2) →
      ∀ first ⦃gap⦄, (∀ c ∈ gap, isSpace c) → ∀ rest, SpelledMembers (Spells depth) first
        (laidOutMembers spacing .document level first members ++ (gap ++ '}' :: rest)) members rest
  | [], _, first, _, blank, rest => .closed (nextName_closing first blank rest)
  | (key, value) :: others, readable, first, gap, blank, rest => by
      obtain ⟨readableValue, readableOthers⟩ := List.forall_mem_cons.mp readable
      have onward := spelledMembers_laidOut spacing level depth others readableOthers false blank rest
      have here := spells_laidOut spacing level depth value readableValue _
        (endsNumber_members spacing .document level others blank rest)
      have behindColon := here.congr (skipSpace_append spacing.blankColon _).symm
      rw [laidOutMembers, lead_append]
      simp only [List.append_assoc, List.cons_append]
      exact spelledMembers_lead key (spacing.blankLine level) behindColon onward

end

theorem document_laidOut (spacing : Spacing) (readable : Readable maxDepth value) :
    IsDocumentOf (String.ofList (value.laidOut spacing .document 0)) value := by
  have ends : EndsNumber [] := by simp [EndsNumber]
  have spelled := spells_laidOut spacing 0 maxDepth value readable [] ends
  rw [List.append_nil] at spelled
  exact ⟨[], by rwa [String.toList_ofList], rfl⟩

/-- The compact text of a value is a document of that value. -/
theorem document_compact (readable : Readable maxDepth value) :
    IsDocumentOf value.compactText value := by
  rw [compactText, compact_eq_laidOut 0]
  exact document_laidOut .none readable

/-- The indented text of a value is a document of that value. -/
theorem document_pretty (readable : Readable maxDepth value) :
    IsDocumentOf (String.ofList (value.pretty 0)) value := by
  rw [pretty_eq_laidOut]
  exact document_laidOut .indented readable

theorem parse_pretty {value : Json} (readable : Readable maxDepth value) :
    parse (String.ofList (value.pretty 0)) = .ok value :=
  parse_of_document (document_pretty readable)

end SimulationScript.Json
