import SimulationScript.Proofs.Json.Layout

/-! # Styles compared

What holds between the leaves of two styles holds between the texts they are laid out in, if it is
kept when texts are joined at a mark of the layout. Two styles that differ only in how they quote, and
keep to the same lengths, so write a value alike exactly when they quote alike all that the value
holds.
-/

namespace SimulationScript.Json

mutual

/-- Every string and every name of a member in a value. -/
def texts : Json → List String
  | .str s => [s]
  | .arr items => textsOfItems items
  | .obj members => textsOfMembers members
  | _ => []

def textsOfItems : List Json → List String
  | [] => []
  | item :: rest => item.texts ++ textsOfItems rest

def textsOfMembers : List (String × Json) → List String
  | [] => []
  | (key, value) :: rest => key :: value.texts ++ textsOfMembers rest

end

/-! ## Relations that layouts respect -/

/-- The white space and the punctuation of layouts. -/
def layoutMarks : List Char :=
  [' ', '\t', '\n', '\r', '[', ']', '{', '}', ',', ':']

/-- A relation between texts that marks of layouts do not break. -/
structure LayoutCongruence (R : List Char → List Char → Prop) : Prop where
  nil : R [] []
  mark : ∀ {c left right}, c ∈ layoutMarks → R left right → R (c :: left) (c :: right)
  join : ∀ {front front' back back'}, (∀ c ∈ back.head?, c ∈ layoutMarks) → R front front' →
    R back back' → R (front ++ back) (front' ++ back')

/-- The scalars of two styles are related, all but their strings. -/
structure ScalarsRelated (R : List Char → List Char → Prop) (left right : Style) : Prop where
  null : R left.null right.null
  bool : ∀ b, R (left.bool b) (right.bool b)
  number : ∀ n, R (left.number n) (right.number n)

section LayoutCongruence

variable {R : List Char → List Char → Prop} {left right : Style} {spacing : Spacing} {level : Nat}
  {c : Char} {front front' cs cs' gap : List Char}

theorem mem_layoutMarks_of_isSpace (blank : isSpace c) : c ∈ layoutMarks := by
  simp only [isSpace, Bool.or_eq_true, beq_iff_eq] at blank
  rcases blank with ((rfl | rfl) | rfl) | rfl <;> decide

theorem LayoutCongruence.behind_gap (congruence : LayoutCongruence R)
    (blank : ∀ c ∈ gap, isSpace c) (related : R cs cs') : R (gap ++ cs) (gap ++ cs') := by
  induction gap with
  | nil => exact related
  | cons c gap ih =>
      obtain ⟨blankHere, blankLater⟩ := List.forall_mem_cons.mp blank
      exact congruence.mark (mem_layoutMarks_of_isSpace blankHere) (ih blankLater)

theorem LayoutCongruence.lead (congruence : LayoutCongruence R) (first : Bool) (related : R cs cs') :
    R (lead first cs) (lead first cs') := by
  cases first with
  | true => exact related
  | false => exact congruence.mark (by decide) related

theorem LayoutCongruence.closing (congruence : LayoutCongruence R) (bracket : c ∈ layoutMarks)
    (related : R front front') :
    R (front ++ (spacing.line level ++ [c])) (front' ++ (spacing.line level ++ [c])) := by
  have parted : ∀ d ∈ (spacing.line level ++ [c]).head?, d ∈ layoutMarks := by
    intro d hd
    rcases List.mem_append.mp (List.mem_of_mem_head? hd) with blank | last
    · exact mem_layoutMarks_of_isSpace (spacing.blankLine level d blank)
    · rwa [List.mem_singleton.mp last]
  have closed : R [c] [c] := congruence.mark bracket congruence.nil
  exact congruence.join parted related (congruence.behind_gap (spacing.blankLine level) closed)

/-- What stands behind an item is set apart from it by a comma. -/
theorem parted_laidOutItems {items : List Json} :
    ∀ c ∈ (laidOutItems spacing left level false items).head?, c ∈ layoutMarks := by
  cases items with
  | nil => simp [laidOutItems]
  | cons item rest => simp [laidOutItems, lead, layoutMarks]

theorem parted_laidOutMembers {members : List (String × Json)} :
    ∀ c ∈ (laidOutMembers spacing left level false members).head?, c ∈ layoutMarks := by
  cases members with
  | nil => simp [laidOutMembers]
  | cons member rest => simp [laidOutMembers, lead, layoutMarks]

mutual

/-- What holds between the leaves of two styles holds between the texts they are laid out in. -/
theorem related_laidOut (congruence : LayoutCongruence R) (scalars : ScalarsRelated R left right)
    (spacing : Spacing) (level : Nat) : ∀ value : Json,
    (∀ text ∈ value.texts, R (left.quoted text.toList) (right.quoted text.toList)) →
      R (value.laidOut spacing left level) (value.laidOut spacing right level)
  | .null, _ => scalars.null
  | .bool b, _ => scalars.bool b
  | .num n, _ => scalars.number n
  | .str s, quotes => quotes s (List.mem_singleton_self s)
  | .arr [], _ => congruence.mark (by decide) (congruence.mark (by decide) congruence.nil)
  | .arr (item :: rest), quotes => by
      have items :=
        related_laidOutItems congruence scalars spacing (level + 1) true (item :: rest) quotes
      exact congruence.closing (by decide) (congruence.mark (by decide) items)
  | .obj [], _ => congruence.mark (by decide) (congruence.mark (by decide) congruence.nil)
  | .obj (member :: rest), quotes => by
      have members :=
        related_laidOutMembers congruence scalars spacing (level + 1) true (member :: rest) quotes
      exact congruence.closing (by decide) (congruence.mark (by decide) members)

theorem related_laidOutItems (congruence : LayoutCongruence R)
    (scalars : ScalarsRelated R left right) (spacing : Spacing) (level : Nat) (first : Bool) : ∀ items,
    (∀ text ∈ textsOfItems items, R (left.quoted text.toList) (right.quoted text.toList)) →
      R (laidOutItems spacing left level first items) (laidOutItems spacing right level first items)
  | [], _ => congruence.nil
  | item :: rest, quotes => by
      obtain ⟨quotesHere, quotesLater⟩ := List.forall_mem_append.mp quotes
      have here := related_laidOut congruence scalars spacing level item quotesHere
      have later := related_laidOutItems congruence scalars spacing level false rest quotesLater
      have joined := congruence.join parted_laidOutItems here later
      exact congruence.lead first (congruence.behind_gap (spacing.blankLine level) joined)

theorem related_laidOutMembers (congruence : LayoutCongruence R)
    (scalars : ScalarsRelated R left right) (spacing : Spacing) (level : Nat) (first : Bool) :
    ∀ members,
    (∀ text ∈ textsOfMembers members, R (left.quoted text.toList) (right.quoted text.toList)) →
      R (laidOutMembers spacing left level first members)
        (laidOutMembers spacing right level first members)
  | [], _ => congruence.nil
  | (key, value) :: rest, quotes => by
      obtain ⟨quotesKey, quotesRest⟩ := List.forall_mem_cons.mp quotes
      obtain ⟨quotesValue, quotesLater⟩ := List.forall_mem_append.mp quotesRest
      have here := related_laidOut congruence scalars spacing level value quotesValue
      have later := related_laidOutMembers congruence scalars spacing level false rest quotesLater
      have colon : ':' ∈ layoutMarks := by decide
      have joined := congruence.join parted_laidOutMembers here later
      have behindColon := congruence.mark colon (congruence.behind_gap spacing.blankColon joined)
      have named := congruence.join (by simp [colon]) quotesKey behindColon
      exact congruence.lead first (congruence.behind_gap (spacing.blankLine level) named)

end

end LayoutCongruence

/-! ## Styles that quote differently -/

/-- Both styles write the same but for what stands in quotes, and that equally long. -/
structure Style.SameOutsideQuotes (left right : Style) : Prop where
  null : left.null = right.null
  bool : left.bool = right.bool
  number : left.number = right.number
  length : ∀ cs, (left.quoted cs).length = (right.quoted cs).length

section SameOutsideQuotes

variable {left right : Style}

theorem layoutCongruence_length : LayoutCongruence fun left right => left.length = right.length where
  nil := rfl
  mark _ same := congrArg (· + 1) same
  join _ sameFront sameBack := by rw [List.length_append, List.length_append, sameFront, sameBack]

theorem length_laidOut (same : left.SameOutsideQuotes right) (spacing : Spacing) (level : Nat)
    (value : Json) :
    (value.laidOut spacing left level).length = (value.laidOut spacing right level).length := by
  have scalars : ScalarsRelated (fun left right => left.length = right.length) left right :=
    ⟨congrArg List.length same.null, fun b => by rw [same.bool], fun n => by rw [same.number]⟩
  exact related_laidOut layoutCongruence_length scalars spacing level value
    fun text _ => same.length text.toList

mutual

theorem laidOut_eq_iff (same : left.SameOutsideQuotes right) (spacing : Spacing) (level : Nat) :
    ∀ value : Json, value.laidOut spacing left level = value.laidOut spacing right level ↔
      ∀ text ∈ value.texts, left.quoted text.toList = right.quoted text.toList
  | .null => by simp [laidOut, texts, same.null]
  | .bool _ => by simp [laidOut, texts, same.bool]
  | .num _ => by simp [laidOut, texts, same.number]
  | .str _ => by simp [laidOut, texts]
  | .arr [] => by simp [laidOut, texts, textsOfItems]
  | .arr (item :: rest) => by
      have items := laidOutItems_eq_iff same spacing (level + 1) true (item :: rest)
      simp only [laidOut, texts, ← items]
      simp
  | .obj [] => by simp [laidOut, texts, textsOfMembers]
  | .obj (member :: rest) => by
      have members := laidOutMembers_eq_iff same spacing (level + 1) true (member :: rest)
      simp only [laidOut, texts, ← members]
      simp

theorem laidOutItems_eq_iff (same : left.SameOutsideQuotes right) (spacing : Spacing) (level : Nat)
    (first : Bool) : ∀ items,
      laidOutItems spacing left level first items = laidOutItems spacing right level first items ↔
        ∀ text ∈ textsOfItems items, left.quoted text.toList = right.quoted text.toList
  | [] => by simp [laidOutItems, textsOfItems]
  | item :: rest => by
      have here := laidOut_eq_iff same spacing level item
      have others := laidOutItems_eq_iff same spacing level false rest
      rw [textsOfItems, List.forall_mem_append, ← here, ← others, laidOutItems, laidOutItems,
        lead_inj, List.append_cancel_left_eq,
        List.append_eq_append_iff_of_size_eq_left (length_laidOut same spacing level item)]

theorem laidOutMembers_eq_iff (same : left.SameOutsideQuotes right) (spacing : Spacing) (level : Nat)
    (first : Bool) : ∀ members,
      laidOutMembers spacing left level first members =
          laidOutMembers spacing right level first members ↔
        ∀ text ∈ textsOfMembers members, left.quoted text.toList = right.quoted text.toList
  | [] => by simp [laidOutMembers, textsOfMembers]
  | (key, value) :: rest => by
      have here := laidOut_eq_iff same spacing level value
      have others := laidOutMembers_eq_iff same spacing level false rest
      rw [textsOfMembers, List.cons_append, List.forall_mem_cons, List.forall_mem_append, ← here,
        ← others, laidOutMembers, laidOutMembers, lead_inj, List.append_cancel_left_eq,
        List.append_eq_append_iff_of_size_eq_left (same.length key.toList), List.cons.injEq,
        List.append_cancel_left_eq,
        List.append_eq_append_iff_of_size_eq_left (length_laidOut same spacing level value)]
      simp only [true_and]

end

end SameOutsideQuotes

end SimulationScript.Json
