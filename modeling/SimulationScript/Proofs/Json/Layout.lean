import Mathlib.Tactic.Simps.Basic
import SimulationScript.Json.Printer
import SimulationScript.Json.Token

/-! # Layouts of values

A value is written by one walk over it, with white space of choice between its tokens and its leaves
in a style of choice. Both printers are this walk, in the style of documents.
-/

namespace SimulationScript.Json

variable {c : Char} {cs gap : List Char}

theorem isSpace_newline (level : Nat) : ∀ c ∈ newline level, isSpace c := by
  intro c hc
  rcases List.mem_cons.mp hc with rfl | hc
  · decide
  · obtain rfl := List.eq_of_mem_replicate hc
    decide

theorem skipSpace_append (blank : ∀ c ∈ gap, isSpace c) (cs : List Char) :
    skipSpace (gap ++ cs) = skipSpace cs :=
  List.dropWhile_append_of_pos blank

theorem skipSpace_cons (visible : isSpace c = false) : skipSpace (c :: cs) = c :: cs := by
  rw [skipSpace, List.dropWhile_cons_of_neg (by simp [visible])]

theorem skipSpace_gap (blank : ∀ c ∈ gap, isSpace c) (visible : isSpace c = false) :
    skipSpace (gap ++ c :: cs) = c :: cs := by
  rw [skipSpace_append blank, skipSpace_cons visible]

/-! ## Spacings and styles -/

/-- The white space of a layout: before the items of each level and before the closing brackets, and
    behind the colon of a member. -/
structure Spacing where
  line : Nat → List Char
  colon : List Char
  blankLine : ∀ level, ∀ c ∈ line level, isSpace c
  blankColon : ∀ c ∈ colon, isSpace c

namespace Spacing

@[simps]
def none : Spacing where
  line _ := []
  colon := []
  blankLine := by simp
  blankColon := by simp

@[simps]
def indented : Spacing where
  line := newline
  colon := [' ']
  blankLine := isSpace_newline
  blankColon := by simp [isSpace]

end Spacing

/-- How the leaves of a value are written. -/
structure Style where
  null : List Char
  bool : Bool → List Char
  number : Number → List Char
  quoted : List Char → List Char

namespace Style

/-- The leaves as documents have them. -/
@[simps]
def document : Style where
  null := "null".toList
  bool b := if b then "true".toList else "false".toList
  number n := n.text Number.documentLayout
  quoted := quote

/-- A style with every leaf changed by a function on texts. -/
def map (f : List Char → List Char) (style : Style) : Style where
  null := f style.null
  bool b := f (style.bool b)
  number n := f (style.number n)
  quoted cs := f (style.quoted cs)

end Style

/-! ## The walk -/

/-- The text of an item or a member with those after it: all but the first stand after a comma. -/
def lead (first : Bool) (cs : List Char) : List Char :=
  if first then cs else ',' :: cs

theorem lead_append (first : Bool) (cs tail : List Char) :
    lead first cs ++ tail = lead first (cs ++ tail) := by
  cases first <;> rfl

theorem lead_inj {first : Bool} {left right : List Char} :
    lead first left = lead first right ↔ left = right := by
  cases first <;> simp [lead]

mutual

/-- The value in a layout, inside `level` open brackets. -/
def laidOut (spacing : Spacing) (style : Style) (level : Nat) : Json → List Char
  | .null => style.null
  | .bool b => style.bool b
  | .num n => style.number n
  | .str s => style.quoted s.toList
  | .arr [] => ['[', ']']
  | .arr items =>
    '[' :: laidOutItems spacing style (level + 1) true items ++ (spacing.line level ++ [']'])
  | .obj [] => ['{', '}']
  | .obj members =>
    '{' :: laidOutMembers spacing style (level + 1) true members ++ (spacing.line level ++ ['}'])

def laidOutItems (spacing : Spacing) (style : Style) (level : Nat) (first : Bool) :
    List Json → List Char
  | [] => []
  | item :: rest =>
    lead first (spacing.line level ++ (item.laidOut spacing style level ++
      laidOutItems spacing style level false rest))

def laidOutMembers (spacing : Spacing) (style : Style) (level : Nat) (first : Bool) :
    List (String × Json) → List Char
  | [] => []
  | (key, value) :: rest =>
    lead first (spacing.line level ++ (style.quoted key.toList ++
      ':' :: (spacing.colon ++ (value.laidOut spacing style level ++
        laidOutMembers spacing style level false rest))))

end

/-- The value with one item or member a line. -/
def Style.print (style : Style) (level : Nat) (value : Json) : List Char :=
  value.laidOut .indented style level

/-! ## The printers -/

mutual

theorem pretty_eq_laidOut (level : Nat) :
    ∀ value : Json, value.pretty level = value.laidOut .indented .document level
  | .null => rfl
  | .bool true => rfl
  | .bool false => rfl
  | .num _ => rfl
  | .str _ => rfl
  | .arr [] => rfl
  | .arr (item :: rest) => by
      have items := prettyItems_eq_laidOut (level + 1) (item :: rest)
      simp [pretty, laidOut, items]
  | .obj [] => rfl
  | .obj (member :: rest) => by
      have members := prettyMembers_eq_laidOut (level + 1) (member :: rest)
      simp [pretty, laidOut, members]

theorem prettyItems_eq_laidOut (level : Nat) :
    ∀ items, prettyItems level items = laidOutItems .indented .document level true items
  | [] => rfl
  | [item] => by simp [prettyItems, laidOutItems, lead, pretty_eq_laidOut level item]
  | item :: next :: rest => by
      have others := prettyItems_eq_laidOut level (next :: rest)
      simp [prettyItems, laidOutItems, lead, pretty_eq_laidOut level item, others]

theorem prettyMembers_eq_laidOut (level : Nat) :
    ∀ members, prettyMembers level members = laidOutMembers .indented .document level true members
  | [] => rfl
  | [(key, value)] => by
      simp [prettyMembers, laidOutMembers, lead, pretty_eq_laidOut level value]
  | (key, value) :: next :: rest => by
      have others := prettyMembers_eq_laidOut level (next :: rest)
      simp [prettyMembers, laidOutMembers, lead, pretty_eq_laidOut level value, others]

end

mutual

theorem compact_eq_laidOut (level : Nat) :
    ∀ value : Json, value.compact = value.laidOut .none .document level
  | .null => rfl
  | .bool true => rfl
  | .bool false => rfl
  | .num _ => rfl
  | .str _ => rfl
  | .arr [] => rfl
  | .arr (item :: rest) => by
      have items := compactItems_eq_laidOut (level + 1) (item :: rest)
      simp [compact, laidOut, items]
  | .obj [] => rfl
  | .obj (member :: rest) => by
      have members := compactMembers_eq_laidOut (level + 1) (member :: rest)
      simp [compact, laidOut, members]

theorem compactItems_eq_laidOut (level : Nat) :
    ∀ items, compactItems items = laidOutItems .none .document level true items
  | [] => rfl
  | [item] => by simp [compactItems, laidOutItems, lead, compact_eq_laidOut level item]
  | item :: next :: rest => by
      have others := compactItems_eq_laidOut level (next :: rest)
      simp [compactItems, laidOutItems, lead, compact_eq_laidOut level item, others]

theorem compactMembers_eq_laidOut (level : Nat) :
    ∀ members, compactMembers members = laidOutMembers .none .document level true members
  | [] => rfl
  | [(key, value)] => by simp [compactMembers, laidOutMembers, lead, compact_eq_laidOut level value]
  | (key, value) :: next :: rest => by
      have others := compactMembers_eq_laidOut level (next :: rest)
      simp [compactMembers, laidOutMembers, lead, compact_eq_laidOut level value, others]

end

end SimulationScript.Json
