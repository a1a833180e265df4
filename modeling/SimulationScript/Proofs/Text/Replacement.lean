import Mathlib.Data.List.Infix
import SimulationScript.Text.Replace

/-! # Replacing several words

Words that are replaced one after the other, under a condition that makes the passes independent:
then the text is respelled word by word from left to right, as in one pass.
-/

namespace SimulationScript.Text

variable {word replacement : List Char}

theorem replaceAll_nil : replaceAll word replacement [] = [] := by
  rw [replaceAll]

theorem replaceAll_append (nonempty : word ≠ []) (rest : List Char) :
    replaceAll word replacement (word ++ rest) = replacement ++ replaceAll word replacement rest := by
  cases word with
  | nil => exact absurd rfl nonempty
  | cons first more =>
      rw [List.cons_append, replaceAll, if_pos]
      · simp
      · simp

theorem replaceAll_cons {c : Char} {rest : List Char} (absent : ¬ word <+: c :: rest) :
    replaceAll word replacement (c :: rest) = c :: replaceAll word replacement rest := by
  rw [replaceAll, if_neg]
  simp [absent]

/-- No occurrence of the word begins inside the text, whatever follows the text. -/
def Inert (word text : List Char) : Prop :=
  ∀ tail ∈ text.tails, tail = [] ∨ ¬ (word <+: tail ∨ tail <+: word)

instance : Decidable (Inert word text) :=
  inferInstanceAs (Decidable (∀ _ ∈ _, _))

theorem replaceAll_inert_append {text : List Char} (inert : Inert word text) (rest : List Char) :
    replaceAll word replacement (text ++ rest) = text ++ replaceAll word replacement rest := by
  induction text with
  | nil => rfl
  | cons c text ih =>
      simp only [Inert, List.tails_cons, List.forall_mem_cons, List.cons_ne_nil, false_or] at inert
      obtain ⟨apart, inert⟩ := inert
      have absent : ¬ word <+: c :: (text ++ rest) := fun occurs =>
        apart (List.prefix_or_prefix_of_prefix occurs (List.prefix_append (c :: text) rest))
      rw [List.cons_append, replaceAll_cons absent, ih inert, List.cons_append]

/-- A pass creates no text at the front that avoids the first character it puts in. -/
theorem prefix_of_prefix_replaceAll {mark : Char} (nonempty : word ≠ [])
    (head : replacement.head? = some mark) {front : List Char} (avoids : mark ∉ front)
    {cs : List Char} (found : front <+: replaceAll word replacement cs) : front <+: cs := by
  induction front generalizing cs with
  | nil => exact List.nil_prefix
  | cons first more ih =>
      by_cases occurs : word <+: cs
      · obtain ⟨rest, rfl⟩ := occurs
        obtain ⟨others, rfl⟩ := List.head?_eq_some_iff.mp head
        rw [replaceAll_append nonempty, List.cons_append, List.cons_prefix_cons] at found
        simp [found.1] at avoids
      · cases cs with
        | nil => rwa [replaceAll_nil] at found
        | cons c cs =>
            rw [replaceAll_cons occurs, List.cons_prefix_cons] at found
            have avoids : mark ∉ more := fun member => avoids (List.mem_cons_of_mem first member)
            exact List.cons_prefix_cons.mpr ⟨found.1, ih avoids found.2⟩

/-- A list of words with their replacements. -/
abbrev Spellings := List (List Char × List Char)

/-- Replaces the words throughout a text, one word after the other. -/
def replaceEach (spellings : Spellings) (cs : List Char) : List Char :=
  spellings.foldl (fun cs spelling => replaceAll spelling.1 spelling.2 cs) cs

/-- No pass can disturb the words of another pass, or find a word in or across what it put in. What is
    put in for a word has a first letter that the words of later passes do not have. -/
structure Independent (spellings : Spellings) : Prop where
  nonempty : ∀ s ∈ spellings, s.1 ≠ []
  apart : ∀ s ∈ spellings, ∀ s' ∈ spellings, s = s' ∨ Inert s.1 s'.1
  settled : ∀ s ∈ spellings, ∀ s' ∈ spellings, Inert s.1 s'.2
  fresh : spellings.Pairwise fun s' s => ∃ mark, s'.2.head? = some mark ∧ mark ∉ s.1

namespace Independent

variable {spellings : Spellings}

theorem tail {s : List Char × List Char} (independent : Independent (s :: spellings)) :
    Independent spellings where
  nonempty s' hs' := independent.nonempty s' (List.mem_cons_of_mem s hs')
  apart s' hs' s'' hs'' :=
    independent.apart s' (List.mem_cons_of_mem s hs') s'' (List.mem_cons_of_mem s hs'')
  settled s' hs' s'' hs'' :=
    independent.settled s' (List.mem_cons_of_mem s hs') s'' (List.mem_cons_of_mem s hs'')
  fresh := (List.pairwise_cons.mp independent.fresh).2

end Independent

section Passes

variable {spellings : Spellings}

theorem replaceEach_nil : replaceEach spellings [] = [] := by
  induction spellings with
  | nil => rfl
  | cons s spellings ih => rwa [replaceEach, List.foldl_cons, replaceAll_nil]

theorem replaceEach_inert_append {text : List Char} (inert : ∀ s ∈ spellings, Inert s.1 text)
    (rest : List Char) : replaceEach spellings (text ++ rest) = text ++ replaceEach spellings rest := by
  induction spellings generalizing rest with
  | nil => rfl
  | cons s spellings ih =>
      obtain ⟨here, others⟩ := List.forall_mem_cons.mp inert
      simp only [replaceEach, List.foldl_cons]
      rw [replaceAll_inert_append here]
      exact ih others _

theorem replaceEach_word_append (independent : Independent spellings) {s : List Char × List Char}
    (member : s ∈ spellings) (rest : List Char) :
    replaceEach spellings (s.1 ++ rest) = s.2 ++ replaceEach spellings rest := by
  induction spellings generalizing rest with
  | nil => cases member
  | cons s' spellings ih =>
      have here : s' ∈ s' :: spellings := List.mem_cons_self
      simp only [replaceEach, List.foldl_cons]
      by_cases same : s' = s
      · subst same
        rw [replaceAll_append (independent.nonempty s' here)]
        exact replaceEach_inert_append
          (fun s hs => independent.settled s (List.mem_cons_of_mem s' hs) s' here) _
      · have inert : Inert s'.1 s.1 := (independent.apart s' here s member).resolve_left same
        have later : s ∈ spellings := (List.mem_cons.mp member).resolve_left (Ne.symm same)
        rw [replaceAll_inert_append inert]
        exact ih independent.tail later _

theorem replaceEach_cons (independent : Independent spellings) {c : Char} {rest : List Char}
    (absent : ∀ s ∈ spellings, ¬ s.1 <+: c :: rest) :
    replaceEach spellings (c :: rest) = c :: replaceEach spellings rest := by
  induction spellings generalizing rest with
  | nil => rfl
  | cons s' spellings ih =>
      have here : s' ∈ s' :: spellings := List.mem_cons_self
      obtain ⟨absentHere, absentLater⟩ := List.forall_mem_cons.mp absent
      simp only [replaceEach, List.foldl_cons]
      rw [replaceAll_cons absentHere]
      apply ih independent.tail
      -- a word that begins at `c` after this pass began there before it
      intro s hs created
      obtain ⟨mark, head, avoids⟩ := (List.pairwise_cons.mp independent.fresh).1 s hs
      rw [← replaceAll_cons absentHere] at created
      exact absentLater s hs
        (prefix_of_prefix_replaceAll (independent.nonempty s' here) head avoids created)

/-- All passes together create no text at the front that avoids the first characters they put in. -/
theorem prefix_of_prefix_replaceEach (nonempty : ∀ s ∈ spellings, s.1 ≠ []) {front : List Char}
    (avoids : ∀ s ∈ spellings, ∃ mark, s.2.head? = some mark ∧ mark ∉ front) {cs : List Char}
    (found : front <+: replaceEach spellings cs) : front <+: cs := by
  induction spellings generalizing cs with
  | nil => exact found
  | cons s spellings ih =>
      obtain ⟨nonemptyHere, nonemptyLater⟩ := List.forall_mem_cons.mp nonempty
      obtain ⟨⟨mark, head, avoided⟩, avoidsLater⟩ := List.forall_mem_cons.mp avoids
      have before : front <+: replaceAll s.1 s.2 cs := ih nonemptyLater avoidsLater found
      exact prefix_of_prefix_replaceAll nonemptyHere head avoided before

/-- A text is read from left to right: a word is read whole where one begins. -/
@[elab_as_elim]
theorem word_induction {motive : List Char → Prop} (nonempty : ∀ s ∈ spellings, s.1 ≠ [])
    (nil : motive [])
    (word : ∀ s ∈ spellings, ∀ rest, motive rest → motive (s.1 ++ rest))
    (keep : ∀ c rest, (∀ s ∈ spellings, ¬ s.1 <+: c :: rest) → motive rest → motive (c :: rest))
    (cs : List Char) : motive cs := by
  induction h : cs.length using Nat.strong_induction_on generalizing cs with
  | _ n ih =>
      subst h
      by_cases begins : ∃ s ∈ spellings, s.1 <+: cs
      · obtain ⟨s, hs, rest, rfl⟩ := begins
        have shorter : rest.length < (s.1 ++ rest).length := by
          have := List.length_pos_iff.mpr (nonempty s hs)
          rw [List.length_append]
          omega
        exact word s hs rest (ih rest.length shorter rest rfl)
      · cases cs with
        | nil => exact nil
        | cons c rest =>
            have absent : ∀ s ∈ spellings, ¬ s.1 <+: c :: rest := by simpa using begins
            exact keep c rest absent (ih rest.length (Nat.lt_succ_self _) rest rfl)

/-! ## What is left -/

/-- A word is not found across the end of a text that it is inert in. -/
theorem infix_inert_append_iff {text rest : List Char} (inert : Inert word text) :
    word <:+: text ++ rest ↔ word <:+: rest := by
  induction text with
  | nil => rfl
  | cons c text ih =>
      simp only [Inert, List.tails_cons, List.forall_mem_cons, List.cons_ne_nil, false_or] at inert
      obtain ⟨apart, inert⟩ := inert
      have absent : ¬ word <+: c :: (text ++ rest) := fun begins =>
        apart (List.prefix_or_prefix_of_prefix begins (List.prefix_append (c :: text) rest))
      rw [List.cons_append, List.infix_cons_iff, or_iff_right absent, ih inert]

/-- What is put in for each word begins with a letter that no word has, so no pass, be it earlier or
    later, can find a word that begins before it and reaches into it. -/
def Fresh (spellings : Spellings) : Prop :=
  ∀ s ∈ spellings, ∀ s' ∈ spellings, ∃ mark, s'.2.head? = some mark ∧ mark ∉ s.1

/-- After all passes none of the words is left, neither in what was kept nor in what was put in. -/
theorem not_infix_replaceEach (independent : Independent spellings) (fresh : Fresh spellings)
    {s : List Char × List Char} (hs : s ∈ spellings) (cs : List Char) :
    ¬ s.1 <:+: replaceEach spellings cs := by
  induction cs using word_induction independent.nonempty with
  | nil =>
      rw [replaceEach_nil, List.infix_nil]
      exact independent.nonempty s hs
  | word s' hs' rest ih =>
      rw [replaceEach_word_append independent hs',
        infix_inert_append_iff (independent.settled s hs s' hs')]
      exact ih
  | keep c rest absent ih =>
      have notCreated : ¬ s.1 <+: c :: replaceEach spellings rest := by
        rw [← replaceEach_cons independent absent]
        exact fun begins => absent s hs
          (prefix_of_prefix_replaceEach independent.nonempty (fresh s hs) begins)
      rw [replaceEach_cons independent absent, List.infix_cons_iff]
      exact not_or.mpr ⟨notCreated, ih⟩

/-! ## The order of the passes -/

theorem Independent.perm {order : Spellings} (independent : Independent spellings)
    (fresh : Fresh spellings) (perm : order.Perm spellings) : Independent order where
  nonempty s hs := independent.nonempty s (perm.subset hs)
  apart s hs s' hs' := independent.apart s (perm.subset hs) s' (perm.subset hs')
  settled s hs s' hs' := independent.settled s (perm.subset hs) s' (perm.subset hs')
  fresh := List.pairwise_of_forall_mem_list fun s' hs' s hs =>
    fresh s (perm.subset hs) s' (perm.subset hs')

/-- Passes in any order read the text as the same words and characters. -/
theorem replaceEach_perm {order : Spellings} (independent : Independent spellings)
    (fresh : Fresh spellings) (perm : order.Perm spellings) (cs : List Char) :
    replaceEach order cs = replaceEach spellings cs := by
  have reordered : Independent order := independent.perm fresh perm
  induction cs using word_induction independent.nonempty with
  | nil => rw [replaceEach_nil, replaceEach_nil]
  | word s hs rest ih =>
      rw [replaceEach_word_append reordered (perm.symm.subset hs),
        replaceEach_word_append independent hs, ih]
  | keep c rest absent ih =>
      have absentToo : ∀ s ∈ order, ¬ s.1 <+: c :: rest := fun s hs => absent s (perm.subset hs)
      rw [replaceEach_cons reordered absentToo, replaceEach_cons independent absent, ih]

end Passes

end SimulationScript.Text
