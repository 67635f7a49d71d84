import Mathlib.Data.List.Infix

/-!
# First occurrence of a pattern in a list

A byte-string program cuts its input at the first occurrence of a delimiter.
This module gives the executable search `find`, the relation `FirstCut` which
says what a successful search means, and the separator-driven decomposition
`splitOn`.  Everything is stated for lists over an arbitrary alphabet with
decidable equality.

`FirstCut` mentions no position: it names the two pieces around the first
occurrence.  The pieces are determined by the text, so proofs about a program
built from several cuts reason with equations between lists and never with
indices.

`rfind` searches from the end, and a scanner that takes symbols of one class
relies on the rules for maximal runs.
-/

namespace ServerUtils.Foundation.Search

variable {Symbol : Type*} [DecidableEq Symbol]

/-- Position of the first occurrence of `pattern`, if there is one. -/
def find (pattern : List Symbol) : List Symbol → Option Nat
  | [] => if pattern = [] then some 0 else none
  | symbol :: rest =>
      if pattern <+: symbol :: rest then some 0
      else (find pattern rest).map (· + 1)

/--
The text is `before ++ pattern ++ after`, and no occurrence of the pattern
starts earlier.
-/
structure FirstCut
    (pattern text before after : List Symbol) : Prop where
  glue : text = before ++ pattern ++ after
  first : ∀ earlier later, text = earlier ++ pattern ++ later →
    before.length ≤ earlier.length

omit [DecidableEq Symbol] in
/-- Both pieces of a first cut are determined by the text. -/
theorem FirstCut.unique
    {pattern text before after before' after' : List Symbol}
    (left : FirstCut pattern text before after)
    (right : FirstCut pattern text before' after') :
    before = before' ∧ after = after' := by
  have sameLength : before.length = before'.length :=
    Nat.le_antisymm
      (left.first before' after' right.glue)
      (right.first before after left.glue)
  have sameText :
      before ++ (pattern ++ after) = before' ++ (pattern ++ after') := by
    simpa [List.append_assoc] using left.glue.symm.trans right.glue
  have pieces := List.append_inj sameText sameLength
  exact ⟨pieces.1, List.append_cancel_left pieces.2⟩

omit [DecidableEq Symbol] in
theorem FirstCut.occurs
    {pattern text before after : List Symbol}
    (cut : FirstCut pattern text before after) :
    pattern <:+: text :=
  ⟨before, after, cut.glue.symm⟩

omit [DecidableEq Symbol] in
/-- A pattern at the start of the text is its own first cut. -/
theorem FirstCut.here (pattern after : List Symbol) :
    FirstCut pattern (pattern ++ after) [] after where
  glue := by simp
  first := by simp

omit [DecidableEq Symbol] in
/-- Prepending a symbol moves the cut when the pattern does not start there. -/
theorem FirstCut.cons
    {pattern text before after : List Symbol} {symbol : Symbol}
    (notHere : ¬ pattern <+: symbol :: text)
    (cut : FirstCut pattern text before after) :
    FirstCut pattern (symbol :: text) (symbol :: before) after where
  glue := by rw [cut.glue]; simp
  first := by
    intro earlier later equal
    cases earlier with
    | nil =>
        exact absurd ⟨later, by simpa using equal.symm⟩ notHere
    | cons head tail =>
        simp only [List.cons_append, List.cons.injEq] at equal
        have bound := cut.first tail later equal.2
        simpa using bound

theorem find_eq_none_iff {pattern text : List Symbol} :
    find pattern text = none ↔ ¬ pattern <:+: text := by
  induction text with
  | nil =>
      simp [find, List.infix_nil]
  | cons symbol rest ih =>
      rw [find, List.infix_cons_iff]
      split_ifs with here
      · simp [here]
      · simp [ih, here]

/-- What a successful search returns is the length of the piece before. -/
theorem exists_firstCut_of_find
    {pattern text : List Symbol} {position : Nat}
    (found : find pattern text = some position) :
    ∃ before after,
      FirstCut pattern text before after ∧ before.length = position := by
  induction text generalizing position with
  | nil =>
      simp only [find] at found
      split_ifs at found with empty
      cases found
      subst empty
      exact ⟨[], [], .here [] [], rfl⟩
  | cons symbol rest ih =>
      rw [find] at found
      split_ifs at found with here
      · cases found
        rcases here with ⟨after, equal⟩
        exact ⟨[], after, equal ▸ .here pattern after, rfl⟩
      · obtain ⟨previous, foundRest, equal⟩ :=
          Option.map_eq_some_iff.mp found
        rcases ih foundRest with ⟨before, after, cut, sameLength⟩
        refine ⟨symbol :: before, after, cut.cons here, ?_⟩
        rw [List.length_cons, sameLength, equal]

theorem FirstCut.find_eq
    {pattern text before after : List Symbol}
    (cut : FirstCut pattern text before after) :
    find pattern text = some before.length := by
  cases found : find pattern text with
  | none =>
      exact absurd cut.occurs (find_eq_none_iff.mp found)
  | some position =>
      rcases exists_firstCut_of_find found with ⟨before', after', cut', rfl⟩
      rw [(cut.unique cut').1]

/-- A cut is the first one when `find` stops there. -/
theorem firstCut_iff_find
    {pattern text before after : List Symbol} :
    FirstCut pattern text before after ↔
      text = before ++ pattern ++ after ∧
        find pattern text = some before.length := by
  constructor
  · intro cut
    exact ⟨cut.glue, cut.find_eq⟩
  · rintro ⟨glue, found⟩
    rcases exists_firstCut_of_find found with ⟨before', after', cut, same⟩
    refine ⟨glue, fun earlier later equal => ?_⟩
    exact same ▸ cut.first earlier later equal

instance (pattern text before after : List Symbol) :
    Decidable (FirstCut pattern text before after) :=
  decidable_of_iff _ firstCut_iff_find.symm

/-- Either the pattern does not occur or the text has a first cut. -/
theorem firstCut_or_absent (pattern text : List Symbol) :
    (∃ before after, FirstCut pattern text before after) ∨
      ¬ pattern <:+: text := by
  cases found : find pattern text with
  | none => exact Or.inr (find_eq_none_iff.mp found)
  | some position =>
      rcases exists_firstCut_of_find found with ⟨before, after, cut, -⟩
      exact Or.inl ⟨before, after, cut⟩

omit [DecidableEq Symbol] in
/-- A cut moves past a piece that avoids the first symbol of the pattern. -/
theorem FirstCut.append_left
    {symbol : Symbol} {tail text before after piece : List Symbol}
    (avoids : symbol ∉ piece)
    (cut : FirstCut (symbol :: tail) text before after) :
    FirstCut (symbol :: tail) (piece ++ text) (piece ++ before) after := by
  induction piece with
  | nil => exact cut
  | cons head rest ih =>
      simp only [List.mem_cons, not_or] at avoids
      refine FirstCut.cons ?_ (ih avoids.2)
      rintro ⟨later, equal⟩
      simp only [List.cons_append, List.cons.injEq] at equal
      exact avoids.1 equal.1

omit [DecidableEq Symbol] in
/-- A piece that avoids the first symbol of the pattern is cut off whole. -/
theorem FirstCut.of_not_mem
    {symbol : Symbol} {before : List Symbol}
    (avoids : symbol ∉ before) (tail after : List Symbol) :
    FirstCut (symbol :: tail)
      (before ++ symbol :: tail ++ after) before after := by
  have moved := (FirstCut.here (symbol :: tail) after).append_left avoids
  simpa [List.append_assoc] using moved

omit [DecidableEq Symbol] in
/-- For a one-symbol pattern, the piece before is the part without it. -/
theorem firstCut_singleton_iff
    {symbol : Symbol} {text before after : List Symbol} :
    FirstCut [symbol] text before after ↔
      text = before ++ symbol :: after ∧ symbol ∉ before := by
  constructor
  · intro cut
    refine ⟨by simpa using cut.glue, fun member => ?_⟩
    rcases List.append_of_mem member with ⟨earlier, later, rfl⟩
    have bound := cut.first earlier (later ++ symbol :: after)
      (by simpa using cut.glue)
    simp only [List.length_append, List.length_cons] at bound
    omega
  · rintro ⟨rfl, avoids⟩
    simpa using FirstCut.of_not_mem avoids [] after

omit [DecidableEq Symbol] in
/-- A first cut does not depend on what follows the occurrence. -/
theorem FirstCut.replace_after
    {pattern before after : List Symbol}
    (cut : FirstCut pattern (before ++ pattern ++ after) before after)
    (after' : List Symbol) :
    FirstCut pattern (before ++ pattern ++ after') before after' where
  glue := rfl
  first := by
    intro earlier later equal
    by_contra short
    have sameLength :
        (earlier ++ pattern).length ≤ (before ++ pattern).length := by
      simp only [List.length_append]
      omega
    -- an earlier occurrence would end before `after'` starts
    have inside : earlier ++ pattern <+: before ++ pattern :=
      List.prefix_of_prefix_length_le
        (equal ▸ List.prefix_append (earlier ++ pattern) later)
        (List.prefix_append (before ++ pattern) after') sameLength
    rcases inside with ⟨middle, middleEqual⟩
    have bound := cut.first earlier (middle ++ after)
      (by rw [← middleEqual]; simp only [List.append_assoc])
    exact short bound

omit [DecidableEq Symbol] in
/-- Text appended at the end only lengthens the piece after. -/
theorem FirstCut.extend
    {pattern text before after : List Symbol}
    (cut : FirstCut pattern text before after) (more : List Symbol) :
    FirstCut pattern (text ++ more) before (after ++ more) := by
  have glued := cut
  rw [cut.glue] at glued
  have replaced := glued.replace_after (after ++ more)
  rw [cut.glue, List.append_assoc]
  exact replaced

omit [DecidableEq Symbol] in
/-- A symbol outside the pattern separates the occurrences around it. -/
theorem firstCut_append_cons_iff
    {pattern piece text before after : List Symbol} {symbol : Symbol}
    (nonempty : pattern ≠ []) (outside : symbol ∉ pattern) :
    FirstCut pattern (piece ++ symbol :: text)
        (piece ++ symbol :: before) after ↔
      ¬ pattern <:+: piece ∧ FirstCut pattern text before after := by
  constructor
  · intro cut
    refine ⟨?_, ?_, ?_⟩
    · rintro ⟨earlier, later, rfl⟩
      have bound := cut.first earlier (later ++ symbol :: text) (by simp)
      simp only [List.length_append, List.length_cons] at bound
      omega
    · have glue := cut.glue
      simp only [List.append_assoc, List.cons_append] at glue
      rw [List.append_assoc]
      exact (List.cons.inj (List.append_cancel_left glue)).2
    · intro earlier later equal
      have bound := cut.first (piece ++ symbol :: earlier) later
        (by simp [equal])
      simp only [List.length_append, List.length_cons] at bound
      omega
  · rintro ⟨absent, cut⟩
    refine ⟨by simp [cut.glue], fun earlier later equal => ?_⟩
    rw [List.append_assoc, List.append_eq_append_iff] at equal
    rcases equal with ⟨gap, rfl, equal⟩ | ⟨gap, rfl, equal⟩
    · -- the occurrence starts after the piece
      cases gap with
      | nil =>
          cases pattern with
          | nil => exact absurd rfl nonempty
          | cons head tail =>
              rw [List.nil_append, List.cons_append] at equal
              have same := (List.cons.inj equal).1
              exact absurd (same ▸ List.mem_cons_self) outside
      | cons head gap =>
          rw [List.cons_append] at equal
          have bound := cut.first gap later (by
            rw [(List.cons.inj equal).2, List.append_assoc])
          simp only [List.length_append, List.length_cons]
          omega
    · -- it starts in the piece, so it ends there or covers the symbol
      rw [List.append_eq_append_iff] at equal
      rcases equal with ⟨more, rfl, -⟩ | ⟨more, rfl, equal⟩
      · exact absurd ⟨earlier, more, by simp⟩ absent
      · cases more with
        | nil => exact absurd ⟨earlier, [], by simp⟩ absent
        | cons head more =>
            rw [List.cons_append] at equal
            have same := (List.cons.inj equal).1
            exact absurd (by simp [same]) outside

omit [DecidableEq Symbol] in
/-- The pattern does not occur in the piece before its first occurrence. -/
theorem FirstCut.absent_before
    {pattern text before after : List Symbol}
    (cut : FirstCut pattern text before after) (nonempty : pattern ≠ []) :
    ¬ pattern <:+: before := by
  rintro ⟨earlier, later, rfl⟩
  have bound := cut.first earlier (later ++ pattern ++ after)
    (by simpa [List.append_assoc] using cut.glue)
  have positive : 0 < pattern.length := List.length_pos_of_ne_nil nonempty
  simp only [List.length_append] at bound
  omega

/-! ## The last occurrence -/

/-- Position of the last occurrence of `pattern`, if there is one. -/
def rfind (pattern : List Symbol) : List Symbol → Option Nat
  | [] => if pattern = [] then some 0 else none
  | symbol :: rest =>
      match rfind pattern rest with
      | some position => some (position + 1)
      | none => if pattern <+: symbol :: rest then some 0 else none

/-- A pattern does not occur in a shorter text. -/
theorem rfind_of_short
    {pattern text : List Symbol} (short : text.length < pattern.length) :
    rfind pattern text = none := by
  induction text with
  | nil =>
      have filled : pattern ≠ [] := List.ne_nil_of_length_pos short
      rw [rfind, if_neg filled]
  | cons symbol rest ih =>
      rw [List.length_cons] at short
      have notHere : ¬ pattern <+: symbol :: rest := by
        intro starts
        have bound := starts.length_le
        rw [List.length_cons] at bound
        omega
      rw [rfind, ih (by omega)]
      exact if_neg notHere

/-- The pattern at the end of a text is its last occurrence. -/
theorem rfind_append_self
    {pattern : List Symbol} (nonempty : pattern ≠ [])
    (before : List Symbol) :
    rfind pattern (before ++ pattern) = some before.length := by
  induction before with
  | nil =>
      rcases List.exists_cons_of_ne_nil nonempty with ⟨head, tail, rfl⟩
      rw [List.nil_append, rfind, rfind_of_short (by simp)]
      exact if_pos (List.prefix_refl _)
  | cons symbol before ih =>
      rw [List.cons_append, rfind, ih, List.length_cons]

theorem rfind_eq_none_iff {pattern text : List Symbol} :
    rfind pattern text = none ↔ ¬ pattern <:+: text := by
  induction text with
  | nil => simp [rfind, List.infix_nil]
  | cons symbol rest ih =>
      rw [rfind, List.infix_cons_iff]
      cases found : rfind pattern rest with
      | none =>
          rw [found] at ih
          simp [ih.mp rfl]
      | some position =>
          rw [found] at ih
          have later : pattern <:+: rest := by simpa using ih
          simp [later]

/-- What a successful search returns is the length of a piece before. -/
theorem exists_append_of_rfind
    {pattern text : List Symbol} {position : Nat}
    (found : rfind pattern text = some position) :
    ∃ before after,
      text = before ++ pattern ++ after ∧ before.length = position := by
  induction text generalizing position with
  | nil =>
      rw [rfind] at found
      split_ifs at found with empty
      cases found
      exact ⟨[], [], by simp [empty], rfl⟩
  | cons symbol rest ih =>
      rw [rfind] at found
      cases later : rfind pattern rest with
      | some previous =>
          rw [later] at found
          cases found
          rcases ih later with ⟨before, after, glue, rfl⟩
          exact ⟨symbol :: before, after, by simp [glue], rfl⟩
      | none =>
          simp only [later] at found
          split_ifs at found with here
          cases found
          rcases here with ⟨after, glue⟩
          exact ⟨[], after, by simp [glue], rfl⟩

/-! ## Maximal runs -/

section Runs

variable {Symbol : Type*} {inside : Symbol → Bool} {run rest : List Symbol}

/-- A run is taken up to the first symbol outside it. -/
theorem takeWhile_append_stop
    (plain : ∀ symbol ∈ run, inside symbol = true)
    (ended : ∀ symbol, rest.head? = some symbol → inside symbol = false) :
    (run ++ rest).takeWhile inside = run := by
  rw [List.takeWhile_append_of_pos plain]
  cases rest with
  | nil => simp
  | cons symbol rest => simp [ended symbol rfl]

theorem dropWhile_append_stop
    (plain : ∀ symbol ∈ run, inside symbol = true)
    (ended : ∀ symbol, rest.head? = some symbol → inside symbol = false) :
    (run ++ rest).dropWhile inside = rest := by
  rw [List.dropWhile_append_of_pos plain]
  cases rest with
  | nil => rfl
  | cons symbol rest => simp [ended symbol rfl]

/-- What is left after a run does not continue it. -/
theorem dropWhile_head_stop
    (text : List Symbol) (symbol : Symbol)
    (isHead : (text.dropWhile inside).head? = some symbol) :
    inside symbol = false := by
  have stopped := List.head?_dropWhile_not inside text
  rw [isHead] at stopped
  simpa using stopped

end Runs

/-! ## Decomposition at every separator -/

/-- The pieces of a text between successive occurrences of a separator. -/
def splitOn (separator text : List Symbol) : List (List Symbol) :=
  match _found : find separator text with
  | none => [text]
  | some position =>
      if separator = [] then [text]
      else
        text.take position ::
          splitOn separator (text.drop (position + separator.length))
termination_by text.length
decreasing_by
  rcases exists_firstCut_of_find _found with ⟨before, after, cut, rfl⟩
  have positive : 0 < separator.length :=
    List.length_pos_of_ne_nil (by assumption)
  rw [cut.glue]
  simp only [List.length_drop, List.length_append]
  omega

theorem splitOn_of_absent
    {separator text : List Symbol} (absent : ¬ separator <:+: text) :
    splitOn separator text = [text] := by
  rw [splitOn]
  split
  · rfl
  · rename_i found
    rw [find_eq_none_iff.mpr absent] at found
    cases found

theorem FirstCut.splitOn_eq
    {separator text before after : List Symbol}
    (cut : FirstCut separator text before after)
    (nonempty : separator ≠ []) :
    splitOn separator text = before :: splitOn separator after := by
  rw [splitOn]
  split
  · rename_i found
    rw [cut.find_eq] at found
    cases found
  · rename_i found
    rw [cut.find_eq] at found
    cases found
    rw [if_neg nonempty, cut.glue]
    simp [List.append_assoc]

/--
Induction along the cuts of a text: a text without the separator, or a first
cut whose remainder already has the property.
-/
theorem splitOn_induction
    {separator : List Symbol} (nonempty : separator ≠ [])
    {motive : List Symbol → Prop}
    (last : ∀ text, ¬ separator <:+: text → motive text)
    (cut : ∀ text before after,
      FirstCut separator text before after → motive after → motive text)
    (text : List Symbol) : motive text := by
  induction size : text.length using Nat.strongRecOn generalizing text with
  | ind size ih =>
      cases found : find separator text with
      | none => exact last text (find_eq_none_iff.mp found)
      | some position =>
          rcases exists_firstCut_of_find found with ⟨before, after, isCut, rfl⟩
          have positive : 0 < separator.length :=
            List.length_pos_of_ne_nil nonempty
          have shorter : after.length < text.length := by
            rw [isCut.glue]
            simp only [List.length_append]
            omega
          exact cut text before after isCut
            (ih after.length (size ▸ shorter) after rfl)

theorem splitOn_ne_nil (separator text : List Symbol) :
    splitOn separator text ≠ [] := by
  rw [splitOn]
  split
  · simp
  · split_ifs <;> simp

/-- Joining the pieces with the separator restores the text. -/
theorem intercalate_splitOn
    {separator : List Symbol} (nonempty : separator ≠ [])
    (text : List Symbol) :
    separator.intercalate (splitOn separator text) = text := by
  induction text using splitOn_induction nonempty with
  | last text absent =>
      simp [splitOn_of_absent absent]
  | cut text before after isCut ih =>
      rw [isCut.splitOn_eq nonempty,
        List.intercalate_cons_of_ne_nil (splitOn_ne_nil separator after), ih]
      exact isCut.glue.symm

/-- No piece contains the separator. -/
theorem absent_of_mem_splitOn
    {separator : List Symbol} (nonempty : separator ≠ [])
    {text piece : List Symbol} (member : piece ∈ splitOn separator text) :
    ¬ separator <:+: piece := by
  induction text using splitOn_induction nonempty with
  | last text absent =>
      rw [splitOn_of_absent absent, List.mem_singleton] at member
      exact member ▸ absent
  | cut text before after isCut ih =>
      rw [isCut.splitOn_eq nonempty, List.mem_cons] at member
      rcases member with rfl | later
      · exact isCut.absent_before nonempty
      · exact ih later

/-- Pieces that avoid the first symbol of the separator are recovered. -/
theorem splitOn_intercalate
    {symbol : Symbol} {tail : List Symbol} {pieces : List (List Symbol)}
    (nonempty : pieces ≠ [])
    (avoid : ∀ piece ∈ pieces, symbol ∉ piece) :
    splitOn (symbol :: tail) ((symbol :: tail).intercalate pieces) =
      pieces := by
  induction pieces with
  | nil => exact absurd rfl nonempty
  | cons piece rest ih =>
      have avoidsPiece := avoid piece List.mem_cons_self
      cases rest with
      | nil =>
          have absent : ¬ symbol :: tail <:+: piece := fun occurs =>
            avoidsPiece (occurs.subset List.mem_cons_self)
          simpa using splitOn_of_absent absent
      | cons next rest =>
          have remaining := ih (by simp)
            fun piece member => avoid piece (List.mem_cons_of_mem _ member)
          rw [List.intercalate_cons_of_ne_nil (by simp),
            (FirstCut.of_not_mem avoidsPiece tail _).splitOn_eq (by simp),
            remaining]

/-- A piece may be exchanged for one that is cut off in the same way. -/
theorem splitOn_exchange
    {separator piece piece' text : List Symbol}
    {earlier later : List (List Symbol)}
    (nonempty : separator ≠ []) (notLast : later ≠ [])
    (keeps : ∀ rest,
      FirstCut separator (piece ++ separator ++ rest) piece rest →
        FirstCut separator (piece' ++ separator ++ rest) piece' rest)
    (pieces : splitOn separator text = earlier ++ piece :: later) :
    splitOn separator
        (separator.intercalate (earlier ++ piece' :: later)) =
      earlier ++ piece' :: later := by
  induction text using splitOn_induction nonempty generalizing earlier with
  | last text absent =>
      rw [splitOn_of_absent absent] at pieces
      cases earlier with
      | nil => exact absurd (List.cons.inj pieces).2.symm notLast
      | cons head earlier => simp at pieces
  | cut text before after isCut ih =>
      rw [isCut.splitOn_eq nonempty] at pieces
      cases earlier with
      | nil =>
          rcases List.cons.inj pieces with ⟨rfl, rfl⟩
          have glued := isCut
          rw [isCut.glue] at glued
          rw [List.nil_append, List.intercalate_cons_of_ne_nil notLast,
            intercalate_splitOn nonempty,
            (keeps after glued).splitOn_eq nonempty]
      | cons head earlier =>
          rcases List.cons.inj pieces with ⟨rfl, rest⟩
          have glued := isCut
          rw [isCut.glue] at glued
          rw [List.cons_append,
            List.intercalate_cons_of_ne_nil (by simp),
            (glued.replace_after _).splitOn_eq nonempty, ih rest]

/-! ## Patterns that do not overlap themselves -/

/-- No proper end of the pattern is a start of it. -/
def Unbordered (pattern : List Symbol) : Prop :=
  ∀ shift < pattern.length, 0 < shift → ¬ pattern.drop shift <+: pattern

omit [DecidableEq Symbol] in
/-- Such a pattern behind a text without it makes no earlier occurrence. -/
theorem FirstCut.of_unbordered
    {pattern before : List Symbol} (unbordered : Unbordered pattern)
    (absent : ¬ pattern <:+: before) (after : List Symbol) :
    FirstCut pattern (before ++ pattern ++ after) before after where
  glue := rfl
  first := by
    intro earlier later equal
    by_contra shorter
    rw [not_le] at shorter
    rw [List.append_assoc, List.append_assoc,
      List.append_eq_append_iff] at equal
    rcases equal with ⟨gap, rfl, _⟩ | ⟨gap, rfl, overlap⟩
    · rw [List.length_append] at shorter
      omega
    rw [List.length_append] at shorter
    -- the occurrence lies inside `before`, or it overlaps the pattern
    rcases List.append_eq_append_iff.mp overlap with
      ⟨inner, rfl, _⟩ | ⟨inner, isPattern, rest⟩
    · exact absent ⟨earlier, inner, by simp⟩
    · have isStart : inner <+: pattern := by
        apply List.prefix_of_prefix_length_le
        · exact ⟨later, rest.symm⟩
        · exact List.prefix_append pattern after
        · rw [isPattern, List.length_append]
          exact Nat.le_add_left _ _
      have isEnd : pattern.drop gap.length = inner := by
        rw [isPattern, List.drop_left]
      by_cases whole : inner = []
      · rw [whole, List.append_nil] at isPattern
        exact absent ⟨earlier, [], by rw [isPattern, List.append_nil]⟩
      · apply unbordered gap.length
        · have filled := List.length_pos_iff.mpr whole
          rw [isPattern, List.length_append]
          omega
        · omega
        · rwa [isEnd]

/-- Pieces without a separator that does not overlap itself are recovered. -/
theorem splitOn_intercalate_of_absent
    {separator : List Symbol} {pieces : List (List Symbol)}
    (unbordered : Unbordered separator) (filled : separator ≠ [])
    (nonempty : pieces ≠ [])
    (absent : ∀ piece ∈ pieces, ¬ separator <:+: piece) :
    splitOn separator (separator.intercalate pieces) = pieces := by
  induction pieces with
  | nil => exact absurd rfl nonempty
  | cons piece rest ih =>
      have absentHere := absent piece List.mem_cons_self
      cases rest with
      | nil =>
          rw [List.intercalate_singleton]
          exact splitOn_of_absent absentHere
      | cons next rest =>
          have remaining := ih (List.cons_ne_nil _ _)
            fun piece member => absent piece (List.mem_cons_of_mem _ member)
          rw [List.intercalate_cons_of_ne_nil (List.cons_ne_nil _ _),
            (FirstCut.of_unbordered unbordered absentHere _).splitOn_eq filled,
            remaining]

omit [DecidableEq Symbol] in
/-- A symbol outside the pattern separates its occurrences. -/
theorem infix_append_cons_iff
    {pattern piece text : List Symbol} {symbol : Symbol}
    (nonempty : pattern ≠ []) (outside : symbol ∉ pattern) :
    pattern <:+: piece ++ symbol :: text ↔
      pattern <:+: piece ∨ pattern <:+: text := by
  constructor
  · rintro ⟨earlier, later, equal⟩
    rw [List.append_assoc, List.append_eq_append_iff] at equal
    rcases equal with ⟨rest, rfl, equal⟩ | ⟨rest, rfl, equal⟩
    · rcases List.append_eq_append_iff.mp equal with
        ⟨inner, rfl, _⟩ | ⟨inner, isPattern, equal⟩
      · exact .inl ⟨earlier, inner, by simp⟩
      · cases inner with
        | nil => exact .inl ⟨earlier, [], by simp [isPattern]⟩
        | cons first inner =>
            rw [List.cons_append, List.cons.injEq] at equal
            refine absurd ?_ outside
            rw [isPattern, equal.1]
            simp
    · cases rest with
      | nil =>
          cases pattern with
          | nil => exact absurd rfl nonempty
          | cons first pattern =>
              rw [List.nil_append, List.cons_append, List.cons.injEq] at equal
              exact absurd (by simp [equal.1]) outside
      | cons first rest =>
          rw [List.cons_append, List.cons.injEq] at equal
          exact .inr ⟨rest, later, by simp [equal.2]⟩
  · rintro (inPiece | inText)
    · exact inPiece.trans (List.prefix_append _ _).isInfix
    · exact inText.trans ((List.suffix_cons symbol text).isInfix.trans
        (List.suffix_append _ _).isInfix)

end ServerUtils.Foundation.Search
