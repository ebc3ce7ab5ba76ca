/-! The lines of a text. A line ends at a line feed, and a carriage return before that belongs to
the line end. -/

namespace Pipeline.Text

/-- Reversed characters of a line without a carriage return at its end. -/
def dropReturn : List Char → List Char
  | '\r' :: rest => rest
  | cs => cs

/-- The lines of a text after the reversed characters of a line that has begun. -/
def linesFrom (reversed : List Char) : List Char → List (List Char)
  | [] => if reversed.isEmpty then [] else [reversed.reverse]
  | '\n' :: rest => (dropReturn reversed).reverse :: linesFrom [] rest
  | c :: rest => linesFrom (c :: reversed) rest

/-- The lines of a text. Nothing follows the last line feed. -/
def lineChars (cs : List Char) : List (List Char) :=
  linesFrom [] cs

/-- The lines of a text. -/
def lines (s : String) : List String :=
  (lineChars s.toList).map String.ofList

/-- The parts before and after the first occurrence of a mark. -/
def splitOnce? (mark : List Char) : List Char → Option (List Char × List Char)
  | [] => if mark.isEmpty then some ([], []) else none
  | c :: rest =>
    if mark.isPrefixOf (c :: rest) then some ([], (c :: rest).drop mark.length)
    else (splitOnce? mark rest).map fun (before, after) => (c :: before, after)

variable {line rest mark before after cs : List Char}

/-- The characters of a line without a carriage return at its end. -/
def withoutReturn (line : List Char) : List Char :=
  (dropReturn line.reverse).reverse

theorem withoutReturn_of_getLast? (h : line.getLast? ≠ some '\r') : withoutReturn line = line := by
  rw [List.getLast?_eq_head?_reverse] at h
  unfold withoutReturn dropReturn
  split
  · next heq =>
    rw [heq] at h
    exact absurd rfl h
  · exact List.reverse_reverse line

theorem withoutReturn_concat (line : List Char) : withoutReturn (line ++ ['\r']) = line := by
  rw [withoutReturn, List.reverse_concat, dropReturn, List.reverse_reverse]

theorem withoutReturn_append_cons {front back : List Char} {c : Char} (hc : c ≠ '\r') :
    withoutReturn (front ++ c :: back) = front ++ c :: withoutReturn back := by
  by_cases hlast : back.getLast? = some '\r'
  · obtain ⟨init, rfl⟩ := List.getLast?_eq_some_iff.mp hlast
    rw [← List.cons_append, ← List.append_assoc, withoutReturn_concat, withoutReturn_concat]
  · rw [withoutReturn_of_getLast? hlast, withoutReturn_of_getLast?]
    cases back with
    | nil => simpa using hc
    | cons d rest => simpa [List.getLast?_append, List.getLast?_cons_cons] using hlast

theorem linesFrom_line (reversed rest : List Char) (h : '\n' ∉ line) :
    linesFrom reversed (line ++ '\n' :: rest) =
      withoutReturn (reversed.reverse ++ line) :: linesFrom [] rest := by
  induction line generalizing reversed with
  | nil => rw [List.append_nil, withoutReturn, List.reverse_reverse]; rfl
  | cons c tail ih =>
    obtain ⟨hc, htail⟩ := not_or.mp (mt List.mem_cons.mpr h)
    rw [List.cons_append, linesFrom, ih _ htail, List.reverse_cons, List.append_assoc]
    · rfl
    · exact fun heq => hc heq.symm

/-- What stands before a line feed is a line, and the other lines follow. -/
theorem lineChars_line (rest : List Char) (h : '\n' ∉ line) :
    lineChars (line ++ '\n' :: rest) = withoutReturn line :: lineChars rest :=
  linesFrom_line [] rest h

/-- A mark is found at once where nothing before it looks like its beginning. -/
theorem splitOnce?_append {c : Char} (tail : List Char) (after : List Char) (h : c ∉ before) :
    splitOnce? (c :: tail) (before ++ c :: tail ++ after) = some (before, after) := by
  induction before with
  | nil => simp [splitOnce?, List.isPrefixOf_iff_prefix]
  | cons d rest ih =>
    obtain ⟨hd, hrest⟩ := not_or.mp (mt List.mem_cons.mpr h)
    have hprefix : (c :: tail).isPrefixOf (d :: (rest ++ c :: tail ++ after)) = false := by
      simp [List.isPrefixOf, hd]
    rw [List.cons_append, List.cons_append, splitOnce?, hprefix, ih hrest]
    rfl

theorem splitOnce?_eq_none_iff : splitOnce? mark cs = none ↔ ¬mark <:+: cs := by
  induction cs with
  | nil => simp [splitOnce?, List.infix_nil]
  | cons c rest ih =>
    rw [splitOnce?, List.infix_cons_iff, ← List.isPrefixOf_iff_prefix, not_or, ← ih]
    split <;> simp [*]

theorem splitOnce?_eq_some (h : splitOnce? mark cs = some (before, after)) :
    cs = before ++ mark ++ after := by
  induction cs generalizing before with
  | nil =>
    rw [splitOnce?] at h
    split at h
    · next hempty => cases h; rw [List.isEmpty_iff.mp hempty]; rfl
    · cases h
  | cons c rest ih =>
    rw [splitOnce?] at h
    split at h
    · next hprefix =>
      cases h
      exact (List.prefix_iff_eq_append.mp (List.isPrefixOf_iff_prefix.mp hprefix)).symm
    · obtain ⟨⟨front, behind⟩, hfront, heq⟩ := Option.map_eq_some_iff.mp h
      cases heq
      rw [ih hfront]
      rfl

end Pipeline.Text
