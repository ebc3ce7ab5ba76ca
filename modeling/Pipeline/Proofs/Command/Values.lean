import Pipeline.Command.Values
import Pipeline.Proofs.Text.Trimming

/-! The values of a file against how they were written there. A line `name=value` binds its name and
leaves the values of the other lines alone, unless the value holds the mark of a block; blocks are
read back as they were written. -/

namespace Pipeline.Command

open Text (trimChars withoutReturn)

variable {name value before after line cs : List Char} {rest lines : List (List Char)}

/-- The mark in the first line of a block. -/
def blockMark : List Char := ['<', '<']

/-! ### Lines of a file -/

theorem all_isBlank_eq_false {c : Char} (hmem : c ∈ line) (hc : Text.isBlank c = false) :
    line.all Text.isBlank = false :=
  List.all_eq_false.mpr ⟨c, hmem, Bool.eq_false_iff.mp hc⟩

/-- A line that holds the mark opens a block, wherever it holds it. -/
theorem bindings_block (h : Text.splitOnce? blockMark line = some (before, after)) :
    bindings (line :: rest) =
      (String.ofList (trimChars before),
        joinLines (splitDelimiter (trimChars after) rest).1) ::
          bindings (splitDelimiter (trimChars after) rest).2 := by
  have hmem : '<' ∈ line := by
    rw [Text.splitOnce?_eq_some h]
    simp [blockMark]
  unfold blockMark at h
  rw [bindings, all_isBlank_eq_false hmem (by decide)]
  simp only [Bool.false_eq_true, if_false, h]

theorem bindings_value (hblock : Text.splitOnce? blockMark line = none)
    (h : Text.splitOnce? ['='] line = some (name, value)) :
    bindings (line :: rest) =
      (String.ofList (trimChars name), String.ofList value) :: bindings rest := by
  have hmem : '=' ∈ line := by
    rw [Text.splitOnce?_eq_some h]
    simp
  unfold blockMark at hblock
  rw [bindings, all_isBlank_eq_false hmem (by decide)]
  simp only [Bool.false_eq_true, if_false, hblock, h]

/-! ### A name and its value on one line -/

/-- A mark without a character is on one side of it. -/
theorem infix_append_cons {mark front back : List Char} {c : Char} (hc : c ∉ mark) :
    mark <:+: front ++ c :: back ↔ mark <:+: front ∨ mark <:+: back := by
  constructor
  · rintro ⟨u, v, huv⟩
    obtain ⟨t, hfront, ht⟩ | ⟨t, hu, ht⟩ := List.append_eq_append_iff.mp huv
    · exact .inl ⟨u, t, hfront.symm⟩
    · cases t with
      | nil => exact .inl ⟨u, [], by rw [List.append_nil, hu, List.append_nil]⟩
      | cons d t =>
        obtain ⟨rfl, rfl⟩ := List.cons.inj ht
        obtain ⟨w, hfront, hw⟩ | ⟨w, hw, hmark⟩ := List.append_eq_append_iff.mp hu
        · exact absurd (by rw [hw]; simp) hc
        · cases w with
          | nil => exact absurd (by rw [← List.nil_append mark, ← hmark]; exact .head _) hc
          | cons d' w =>
            obtain ⟨-, rfl⟩ := List.cons.inj hmark
            exact .inr ⟨w, v, rfl⟩
  · rintro (h | h)
    · exact h.trans (List.infix_append' [] front _)
    · exact h.trans ⟨front ++ [c], [], by simp⟩

theorem blockMark_infix_withoutReturn :
    blockMark <:+: withoutReturn value ↔ blockMark <:+: value := by
  by_cases hlast : value.getLast? = some '\r'
  · obtain ⟨init, rfl⟩ := List.getLast?_eq_some_iff.mp hlast
    rw [Text.withoutReturn_concat, infix_append_cons (by decide)]
    simp [blockMark]
  · rw [Text.withoutReturn_of_getLast? hlast]

/-- A line with an equals sign behind the name. -/
def valueLine (name value : List Char) : List Char :=
  name ++ '=' :: value

/-- The values of a file that begins with a line: the line ends before a carriage return. -/
theorem fileValues_valueLine {name value rest : String} (hname : '\n' ∉ name.toList)
    (hvalue : '\n' ∉ value.toList) :
    fileValues (name ++ "=" ++ value ++ "\n" ++ rest) =
      Dict.ofList (bindings (valueLine name.toList (withoutReturn value.toList) ::
        Text.lineChars rest.toList)) := by
  have hline : '\n' ∉ valueLine name.toList value.toList := by
    simp [valueLine, hname, hvalue]
  have hcontent : (name ++ "=" ++ value ++ "\n" ++ rest).toList =
      valueLine name.toList value.toList ++ '\n' :: rest.toList := by
    simp [valueLine]
  rw [fileValues, hcontent, Text.lineChars_line _ hline, valueLine,
    Text.withoutReturn_append_cons (by decide)]
  rfl

section ValueLine

variable (hequals : '=' ∉ name) (hmark : ¬blockMark <:+: name)

include hequals hmark

theorem bindings_valueLine (hblock : ¬blockMark <:+: value) :
    bindings (valueLine name value :: rest) =
      (String.ofList (trimChars name), String.ofList value) :: bindings rest := by
  refine bindings_value (Text.splitOnce?_eq_none_iff.mpr ?_) ?_
  · rw [valueLine, infix_append_cons (by decide), not_or]
    exact ⟨hmark, hblock⟩
  · have hsplit := Text.splitOnce?_append [] value hequals
    rwa [List.append_assoc] at hsplit

/-- A mark in the value takes the name and the beginning of the value for the name of a block. -/
theorem exists_bindings_valueLine (hblock : blockMark <:+: value) (rest : List (List Char)) :
    ∃ before after, '=' ∈ before ∧
      bindings (valueLine name value :: rest) =
        (String.ofList (trimChars before),
          joinLines (splitDelimiter (trimChars after) rest).1) ::
            bindings (splitDelimiter (trimChars after) rest).2 := by
  have hline : blockMark <:+: valueLine name value :=
    (infix_append_cons (by decide)).mpr (.inr hblock)
  cases hsplit : Text.splitOnce? blockMark (valueLine name value) with
  | none => exact absurd hline (Text.splitOnce?_eq_none_iff.mp hsplit)
  | some parts =>
    obtain ⟨before, after⟩ := parts
    refine ⟨before, after, ?_, bindings_block hsplit⟩
    by_contra hbefore
    have heq := Text.splitOnce?_eq_some hsplit
    rw [valueLine, List.append_assoc] at heq
    -- Neither part of the line can end inside of the mark or of the other one's mark.
    obtain ⟨t, rfl, ht⟩ | ⟨t, rfl, ht⟩ := List.append_eq_append_iff.mp heq
    · cases t with
      | nil => cases ht
      | cons c t =>
        obtain ⟨rfl, -⟩ := List.cons.inj ht
        exact hbefore (by simp)
    · match t, ht with
      | [], ht => cases ht
      | [_], ht => cases ht
      | c :: d :: t, ht =>
        simp only [blockMark, List.cons_append, List.nil_append, List.cons.injEq] at ht
        obtain ⟨rfl, rfl, -⟩ := ht
        exact hmark ⟨before, t, by simp [blockMark]⟩

end ValueLine

theorem fileValues_empty : fileValues "" = [] := by
  have hlines : Text.lineChars "".toList = [] := rfl
  rw [fileValues, hlines, bindings]
  rfl

section OneLine

variable {name value : String} (hequals : '=' ∉ name.toList)
  (hmark : ¬blockMark <:+: name.toList) (hname : '\n' ∉ name.toList)
  (hvalue : '\n' ∉ value.toList)

include hequals hmark hname hvalue

theorem fileValues_line (hblock : ¬blockMark <:+: value.toList) (rest : String) :
    fileValues (name ++ "=" ++ value ++ "\n" ++ rest) =
      (fileValues rest).insertNew (Text.trim name)
        (String.ofList (withoutReturn value.toList)) := by
  rw [fileValues_valueLine hname hvalue, bindings_valueLine hequals hmark
    (mt blockMark_infix_withoutReturn.mp hblock), Dict.ofList_cons]
  rfl

/-- If the value holds the mark, even a line that is alone in its file does not bind the name. -/
theorem fileValues_marked_ne (hblock : blockMark <:+: value.toList) :
    fileValues (name ++ "=" ++ value ++ "\n" ++ "") ≠ [(Text.trim name, value)] := by
  obtain ⟨before, after, hmem, hbindings⟩ := exists_bindings_valueLine hequals hmark
    (blockMark_infix_withoutReturn.mpr hblock) []
  have hlines : Text.lineChars "".toList = [] := rfl
  rw [fileValues_valueLine hname hvalue, hlines, hbindings, splitDelimiter, bindings]
  intro heq
  have hkeys : [String.ofList (trimChars before)] = [Text.trim name] := congrArg Dict.keys heq
  have htrim := String.ofList_injective (List.cons.inj hkeys).1
  exact hequals (Text.trimChars_subset _ (htrim ▸ Text.mem_trimChars hmem (by decide)))

/-- A line `name=value` binds its name, unless a later line does, and leaves all other values as
they are, if the value does not hold the mark of a block. A carriage return in front of the line
feed belongs to the end of the line. For the value as it stands, and whatever the other lines say,
both conditions are needed. -/
theorem line_binds_name :
    (¬blockMark <:+: value.toList → ∀ rest,
      fileValues (name ++ "=" ++ value ++ "\n" ++ rest) =
        (fileValues rest).insertNew (Text.trim name)
          (String.ofList (withoutReturn value.toList))) ∧
    ((∀ rest, fileValues (name ++ "=" ++ value ++ "\n" ++ rest) =
        (fileValues rest).insertNew (Text.trim name) value) ↔
      ¬blockMark <:+: value.toList ∧ value.toList.getLast? ≠ some '\r') := by
  have hplain := fileValues_line hequals hmark hname hvalue
  refine ⟨hplain, fun h => ?_, fun ⟨hblock, hlast⟩ rest => ?_⟩
  · have halone : fileValues (name ++ "=" ++ value ++ "\n" ++ "") = [(Text.trim name, value)] := by
      rw [h "", fileValues_empty]
      rfl
    have hblock : ¬blockMark <:+: value.toList := fun hblock =>
      fileValues_marked_ne hequals hmark hname hvalue hblock halone
    refine ⟨hblock, fun hlast => ?_⟩
    obtain ⟨init, hinit⟩ := List.getLast?_eq_some_iff.mp hlast
    rw [hplain hblock, fileValues_empty, hinit, Text.withoutReturn_concat] at halone
    have hvalues : [String.ofList init] = [value] := congrArg (List.map Prod.snd) halone
    rw [← (List.cons.inj hvalues).1, String.toList_ofList] at hinit
    simp at hinit
  · rw [hplain hblock rest, Text.withoutReturn_of_getLast? hlast, String.ofList_toList]

end OneLine

/-- A value with an equals sign, a single `<` and blanks at its ends; a later line has the name of
another one. -/
theorem line_binds_name_flags :
    fileValues ("flags " ++ "=" ++ " a=1 < b " ++ "\n" ++ "out=x\n") =
      (fileValues "out=x\n").insertNew "flags" " a=1 < b " :=
  (@line_binds_name "flags " " a=1 < b " (by decide) (by decide) (by decide) (by decide)).2.mpr
    ⟨by decide, by decide⟩ "out=x\n"

/-- A value that holds the mark makes a block of the line, which takes the lines behind it. -/
theorem line_opens_block :
    fileValues ("a" ++ "=" ++ "x<<EOF" ++ "\n" ++ "b=1\n") = [("a=x", "b=1")] ∧
      fileValues ("a" ++ "=" ++ "x<<EOF" ++ "\n" ++ "b=1\n") ≠
        (fileValues "b=1\n").insertNew (Text.trim "a") "x<<EOF" := by
  decide +kernel

/-! ### Blocks -/

/-- A name and a value as a block: a line with the name and a delimiter, the value, and a line with
the delimiter. -/
structure Block where
  name : String
  delimiter : String
  value : String

namespace Block

/-- The text of a block. -/
def text (block : Block) : String :=
  block.name ++ "<<" ++ block.delimiter ++ "\n" ++ block.value ++ "\n" ++ block.delimiter ++ "\n"

/-- The name and the delimiter stand on one line and have no blanks at their ends, the name holds no
part of the mark, and no line of the value is the delimiter. -/
structure Sound (block : Block) : Prop where
  name_trimmed : Text.trim block.name = block.name
  name_plain : '<' ∉ block.name.toList ∧ '\n' ∉ block.name.toList
  delimiter_trimmed : Text.trim block.delimiter = block.delimiter
  delimiter_line : '\n' ∉ block.delimiter.toList
  value_returns : '\r' ∉ block.value.toList
  apart : block.delimiter.toList ∉ block.value.toList.splitOn '\n'

instance (block : Block) : Decidable block.Sound :=
  decidable_of_iff (Text.trim block.name = block.name ∧
      ('<' ∉ block.name.toList ∧ '\n' ∉ block.name.toList) ∧
      Text.trim block.delimiter = block.delimiter ∧ '\n' ∉ block.delimiter.toList ∧
      '\r' ∉ block.value.toList ∧ block.delimiter.toList ∉ block.value.toList.splitOn '\n')
    ⟨fun ⟨h₁, h₂, h₃, h₄, h₅, h₆⟩ => ⟨h₁, h₂, h₃, h₄, h₅, h₆⟩,
      fun ⟨h₁, h₂, h₃, h₄, h₅, h₆⟩ => ⟨h₁, h₂, h₃, h₄, h₅, h₆⟩⟩

end Block

theorem splitDelimiter_append {delimiter : List Char} (h : delimiter ∉ lines) :
    splitDelimiter delimiter (lines ++ delimiter :: rest) = (lines, rest) := by
  induction lines with
  | nil => rw [List.nil_append, splitDelimiter, if_pos rfl]
  | cons line others ih =>
    obtain ⟨hline, hothers⟩ := not_or.mp (mt List.mem_cons.mpr h)
    rw [List.cons_append, splitDelimiter, if_neg fun heq => hline heq.symm, ih hothers]

/-- Text without carriage returns has the lines between its line feeds, the last one included. -/
theorem lineChars_text {text : List Char} (h : '\r' ∉ text) (cs : List Char) :
    Text.lineChars (text ++ '\n' :: cs) = text.splitOn '\n' ++ Text.lineChars cs := by
  induction hlength : text.length using Nat.strongRecOn generalizing text with
  | ind n ih =>
    by_cases hfeed : '\n' ∈ text
    · obtain ⟨line, tail, rfl, hline⟩ := List.eq_append_cons_of_mem hfeed
      simp only [List.mem_append, List.mem_cons, not_or] at h
      have htail := ih tail.length (by rw [← hlength]; simp; omega) h.2.2 rfl
      rw [List.append_assoc, List.cons_append, Text.lineChars_line _ hline,
        Text.withoutReturn_of_getLast? fun hlast => h.1 (List.mem_of_getLast? hlast), htail,
        List.splitOn_append_cons_self_of_not_mem hline]
      rfl
    · rw [Text.lineChars_line cs hfeed, List.splitOn_eq_singleton hfeed,
        Text.withoutReturn_of_getLast? fun hlast => h (List.mem_of_getLast? hlast)]
      rfl

theorem joinLines_splitOn (text : String) : joinLines (text.toList.splitOn '\n') = text := by
  have hfeed : "\n".toList = ['\n'] := rfl
  rw [joinLines, ← String.toList_inj, String.toList_intercalate, List.map_map, hfeed]
  simp [Function.comp_def, List.intercalate_splitOn]

/-- A text without blanks at its ends has no carriage return there. -/
theorem withoutReturn_of_trim {text : String} (h : Text.trim text = text) :
    withoutReturn text.toList = text.toList := by
  refine Text.withoutReturn_of_getLast? fun hlast => ?_
  have hblank := Text.isBlank_of_getLast?_trimChars ((Text.trimChars_of_trim h).symm ▸ hlast)
  cases hblank

variable {block : Block} {blocks : List Block}

/-- A block binds its name to its value, and what follows is read as if it stood alone. -/
theorem bindings_text (h : block.Sound) (cs : List Char) :
    bindings (Text.lineChars (block.text.toList ++ cs)) =
      (block.name, block.value) :: bindings (Text.lineChars cs) := by
  let opening := block.name.toList ++ blockMark ++ block.delimiter.toList
  have htext : block.text.toList ++ cs = opening ++ '\n' ::
      (block.value.toList ++ '\n' :: (block.delimiter.toList ++ '\n' :: cs)) := by
    simp [opening, Block.text, blockMark]
  have hopening : '\n' ∉ opening := by
    simp [opening, blockMark, h.name_plain.2, h.delimiter_line]
  have hreturn : withoutReturn opening = opening := by
    have hsame : opening = block.name.toList ++ ['<'] ++ '<' :: block.delimiter.toList := by
      simp [opening, blockMark]
    rw [hsame, Text.withoutReturn_append_cons (by decide),
      withoutReturn_of_trim h.delimiter_trimmed]
  have hsplit : Text.splitOnce? blockMark opening =
      some (block.name.toList, block.delimiter.toList) :=
    Text.splitOnce?_append ['<'] block.delimiter.toList h.name_plain.1
  rw [htext, Text.lineChars_line _ hopening, hreturn, lineChars_text h.value_returns,
    Text.lineChars_line _ h.delimiter_line, withoutReturn_of_trim h.delimiter_trimmed,
    bindings_block hsplit, Text.trimChars_of_trim h.delimiter_trimmed,
    splitDelimiter_append h.apart, joinLines_splitOn, Text.trimChars_of_trim h.name_trimmed,
    String.ofList_toList]

theorem bindings_texts (h : ∀ block ∈ blocks, block.Sound) :
    bindings (Text.lineChars (String.join (blocks.map Block.text)).toList) =
      blocks.map fun block => (block.name, block.value) := by
  induction blocks with
  | nil =>
    have hlines : Text.lineChars (String.join (List.map Block.text [])).toList = [] := rfl
    rw [hlines, bindings]
    rfl
  | cons block rest ih =>
    obtain ⟨hblock, hrest⟩ := List.forall_mem_cons.mp h
    rw [String.toList_join, List.map_cons, List.flatMap_cons, bindings_text hblock,
      ← String.toList_join, ih hrest, List.map_cons]

theorem lookup_pairs (blocks : List Block) (name : String) :
    (blocks.map fun block => (block.name, block.value)).lookup name =
      (blocks.find? (·.name == name)).map (·.value) := by
  induction blocks with
  | nil => rfl
  | cons block rest ih =>
    rw [List.map_cons, List.lookup_cons, List.find?_cons, Bool.beq_comm]
    split
    · rfl
    · exact ih

/-- Blocks in a row are read back, whatever the lines of their values look like: every name has the
value of its last block, to the letter. -/
theorem blocks_read_back (h : ∀ block ∈ blocks, block.Sound) :
    fileValues (String.join (blocks.map Block.text)) =
        Dict.ofList (blocks.map fun block => (block.name, block.value)) ∧
      ∀ name, (fileValues (String.join (blocks.map Block.text))).get? name =
        (blocks.reverse.find? (·.name == name)).map (·.value) := by
  have hvalues : fileValues (String.join (blocks.map Block.text)) =
      Dict.ofList (blocks.map fun block => (block.name, block.value)) :=
    congrArg Dict.ofList (bindings_texts h)
  refine ⟨hvalues, fun name => ?_⟩
  rw [hvalues, Dict.get?_ofList, ← List.map_reverse, lookup_pairs]

/-- Values whose lines look like other entries, are empty, or end in line feeds; a delimiter that
begins like the mark; and a name with two blocks. -/
theorem blocks_read_back_notes :
    fileValues (String.join ([⟨"b", "<E", "a=1\na<<E\n\n"⟩, ⟨"a", "E", "x"⟩, ⟨"c", "E", ""⟩,
        ⟨"a", "E", " b=2 \n"⟩].map Block.text)) =
      [("a", " b=2 \n"), ("b", "a=1\na<<E\n\n"), ("c", "")] :=
  (blocks_read_back (by decide)).1.trans (by decide)

end Pipeline.Command
