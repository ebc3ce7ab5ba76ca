import Mathlib.Data.List.TakeWhile
import Pipeline.Launch
import Pipeline.Proofs.Script.Octets

/-! What a process prints is seen twice: as lines that are handed on one by one, and as the text
that is captured from each stream. The captured text says where a line ends only once it says
anything, so that empty lines in front of all others are in the one view and not in the other. -/

namespace Pipeline

namespace Command

/-- The text captured from a stream. -/
def Result.captured (result : Result) (isError : Bool) : String :=
  if isError then result.stderr else result.stdout

/-- An empty line comes first, and another line behind it. -/
def StartsEmpty (lines : List String) : Prop :=
  ∃ next rest, lines = "" :: next :: rest

variable {text : String} {lines : List String}

theorem captureFrom_eq (h : text ≠ "") (lines : List String) :
    captureFrom text lines = "\n".intercalate (text :: lines) := by
  induction lines generalizing text with
  | nil => rw [captureFrom, String.intercalate_singleton]
  | cons line lines ih =>
    have hlonger : text ++ "\n" ++ line ≠ "" := by
      simp [h]
    rw [captureFrom, if_neg h, ih hlonger, String.intercalate_cons_append,
      String.intercalate_cons_cons]

theorem capture_empty (lines : List String) : capture ("" :: lines) = capture lines := by
  rw [capture, captureFrom, if_pos rfl]
  rfl

theorem capture_cons {line : String} (h : line ≠ "") (lines : List String) :
    capture (line :: lines) = "\n".intercalate (line :: lines) := by
  rw [capture, captureFrom, if_pos rfl, captureFrom_eq h]

/-- The captured text has the lines behind those that are empty, with a line feed between them. -/
theorem capture_eq_dropWhile (lines : List String) :
    capture lines = "\n".intercalate (lines.dropWhile (· = "")) := by
  induction lines with
  | nil => rfl
  | cons line lines ih =>
    by_cases hline : line = ""
    · subst hline
      rw [capture_empty, ih, List.dropWhile_cons_of_pos (by simp)]
    · rw [capture_cons hline, List.dropWhile_cons_of_neg (by simpa using hline)]

theorem intercalate_empty_cons (h : lines ≠ []) :
    "\n".intercalate ("" :: lines) = "\n" ++ "\n".intercalate lines := by
  rw [String.intercalate_cons_of_ne_nil h, String.empty_append]

theorem length_capture_le (lines : List String) :
    (capture lines).length ≤ ("\n".intercalate lines).length := by
  induction lines with
  | nil => exact Nat.le_refl _
  | cons line lines ih =>
    by_cases hline : line = ""
    · subst hline
      rw [capture_empty]
      cases lines with
      | nil => exact Nat.zero_le _
      | cons next rest =>
        rw [intercalate_empty_cons (List.cons_ne_nil _ _), String.length_append]
        exact Nat.le_trans ih (Nat.le_add_left _ _)
    · exact Nat.le_of_eq (congrArg String.length (capture_cons hline lines))

/-- The captured text shows all lines exactly if it does not lose an empty one in front of them. -/
theorem capture_eq_intercalate_iff :
    capture lines = "\n".intercalate lines ↔ ¬ StartsEmpty lines := by
  constructor
  · rintro heq ⟨next, rest, rfl⟩
    -- The joined text has a line feed in front of the rest, for which the captured one has no room.
    have hlength := length_capture_le (next :: rest)
    have hfeed : "\n".length = 1 := rfl
    rw [capture_empty, intercalate_empty_cons (List.cons_ne_nil _ _)] at heq
    rw [heq, String.length_append, hfeed] at hlength
    omega
  · intro hstart
    cases lines with
    | nil => rfl
    | cons line rest =>
      by_cases hline : line = ""
      · subst hline
        cases rest with
        | nil => rfl
        | cons next rest => exact absurd ⟨next, rest, rfl⟩ hstart
      · exact capture_cons hline rest

/-- The parts of a text between its line feeds are the lines exactly if the text shows the lines. -/
theorem splitOn_eq_iff (hne : lines ≠ []) (hlines : ∀ line ∈ lines, '\n' ∉ line.toList) :
    text.toList.splitOn '\n' = lines.map String.toList ↔ text = "\n".intercalate lines := by
  have hfeed : "\n".toList = ['\n'] := rfl
  constructor
  · intro hsplit
    rw [← String.toList_inj, String.toList_intercalate, hfeed, ← hsplit, List.intercalate_splitOn]
  · rintro rfl
    rw [String.toList_intercalate, hfeed, List.splitOn_intercalate]
    · simpa using hlines
    · simpa using hne

end Command

namespace Launch

open Command (StartsEmpty capture)
open Script

/-- The lines of a stream, in the order in which they are handed on. -/
def Outcome.handed (outcome : Outcome) (isError : Bool) : List String :=
  (outcome.lines.filter (·.isError == isError)).map (·.text)

theorem Outcome.handed_eq (outcome : Outcome) (isError : Bool) :
    outcome.handed isError = if isError then outcome.errors else outcome.output := by
  cases isError <;> simp [handed, Outcome.lines, List.filter_map, Function.comp_def]

/-- A text that is one line: there is no line feed in it, and no carriage return at its end, which
would belong to the line feed behind it. -/
structure IsLine (line : String) : Prop where
  unbroken : '\n' ∉ line.toList
  unreturned : line.toList.getLast? ≠ some '\r'

/-- Nothing is taken off a line that ends in no carriage return. -/
theorem withoutReturns_line {line : Octets} (h : '\n' ∉ line) (hend : line.getLast? ≠ some '\r')
    (rest : Octets) :
    withoutReturns (line ++ '\n' :: rest) = line ++ '\n' :: withoutReturns rest := by
  induction line with
  | nil => rfl
  | cons c line ih =>
    obtain ⟨-, hline⟩ := not_or.mp (mt List.mem_cons.mpr h)
    cases line with
    | nil =>
      have hc : c ≠ '\r' := fun heq => hend (congrArg some heq)
      simp [withoutReturns, hc]
    | cons next line =>
      have hnext : next ≠ '\n' := fun heq => hline (heq ▸ .head _)
      have htail := ih hline (by rwa [List.getLast?_cons_cons] at hend)
      rw [List.cons_append, withoutReturns, htail]
      · rfl
      · rintro tail - htail
        exact hnext (List.cons.inj htail).1

theorem withoutReturns_unlines {lines : List Octets} (h : ∀ line ∈ lines, '\n' ∉ line)
    (hends : ∀ line ∈ lines, line.getLast? ≠ some '\r') :
    withoutReturns (Octets.unlines lines) = Octets.unlines lines := by
  induction lines with
  | nil => rfl
  | cons line lines ih =>
    obtain ⟨hline, hlines⟩ := List.forall_mem_cons.mp h
    obtain ⟨hend, hrest⟩ := List.forall_mem_cons.mp hends
    rw [Octets.unlines_cons, withoutReturns_line hline hend, ih hlines hrest]

theorem streamLines_unlines {lines : List String} (h : ∀ line ∈ lines, IsLine line) :
    streamLines (Octets.unlines (lines.map Octets.ofText)) = lines := by
  have hfeeds : ∀ octets ∈ lines.map Octets.ofText, '\n' ∉ octets := by
    intro octets hmem hfeed
    obtain ⟨line, hline, rfl⟩ := List.mem_map.mp hmem
    exact (h line hline).unbroken (Octets.mem_of_mem_ofText (by decide) hfeed)
  have hreturns : ∀ octets ∈ lines.map Octets.ofText, octets.getLast? ≠ some '\r' := by
    intro octets hmem hreturn
    obtain ⟨line, hline, rfl⟩ := List.mem_map.mp hmem
    exact (h line hline).unreturned (Octets.getLast?_of_getLast?_ofText (by decide) hreturn)
  have hread : (lines.map Octets.ofText).map Octets.toText? = lines.map some := by
    rw [List.map_map]
    exact List.map_congr_left fun line _ => Octets.toText?_ofText line
  rw [streamLines, withoutReturns_unlines hfeeds hreturns, Octets.lines_unlines hfeeds, hread,
    List.takeWhile_eq_self_iff.mpr (by simp), List.filterMap_map]
  exact List.filterMap_some

/-- The command starts a process: a shell, in a directory. -/
structure Starts (shells : Shells) (default : Shell) (tree : FileTree) (request : Command.Request)
    (shell : Shell) (directory : Location) : Prop where
  chosen : Shell.choose default request.shell = .ok shell
  found : shells.isFound request.env shell.program = true
  isDirectory : tree.isDirectory request.directory = true
  located : tree.locate? request.directory = some directory

/-- What a process has written to a stream. -/
def Traces.stream (traces : Traces) (isError : Bool) : Octets :=
  if isError then traces.errors else traces.output

/-- The process that the command starts prints lines on a stream, with a line feed behind each. -/
def Prints (shells : Shells) (default : Shell) (tree : FileTree) (request : Command.Request)
    (isError : Bool) (lines : List String) : Prop :=
  ∃ shell directory, Starts shells default tree request shell directory ∧
    (shells.start shell tree directory request false).stream isError =
      Octets.unlines (lines.map Octets.ofText)

variable {shells : Shells} {default : Shell} {tree : FileTree} {request : Command.Request}
  {isError : Bool} {shell : Shell} {directory : Location} {lines : List String}

theorem Starts.run_eq (h : Starts shells default tree request shell directory) (cancelled : Bool) :
    shells.run default tree request cancelled =
      shells.runScript shell tree directory request cancelled := by
  simp only [Shells.run, h.chosen, h.found, h.isDirectory, h.located, Bool.and_self, if_true]

theorem captured_runScript (shells : Shells) (shell : Shell) (tree : FileTree)
    (directory : Location) (request : Command.Request) (cancelled isError : Bool) :
    (shells.runScript shell tree directory request cancelled).result.captured isError =
      capture ((shells.runScript shell tree directory request cancelled).handed isError) := by
  rw [Outcome.handed_eq]
  cases isError <;> rfl

theorem captured_run (shells : Shells) (default : Shell) (tree : FileTree)
    (request : Command.Request) (cancelled isError : Bool) :
    (shells.run default tree request cancelled).result.captured isError =
      capture ((shells.run default tree request cancelled).handed isError) := by
  have hfailure (tree : FileTree) (message : String) :
      (Outcome.failure tree message).result.captured isError =
        capture ((Outcome.failure tree message).handed isError) := by
    cases isError <;> rfl
  unfold Shells.run
  split
  · exact hfailure _ _
  · dsimp only
    split
    · split
      · exact captured_runScript ..
      · exact hfailure _ _
    · exact hfailure _ _

theorem Prints.handed_eq (h : Prints shells default tree request isError lines)
    (hlines : ∀ line ∈ lines, IsLine line) :
    (shells.run default tree request false).handed isError = lines := by
  obtain ⟨shell, directory, hstarts, hwritten⟩ := h
  have hstream : (shells.runScript shell tree directory request false).handed isError =
      streamLines ((shells.start shell tree directory request false).stream isError) := by
    rw [Outcome.handed_eq]
    cases isError <;> rfl
  rw [hstarts.run_eq, hstream, hwritten, streamLines_unlines hlines]

/-- What a command prints on a stream is captured but for the empty lines at its beginning, whatever
process it becomes. So the captured text shows the lines that are handed on, as many and in the same
order, unless an empty line comes first and another one behind it. -/
theorem views_agree_iff (shells : Shells) (default : Shell) (tree : FileTree)
    (request : Command.Request) (isError : Bool) :
    let outcome := shells.run default tree request false
    outcome.result.captured isError =
      "\n".intercalate ((outcome.handed isError).dropWhile (· = "")) ∧
    (outcome.result.captured isError = "\n".intercalate (outcome.handed isError) ↔
      ¬ StartsEmpty (outcome.handed isError)) ∧
    ∀ lines, Prints shells default tree request isError lines → (∀ line ∈ lines, IsLine line) →
      outcome.handed isError = lines ∧
      (lines ≠ [] →
        ((outcome.result.captured isError).toList.splitOn '\n' = lines.map String.toList ↔
          ¬ StartsEmpty lines)) := by
  intro outcome
  have hcaptured : outcome.result.captured isError = capture (outcome.handed isError) :=
    captured_run shells default tree request false isError
  refine ⟨?_, ?_, fun lines hprints hlines => ?_⟩
  · rw [hcaptured, Command.capture_eq_dropWhile]
  · rw [hcaptured, Command.capture_eq_intercalate_iff]
  · have hhanded : outcome.handed isError = lines := hprints.handed_eq hlines
    refine ⟨hhanded, fun hne => ?_⟩
    rw [Command.splitOn_eq_iff hne fun line hline => (hlines line hline).unbroken, hcaptured,
      hhanded, Command.capture_eq_intercalate_iff]

theorem views_agree_iff_sample :
    let request : Command.Request := ⟨"echo é; echo; echo x", none, "/w", []⟩
    let outcome := run .sh (FileTree.empty.makeDirectories ["w"]) request false
    Prints ownShells .sh (FileTree.empty.makeDirectories ["w"]) request false ["é", "", "x"] ∧
      outcome.handed false = ["é", "", "x"] ∧
      ((outcome.result.captured false).toList.splitOn '\n' = ["é", "", "x"].map String.toList ↔
        ¬ StartsEmpty ["é", "", "x"]) := by
  intro request outcome
  have hprints : Prints ownShells .sh (FileTree.empty.makeDirectories ["w"]) request false
      ["é", "", "x"] :=
    ⟨.sh, ["w"], ⟨by decide +kernel, by decide +kernel, by decide +kernel, by decide +kernel⟩,
      by decide +kernel⟩
  have hlines : ∀ line ∈ ["é", "", "x"], IsLine line := by
    simp only [List.forall_mem_cons]
    exact ⟨⟨by decide, by decide⟩, ⟨by decide, by decide⟩, ⟨by decide, by decide⟩, by simp⟩
  obtain ⟨-, -, hall⟩ := views_agree_iff ownShells .sh
    (FileTree.empty.makeDirectories ["w"]) request false
  obtain ⟨hhanded, hsplit⟩ := hall _ hprints hlines
  exact ⟨hprints, hhanded, hsplit (by simp)⟩

/-- An empty line in front of another one is handed on and not captured. -/
theorem views_differ :
    let outcome := run .sh (FileTree.empty.makeDirectories ["w"])
      ⟨"echo; echo x", none, "/w", []⟩ false
    outcome.handed false = ["", "x"] ∧ outcome.result.captured false = "x" ∧
      outcome.result.captured false ≠ "\n".intercalate (outcome.handed false) := by
  decide +kernel

end Launch

end Pipeline
