import Pipeline.Script.Call

/-! Programs that compare two files: `diff`, `cmp` and `comm`. -/

namespace Pipeline.Script.Compare

/-- One step from an old row of lines to a new one. -/
inductive Step where
  | same
  | removed
  | added
  deriving Repr, DecidableEq

/-- The sizes of the greatest common parts of what is left of two rows, for each place of the new
one, given those for the rest of the old one. -/
def sizesBefore (line : Octets) (new : List Octets) (after : List Nat) : List Nat :=
  ((new.zip (after.zip (after.drop 1))).foldr (fun (other, here, next) sizes =>
    (if line = other then next + 1 else max here (sizes.head?.getD 0)) :: sizes) [0])

/-- For each place of the old row the sizes of the greatest common parts of what is left. -/
def sizes (old new : List Octets) : List (List Nat) :=
  old.foldr (fun line table =>
    sizesBefore line new (table.head?.getD []) :: table) [List.replicate (new.length + 1) 0]

/-- The steps from an old row to a new one, with as many common lines as can be. -/
def steps : Nat → List (List Nat) → List Octets → List Octets → List Step
  | 0, _, _, _ => []
  | fuel + 1, table, old, new =>
    match old, new with
    | [], [] => []
    | _ :: rest, [] => .removed :: steps fuel (table.drop 1) rest []
    | [], _ :: rest => .added :: steps fuel (table.map (·.drop 1)) [] rest
    | a :: olds, b :: news =>
      if a = b then .same :: steps fuel ((table.drop 1).map (·.drop 1)) olds news
      else
        let without := ((table[1]?.getD []).head?).getD 0
        let within := ((table.head?.getD [])[1]?).getD 0
        if without ≥ within then .removed :: steps fuel (table.drop 1) olds new
        else .added :: steps fuel (table.map (·.drop 1)) old news

/-- A change: where it starts in both rows, and how many lines it takes away and puts in. -/
structure Change where
  oldStart : Nat
  newStart : Nat
  removed : Nat
  added : Nat

/-- The changes of steps. -/
def changes (steps : List Step) : List Change :=
  let groups := steps.splitBy fun a b => (a == .same) == (b == .same)
  (groups.foldl (fun (found, old, new) group =>
    let removed := group.count .removed
    let added := group.count .added
    if group.head? = some .same then (found, old + group.length, new + group.length)
    else (found ++ [Change.mk old new removed added], old + removed, new + added))
    (([] : List Change), 0, 0)).1

/-- The numbers of lines as a change shows them. -/
def range (start count : Nat) : String :=
  if count = 0 then toString start
  else if count = 1 then toString (start + 1)
  else toString (start + 1) ++ "," ++ toString (start + count)

/-- Lines with a sign in front of each. -/
def marked (sign : String) (lines : List Octets) : Octets :=
  Octets.unlines (lines.map (sign.toList ++ ·))

/-- A change as `diff` shows it. -/
def shown (old new : List Octets) (c : Change) : Octets :=
  let letter := if c.removed = 0 then "a" else if c.added = 0 then "d" else "c"
  Octets.ofText (range c.oldStart c.removed ++ letter ++ range c.newStart c.added ++ "\n") ++
    marked "< " ((old.drop c.oldStart).take c.removed) ++
    (if letter = "c" then "---\n".toList else []) ++
    marked "> " ((new.drop c.newStart).take c.added)

end Compare

namespace Tool

/-- The contents of the two operands of a comparison. -/
def pairOf (call : Call) (operands : List Octets) : Except String (Octets × Octets) :=
  match Call.paths operands with
  | [a, b] => do return (← call.content a, ← call.content b)
  | _ => .error "missing operand"

/-- `diff`. -/
def difference (call : Call) : Effect :=
  let request := call.request ['U'] [("brief", 'q'), ("ignore-all-space", 'w')]
  match pairOf call request.operands with
  | .error text => call.fails text 2
  | .ok (a, b) =>
    if a = b then call.prints []
    else if request.has 'q' then
      { call.prints (Octets.ofText ("Files " ++ " and ".intercalate (Call.paths request.operands) ++
          " differ\n")) with status := 1 }
    else
      let old := Octets.lines a
      let new := Octets.lines b
      let changes := Compare.changes (Compare.steps (old.length + new.length + 1)
        (Compare.sizes old new) old new)
      { call.prints (changes.flatMap (Compare.shown old new)) with status := 1 }

/-- `cmp`. -/
def compareOctets (call : Call) : Effect :=
  let request := call.request [] [("quiet", 's'), ("silent", 's')]
  match pairOf call request.operands with
  | .error text => call.fails text 2
  | .ok (a, b) =>
    if a = b then call.prints []
    else
      let same := ((a.zip b).takeWhile fun (x, y) => x = y).length
      let names := Call.paths request.operands
      if request.has 's' then call.ends 1
      else if same = a.length || same = b.length then
        let short := if same = a.length then names.head?.getD "" else names[1]?.getD ""
        let line := (a.take same).count '\n'
        let place := if (a.take same).getLast? = some '\n' then ", line " ++ toString line
          else ", in line " ++ toString (line + 1)
        ⟨[], Octets.ofText ("cmp: EOF on " ++ short ++ (if same = 0 then " which is empty"
          else " after byte " ++ toString same ++ place) ++ "\n"), 1, call.files, call.input⟩
      else
        let text := " ".intercalate names ++ " differ: char " ++ toString (same + 1) ++ ", line " ++
          toString ((a.take same).count '\n' + 1) ++ "\n"
        { call.prints (Octets.ofText text) with status := 1 }

/-- The lines of two sorted rows, each with the column in which `comm` shows it. -/
def columns : Nat → List Octets → List Octets → List (Nat × Octets)
  | 0, _, _ => []
  | fuel + 1, a, b =>
    match a, b with
    | [], rest => rest.map (1, ·)
    | rest, [] => rest.map (0, ·)
    | x :: xs, y :: ys =>
      if x = y then (2, x) :: columns fuel xs ys
      else if Octets.lessOrEqual x y then (0, x) :: columns fuel xs (y :: ys)
      else (1, y) :: columns fuel (x :: xs) ys

/-- `comm`. -/
def common (call : Call) : Effect :=
  let request := call.request [] []
  match pairOf call request.operands with
  | .error text => call.fails text 1
  | .ok (a, b) =>
    let old := Octets.lines a
    let new := Octets.lines b
    let shown (column : Nat) : Bool := !request.has (Char.ofNat ('1'.toNat + column))
    let rows := (columns (old.length + new.length + 1) old new).filterMap fun (column, line) =>
      if shown column then
        some (List.replicate ((List.range column).filter shown).length '\t' ++ line)
      else none
    call.prints (Octets.unlines rows)

end Tool

end Pipeline.Script
