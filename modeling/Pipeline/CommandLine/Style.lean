/-! The look of the lines that commands print. -/

namespace Pipeline.CommandLine.Style

/-- Text in a colour or a weight, given by its code. -/
def painted (code text : String) : String := "\x1b[" ++ code ++ "m" ++ text ++ "\x1b[0m"

/-- What is being done, flush with the lines above it, and to what. -/
def status (action message : String) : String :=
  painted "1;36" ("".pushn ' ' (12 - action.length) ++ action) ++ " " ++ message

/-- Everything went well. -/
def success (message : String) : String := painted "1;32" "  ✓" ++ " " ++ message

/-- Something failed. -/
def failure (message : String) : String := painted "1;31" "  ✗" ++ " " ++ message

/-- Something was checked and is all right. -/
def check (message : String) : String := painted "32" "  ✓" ++ " " ++ message

/-- Something is worth a look. -/
def warning (message : String) : String := painted "33" "  !" ++ " " ++ message

/-- Something is wrong. -/
def error (message : String) : String := painted "1;31" "error:" ++ " " ++ message

/-- Something to know. -/
def info (message : String) : String := painted "36" "  i" ++ " " ++ message

/-- Something of little weight. -/
def dim (message : String) : String := painted "2" message

/-- A headline. -/
def header (message : String) : String := painted "1" ("==> " ++ message)

/-- The space before what happens at a depth. -/
def indent (depth : Nat) : String := String.join (List.replicate depth "  ")

/-- A line that a step printed. -/
def stepOutput (line : String) (depth : Nat) : String := indent depth ++ "        | " ++ line

/-- A line that a step printed to its error stream. -/
def stepError (line : String) (depth : Nat) : String := painted "31" (stepOutput line depth)

/-- How something ended: green if all is well, red if not, and without colour if that does not
matter. -/
def outcome (ok neutral : Bool) (message : String) : String :=
  if neutral then message else painted (if ok then "32" else "31") message

/-- A number of microseconds as seconds with two places, rounded to the nearest, and to the even
one between two. -/
def seconds (micros : Nat) : String :=
  let quotient := micros / 10000
  let rest := micros % 10000
  let hundredths :=
    if rest > 5000 || (rest = 5000 && quotient % 2 = 1) then quotient + 1 else quotient
  let places := toString (hundredths % 100)
  toString (hundredths / 100) ++ "." ++ (if places.length = 1 then "0" else "") ++ places ++ "s"

end Pipeline.CommandLine.Style
