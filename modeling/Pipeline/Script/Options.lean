import Pipeline.Script.Machine

/-! The options of the shell. -/

namespace Pipeline.Script

open Steps

/-- Sets an option by its letter. -/
def setLetter (on : Bool) (letter : Char) : Steps Unit :=
  changeScene fun s =>
    let o := s.options
    { s with options :=
        match letter with
        | 'e' => { o with errexit := on }
        | 'u' => { o with nounset := on }
        | 'x' => { o with xtrace := on }
        | 'f' => { o with noglob := on }
        | _ => o }

/-- Sets an option by its name. -/
def setName (on : Bool) (name : String) : Steps Unit := do
  match name with
  | "errexit" => setLetter on 'e'
  | "nounset" => setLetter on 'u'
  | "xtrace" => setLetter on 'x'
  | "noglob" => setLetter on 'f'
  | "pipefail" =>
    if ← inBash then
      changeScene fun s => { s with options := { s.options with pipefail := on } }
    else fail ("set: Illegal option -o " ++ name) 2
  | _ => pure ()

/-- The options and whether they are on, as the shell lists them. -/
def optionTable (m : Machine) : List (String × Bool) :=
  let o := m.scene.options
  if m.shell == .bash then
    [("allexport", false), ("braceexpand", true), ("emacs", false), ("errexit", o.errexit),
      ("errtrace", false), ("functrace", false), ("hashall", true), ("histexpand", false),
      ("history", false), ("ignoreeof", false), ("interactive-comments", true), ("keyword", false),
      ("monitor", false), ("noclobber", false), ("noexec", false), ("noglob", o.noglob),
      ("nolog", false), ("notify", false), ("nounset", o.nounset), ("onecmd", false),
      ("physical", false), ("pipefail", o.pipefail), ("posix", false), ("privileged", false),
      ("verbose", false), ("vi", false), ("xtrace", o.xtrace)]
  else
    [("errexit", o.errexit), ("noglob", o.noglob), ("ignoreeof", false), ("interactive", false),
      ("monitor", false), ("noexec", false), ("stdin", false), ("xtrace", o.xtrace),
      ("verbose", false), ("vi", false), ("emacs", false), ("noclobber", false),
      ("allexport", false), ("notify", false), ("nounset", o.nounset), ("nolog", false),
      ("debug", false)]

/-- Lists the options. -/
def listOptions : Steps Unit := do
  let m ← get
  let fill (name : String) (width : Nat) := name ++ "".pushn ' ' (width - name.length)
  let row (name : String) (on : Bool) : String :=
    let value := if on then "on" else "off"
    if m.shell == .bash then fill name 15 ++ "\t" ++ value ++ "\n"
    else fill name 16 ++ value ++ "\n"
  let front := if m.shell == .bash then "" else "Current option settings\n"
  emit 1 (Octets.ofText (front ++ String.join ((optionTable m).map fun (name, on) => row name on)))

/-- `set`. -/
def setOptions : List Octets → Steps Unit
  | [] => pure ()
  | ['-', '-'] :: rest => changeScene fun s => { s with arguments := rest }
  | ['-', 'o'] :: [] | ['+', 'o'] :: [] => listOptions
  | (sign :: letters) :: rest => do
    if sign = '-' || sign = '+' then
      for letter in letters do setLetter (sign == '-') letter
      if letters.contains 'o' then
        match rest with
        | name :: rest =>
          setName (sign == '-') (Octets.toText name)
          setOptions rest
        | [] => pure ()
      else setOptions rest
    else changeScene fun s => { s with arguments := (sign :: letters) :: rest }
  | [] :: rest => changeScene fun s => { s with arguments := [] :: rest }

/-- `shopt`. -/
def switchOptions (arguments : List Octets) : Steps Unit := do
  let letters := (arguments.filter (·.head? = some '-')).flatMap (·.drop 1)
  let names := arguments.filter (·.head? ≠ some '-')
  let isOn (o : Options) (name : Octets) : Bool :=
    match String.ofList name with
    | "nullglob" => o.nullglob
    | "dotglob" => o.dotglob
    | _ => false
  setStatus 0
  for name in names do
    if letters.contains 's' || letters.contains 'u' then
      let on := letters.contains 's'
      changeScene fun s =>
        { s with options :=
            match String.ofList name with
            | "nullglob" => { s.options with nullglob := on }
            | "dotglob" => { s.options with dotglob := on }
            | _ => s.options }
    else
      let on := isOn (← get).scene.options name
      if !letters.contains 'q' then
        let value := if on then "on" else "off"
        emit 1 (name ++ List.replicate (15 - name.length) ' ' ++ ('\t' :: value.toList) ++ ['\n'])
      if !on then setStatus 1

/-- The letters of the options that are on. -/
def optionLetters (m : Machine) : Octets :=
  let o := m.scene.options
  let letters (pairs : List (Char × Bool)) : Octets := (pairs.filter (·.2)).map (·.1)
  if m.shell == .bash then
    letters [('e', o.errexit), ('f', o.noglob), ('h', true), ('u', o.nounset), ('x', o.xtrace),
      ('B', true), ('c', true)]
  else letters [('e', o.errexit), ('f', o.noglob), ('x', o.xtrace), ('u', o.nounset)]

end Pipeline.Script
