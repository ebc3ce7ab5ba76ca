import Pipeline.Script.Arithmetic
import Pipeline.Script.Machine

/-! The values of arithmetic expressions, which read and assign variables of the shell. In bash the
text of a variable may itself be an expression. -/

namespace Pipeline.Script

open Steps

/-- Steps of an expression. A fault comes with the text in which it lies. -/
abbrev Calculation := ExceptT (Octets × ArithmeticFault) Steps

/-- Which part of a variable is meant. -/
inductive Slot where
  | whole
  | number (n : Nat)
  | named (key : Octets)
  deriving Repr, DecidableEq

/-- The value in a slot of a variable. -/
def Machine.valueIn? (m : Machine) (name : String) (slot : Slot) : Option Octets :=
  match slot, (m.scene.store.get? name).map Variable.content with
  | .whole, content => content.bind Content.value?
  | .number n, some content => content.asRow.lookup n
  | .named key, some (.table items) => items.lookup key
  | _, _ => none

/-- Gives a part of a variable a value. -/
def Steps.assignIn (name : String) (slot : Slot) (value : Octets) : Steps Unit := do
  let content := ((← get).scene.store.get? name).map Variable.content
  match slot with
  | .whole => assign name value
  | .number n =>
    hold name (.row (Content.insertNumbered n value ((content.map Content.asRow).getD [])))
  | .named key =>
    match content with
    | some (.table items) => hold name (.table (Content.insertNamed key value items))
    | _ => hold name (.table [(key, value)])

/-- Is a variable a table? -/
def Machine.isTable (m : Machine) (name : String) : Bool :=
  match (m.scene.store.get? name).map Variable.content with
  | some (.table _) => true
  | _ => false

/-- The number of an item of a row; one below zero counts from the end. -/
def Machine.rowNumber (m : Machine) (name : String) (n : Int) : Nat :=
  let items := ((m.scene.store.get? name).map (Content.asRow ·.content)).getD []
  if n < 0 then (n + Content.size items).toNat else n.toNat

/-- The number that the text of a variable writes for the plain shell. -/
def plainNumber? (text : Octets) : Option Int :=
  let text := Arithmetic.skip text
  if text.isEmpty then some 0
  else
    let (isNegative, digits) := match text with
      | '-' :: digits => (true, digits)
      | '+' :: digits => (false, digits)
      | digits => (false, digits)
    let (n, rest) := Arithmetic.leadingNumber digits
    if digits.head?.any Char.isDigit && rest.all Arithmetic.isBlank then
      some (if isNegative then -n else n)
    else none

mutual

/-- The value of an arithmetic text. -/
def valueOfText : Nat → Octets → Calculation Int
  | 0, text => throw (text, .noOperand text)
  | fuel + 1, text => do
    match Arithmetic.read ((← get).shell == .bash) text with
    | .ok expression => valueOf fuel text expression
    | .error fault => throw (text, fault)

/-- The part of a variable that is meant. -/
def slotOf : Nat → Place → Calculation Slot
  | 0, place => throw (place.item, .noOperand place.item)
  | fuel + 1, place => do
    let m ← get
    if place.item.isEmpty then pure .whole
    else if m.isTable place.name then pure (.named place.item)
    else return .number (m.rowNumber place.name (← valueOfText fuel place.item))

/-- The value of a variable. -/
def valueAt : Nat → Place → Calculation Int
  | 0, place => throw (place.name.toList, .noOperand [])
  | fuel + 1, place => do
    let slot ← slotOf fuel place
    let m ← get
    match m.valueIn? place.name slot with
    | none =>
      if m.shell == .bash && m.scene.options.nounset then
        (fail (place.name ++ ": unbound variable") 1 : Steps Int)
      else pure 0
    | some text =>
      if m.shell == .bash then valueOfText fuel text
      else
        match plainNumber? text with
        | some n => pure n
        | none => throw (text, .badNumber text)

/-- The value of an expression, which is written by a text. -/
def valueOf : Nat → Octets → Arithmetic → Calculation Int
  | 0, text, _ => throw (text, .noOperand text)
  | fuel + 1, text, expression => do
    let apply (operator : String) (rest : Octets) (a b : Int) : Calculation Int :=
      match Arithmetic.apply operator rest a b with
      | .ok n => pure n
      | .error fault => throw (text, fault)
    let put (place : Place) (n : Int) : Calculation Unit := do
      let slot ← slotOf fuel place
      (assignIn place.name slot (Octets.ofInt n) : Steps Unit)
    match expression with
    | .number n => pure (Arithmetic.wrap n)
    | .named place => valueAt fuel place
    | .negative operand => return Arithmetic.wrap (-(← valueOf fuel text operand))
    | .complement operand => return -(← valueOf fuel text operand) - 1
    | .negation operand => return Arithmetic.truth ((← valueOf fuel text operand) == 0)
    | .binary operator rest left right => do
      let a ← valueOf fuel text left
      let b ← valueOf fuel text right
      apply operator rest a b
    | .both left right => do
      if (← valueOf fuel text left) = 0 then pure 0
      else return Arithmetic.truth ((← valueOf fuel text right) != 0)
    | .either left right => do
      if (← valueOf fuel text left) ≠ 0 then pure 1
      else return Arithmetic.truth ((← valueOf fuel text right) != 0)
    | .choice test yes no => do
      if (← valueOf fuel text test) ≠ 0 then valueOf fuel text yes else valueOf fuel text no
    | .next first second => do
      let _ ← valueOf fuel text first
      valueOf fuel text second
    | .assign place operator rest value => do
      let b ← valueOf fuel text value
      let n ← match operator with
        | none => pure b
        | some operator => do apply operator rest (← valueAt fuel place) b
      put place n
      pure n
    | .step place change old => do
      let a ← valueAt fuel place
      let next := Arithmetic.wrap (a + change)
      put place next
      pure (if old then a else next)

end

/-- More than the depth of the expressions that a text writes. -/
def calculationDepth (text : Octets) : Nat := 16 * text.length + 4096

/-- The wording of a fault in an arithmetic text, for a command that has to do with it. -/
def faultMessage (isBash : Bool) (command : String) (text : Octets) (fault : ArithmeticFault) :
    String :=
  if isBash then
    command ++ (Arithmetic.skip text).toText ++ ": " ++ ArithmeticFault.bashMessage text fault
  else ArithmeticFault.plainMessage text fault

/-- The value of an arithmetic text. A fault ends the script. -/
def calculate (text : Octets) : Steps Int := do
  match ← (valueOfText (calculationDepth text) text).run with
  | .ok n => pure n
  | .error (text, fault) =>
    let isBash ← inBash
    fail (faultMessage isBash "" text fault) (if isBash then 1 else 2)

/-- Sets the status by the value of an arithmetic text: zero and faults fail. -/
def testValue (command : String) (text : Octets) : Steps Unit := do
  match ← (valueOfText (calculationDepth text) text).run with
  | .ok n => setStatus (if n = 0 then 1 else 0)
  | .error (text, fault) =>
    complain (faultMessage (← inBash) command text fault)
    setStatus 1

end Pipeline.Script
