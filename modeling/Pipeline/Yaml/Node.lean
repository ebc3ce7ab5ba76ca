import Pipeline.Yaml.Event

/-! The tree of a document. An alias stays as the number of the anchor that it names, so that the
tree is no larger than the text. Where the text has a mistake the tree breaks off: the nodes before
the mistake stand, and a broken node takes the place of the rest. -/

namespace Pipeline.Yaml

/-- A node of a document. -/
inductive Node where
  | scalar (text : String) (style : Style) (tag : Option String)
  | sequence (items : List Node) (tag : Option String)
  | mapping (entries : List (Node × Node)) (tag : Option String)
  /-- What the anchor of a number marks. -/
  | alias (number : Nat)
  | broken

instance : Inhabited Node := ⟨.broken⟩

/-- Numbers for the anchors of a document, and the places of the nodes that they mark. A name that
is used again gets a new number; numbers count the names, not the anchors. -/
structure Anchors where
  numbers : List (String × Nat)
  places : List (Nat × Nat)

/-- Marks the node at a place with an anchor. -/
def Anchors.mark (anchors : Anchors) (name : Option String) (place : Nat) : Anchors :=
  match name with
  | none => anchors
  | some name =>
    let number := anchors.numbers.length
    ⟨(name, number) :: anchors.numbers.filter (·.1 != name), (number, place) :: anchors.places⟩

/-- An event with its anchors and aliases numbered. -/
inductive Link where
  | event (event : Event)
  | jump (number : Nat)

/-- Numbers the anchors and aliases of a row of events. It ends before an alias of no anchor. -/
def linkEvents (anchors : Anchors) (place : Nat) : List Event → List Link × Anchors × Bool
  | [] => ([], anchors, true)
  | .alias name :: rest =>
    match anchors.numbers.lookup name with
    | none => ([], anchors, false)
    | some number =>
      let (links, anchors, whole) := linkEvents anchors (place + 1) rest
      (.jump number :: links, anchors, whole)
  | event :: rest =>
    let anchor := match event with
      | .scalar properties .. | .sequenceStart properties | .mappingStart properties =>
        properties.anchor
      | _ => none
    let (links, anchors, whole) := linkEvents (anchors.mark anchor place) (place + 1) rest
    (.event event :: links, anchors, whole)

namespace Link

mutual

/-- The node at a place, and the place after it, unless the tree breaks off inside it. -/
def node (links : Array Link) (place : Nat) : Nat → Node × Option Nat
  | 0 => (.broken, none)
  | fuel + 1 =>
    match links[place]? with
    | some (.event (.scalar properties text style)) =>
      (.scalar text style properties.tag, some (place + 1))
    | some (.event (.sequenceStart properties)) =>
      let (items, after) := items links (place + 1) fuel
      (.sequence items properties.tag, after)
    | some (.event (.mappingStart properties)) =>
      let (entries, after) := entries links (place + 1) fuel
      (.mapping entries properties.tag, after)
    | some (.jump number) => (.alias number, some (place + 1))
    | _ => (.broken, none)

/-- The items of a sequence up to its end. -/
def items (links : Array Link) (place : Nat) : Nat → List Node × Option Nat
  | 0 => ([.broken], none)
  | fuel + 1 =>
    match links[place]? with
    | some (.event .sequenceEnd) => ([], some (place + 1))
    | _ =>
      match node links place fuel with
      | (item, none) => ([item], none)
      | (item, some after) =>
        let (rest, after) := items links after fuel
        (item :: rest, after)

/-- The entries of a mapping up to its end. -/
def entries (links : Array Link) (place : Nat) : Nat → List (Node × Node) × Option Nat
  | 0 => ([(.broken, .broken)], none)
  | fuel + 1 =>
    match links[place]? with
    | some (.event .mappingEnd) => ([], some (place + 1))
    | _ =>
      match node links place fuel with
      | (key, none) => ([(key, .broken)], none)
      | (key, some after) =>
        match node links after fuel with
        | (value, none) => ([(key, value)], none)
        | (value, some after) =>
          let (rest, after) := entries links after fuel
          ((key, value) :: rest, after)

end

end Link

mutual

/-- Does the tree break off inside the node? -/
def Node.isBroken : Node → Bool
  | .broken => true
  | .scalar .. | .alias _ => false
  | .sequence items _ => Node.anyBroken items
  | .mapping entries _ => Node.anyBrokenEntry entries

/-- Does the tree break off inside one of the nodes? -/
def Node.anyBroken : List Node → Bool
  | [] => false
  | node :: rest => node.isBroken || Node.anyBroken rest

/-- Does the tree break off inside one of the entries? -/
def Node.anyBrokenEntry : List (Node × Node) → Bool
  | [] => false
  | (key, value) :: rest => key.isBroken || value.isBroken || Node.anyBrokenEntry rest

end

/-- A document. -/
structure Document where
  root : Node
  /-- The nodes that anchors mark, by number. -/
  anchored : List (Nat × Node)
  /-- How many events the document has. -/
  size : Nat
  /-- The first mistake of the text, if there is one. -/
  mistake : Option SyntaxError

/-- Reads a text as one document. An empty one is an empty mapping. -/
def Document.read (text : String) : Document :=
  let (events, mistake) := readEvents text
  let (links, anchors, whole) := linkEvents ⟨[], []⟩ 0 events.toList
  let mistake := if whole then mistake else some .unknownAnchor
  if links.isEmpty && mistake.isNone then ⟨.mapping [] none, [], 1, none⟩
  else
    let links := links.toArray
    let nodeAt (place : Nat) : Node := (Link.node links place (2 * links.size + 2)).1
    ⟨nodeAt 0, anchors.places.map fun (number, place) => (number, nodeAt place), links.size,
      mistake⟩

end Pipeline.Yaml
