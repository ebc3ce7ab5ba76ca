import Pipeline.Yaml.Lexer

/-! The structure of a document as a row of events: scalars, aliases, and the starts and ends of
collections. A mistake ends the row; what stands before it is kept. -/

namespace Pipeline.Yaml

/-- What may be written in front of a node. -/
structure Properties where
  anchor : Option String
  tag : Option String
  deriving Repr, DecidableEq

/-- No anchor and no tag. -/
def Properties.none : Properties := ⟨.none, .none⟩

/-- An event. -/
inductive Event where
  | alias (name : String)
  | scalar (properties : Properties) (text : String) (style : Style)
  | sequenceStart (properties : Properties)
  | sequenceEnd
  | mappingStart (properties : Properties)
  | mappingEnd
  deriving Repr, DecidableEq

/-- The stem of the tags of the core schema. -/
def coreTagStem : String := "tag:yaml.org,2002:"

/-- The tag handles that every document knows. -/
def standardHandles : List (String × String) := [("!", "!"), ("!!", coreTagStem)]

/-- The state of reading events: the tokens left, the events so far, and the known tag handles. -/
structure Reading where
  tokens : List Token
  events : Array Event
  handles : List (String × String)

/-- A step of reading, which may end in a mistake after some events. -/
abbrev Read := Except (SyntaxError × Array Event) Reading

namespace Reading

/-- The next token. -/
def peek (r : Reading) : Option Token := r.tokens.head?

/-- Past the next token. -/
def skip (r : Reading) : Reading := { r with tokens := r.tokens.drop 1 }

/-- Adds an event. -/
def push (r : Reading) (event : Event) : Reading := { r with events := r.events.push event }

/-- A node that is left out is an empty plain scalar. -/
def pushEmpty (r : Reading) (properties : Properties) : Reading :=
  r.push (.scalar properties "" .plain)

/-- Ends the reading with a mistake. -/
def fail (r : Reading) (e : SyntaxError) : Read := .error (e, r.events)

/-- The full name of a tag. -/
def resolveTag (r : Reading) (handle suffix : String) : Option String :=
  if handle = "" then some suffix
  else (r.handles.lookup handle).map (· ++ suffix)

/-- The anchor and the tag in front of a node, in either order. -/
def properties (r : Reading) : Except (SyntaxError × Array Event) (Properties × Reading) :=
  let withTag (handle suffix : String) (anchor : Option String) (r : Reading) :
      Except (SyntaxError × Array Event) (Properties × Reading) :=
    match r.resolveTag handle suffix with
    | some tag => .ok (⟨anchor, some tag⟩, r)
    | none => .error (.unknownTagHandle, r.events)
  match r.tokens with
  | .anchor name :: .tag handle suffix :: rest =>
    withTag handle suffix (some name) { r with tokens := rest }
  | .tag handle suffix :: .anchor name :: rest =>
    withTag handle suffix (some name) { r with tokens := rest }
  | .anchor name :: rest => .ok (⟨some name, none⟩, { r with tokens := rest })
  | .tag handle suffix :: rest => withTag handle suffix none { r with tokens := rest }
  | _ => .ok (.none, r)

/-- Do the tokens go on with one of these? -/
def peeks (r : Reading) (tokens : List Token) : Bool :=
  r.peek.any tokens.contains

mutual

/-- A node. In a block it may be a block collection, and as a key or value of a block mapping also a
block sequence that is not indented. -/
def node (block indentless : Bool) (r : Reading) : Nat → Read
  | 0 => r.fail .expectedContent
  | fuel + 1 =>
    match r.peek with
    | some (.alias name) => .ok (r.skip.push (.alias name))
    | _ =>
      match r.properties with
      | .error e => .error e
      | .ok (properties, r) =>
        match r.peek with
        | some (.scalar text style) =>
          let properties :=
            if properties.tag = some "!" then { properties with tag := none } else properties
          .ok (r.skip.push (.scalar properties text style))
        | some .flowSequenceStart =>
          flowItems true (r.skip.push (.sequenceStart properties)) fuel
        | some .flowMappingStart =>
          flowPairs true (r.skip.push (.mappingStart properties)) fuel
        | some .blockEntry =>
          if indentless then indentlessItems (r.push (.sequenceStart properties)) fuel
          else if properties = .none then r.fail .expectedContent
          else .ok (r.pushEmpty properties)
        | some .blockSequenceStart =>
          if block then blockItems (r.skip.push (.sequenceStart properties)) fuel
          else if properties = .none then r.fail .expectedContent
          else .ok (r.pushEmpty properties)
        | some .blockMappingStart =>
          if block then blockPairs (r.skip.push (.mappingStart properties)) fuel
          else if properties = .none then r.fail .expectedContent
          else .ok (r.pushEmpty properties)
        | none => r.fail .expectedContent
        | _ =>
          if properties = .none then r.fail .expectedContent else .ok (r.pushEmpty properties)

/-- A node, or an empty one where one of the tokens shows that it is left out. -/
def nodeUnless (tokens : List Token) (block indentless : Bool) (r : Reading) : Nat → Read
  | 0 => r.fail .expectedContent
  | fuel + 1 =>
    if r.peeks tokens then .ok (r.pushEmpty .none) else node block indentless r fuel

/-- The entries of a block sequence. -/
def blockItems (r : Reading) : Nat → Read
  | 0 => r.fail .expectedEntry
  | fuel + 1 =>
    match r.peek with
    | some .blockEntry =>
      match nodeUnless [.blockEntry, .blockEnd] true false r.skip fuel with
      | .error e => .error e
      | .ok r => blockItems r fuel
    | some .blockEnd => .ok (r.skip.push .sequenceEnd)
    | _ => r.fail .expectedEntry

/-- The entries of a block sequence that is not indented. -/
def indentlessItems (r : Reading) : Nat → Read
  | 0 => r.fail .expectedEntry
  | fuel + 1 =>
    match r.peek with
    | some .blockEntry =>
      match nodeUnless [.blockEntry, .key, .value, .blockEnd] true false r.skip fuel with
      | .error e => .error e
      | .ok r => indentlessItems r fuel
    | none => r.fail .expectedEntry
    | _ => .ok (r.push .sequenceEnd)

/-- The keys and values of a block mapping. -/
def blockPairs (r : Reading) : Nat → Read
  | 0 => r.fail .expectedKey
  | fuel + 1 =>
    match r.peek with
    | some .key =>
      match nodeUnless [.key, .value, .blockEnd] true true r.skip fuel with
      | .error e => .error e
      | .ok r =>
        match blockValue r fuel with
        | .error e => .error e
        | .ok r => blockPairs r fuel
    | some .blockEnd => .ok (r.skip.push .mappingEnd)
    | _ => r.fail .expectedKey

/-- The value after a key of a block mapping. -/
def blockValue (r : Reading) : Nat → Read
  | 0 => r.fail .expectedContent
  | fuel + 1 =>
    match r.peek with
    | some .value => nodeUnless [.key, .value, .blockEnd] true true r.skip fuel
    | none => r.fail .expectedContent
    | _ => .ok (r.pushEmpty .none)

/-- The entries of a flow sequence; an entry may be a single pair. -/
def flowItems (first : Bool) (r : Reading) : Nat → Read
  | 0 => r.fail .expectedSequenceSeparator
  | fuel + 1 =>
    match r.peek with
    | some .flowSequenceEnd => .ok (r.skip.push .sequenceEnd)
    | some token =>
      if !first && token != .flowEntry then r.fail .expectedSequenceSeparator
      else
        let r := if first then r else r.skip
        match r.peek with
        | some .flowSequenceEnd => .ok (r.skip.push .sequenceEnd)
        | some .key =>
          match flowPair (r.skip.push (.mappingStart .none)) fuel with
          | .error e => .error e
          | .ok r => flowItems false r fuel
        | _ =>
          match node false false r fuel with
          | .error e => .error e
          | .ok r => flowItems false r fuel
    | none => r.fail .expectedSequenceSeparator

/-- The single pair of an entry of a flow sequence. -/
def flowPair (r : Reading) : Nat → Read
  | 0 => r.fail .expectedContent
  | fuel + 1 =>
    let keyRead : Read :=
      if r.peeks [.value, .flowEntry, .flowSequenceEnd] then .ok (r.pushEmpty .none).skip
      else node false false r fuel
    match keyRead with
    | .error e => .error e
    | .ok r =>
      let valueRead : Read :=
        match r.peek with
        | some .value => nodeUnless [.flowEntry, .flowSequenceEnd] false false r.skip fuel
        | none => r.fail .expectedContent
        | _ => .ok (r.pushEmpty .none)
      match valueRead with
      | .error e => .error e
      | .ok r => .ok (r.push .mappingEnd)

/-- The keys and values of a flow mapping. -/
def flowPairs (first : Bool) (r : Reading) : Nat → Read
  | 0 => r.fail .expectedMappingSeparator
  | fuel + 1 =>
    match r.peek with
    | some .flowMappingEnd => .ok (r.skip.push .mappingEnd)
    | some token =>
      if !first && token != .flowEntry then r.fail .expectedMappingSeparator
      else
        let r := if first then r else r.skip
        match r.peek with
        | some .flowMappingEnd => .ok (r.skip.push .mappingEnd)
        | some .key =>
          match nodeUnless [.value, .flowEntry, .flowMappingEnd] false false r.skip fuel with
          | .error e => .error e
          | .ok r =>
            let valueRead : Read :=
              match r.peek with
              | some .value => nodeUnless [.flowEntry, .flowMappingEnd] false false r.skip fuel
              | none => r.fail .expectedContent
              | _ => .ok (r.pushEmpty .none)
            match valueRead with
            | .error e => .error e
            | .ok r => flowPairs false r fuel
        | _ =>
          match node false false r fuel with
          | .error e => .error e
          | .ok r => flowPairs false (r.pushEmpty .none) fuel
    | none => r.fail .expectedMappingSeparator

end

/-- Takes the directives in front of a document. -/
def directives (r : Reading) (versioned : Bool) : Nat → Read
  | 0 => .ok r
  | fuel + 1 =>
    match r.peek with
    | some (.versionDirective major minor) =>
      if versioned || major != 1 || (minor != 1 && minor != 2) then r.fail .badDirective
      else directives r.skip true fuel
    | some (.tagDirective handle stem) =>
      let own := r.handles.take (r.handles.length - standardHandles.length)
      if own.any (·.1 == handle) then r.fail .badDirective
      else directives { r.skip with handles := (handle, stem) :: r.handles } versioned fuel
    | _ => .ok r

/-- The tokens that may not start the content of a document. -/
def endsContent : Option Token → Bool
  | some (.versionDirective ..) | some (.tagDirective ..) | some .documentStart
  | some .documentEnd | some .streamEnd => true
  | _ => false

/-- The tokens after the ends of documents. -/
def skipDocumentEnds (r : Reading) : Reading :=
  { r with tokens := r.tokens.dropWhile (· == .documentEnd) }

/-- The events of the only document of a text, after which nothing but document ends may stand. -/
def document (tokens : List Token) : Read :=
  let fuel := 4 * tokens.length + 8
  let r := skipDocumentEnds ⟨tokens, #[], standardHandles⟩
  let content : Read :=
    match r.peek with
    | some .streamEnd => .ok r
    | some .documentStart | some (.versionDirective ..) | some (.tagDirective ..) =>
      match directives r false fuel with
      | .error e => .error e
      | .ok r =>
        if r.peek != some .documentStart then r.fail .expectedDocumentStart
        else
          let r := r.skip
          if endsContent r.peek then .ok (r.pushEmpty .none) else node true false r fuel
    | _ => node true false r fuel
  match content with
  | .error e => .error e
  | .ok r =>
    let r := skipDocumentEnds r
    if r.peek = some .streamEnd then .ok r else r.fail .expectedDocumentStart

end Reading

/-- The events of a text, and its first mistake if there is one. -/
def readEvents (text : String) : Array Event × Option SyntaxError :=
  let (tokens, mistake) := tokenize text
  match Reading.document tokens.toList with
  | .ok r => (r.events, none)
  | .error (e, events) => (events, some (mistake.getD e))

end Pipeline.Yaml
