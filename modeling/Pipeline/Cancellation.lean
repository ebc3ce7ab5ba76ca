/-! Signals that tell work to stop. A source fires its tokens once and for all. -/

namespace Pipeline.Cancellation

/-- A token, which belongs to the source or to nobody. -/
inductive Token where
  | linked
  | never
  deriving Repr, DecidableEq

/-- A source and the tokens made so far. -/
structure Source where
  fired : Bool
  /-- The source can still fire. -/
  held : Bool
  tokens : List Token
  deriving Repr, DecidableEq

namespace Source

/-- A source with its first token. -/
def fresh : Source := ⟨false, true, [.linked]⟩

/-- Fires the tokens, if the source is still held. -/
def cancel (source : Source) : Source :=
  { source with fired := source.fired || source.held }

/-- A further token of a source that is still held. -/
def subscribe (source : Source) : Source :=
  if source.held then { source with tokens := source.tokens ++ [.linked] } else source

/-- A copy of the first token. -/
def cloneFirst (source : Source) : Source :=
  { source with tokens := source.tokens ++ source.tokens.take 1 }

/-- A token that nobody fires. -/
def addNever (source : Source) : Source :=
  { source with tokens := source.tokens ++ [.never] }

/-- Gives up the source. The tokens stay as they are. -/
def drop (source : Source) : Source :=
  { source with held := false }

/-- Has the token been fired? -/
def isCancelled (source : Source) : Token → Bool
  | .linked => source.fired
  | .never => false

/-- Have the tokens been fired, in the order in which they were made? -/
def states (source : Source) : List Bool :=
  source.tokens.map source.isCancelled

end Source

end Pipeline.Cancellation
