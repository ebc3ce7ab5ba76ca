import Pipeline.Expression.Value

/-! Matrices of jobs: their dimensions, and the combinations that they expand to. -/

namespace Pipeline

/-- Values by key, in the order in which the keys were set first. -/
abbrev Assignment := List (String × Json)

namespace Assignment

/-- The value of a key. -/
def get? (a : Assignment) (key : String) : Option Json :=
  a.lookup key

/-- Sets a key; one that was set before keeps its place. -/
def put (key : String) (value : Json) : Assignment → Assignment
  | [] => [(key, value)]
  | (k, v) :: rest => if k = key then (k, value) :: rest else (k, v) :: put key value rest

/-- Sets keys in turn. -/
def putAll (a : Assignment) (entries : List (String × Json)) : Assignment :=
  entries.foldl (fun a entry => a.put entry.1 entry.2) a

/-- The assignment of a list of entries. -/
def ofEntries (entries : List (String × Json)) : Assignment :=
  putAll [] entries

/-- Does the assignment give every key of the entry an equal value? -/
def agrees (a : Assignment) (entry : List (String × Json)) : Bool :=
  entry.all fun (key, value) => (a.get? key).any (·.equal value)

/-- The values as text, with commas between them. -/
def render (a : Assignment) : String :=
  ", ".intercalate (a.map fun entry => Expression.toText entry.2)

/-- The assignment as the context of expressions. -/
def context (a : Assignment) : Dict Json :=
  Dict.ofList a

end Assignment

/-- The matrix of a job. -/
structure Matrix where
  /-- The dimensions and their values, in declared order. -/
  dimensions : List (String × List Json)
  /-- Entries that extend combinations or add new ones. -/
  additions : List Assignment
  /-- Entries that remove combinations. -/
  exclusions : List Assignment

namespace Matrix

/-- The matrix of a job without one. -/
def empty : Matrix := ⟨[], [], []⟩

instance : Inhabited Matrix := ⟨empty⟩

/-- The combinations of dimensions that extend a combination; the last dimension varies fastest. -/
def extend (a : Assignment) : List (String × List Json) → List Assignment
  | [] => [a]
  | (name, values) :: rest => values.flatMap fun value => extend (a.put name value) rest

/-- All combinations of the dimensions. -/
def product (dimensions : List (String × List Json)) : List Assignment :=
  extend [] dimensions

/-- Is the key one of the dimensions? -/
def isDimension (m : Matrix) (key : String) : Bool :=
  m.dimensions.any fun dimension => dimension.1 == key

/-- Does the entry overwrite no dimension of the combination? -/
def compatible (m : Matrix) (entry a : Assignment) : Bool :=
  a.agrees (entry.filter fun pair => m.isDimension pair.1)

/-- The combination with an addition, where that fits. -/
def mergeInto (m : Matrix) (entry a : Assignment) : Assignment :=
  if m.compatible entry a then a.putAll (entry.filter fun pair => !m.isDimension pair.1) else a

/-- The combinations of the dimensions that no exclusion removes. -/
def base (m : Matrix) : List Assignment :=
  if m.dimensions.isEmpty then []
  else (product m.dimensions).filter fun a => !m.exclusions.any a.agrees

/-- The base combinations and the new ones after additions: each one extends all base combinations
that it fits, or else is a new combination. -/
def addFrom (m : Matrix) (base added : List Assignment) : List Assignment → List Assignment
  | [] => base ++ added
  | entry :: rest =>
    if base.any (m.compatible entry) then addFrom m (base.map (m.mergeInto entry)) added rest
    else addFrom m base (added ++ [.ofEntries entry]) rest

/-- The combinations of a matrix. One with nothing declared has a single empty combination. -/
def expand (m : Matrix) : List Assignment :=
  if m.dimensions.isEmpty && m.additions.isEmpty then [[]]
  else m.addFrom m.base [] m.additions

end Matrix

end Pipeline
