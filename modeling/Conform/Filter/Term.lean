import Conform.Filter.Arithmetic

/-!
# Filter programs

The terms of the filter language. A path term reads parts of what its head puts out; the same term
on the left of an update says which parts change.
-/

namespace Conform.Filter

/-- The comparisons. -/
inductive Relation where
  | eq | ne | lt | le | gt | ge
deriving DecidableEq

/-- Does the comparison hold? -/
def Relation.holds (r : Relation) (a b : Datum) : Bool :=
  match r, a.order b with
  | .eq, o => o == .eq
  | .ne, o => o != .eq
  | .lt, o => o == .lt
  | .le, o => o != .gt
  | .gt, o => o == .gt
  | .ge, o => o != .lt

/-- How an assignment finds the new value from the old one and the value on its right. -/
inductive Assign where
  | set
  | math (op : Math)
  | alternative
deriving DecidableEq

/-- The new value of a part. -/
def Assign.run (a : Assign) (old new : Datum) : Output :=
  match a with
  | .set => .ok new
  | .math op => op.run old new
  | .alternative => .ok (if old.truth then old else new)

/-- A parameter of a definition. -/
inductive Param where
  /-- Stands for one output of the argument. -/
  | value (name : String)
  /-- Stands for the argument as a filter. -/
  | filter (name : String)
deriving DecidableEq

/-- The loops. -/
inductive Loop where
  /-- Gives the last state. -/
  | reduce
  /-- Gives every state. -/
  | foreach
deriving DecidableEq

/-- May the loop have so many arguments? -/
def Loop.takes : Loop → Nat → Bool
  | .reduce, n => n = 2
  | .foreach, n => n = 2 || n = 3

mutual

/-- A filter. -/
inductive Term where
  | identity
  | number (text : String)
  | text (pieces : List Piece)
  | array (body : Option Term)
  | object (entries : List (Term × Term))
  | negative (t : Term)
  | pipe (l r : Term)
  | bind (l : Term) (name : String) (r : Term)
  | comma (l r : Term)
  | update (path by_ : Term)
  | assign (how : Assign) (path value : Term)
  | alternative (l r : Term)
  | both (l r : Term)
  | either (l r : Term)
  | compare (r : Relation) (a b : Term)
  | math (op : Math) (a b : Term)
  | branch (c t : Term) (e : Option Term)
  | attempt (t : Term) (handler : Option Term)
  /-- A loop over the outputs of a filter, each bound to the name. -/
  | loop (kind : Loop) (xs : Term) (name : String) (args : List Term)
  | define (d : Definition) (body : Term)
  | call (name : String) (args : List Term)
  | var (name : String)
  | path (head : Term) (steps : List (Step × Bool))

/-- A piece of a text: characters, or the outputs of a filter. -/
inductive Piece where
  | chars (s : String)
  | hole (t : Term)

/-- A step of a path. -/
inductive Step where
  | index (t : Term)
  | slice (lo hi : Option Term)
  | each

/-- A named filter. -/
inductive Definition where
  | mk (name : String) (params : List Param) (body : Term)

end

instance : Inhabited Term := ⟨.identity⟩

namespace Definition

/-- The name of the definition. -/
def name : Definition → String
  | .mk n _ _ => n

/-- The parameters of the definition. -/
def params : Definition → List Param
  | .mk _ p _ => p

/-- The filter that the name stands for. -/
def body : Definition → Term
  | .mk _ _ b => b

end Definition
end Conform.Filter
