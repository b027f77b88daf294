import Conform.Schema

/-!
# Unguarded cycles

A reference is unguarded when it is reached without going into an item or a field. A cycle of
unguarded references would validate the same value for ever. The search goes through the bindings in
order, depth first.
-/

namespace Conform.Cycle

/-- The state of a name during the search. -/
inductive Mark where
  /-- On the way from the root to the name at hand. -/
  | active
  /-- Left without a cycle. -/
  | done
deriving DecidableEq, Repr

/-- The unguarded references of every binding, those to other scopes left out. -/
def edges (bs : List (String × Schema)) : List (String × List String) :=
  bs.map fun (n, t) => (n, t.unguarded.filter fun r => Entries.has r bs)

/-- The part of the way from `node` on, and `node` again. The way has its last name first. -/
def close (node : String) (way : List String) : List String :=
  let forward := way.reverse
  forward.drop ((forward.idxOf? node).getD 0) ++ [node]

/-- Visits a name and all it reaches; the error is a cycle. At most `fuel` names are on the way. -/
def visit (es : List (String × List String)) :
    Nat → List String → List (String × Mark) → String → Except (List String) (List (String × Mark))
  | 0, _, marks, _ => .ok marks
  | fuel + 1, way, marks, node =>
    match Entries.find? node marks with
    | some .done => .ok marks
    | some .active => .error (close node way)
    | none => do
      let next := (Entries.find? node es).getD []
      let marks ← next.foldlM (visit es fuel (node :: way)) (Entries.put node .active marks)
      return Entries.put node .done marks

/-- The first cycle of unguarded references. -/
def find? (bs : List (String × Schema)) : Option (List String) :=
  let es := edges bs
  match (Entries.keys es).foldlM (visit es (bs.length + 1) []) [] with
  | .ok _ => none
  | .error c => some c

end Conform.Cycle
