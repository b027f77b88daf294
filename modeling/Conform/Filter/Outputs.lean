import Conform.Filter.Datum

/-!
# The outputs of a filter

A filter sends one datum to a run of outputs, each a datum or an error. An output is found when it
is asked for, so that a filter may have more of them than anyone takes. A run may also put off its
next step: then the step is taken where the run is used, and a filter that ends by calling another
one takes no place on the stack for it. What a filter needs before it can go on is forced there.
-/

namespace Conform.Filter

/-- What may stand in place of an output. -/
inductive Stop where
  /-- An error with the datum it carries. -/
  | error (d : Datum)
  /-- The steps that a run may take are used up; this is never caught. -/
  | exhausted

/-- One output. -/
abbrev Output := Except Stop Datum

/-- The outputs of a filter, in order. -/
inductive Outputs where
  | nil
  | cons (o : Output) (rest : Unit → Outputs)
  /-- A step that is put off. -/
  | later (rest : Unit → Outputs)

/-- An error that carries a text. -/
def fail {α : Type} (why : String) : Except Stop α := .error (.error (.str why))

/-- The error of a datum that is not of the kind that is asked for. -/
def Datum.unfit {α : Type} (d : Datum) (kind : String) : Except Stop α :=
  fail ("cannot use " ++ d.text ++ " as " ++ kind)

namespace Outputs

/-! ## Runs from single outputs -/

/-- A single output. -/
def one (o : Output) : Outputs := .cons o fun _ => .nil

/-- All data of a list. -/
def ofData : List Datum → Outputs
  | [] => .nil
  | d :: r => .cons (.ok d) fun _ => ofData r

/-- The first outputs, then the others. -/
def append : Outputs → (Unit → Outputs) → Outputs
  | .nil, r => r ()
  | .cons o t, r => .cons o fun _ => append (t ()) r
  | .later t, r => .later fun _ => append (t ()) r

/-- The first outputs, then the others. Where there are no others nothing is left to be done after
the first. -/
def followedBy (o : Outputs) : Outputs → Outputs
  | .nil => o
  | r => o.append fun _ => r

/-- The outputs that `f` has for each of a list, one after the other. -/
def forEach {α : Type} (f : α → Outputs) : List α → Outputs
  | [] => .nil
  | [a] => f a
  | a :: r => (f a).append fun _ => forEach f r

/-! ## Runs from runs -/

/-- Takes the steps that are put off, up to the first output. -/
def force : Outputs → Outputs
  | .later t => force (t ())
  | o => o

/-- Every output, a datum or an error, goes through `f`. -/
def flatMap (f : Output → Outputs) : Outputs → Outputs
  | .nil => .nil
  | .later t => .later fun _ => flatMap f (t ())
  | .cons o t => .later fun _ => (f o).followedBy (flatMap f (t ()))

/-- Every datum goes through `f`, and every error stays in its place. -/
def bind (o : Outputs) (f : Datum → Outputs) : Outputs :=
  .later fun _ => o.force.flatMap fun
    | .ok d => f d
    | .error e => one (.error e)

/-- Every output becomes another one. -/
def map (f : Output → Output) : Outputs → Outputs
  | .nil => .nil
  | .later t => .later fun _ => map f (t ())
  | .cons o t => .cons (f o) fun _ => map f (t ())

/-- The outputs of `l` and `r` in pairs, those of `l` in the outer loop. An error in `l` counts when
it is paired, so that there is none where `r` has no output. -/
def product (l r : Outputs) (f : Datum → Datum → Output) : Outputs :=
  .later fun _ => l.force.flatMap fun a => r.force.map fun b => do f (← a) (← b)

/-- The outputs up to the first error, and what `f` makes of that. -/
def handle (f : Datum → Outputs) : Outputs → Outputs
  | .nil => .nil
  | .later t => .later fun _ => handle f (t ())
  | .cons (.error (.error d)) _ => f d
  | .cons o t => .cons o fun _ => handle f (t ())

/-- The outputs that `p` holds of. -/
def filter (p : Output → Bool) : Outputs → Outputs
  | .nil => .nil
  | .later t => .later fun _ => filter p (t ())
  | .cons o t =>
    if p o then .cons o fun _ => filter p (t ()) else .later fun _ => filter p (t ())

/-- The outputs without the errors. -/
def quiet : Outputs → Outputs :=
  filter fun
    | .error (.error _) => false
    | _ => true

/-- Is the output an error or a datum that is not false? -/
def counts : Output → Bool
  | .ok d => d.truth
  | .error _ => true

/-- The outputs that are not false, or those of `r` when there are none. -/
def orElse (r : Unit → Outputs) : Outputs → Outputs
  | .nil => r ()
  | .later t => .later fun _ => orElse r (t ())
  | .cons o t =>
    if counts o then .cons o fun _ => filter counts (t ()) else .later fun _ => orElse r (t ())

/-- The first `n` outputs. -/
def take : Nat → Outputs → Outputs
  | 0, _ => .nil
  | _ + 1, .nil => .nil
  | n + 1, .later t => .later fun _ => take (n + 1) (t ())
  | 1, .cons o _ => one o
  | n + 1, .cons o t => .cons o fun _ => take n (t ())

/-! ## Folds -/

/-- Starting from a datum, every output of a run in turn takes it one step on. -/
def fold (f : Output → Datum → Outputs) : Outputs → Datum → Outputs
  | .nil, d => one (.ok d)
  | .later t, d => .later fun _ => fold f (t ()) d
  | .cons o t, d => .later fun _ => (f o d).bind (fold f (t ()))

/-- The same, with what `g` makes of every datum on the way. -/
def scan (f : Output → Datum → Outputs) (g : Output → Datum → Outputs) : Outputs → Datum → Outputs
  | .nil, _ => .nil
  | .later t, d => .later fun _ => scan f g (t ()) d
  | .cons o t, d => .later fun _ =>
      (f o d).bind fun d => (g o d).append fun _ => scan f g (t ()) d

/-- The steps of a run inside each other: the first one goes on with the second, and the last one
with `last`. -/
def nest (f : Output → (Datum → Outputs) → Datum → Outputs) (last : Datum → Outputs) :
    Outputs → Datum → Outputs
  | .nil, d => last d
  | .later t, d => .later fun _ => nest f last (t ()) d
  | .cons o t, d => .later fun _ => f o (nest f last (t ())) d

/-! ## Looking at outputs -/

/-- The outputs up to the first error, after those in `seen`, which are given last one first. -/
def gather (seen : List Output) : Outputs → List Output
  | .nil => seen.reverse
  | .later t => gather seen (t ())
  | .cons (.ok d) t => gather (.ok d :: seen) (t ())
  | .cons (.error e) _ => (.error e :: seen).reverse

/-- The outputs up to the first error. -/
def toList (o : Outputs) : List Output := gather [] o

/-- All data in one array, or the first error. -/
def collect (o : Outputs) : Output := (o.toList.mapM id).map .arr

/-- The first output, if there is one. -/
def head? : Outputs → Option Output
  | .nil => none
  | .later t => head? (t ())
  | .cons o _ => some o

/-- Does `p` hold of some output? -/
def any (p : Output → Bool) : Outputs → Bool
  | .nil => false
  | .later t => any p (t ())
  | .cons o t => p o || any p (t ())

@[simp] theorem append_nil_left (r : Unit → Outputs) : append .nil r = r () := rfl

@[simp] theorem toList_one (d : Datum) : (one (.ok d)).toList = [.ok d] := rfl

end Outputs
end Conform.Filter
