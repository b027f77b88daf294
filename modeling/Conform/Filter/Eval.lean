import Conform.Filter.Access
import Conform.Filter.Builtin
import Conform.Filter.Term

/-!
# Running filters

`eval` sends a datum to the outputs of a term. `update` runs a term as a path: the parts that it
names go through a given filter. Both count down the steps that are left, so that a program that
calls itself without end stops.
-/

namespace Conform.Filter

/-- What names stand for. -/
inductive Env where
  | empty
  | value (name : String) (d : Datum) (rest : Env)
  /-- A definition, which may use itself and what came before it. -/
  | filter (d : Definition) (rest : Env)
  /-- An argument, which is run where the call stands. -/
  | argument (name : String) (t : Term) (home rest : Env)

/-- What a call runs. -/
inductive Callee where
  | filter (d : Definition) (home : Env)
  | argument (t : Term) (home : Env)

namespace Env

/-- The value of a variable. -/
def value? (x : String) : Env → Option Datum
  | .empty => none
  | .value y d r => if y = x then some d else value? x r
  | .filter _ r => value? x r
  | .argument _ _ _ r => value? x r

/-- The filter with this name and number of arguments. -/
def callee? (name : String) (arity : Nat) : Env → Option Callee
  | .empty => none
  | .value _ _ r => callee? name arity r
  | .filter d r =>
    if d.name = name ∧ d.params.length = arity then some (.filter d (.filter d r))
    else callee? name arity r
  | .argument f t home r =>
    if f = name ∧ arity = 0 then some (.argument t home) else callee? name arity r

/-- The definitions, one after the other. -/
def ofDefinitions (ds : List Definition) : Env := ds.foldl (fun e d => .filter d e) .empty

end Env

/-- The outputs of a run that has no steps left. -/
def exhausted : Outputs := .one (.error .exhausted)

/-- The error of a term that names no part of its input. -/
def noPath : Outputs := .one (fail "invalid path expression")

/-- A step on data; an error takes its place. -/
def onDatum {α : Type} (f : Datum → α → Outputs) : Output → α → Outputs
  | .ok d, a => f d a
  | .error e, _ => .one (.error e)

/-! ## Arguments and steps

`ev` sends a term to its outputs on the input at hand. -/

section Terms

variable (ev : Term → Outputs)

/-- What `go` has for the values of arguments, in all combinations, the first argument in the outer
loop. -/
def withValues (go : List Datum → Outputs) : List Term → Outputs
  | [] => go []
  | t :: r => (ev t).bind fun v => withValues (fun vs => go (v :: vs)) r

/-- What `go` has inside a definition, for each combination of the values of its arguments. -/
def withArguments (go : Env → Outputs) (env inner : Env) : List (Param × Term) → Outputs
  | [] => go inner
  | (.filter f, t) :: r => withArguments go env (.argument f t env inner) r
  | (.value x, t) :: r => (ev t).bind fun v => withArguments go env (.value x v inner) r

/-- The same, where every combination takes the datum one step on. -/
def foldArguments (go : Env → Datum → Outputs) (env inner : Env) :
    List (Param × Term) → Datum → Outputs
  | [] => go inner
  | (.filter f, t) :: r => foldArguments go env (.argument f t env inner) r
  | (.value x, t) :: r =>
    (ev t).fold (onDatum fun v => foldArguments go env (.value x v inner) r)

/-- What a step reads of a datum. -/
def Step.read (d : Datum) : Step → Outputs
  | .index t => (ev t).map fun i => do d.item (← i)
  | .each => d.each
  | .slice (some lo) (some hi) => (ev lo).product (ev hi) fun lo hi => d.slice (some lo) (some hi)
  | .slice (some lo) none => (ev lo).map fun lo => do d.slice (some (← lo)) none
  | .slice none (some hi) => (ev hi).map fun hi => do d.slice none (some (← hi))
  | .slice none none => .one (d.slice none none)

/-- What steps read of a datum, the first step in the outer loop. -/
def readSteps : List (Step × Bool) → Datum → Outputs
  | [], d => .one (.ok d)
  | (s, optional) :: r, d =>
    let o := s.read ev d
    (if optional then o.quiet else o).bind (readSteps r)

/-- The parts that a step names. -/
def Step.parts : Step → List (Except Stop Part)
  | .index t => (ev t).toList.map fun i => .index <$> i
  | .each => [.ok .each]
  | .slice (some lo) (some hi) => (ev lo).toList.flatMap fun lo =>
      (ev hi).toList.map fun hi => do return .slice (some (← lo)) (some (← hi))
  | .slice (some lo) none => (ev lo).toList.map fun lo => do return .slice (some (← lo)) none
  | .slice none (some hi) => (ev hi).toList.map fun hi => do return .slice none (some (← hi))
  | .slice none none => [.ok (.slice none none)]

/-- The paths that steps name, in all combinations, the first step in the outer loop. -/
def paths : List (Step × Bool) → List (Except Stop Path)
  | [] => [.ok []]
  | (s, optional) :: r => (s.parts ev).flatMap fun
      | .ok p => (paths r).map fun q => ((p, optional) :: ·) <$> q
      | .error e => [.error e]

end Terms

/-- The outputs of a built-in filter; `ev` sends a term and a datum to its outputs. -/
def Builtin.run (ev : Term → Datum → Outputs) (b : Builtin) (args : List Term) (d : Datum) :
    Outputs :=
  match b, args with
  | .empty, _ => .nil
  | .plain run, _ => .one (run d)
  | .valued run, args => withValues (ev · d) (run d) args
  | .sortBy, [t] => .one do
      return .arr ((Datum.sortKeyed (← keyed t)).map (·.2))
  | .groupBy, [t] => .one do
      return .arr ((Datum.groupKeyed (Datum.sortKeyed (← keyed t))).map fun g => .arr g.2)
  | .first, [t] => (ev t d).take 1
  | .limit, [count, t] => (ev count d).bind fun
      | .int i => (ev t d).take i.toInt.toNat
      | c => .one (c.unfit "integer")
  | _, _ => .nil
where
  /-- The items of the input with the outputs of a term on each. -/
  keyed (t : Term) : Except Stop (List (Datum × Datum)) := do
    (← d.items).mapM fun x => do return (← (ev t x).collect, x)

mutual

/-- The outputs of a term. -/
def eval : Nat → Env → Term → Datum → Outputs
  | 0, _, _, _ => exhausted
  | n + 1, env, t, d =>
    match t with
    | .identity => .one (.ok d)
    | .number s => .one (.ok (.ofNumeral s))
    | .text ps =>
      ps.foldl (fun acc p => acc.product (match p with
        | .chars s => .one (.ok (.str s))
        | .hole t => (eval n env t d).map fun o => do return .str (← o).plainText) Datum.add)
        (.one (.ok (.str "")))
    | .array none => .one (.ok (.arr []))
    | .array (some t) => .later fun _ => .one (eval n env t d).collect
    | .object es =>
      es.foldl (fun acc (k, t) =>
        acc.product ((eval n env k d).product (eval n env t d) fun k v => do
          return .obj [(← k.string, v)]) Datum.add) (.one (.ok (.obj [])))
    | .negative t => (eval n env t d).map fun o => do (← o).neg
    | .pipe l r => (eval n env l d).bind (eval n env r)
    | .bind l x r => (eval n env l d).bind fun v => eval n (.value x v env) r d
    | .comma l r => (eval n env l d).append fun _ => eval n env r d
    | .update p f => update n env p (eval n env f) d
    | .assign how p v => (eval n env v d).bind fun y =>
        update n env p (fun x => .one (how.run x y)) d
    | .alternative l r => (eval n env l d).orElse fun _ => eval n env r d
    | .both l r => (eval n env l d).bind fun x =>
        if x.truth then (eval n env r d).map fun o => do return .bool (← o).truth
        else .one (.ok (.bool false))
    | .either l r => (eval n env l d).bind fun x =>
        if x.truth then .one (.ok (.bool true))
        else (eval n env r d).map fun o => do return .bool (← o).truth
    | .compare r a b =>
      (eval n env a d).product (eval n env b d) fun x y => .ok (.bool (r.holds x y))
    | .math op a b => (eval n env a d).product (eval n env b d) op.run
    | .branch c t e => (eval n env c d).bind fun x =>
        if x.truth then eval n env t d
        else match e with
          | some e => eval n env e d
          | none => .one (.ok d)
    | .attempt t h => (eval n env t d).handle fun e =>
        match h with
        | some h => eval n env h e
        | none => .nil
    | .loop kind xs x args =>
      let xs := eval n env xs d
      let step (t : Term) : Output → Datum → Outputs := onDatum fun v => eval n (.value x v env) t
      match kind, args with
      | .reduce, [a, b] => (eval n env a d).bind (.fold (step b) xs)
      | .foreach, [a, b] => (eval n env a d).bind (.scan (step b) (fun _ d => .one (.ok d)) xs)
      | .foreach, [a, b, c] => (eval n env a d).bind (.scan (step b) (step c) xs)
      | _, _ => .nil
    | .define f t => eval n (.filter f env) t d
    | .var x =>
      match env.value? x with
      | some v => .one (.ok v)
      | none => .one (fail ("$" ++ x ++ " has no value"))
    | .path t steps => (eval n env t d).bind (readSteps (eval n env · d) steps)
    | .call name args => .later fun _ =>
      match env.callee? name args.length with
      | some (.argument t home) => eval n home t d
      | some (.filter f home) =>
        withArguments (eval n env · d) (fun inner => eval n inner f.body d) env home
          (f.params.zip args)
      | none =>
        match Builtin.find? name args.length with
        | some b => b.run (eval n env) args d
        | none => .one (fail (name ++ " is not defined"))

/-- The datum with the parts that the term names sent through `f`. -/
def update : Nat → Env → Term → (Datum → Outputs) → Datum → Outputs
  | 0, _, _, _, _ => exhausted
  | n + 1, env, t, f, d =>
    match t with
    | .identity => f d
    | .path t steps =>
      let ps := paths (eval n env · d) steps
      update n env t (fun v => .one (ps.foldlM (fun v p => do (← p).update f v) v)) d
    | .pipe l r => update n env l (update n env r f) d
    | .bind l x r =>
      (eval n env l d).fold (onDatum fun v => update n (.value x v env) r f) d
    | .comma l r => (update n env l f d).bind (update n env r f)
    | .alternative l r => update n env (if (eval n env l d).any Outputs.counts then l else r) f d
    | .branch c t e =>
      (eval n env c d).fold (onDatum fun x v =>
        if x.truth then update n env t f v
        else match e with
          | some e => update n env e f v
          | none => f v) d
    | .loop .reduce xs x [a, b] =>
      let xs := eval n env xs d
      let step (o : Output) (go : Datum → Outputs) : Datum → Outputs :=
        onDatum (fun y v => update n (.value x y env) b go v) o
      update n env a (.nest step f xs) d
    | .define g t => update n (.filter g env) t f d
    | .call name args => .later fun _ =>
      match env.callee? name args.length with
      | some (.argument t home) => update n home t f d
      | some (.filter g home) =>
        foldArguments (eval n env · d) (fun inner => update n inner g.body f) env home
          (g.params.zip args) d
      | none =>
        if name = "empty" then .one (.ok d)
        else if name = "error" then .one (.error (.error d))
        else noPath
    | _ => noPath

end

end Conform.Filter
