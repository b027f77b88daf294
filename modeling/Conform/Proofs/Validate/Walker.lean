import Conform.Proofs.Failure
import Conform.Proofs.Validate.Enough
import Conform.Proofs.Validate.First

/-!
# Validation with the path at hand

A failure of `walk` is seen from the value at hand, and moved on the way up. Here the path from the top
is a state instead: a walker adds a step to it on the way down, takes the step off on the way back, and
fails where it stands. The state is not restored by itself: a branch of a union that fails leaves it to
the next branch as it is.

* `Walker.walk`, `Walker.validateIn`: validation by a walker;
* `Walker.Tracks w r`: at every path the walker `w` has the outcome `r`, moved below the path, and comes
  back to the path; `Tracks.bind`, `Tracks.descend` and others build it up, part by part;
* `Walker.tracks_walk`, `Walker.tracks_follow`: the step and the run;
* `Validate.failures_compose`: the main statement.
-/

namespace Conform

/-- A validation that keeps the path at hand as its state. The state outlives a failure. -/
abbrev Walker (α : Type) := ExceptT Failure (StateM Path) α

namespace Walker

variable {α β : Type}

/-- What comes of a validation that starts at a path, and the path that it leaves. -/
def runAt (w : Walker α) (p : Path) : Except Failure α × Path := StateT.run (ExceptT.run w) p

/-- Fails at the path at hand. -/
def fail (x : Failure) : Walker α := do
  throw { x with path := ← get }

/-- Catches the failure. -/
def attempt (w : Walker α) : Walker (Except Failure α) := ExceptT.lift (ExceptT.run w)

/-- Goes one step down, and back up whatever comes of it. -/
def descend (g : Segment) (w : Walker α) : Walker α := do
  modify (· ++ [g])
  let r ← attempt w
  modify List.dropLast
  MonadExcept.ofExcept r

/-! ## What the steps do -/

theorem runAt_pure (a : α) (p : Path) : runAt (pure a) p = (.ok a, p) := rfl

theorem runAt_fail (x : Failure) (p : Path) :
    runAt (fail x : Walker α) p = (.error { x with path := p }, p) := rfl

theorem runAt_bind (w : Walker α) (k : α → Walker β) (p : Path) : runAt (w >>= k) p =
    match runAt w p with
    | (.ok a, q) => runAt (k a) q
    | (.error x, q) => (.error x, q) := by
  simp only [runAt, ExceptT.run_bind, StateT.run_bind]
  generalize StateT.run (ExceptT.run w) p = r
  obtain ⟨_ | a, q⟩ := r <;> rfl

theorem runAt_attempt (w : Walker α) (p : Path) :
    runAt (attempt w) p = (.ok (runAt w p).1, (runAt w p).2) := rfl

theorem runAt_descend (g : Segment) (w : Walker α) (p : Path) : runAt (descend g w) p =
    ((runAt w (p ++ [g])).1, (runAt w (p ++ [g])).2.dropLast) := by
  rw [descend, runAt_bind]
  show runAt (attempt w >>= fun r => do modify List.dropLast; MonadExcept.ofExcept r) (p ++ [g]) = _
  rw [runAt_bind, runAt_attempt]
  cases (runAt w (p ++ [g])).1 <;> rfl

/-! ## The walk -/

/-- Validates items in order. -/
def items (f : Value → Walker Value) : Nat → List Value → Walker (List Value)
  | _, [] => return []
  | i, v :: r => do
    let o ← descend (.index i) (f v)
    let os ← items f (i + 1) r
    return o :: os

/-- Validates entries in order. -/
def entries (f : Value → Walker Value) : List (String × Value) → Walker (List (String × Value))
  | [] => return []
  | (k, v) :: r => do
    let o ← descend (.field k) (f v)
    let os ← entries f r
    return (k, o) :: os

mutual

/-- Validates a value against a type, at the path at hand. -/
def walk (expand : String → Value → Walker Value) : Schema → Value → Walker Value
  | .primitive k, v =>
    match coerce k v with
    | .ok o => return o
    | .error x => fail (.ofCoerce x)
  | .literal ms, v =>
    match Validate.literal v ms with
    | some o => return o
    | none => fail (.literal ms v)
  | .nullable t, v => if v.isNull then return .null else walk expand t v
  | .union ts, v => walkBranches expand none ts v
  | .array t, v =>
    match v with
    | .list xs => return .list (← items (walk expand t) 0 xs)
    | v => fail (.shape "List" v)
  | .record fs extras, v =>
    match v with
    | .record m => do
      let declared ← walkFields expand m fs
      let others ← walkExtras expand (Validate.undeclared fs m) extras
      return .record (Entries.settle (declared ++ others))
    | v => fail (.shape "Record" v)
  | .refined t cs, v => do
    let o ← walk expand t v
    match Validate.broken? o cs with
    | some c => fail (.violated c)
    | none => return o
  | .ref n, v => expand n v

/-- Tries the branches in order, at the path that the branch before has left; `first` is the failure
of the first one. -/
def walkBranches (expand : String → Value → Walker Value) (first : Option Failure) :
    List Schema → Value → Walker Value
  | [], _ => fail (.noBranch first)
  | t :: r, v => do
    match ← attempt (walk expand t v) with
    | .ok o => return o
    | .error x => walkBranches expand (first.or (some x)) r v

/-- Validates the declared fields that are present. -/
def walkFields (expand : String → Value → Walker Value) (m : List (String × Value)) :
    List (Field Schema) → Walker (List (String × Value))
  | [] => return []
  | ⟨n, t, required⟩ :: r =>
    match Entries.find? n m with
    | some v => do
      let o ← descend (.field n) (walk expand t v)
      let os ← walkFields expand m r
      return (n, o) :: os
    | none => if required then fail (.missing n) else walkFields expand m r

/-- Validates the entries that no field declares. -/
def walkExtras (expand : String → Value → Walker Value) (es : List (String × Value)) :
    Extras Schema → Walker (List (String × Value))
  | .closed =>
    match es with
    | [] => return []
    | (k, _) :: _ => fail (.unknown k)
  | .ignored => return []
  | .typed t => entries (walk expand t) es

end

/-- Validates against the type that a name means in a scope. -/
def follow : Nat → Scope → String → Value → Walker Value
  | 0, _, n, _ => fail (.unresolved n)
  | fuel + 1, s, n, v =>
    match s.resolve n with
    | some (t, home) => walk (follow fuel home) t v
    | none => fail (.unresolved n)

/-- Validates a value against a type in a scope. -/
def validateIn (s : Scope) (t : Schema) (v : Value) : Walker Value :=
  walk (follow (s.size * (v.depth + 1)) s) t v

/-! ## Walkers that come back -/

/-- At every path the walker has the outcome, seen from the top, and leaves the path as it was. -/
def Tracks (w : Walker α) (r : Except Failure α) : Prop :=
  ∀ p, runAt w p = (r.mapError (·.under p), p)

variable {w : Walker α} {r : Except Failure α}

theorem tracks_pure (a : α) : Tracks (pure a) (.ok a) := runAt_pure a

theorem tracks_here (k : FailureKind) (message : String) :
    Tracks (fail (.here k message) : Walker α) (.error (.here k message)) := by
  intro p
  rw [runAt_fail]
  simp [Except.mapError, Failure.here, Failure.under]

theorem Tracks.bind {k : α → Walker β} {h : α → Except Failure β} (hw : Tracks w r)
    (hk : ∀ a, Tracks (k a) (h a)) : Tracks (w >>= k) (r >>= h) := by
  intro p
  rw [runAt_bind, hw p]
  cases r with
  | error x => rfl
  | ok a => exact hk a p

theorem Tracks.map (hw : Tracks w r) (f : α → β) : Tracks (do return f (← w)) (r.map f) := by
  intro p
  rw [runAt_bind, hw p]
  cases r <;> rfl

theorem Tracks.descend (hw : Tracks w r) (g : Segment) :
    Tracks (descend g w) (Validate.inside g r) := by
  intro p
  rw [runAt_descend, hw (p ++ [g]), List.dropLast_concat]
  cases r with
  | ok a => rfl
  | error x =>
    show (Except.error (x.under (p ++ [g])), p) = (Except.error ((x.under [g]).under p), p)
    rw [Failure.under_under]

theorem tracks_items {f : Value → Walker Value} {g : Value → Except Failure Value}
    (hf : ∀ v, Tracks (f v) (g v)) (i : Nat) (xs : List Value) :
    Tracks (items f i xs) (Validate.items g i xs) := by
  induction xs generalizing i with
  | nil => exact tracks_pure []
  | cons v r ih =>
    exact ((hf v).descend _).bind fun o => (ih (i + 1)).bind fun os => tracks_pure _

theorem tracks_entries {f : Value → Walker Value} {g : Value → Except Failure Value}
    (hf : ∀ v, Tracks (f v) (g v)) (es : List (String × Value)) :
    Tracks (entries f es) (Validate.entries g es) := by
  induction es with
  | nil => exact tracks_pure []
  | cons e r ih => exact ((hf e.2).descend _).bind fun o => ih.bind fun os => tracks_pure _

section Expand

variable {e' : String → Value → Walker Value} {e : String → Value → Except Failure Value}

theorem noBranch_under (first : Option Failure) (p : Path) :
    { Failure.noBranch (first.map (·.under p)) with path := p } =
      (Failure.noBranch first).under p := by
  cases first with
  | none => simp [Failure.noBranch, Failure.here, Failure.under]
  | some x => simp [Failure.noBranch, Failure.under]

/-- Branches are tried one after the other at the same path, because each leaves it as it was. -/
theorem runAt_walkBranches {ts : List Schema} {v : Value}
    (hts : ∀ t ∈ ts, Tracks (walk e' t v) (Validate.walk e t v)) (first : Option Failure) (p : Path) :
    runAt (walkBranches e' (first.map (·.under p)) ts v) p =
      (((Validate.walkBranches e ts v).mapError fun r => Failure.noBranch (first.or r)).mapError
        (·.under p), p) := by
  induction ts generalizing first with
  | nil =>
    rw [walkBranches, runAt_fail, noBranch_under]
    simp [Except.mapError]
  | cons t r ih =>
    obtain ⟨ht, hr⟩ := List.forall_mem_cons.1 hts
    rw [walkBranches, runAt_bind, runAt_attempt, ht p, Validate.walkBranches_cons]
    cases Validate.walk e t v with
    | ok o => rfl
    | error x =>
      -- from here on there is a first failure, so those of the other branches are not kept
      have hih := ih hr (first.or (some x))
      rw [Option.map_or] at hih
      refine hih.trans ?_
      cases Validate.walkBranches e r v with
      | ok o => rfl
      | error y => simp [Except.mapError]

theorem tracks_walkFields {fs : List (Field Schema)}
    (hfs : ∀ f ∈ fs, ∀ v, Tracks (walk e' f.type v) (Validate.walk e f.type v))
    (m : List (String × Value)) : Tracks (walkFields e' m fs) (Validate.walkFields e m fs) := by
  induction fs with
  | nil => exact tracks_pure []
  | cons f r ih =>
    obtain ⟨hf, hr⟩ := List.forall_mem_cons.1 hfs
    rw [walkFields, Validate.walkFields_cons]
    cases Entries.find? f.name m with
    | some v => exact ((hf v).descend _).bind fun o => (ih hr).bind fun os => tracks_pure _
    | none =>
      cases f.required with
      | true => exact tracks_here _ _
      | false => exact ih hr

theorem tracks_walkExtras {ex : Extras Schema}
    (hex : ∀ t, ex = .typed t → ∀ v, Tracks (walk e' t v) (Validate.walk e t v))
    (es : List (String × Value)) : Tracks (walkExtras e' es ex) (Validate.walkExtras e es ex) := by
  cases ex with
  | closed =>
    cases es with
    | nil => exact tracks_pure []
    | cons en r => exact tracks_here _ _
  | ignored => exact tracks_pure []
  | typed t => exact tracks_entries (hex t rfl) es

/-- **The step**: a walk comes back when the expansion of names does. The induction is on the type. -/
theorem tracks_walk (he : ∀ n v, Tracks (e' n v) (e n v)) (t : Schema) :
    ∀ v, Tracks (walk e' t v) (Validate.walk e t v) := by
  induction t using Schema.ind with
  | _ t part =>
    intro v
    cases t with
    | primitive k =>
      rw [walk, Validate.walk_primitive]
      cases coerce k v with
      | ok o => exact tracks_pure o
      | error x => exact tracks_here _ _
    | literal ms =>
      rw [walk, Validate.walk_literal]
      cases Validate.literal v ms with
      | some o => exact tracks_pure o
      | none => exact tracks_here _ _
    | nullable t =>
      rw [walk, Validate.walk_nullable]
      split
      · exact tracks_pure _
      · exact part t (by simp [Schema.parts]) v
    | union ts =>
      -- failures are kept as seen from the top, so branches are compared for one path at a time
      intro p
      exact runAt_walkBranches (fun t ht => part t ht v) none p
    | array t =>
      cases v with
      | list xs => exact (tracks_items (part t (by simp [Schema.parts])) 0 xs).map Value.list
      | _ => exact tracks_here _ _
    | record fs ex =>
      cases v with
      | record m =>
        have hfs := tracks_walkFields (fun f hf => part f.type (Schema.field_mem_parts hf)) m
        have hex : ∀ es, Tracks (walkExtras e' es ex) (Validate.walkExtras e es ex) :=
          tracks_walkExtras fun t ht => part t (ht ▸ Schema.extras_mem_parts)
        exact hfs.bind fun declared => (hex _).bind fun others => tracks_pure _
      | _ => exact tracks_here _ _
    | refined t cs =>
      refine (part t (by simp [Schema.parts]) v).bind fun o => ?_
      cases Validate.broken? o cs with
      | some c => exact tracks_here _ _
      | none => exact tracks_pure o
    | ref n => exact he n v

end Expand

/-- **The run**: however often names are expanded, a walk comes back. -/
theorem tracks_follow (fuel : Nat) :
    ∀ (s : Scope) (n : String) (v : Value), Tracks (follow fuel s n v) (Validate.follow fuel s n v) := by
  induction fuel with
  | zero => exact fun s n v => tracks_here _ _
  | succ fuel ih =>
    intro s n v
    rw [follow, Validate.follow]
    cases s.resolve n with
    | some r => exact tracks_walk (ih r.2) r.1 v
    | none => exact tracks_here _ _

theorem tracks_validateIn (s : Scope) (t : Schema) (v : Value) :
    Tracks (validateIn s t v) (Conform.validateIn s t v) :=
  tracks_walk (tracks_follow _ s) t v

end Walker

/-! ## Failures of lists and records -/

namespace Validate

/-- **Failures compose, and the first one ends it.** From any path a walker has the outcome that it has
from the top, with the failure and all its causes below the path, and it comes back to the path; from
the top its outcome is that of validation. In a built scope, where types are validated on their own as
they are inside others, a list fails if an item does, with the failure of the first one below its index;
and a record fails with the failure of the first declared field that is required and absent or has a
value that fails, and only if there is none with that of the first entry that no field declares. Without
a scope names are those of a scope that binds nothing. -/
theorem failures_compose (s : Scope) :
    (∀ t v p, (Walker.validateIn s t v).runAt p =
      (((Walker.validateIn s t v).runAt []).1.mapError (·.under p), p)) ∧
    (∀ t v, ((Walker.validateIn s t v).runAt []).1 = validateIn s t v) ∧
    (s.Built → ∀ t xs,
      ((∃ x, validateIn s (.array t) (.list xs) = .error x) ↔
        ∃ u ∈ xs, ∃ y, validateIn s t u = .error y) ∧
      ∀ x, validateIn s (.array t) (.list xs) = .error x ↔
        ∃ i u y, xs[i]? = some u ∧ validateIn s t u = .error y ∧
          (∀ j < i, ∀ w, xs[j]? = some w → ∃ o, validateIn s t w = .ok o) ∧
          y.under [.index i] = x) ∧
    (s.Built → ∀ fs ex m x, validateIn s (.record fs ex) (.record m) = .error x ↔
      First (FieldFails (validateIn s) m) fs x ∨
      (∀ f ∈ fs, ∀ y, ¬ FieldFails (validateIn s) m f y) ∧
        First (ExtraFails (validateIn s) ex) (undeclared fs m) x) ∧
    validate = validateIn .void := by
  have htop : ∀ t v, ((Walker.validateIn s t v).runAt []).1 = validateIn s t v := by
    intro t v
    rw [Walker.tracks_validateIn s t v []]
    cases validateIn s t v with
    | ok o => rfl
    | error x => exact congrArg Except.error x.under_nil
  refine ⟨fun t v p => ?_, htop, fun hs t xs => ?_, fun hs fs ex m x => ?_, ?_⟩
  · rw [htop]
    exact Walker.tracks_validateIn s t v p
  · rw [← walk_ask hs]
    exact ⟨exists_walk_array_error, fun x => walk_array_error_iff⟩
  · rw [← walk_ask hs]
    exact walk_record_error_iff
  · exact funext₂ validate_eq_validateIn

/-- The second of three items is no walk, and the list of them is not because of it; a field that is
absent counts before a key that no field declares; and a walker that starts below an index stays
there. -/
theorem failures_compose_park :
    Builder.park.scope.Built ∧
    (∃ y, validateIn Builder.park.scope (.ref "Walk") (.bool true) = .error y ∧
      validateIn Builder.park.scope (.array (.ref "Walk")) (.list [.null, .bool true, .int 3]) =
        .error (y.under [.index 1]) ∧
      (Walker.validateIn Builder.park.scope (.ref "Walk") (.bool true)).runAt [.index 1] =
        (.error (y.under [.index 1]), [.index 1])) ∧
    validateIn Builder.park.scope (.record [⟨"leaf", .ref "Leaf", true⟩] .closed)
      (.record [("root", .null)]) = .error (.missing "leaf") := by
  obtain ⟨hpath, htop, harray, hrecord, -⟩ := failures_compose Builder.park.scope
  obtain ⟨y, hy⟩ : ∃ y, validateIn Builder.park.scope (.ref "Walk") (.bool true) = .error y := ⟨_, rfl⟩
  refine ⟨Builder.park_built, ⟨y, hy, ?_, ?_⟩, ?_⟩
  · refine ((harray Builder.park_built _ _).2 _).2 ⟨1, .bool true, y, rfl, hy, fun j hj w hw => ?_, rfl⟩
    obtain rfl : j = 0 := by omega
    obtain rfl : .null = w := by simpa using hw
    exact ⟨_, rfl⟩
  · rw [hpath, htop, hy]
    rfl
  · refine (hrecord Builder.park_built _ _ _ _).2 (Or.inl ⟨[], _, [], rfl, by simp, ?_⟩)
    exact .missing rfl (by simp [Entries.keys])

end Validate

end Conform
