import Conform.Files.Disk
import Conform.Files.Glob

/-!
# Looking at files

An action that only looks at files leaves them as they are, and so what it finds depends on the files
alone, however many such actions come before it.

* `found act s`, `left act s`: what an action finds in the files `s`, and the files that it leaves;
* `Looks act`: the action leaves all files as they are;
* `Still σ`: the three ways to look at files of the kind `σ` do so; files in memory are `Still`;
* `bind_apply`, `ok_of_bind`, `found_bind`: what one action after the other finds, in general, when it
  succeeds, and after looking;
* `found_gather`: what is gathered by looking;
* `looks_expand`: matching a pattern only looks.
-/

namespace Conform

section Actions

variable {σ α β : Type}

/-- What an action finds when it is run on files. -/
def found (act : StateM σ α) (s : σ) : α := (act s).1

/-- The files that an action leaves. -/
def left (act : StateM σ α) (s : σ) : σ := (act s).2

/-- The action leaves all files as they are. -/
def Looks (act : StateM σ α) : Prop := ∀ s, left act s = s

@[simp] theorem found_pure (a : α) (s : σ) : found (pure a : StateM σ α) s = a := rfl

theorem looks_pure (a : α) : Looks (pure a : StateM σ α) := fun _ => rfl

/-- One action after the other runs on the files that the first one leaves. -/
theorem bind_apply (act : StateM σ α) (f : α → StateM σ β) (s : σ) :
    found (act >>= f) s = found (f (found act s)) (left act s) ∧
      left (act >>= f) s = left (f (found act s)) (left act s) :=
  ⟨rfl, rfl⟩

/-- One action after the other, the second of which fails whenever the first one does, succeeds only
when both of them do. -/
theorem ok_of_bind {ε τ : Type} {act : StateM σ (Except ε α)} {f : Except ε α → StateM σ (Except τ β)}
    {s : σ} {b : β} (h : found (act >>= f) s = .ok b)
    (hf : ∀ why s, ∃ why', found (f (.error why)) s = .error why') :
    ∃ a, found act s = .ok a ∧ found (f (.ok a)) (left act s) = .ok b ∧
      left (act >>= f) s = left (f (.ok a)) (left act s) := by
  rw [(bind_apply act f s).1] at h
  rw [(bind_apply act f s).2]
  cases hact : found act s with
  | error why =>
    obtain ⟨why', hfail⟩ := hf why (left act s)
    rw [hact, hfail] at h
    cases h
  | ok a =>
    rw [hact] at h
    exact ⟨a, rfl, h, rfl⟩

variable {act : StateM σ α} {f : α → StateM σ β}

theorem found_bind (h : Looks act) (f : α → StateM σ β) (s : σ) :
    found (act >>= f) s = found (f (found act s)) s := by
  rw [(bind_apply act f s).1, h s]

theorem left_bind (h : Looks act) (f : α → StateM σ β) (s : σ) :
    left (act >>= f) s = left (f (found act s)) s := by
  rw [(bind_apply act f s).2, h s]

theorem Looks.bind (h : Looks act) (hf : ∀ a, Looks (f a)) : Looks (act >>= f) := by
  intro s
  rw [left_bind h]
  exact hf _ s

theorem Looks.ite {p : Prop} [Decidable p] {act' : StateM σ α} (h : Looks act) (h' : Looks act') :
    Looks (if p then act else act') := by
  split
  · exact h
  · exact h'

/-- Looking for what an action makes of every item, one after the other. -/
theorem looks_gather {ε : Type} {f : α → StateM σ (Except ε (List β))} {as : List α}
    (hf : ∀ a ∈ as, Looks (f a)) : Looks (gather f as) := by
  induction as with
  | nil => exact looks_pure _
  | cons a as ih =>
    obtain ⟨ha, has⟩ := List.forall_mem_cons.1 hf
    refine ha.bind fun bs => ?_
    cases bs with
    | error e => exact looks_pure _
    | ok bs =>
      refine (ih has).bind fun cs => ?_
      cases cs with
      | error e => exact looks_pure _
      | ok cs => exact looks_pure _

theorem Looks.andThen {ε : Type} {act next : StateM σ (Except ε (List β))} (h : Looks act)
    (h' : Looks next) : Looks (andThen act next) :=
  looks_gather (by simpa using ⟨h, h'⟩)

/-- What is gathered by looking: all results in order, or the first trouble. -/
theorem found_gather {ε : Type} {f : α → StateM σ (Except ε (List β))} (hf : ∀ a, Looks (f a))
    (as : List α) (s : σ) :
    found (gather f as) s = (as.mapM fun a => found (f a) s).map List.flatten := by
  induction as with
  | nil => rfl
  | cons a as ih =>
    unfold gather
    rw [found_bind (hf a), List.mapM_cons]
    cases found (f a) s with
    | error e => rfl
    | ok bs =>
      dsimp only
      rw [found_bind (looks_gather fun a _ => hf a), ih]
      cases as.mapM fun a => found (f a) s with
      | error e => rfl
      | ok css => rfl

end Actions

/-- Looking at files leaves them as they are. -/
class Still (σ : Type) [FileAccess (StateM σ)] : Prop where
  read (path : String) : Looks (FileAccess.read path : StateM σ (Except FileFault Read.Bytes))
  entry? (path : String) : Looks (FileAccess.entry? path : StateM σ (Option Entry))
  list (path : String) : Looks (FileAccess.list path : StateM σ (Except FileFault (List Listed)))

instance : Still Disk := ⟨fun _ _ => rfl, fun _ _ => rfl, fun _ _ => rfl⟩

section Files

variable {σ : Type} [FileAccess (StateM σ)] [Still σ]

theorem looks_readText (path : String) :
    Looks (FileAccess.readText path : StateM σ (Except FileFault String)) :=
  (Still.read path).bind fun _ => looks_pure _

/-! ## Patterns -/

namespace Glob

/-- **The three ways to match parts of a pattern only look**, by induction along the walk. -/
theorem looks_walk (onlyFolders : Bool) :
    (∀ ps path isFolder,
      Looks (inside onlyFolders ps path isFolder : StateM σ (Except Trouble (List String)))) ∧
    (∀ ps path name isFolder,
      Looks (at_ onlyFolders ps path name isFolder : StateM σ (Except Trouble (List String)))) ∧
    (∀ ps path name isFolder,
      Looks (named onlyFolders ps path name isFolder : StateM σ (Except Trouble (List String)))) := by
  apply inside.mutual_induct (m := StateM σ)
    (fun ps path isFolder => Looks (inside onlyFolders ps path isFolder : StateM σ _))
    (fun ps path name isFolder => Looks (at_ onlyFolders ps path name isFolder : StateM σ _))
    (fun ps path name isFolder => Looks (named onlyFolders ps path name isFolder : StateM σ _))
  -- Below a path: nothing is left of the pattern.
  · intro path isFolder
    unfold inside
    exact looks_pure _
  -- A part without wildcards is looked up.
  · intro p rest path isFolder s hp name next ih
    unfold inside
    rw [hp]
    refine (Still.entry? _).bind fun entry => ?_
    exact (looks_pure _).ite ((looks_pure _).ite (ih entry))
  · intro p rest path isFolder hp hfolder
    unfold inside
    rw [hp]
    dsimp only
    rw [if_pos hfolder]
    exact looks_pure _
  · intro p rest path isFolder hp hfolder hlong
    unfold inside
    rw [hp]
    dsimp only
    rw [if_neg hfolder, if_pos hlong]
    exact looks_pure _
  -- A part with wildcards is matched with all that the folder lists.
  · intro p rest path isFolder hp hfolder hlong hpointing hat
    unfold inside
    rw [hp]
    dsimp only
    rw [if_neg hfolder, if_neg hlong]
    refine (Still.list path).bind fun entries => ?_
    cases entries with
    | error why => exact looks_pure _
    | ok entries =>
      refine Looks.andThen (looks_gather fun s _ => ?_) (looks_gather fun e _ => hat e)
      exact (looks_pure _).ite (hpointing s)
  -- At a path: nothing is left of the pattern.
  · intro path name isFolder
    unfold at_
    exact looks_pure _
  -- Only parts for any number of folders are left.
  · intro p rest path name hp rest' hrest hinside
    unfold at_
    rw [if_pos hp]
    dsimp only
    rw [if_pos hrest, if_pos rfl]
    exact (looks_pure _).andThen hinside
  · intro p rest path name isFolder hp rest' hrest hfolder
    unfold at_
    rw [if_pos hp]
    dsimp only
    rw [if_pos hrest, if_neg hfolder]
    exact looks_pure _
  -- Such a part is left out, or takes in the folder.
  · intro p rest path name hp rest' hrest hnamed hinside
    unfold at_
    rw [if_pos hp]
    dsimp only
    rw [if_neg hrest, if_pos rfl]
    exact hnamed.andThen hinside
  · intro p rest path name isFolder hp rest' hrest hfolder hnamed
    unfold at_
    rw [if_pos hp]
    dsimp only
    rw [if_neg hrest, if_neg hfolder]
    exact hnamed
  · intro p rest path name isFolder hp hnamed
    unfold at_
    rw [if_neg hp]
    exact hnamed
  -- By name: nothing is left of the pattern, or the name decides.
  · intro path name isFolder
    unfold named
    exact looks_pure _
  · intro p rest path name isFolder hname hrest
    unfold named
    rw [if_pos hname, if_pos hrest]
    exact looks_pure _
  · intro p rest path name isFolder hname hrest hinside
    unfold named
    rw [if_pos hname, if_neg hrest]
    exact hinside
  · intro p rest path name isFolder hname
    unfold named
    rw [if_neg hname]
    exact looks_pure _

theorem looks_expand (pattern : String) :
    Looks (expand pattern : StateM σ (Except Trouble (List String))) := by
  unfold expand
  dsimp only
  split
  · exact looks_pure _
  · exact looks_pure _
  · exact (looks_walk _).1 _ _ _

end Glob

end Files

end Conform
