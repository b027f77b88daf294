import Conform.Files.Basic
import Conform.Files.Path

/-!
# Glob patterns

A pattern is matched part by part against the names in folders. A question mark stands for one
character, a star for any run, brackets for one of a set, and two stars alone in a part for any
number of folders. The matches come sorted by name within each folder, a folder before what stands
in it. A walk ends because the parts of the pattern get fewer or the path gets longer, and there is a
limit to the paths of folders that can be listed.
-/

namespace Conform.Glob

/-- A set of characters in brackets. -/
inductive Range where
  | single (c : Char)
  | between (lo hi : Char)

/-- Is the character in the set? -/
def Range.has : Range → Char → Bool
  | .single a, c => c = a
  | .between lo hi, c => lo ≤ c && c ≤ hi

/-- A piece of a pattern. -/
inductive Piece where
  | char (c : Char)
  | any
  | run
  | folders
  | within (s : List Range)
  | except (s : List Range)

/-- Why a text is no pattern, with the place of the character. -/
inductive Fault where
  | stars (place : Nat)
  | foldersMixed (place : Nat)
  | range (place : Nat)

/-- The wording of a fault. -/
def Fault.message : Fault → String
  | .stars n =>
    "Pattern syntax error near position " ++ toString n ++
      ": wildcards are either regular `*` or recursive `**`"
  | .foldersMixed n =>
    "Pattern syntax error near position " ++ toString n ++
      ": recursive wildcards must form a single path component"
  | .range n => "Pattern syntax error near position " ++ toString n ++ ": invalid range pattern"

/-- The sets that the inside of brackets names. -/
def ranges : List Char → List Range
  | a :: '-' :: b :: r => .between a b :: ranges r
  | a :: r => .single a :: ranges r
  | [] => []

/-- Cuts at the first closing bracket that is not the first character. -/
def closing? : List Char → Option (List Char × List Char)
  | [] => none
  | c :: r =>
    match r.dropWhile (· ≠ ']') with
    | _ :: rest => some (c :: r.takeWhile (· ≠ ']'), rest)
    | [] => none

/-- The pieces of a pattern from the place `i` on; `before` is the character in front. -/
def pieces : Nat → Nat → Option Char → List Char → Except Fault (List Piece)
  | 0, _, _, _ => .ok []
  | _ + 1, _, _, [] => .ok []
  | n + 1, i, before, c :: r =>
    if c = '?' then (.any :: ·) <$> pieces n (i + 1) (some c) r
    else if c = '*' then
      let stars := (c :: r).takeWhile (· = '*')
      let rest := (c :: r).dropWhile (· = '*')
      if stars.length = 1 then (.run :: ·) <$> pieces n (i + 1) (some c) rest
      else if 2 < stars.length then .error (.stars (i + 2))
      else if before.isSome && before != some '/' then .error (.foldersMixed (i - 1))
      else
        match rest with
        | [] => .ok [.folders]
        | d :: rest =>
          if d = '/' then (.folders :: ·) <$> pieces n (i + 3) (some d) rest
          else .error (.foldersMixed (i + 2))
    else if c = '[' then
      let (negated, inside) := match r with
        | '!' :: q => (true, q)
        | q => (false, q)
      match closing? inside with
      | some (set, rest) =>
        let next := i + (r.length + 1 - rest.length)
        ((if negated then .except (ranges set) else .within (ranges set)) :: ·) <$>
          pieces n next (some ']') rest
      | none => .error (.range i)
    else (.char c :: ·) <$> pieces n (i + 1) (some c) r

/-- The pieces of a pattern. -/
def parse (s : String) : Except Fault (List Piece) := pieces (s.length + 1) 0 none s.toList

/-- Does a name match the pieces? -/
def nameMatches : List Piece → List Char → Bool
  | [], cs => cs.isEmpty
  | .run :: ps, cs | .folders :: ps, cs => anyTail ps cs
  | _ :: _, [] => false
  | .char a :: ps, c :: r => c = a && nameMatches ps r
  | .any :: ps, _ :: r => nameMatches ps r
  | .within s :: ps, c :: r => s.any (·.has c) && nameMatches ps r
  | .except s :: ps, c :: r => !s.any (·.has c) && nameMatches ps r
where
  /-- Does any rest of the name match? -/
  anyTail (ps : List Piece) : List Char → Bool
    | [] => nameMatches ps []
    | c :: r => nameMatches ps (c :: r) || anyTail ps r

/-- The name that pieces spell, when all of them are characters. -/
def literal? : List Piece → Option (List Char)
  | [] => some []
  | .char c :: ps => (c :: ·) <$> literal? ps
  | _ :: _ => none

/-- The names of the folder itself and of the one around it, as far as pieces with a point in front match
them. -/
def pointing (p : List Piece) : List String :=
  match p with
  | .char '.' :: _ => ["..", "."].filter fun s => nameMatches p s.toList
  | _ => []

/-- Do the pieces stand for any number of folders? -/
def isFolders : List Piece → Bool
  | [] => false
  | .folders :: _ => true
  | _ :: ps => isFolders ps

/-- Does a text hold a character that makes it a pattern? -/
def isPattern (s : String) : Bool := s.toList.any (· ∈ ['*', '?', '[', '\x7b'])

/-- Why a pattern has no list of matches. -/
inductive Trouble where
  | invalid (why : Fault)
  /-- A folder on the way could not be listed. -/
  | unread (folder : String) (why : FileFault)

/-- The wording of a trouble. -/
def Trouble.message : Trouble → String
  | .invalid why => why.message
  | .unread d why => "attempting to read `" ++ d ++ "` resulted in an error: " ++ why.message

/-! ## Paths on the way -/

/-- A path below another; below the working folder it is the name alone. -/
def below (path name : String) : String := if path = "." then name else Files.join path name

/-- The bytes of a path, where that of the working folder has none. -/
def extent (path : String) : Nat := if path = "." then 0 else path.utf8ByteSize

theorem utf8ByteSize_join (path part : String) :
    path.utf8ByteSize + part.utf8ByteSize ≤ (Files.join path part).utf8ByteSize := by
  unfold Files.join
  split
  · exact Nat.le_of_eq String.utf8ByteSize_append.symm
  · rw [String.utf8ByteSize_append, String.utf8ByteSize_append]
    omega

/-- A path with one more part is a point only where the path was empty or the point itself. -/
theorem eq_of_join_eq_point {path part : String} (h : Files.join path part = ".") :
    path = "" ∧ part = "." ∨ path = "." := by
  have hjoin : path.utf8ByteSize + part.utf8ByteSize ≤ (".": String).utf8ByteSize := by
    rw [← h]
    exact utf8ByteSize_join path part
  have hpoint : (".": String).utf8ByteSize = 1 := rfl
  by_cases hpath : path = ""
  · subst hpath
    exact Or.inl ⟨rfl, by simpa [Files.join] using h⟩
  · have hpos : path.utf8ByteSize ≠ 0 := mt String.utf8ByteSize_eq_zero_iff.1 hpath
    obtain rfl : part = "" := String.utf8ByteSize_eq_zero_iff.1 (by omega)
    right
    unfold Files.join at h
    split at h
    · simpa using h
    · have hsize := congrArg String.utf8ByteSize h
      have hslash : ("/" : String).utf8ByteSize = 1 := rfl
      simp only [String.utf8ByteSize_append] at hsize
      omega

theorem extent_of_ne {path : String} (h : path ≠ ".") : extent path = path.utf8ByteSize := if_neg h

/-- A path does not get shorter by one more part. -/
theorem extent_le_join (path part : String) : extent path ≤ extent (Files.join path part) := by
  by_cases hpath : path = "."
  · rw [hpath]
    exact Nat.zero_le _
  · rw [extent_of_ne hpath]
    by_cases hpoint : Files.join path part = "."
    · rcases eq_of_join_eq_point hpoint with ⟨rfl, -⟩ | h
      · exact Nat.zero_le _
      · exact absurd h hpath
    · have hjoin := utf8ByteSize_join path part
      rw [extent_of_ne hpoint]
      omega

theorem extent_le_below (path part : String) : extent path ≤ extent (below path part) := by
  unfold below
  split
  · rename_i hpath
    rw [hpath]
    exact Nat.zero_le _
  · exact extent_le_join path part

/-- A path gets longer by a name. -/
theorem extent_lt_below (path : String) {name : String} (h : Files.isName name) :
    extent path < extent (below path name) := by
  obtain ⟨⟨⟨hne, hpoint⟩, -⟩, -⟩ : ((name ≠ "" ∧ name ≠ ".") ∧ name ≠ "..") ∧ _ := by
    simpa [Files.isName] using h
  have hname : name.utf8ByteSize ≠ 0 := mt String.utf8ByteSize_eq_zero_iff.1 hne
  unfold below
  split
  · rename_i hpath
    rw [hpath, extent_of_ne hpoint]
    exact Nat.pos_of_ne_zero hname
  · rename_i hpath
    have hjoin := utf8ByteSize_join path name
    have hpoint' : Files.join path name ≠ "." := fun h =>
      (eq_of_join_eq_point h).elim (fun h => hpoint h.2) hpath
    rw [extent_of_ne hpath, extent_of_ne hpoint']
    omega

/-- What is left of a walk: the parts to be matched, and the bytes by which the path may still grow. -/
def remaining (longest : Nat) (ps : List (List Piece)) (path : String) : Nat :=
  ps.length + (longest + 1 - extent path)

section Remaining

variable (longest : Nat) (ps : List (List Piece)) {path : String}

/-- Less is left with one part less. -/
theorem remaining_lt (p : List Piece) {next : String} (h : extent path ≤ extent next) :
    remaining longest ps next < remaining longest (p :: ps) path := by
  unfold remaining
  rw [List.length_cons]
  omega

/-- Less is left below a path that may still grow. -/
theorem remaining_below (e : Listed) (h : ¬ longest < extent path) :
    remaining longest ps (below path e.name) < remaining longest ps path := by
  have hlt := extent_lt_below path e.isName
  unfold remaining
  omega

end Remaining

/-! ## Matches -/

section Matches

variable {m : Type → Type} [Monad m] [FileAccess m]

mutual

/-- The matches of the parts below a path. -/
def inside (onlyFolders : Bool) :
    List (List Piece) → String → Bool → m (Except Trouble (List String))
  | [], _, _ => return .ok []
  | p :: rest, path, isFolder =>
    match literal? p with
    | some s => do
      let name := String.ofList s
      let next := below path name
      let entry ← FileAccess.entry? next
      let there := if name = "." || name = ".." then isFolder else entry.isSome
      if !there then return .ok []
      let folder := entry == some .folder
      if rest.isEmpty then return .ok (if onlyFolders && !folder then [] else [next])
      inside onlyFolders rest next folder
    | none => do
      if !isFolder then return .ok []
      if FileAccess.longest m < extent path then return .error (.unread path .tooLong)
      else
        match ← FileAccess.list path with
        | .error why => return .error (.unread path why)
        | .ok entries =>
          andThen
            (gather (fun s => do
              let next := Files.join path s
              if rest.isEmpty then return .ok [next] else inside onlyFolders rest next true)
              (pointing p))
            (gather (fun (e : Listed) =>
              at_ onlyFolders (p :: rest) (below path e.name) e.name (e.entry == .folder))
              (entries.mergeSort (·.name ≤ ·.name)))
termination_by ps path => 3 * remaining (FileAccess.longest m) ps path
decreasing_by
  · exact Nat.mul_lt_mul_of_pos_left (remaining_lt _ rest p (extent_le_below path _)) (by decide)
  · exact Nat.mul_lt_mul_of_pos_left (remaining_lt _ rest p (extent_le_join path _)) (by decide)
  · have hlong : ¬ FileAccess.longest m < extent path := by assumption
    have hlt := remaining_below _ (p :: rest) e hlong
    omega

/-- The matches of the parts at a path that has the name `name`. -/
def at_ (onlyFolders : Bool) :
    List (List Piece) → String → String → Bool → m (Except Trouble (List String))
  | [], _, _, _ => return .ok []
  | p :: rest, path, name, isFolder =>
    if isFolders p then
      let rest' := rest.dropWhile isFolders
      if rest'.isEmpty then
        if isFolder then andThen (return .ok [path]) (inside onlyFolders [p] path true)
        else return .ok []
      else if isFolder then
        andThen (named onlyFolders rest' path name true) (inside onlyFolders (p :: rest') path true)
      else named onlyFolders rest' path name false
    else named onlyFolders (p :: rest) path name isFolder
termination_by ps path => 3 * remaining (FileAccess.longest m) ps path + 2
decreasing_by
  all_goals
    have hle := (List.dropWhile_sublist (l := rest) isFolders).length_le
    unfold remaining
    simp only [List.length_cons, List.length_nil]
    omega

/-- The matches at a path whose name must match the first part. -/
def named (onlyFolders : Bool) :
    List (List Piece) → String → String → Bool → m (Except Trouble (List String))
  | [], _, _, _ => return .ok []
  | p :: rest, path, name, isFolder =>
    if nameMatches p name.toList then
      if rest.isEmpty then return .ok (if onlyFolders && !isFolder then [] else [path])
      else inside onlyFolders rest path isFolder
    else return .ok []
termination_by ps path => 3 * remaining (FileAccess.longest m) ps path + 1
decreasing_by
  have hlt := remaining_lt (FileAccess.longest m) rest p (Nat.le_refl (extent path))
  omega

end

/-- The parts of a pattern, without the empty one after a final slash. -/
def parts (s : String) : List String :=
  let ps := Files.split s
  if s.endsWith "/" then ps.dropLast else ps

/-- The paths that match a pattern, in order; a slash in front starts at the root of all folders. -/
def expand (pattern : String) : m (Except Trouble (List String)) :=
  let fromRoot := pattern.startsWith "/"
  match parse pattern, (if fromRoot then (parts pattern).drop 1 else parts pattern).mapM parse with
  | .error why, _ | _, .error why => return .error (.invalid why)
  | .ok _, .ok ps => inside (pattern.endsWith "/") ps (if fromRoot then "/" else ".") true

end Matches
end Conform.Glob
