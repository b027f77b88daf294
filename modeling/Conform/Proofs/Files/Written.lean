import Conform.Files.Disk
import Conform.Proofs.Entries
import Conform.Proofs.Outcome

/-!
# Reading what was written

Whatever path a file is written to, its parts lead to a folder, and the file gets a name in it. A file
replaces no folder, so the parts lead to the same folder afterwards, and under the name are the bytes
that were written.

* `locate_append`, `locate_insert`: the parts of a path one after the other, and in a tree with a new
  file;
* `place_eq_ok`: where a file is put;
* `read_of_write`: what is read after writing.
-/

namespace Conform

open Entries (find? has put)

namespace Tree

variable {t : Tree}

/-! ## Names from the root down -/

theorem under?_concat (names : List String) (s : String) (t : Tree) :
    under? (names ++ [s]) t = (under? names t).bind (under? [s]) := by
  induction names generalizing t with
  | nil => rfl
  | cons n names ih =>
    cases t with
    | file bytes => rfl
    | folder es =>
      show (find? n es).bind (under? (names ++ [s])) = ((find? n es).bind (under? names)).bind _
      cases find? n es with
      | none => rfl
      | some x => exact ih x

theorem under?_singleton (s : String) (es : List (String × Tree)) :
    under? [s] (.folder es) = find? s es := by
  show (find? s es).bind (under? []) = _
  cases find? s es with
  | none => rfl
  | some x => rfl

/-- The parts of a path lead on from where the parts before them lead. -/
theorem locate_append (q parts rest : List String) :
    t.locate q (parts ++ rest) = t.locate q parts >>= fun q' => t.locate q' rest := by
  induction parts generalizing q with
  | nil => rfl
  | cons s parts ih =>
    simp only [List.cons_append, locate]
    cases t.under? q with
    | none => rfl
    | some y =>
      cases y with
      | file bytes => rfl
      | folder es =>
        dsimp only
        split_ifs
        · exact ih q
        · exact ih q.dropLast
        · exact ih (q ++ [s])
        · rfl

/-! ## The tree with a new file -/

section Insert

variable {x : Tree} {names : List String} {name : String}

/-- The new part stands where it was put. -/
theorem under?_insert {es : List (String × Tree)} (h : t.under? names = some (.folder es)) :
    under? (names ++ [name]) (insert x (names ++ [name]) t) = some x := by
  induction names generalizing t with
  | nil =>
    obtain rfl : t = .folder es := by simpa [under?] using h
    simp [insert, under?, Entries.find?_put]
  | cons s names ih =>
    cases t with
    | file bytes => simp [under?] at h
    | folder es' =>
      obtain ⟨t', ht', h⟩ := Option.bind_eq_some_iff.1 h
      simpa [insert, under?, Entries.find?_put, ht'] using ih h

/-- Where nothing or a file is replaced, every folder is still there with all its names. -/
theorem exists_folder_insert {path q : List String} {es : List (String × Tree)}
    (hpath : ∀ es, t.under? path ≠ some (.folder es)) (hq : t.under? q = some (.folder es)) :
    ∃ es', under? q (insert x path t) = some (.folder es') ∧ ∀ s, has s es → has s es' := by
  induction path generalizing t q with
  | nil =>
    cases t with
    | file bytes => cases q <;> simp [under?] at hq
    | folder es' => exact absurd rfl (hpath es')
  | cons n path ih =>
    cases t with
    | file bytes => cases q <;> simp [under?] at hq
    | folder es₀ =>
      cases q with
      | nil =>
        obtain rfl : es₀ = es := by simpa [under?] using hq
        refine ⟨_, rfl, fun s hs => ?_⟩
        rw [Entries.has_iff_mem_keys] at hs ⊢
        rw [Entries.keys_put]
        split
        · exact hs
        · exact List.mem_append_left _ hs
      | cons m q =>
        obtain ⟨t', ht', hinner⟩ := Option.bind_eq_some_iff.1 hq
        by_cases hne : n = m
        · subst hne
          have hpath' : ∀ es, t'.under? path ≠ some (.folder es) := by
            intro es h
            exact hpath es (by simpa [under?, ht'] using h)
          simpa [insert, under?, Entries.find?_put, ht'] using ih hpath' hinner
        · refine ⟨es, ?_, fun s hs => hs⟩
          simpa [insert, under?, Entries.find?_put, hne, ht'] using hinner

/-- **A new file stands in no other file's way**: parts of a path lead to the same names as before. -/
theorem locate_insert {path q q' : List String} {parts : List String}
    (hpath : ∀ es, t.under? path ≠ some (.folder es)) (hloc : t.locate q parts = .ok q') :
    (insert x path t).locate q parts = .ok q' := by
  induction parts generalizing q with
  | nil => exact hloc
  | cons s parts ih =>
    unfold locate at hloc ⊢
    cases hq : t.under? q with
    | none => simp [hq] at hloc
    | some y =>
      cases y with
      | file bytes => simp [hq] at hloc
      | folder es =>
        obtain ⟨es', hq', hnames⟩ := exists_folder_insert (x := x) hpath hq
        simp only [hq, hq'] at hloc ⊢
        by_cases htrivial : Files.trivialPart s
        · rw [if_pos htrivial] at hloc ⊢
          exact ih hloc
        · rw [if_neg htrivial] at hloc ⊢
          by_cases hup : s = ".."
          · rw [if_pos hup] at hloc ⊢
            exact ih hloc
          · rw [if_neg hup] at hloc ⊢
            cases hs : has s es with
            | false => simp [hs] at hloc
            | true =>
              rw [if_pos (hnames s hs)]
              rw [if_pos hs] at hloc
              exact ih hloc

/-- The name of a new file leads to it from its folder. -/
theorem locate_name {es : List (String × Tree)} (hname : Disk.pointsAround name = false)
    (hfolder : t.under? names = some (.folder es))
    (hpath : ∀ es, t.under? (names ++ [name]) ≠ some (.folder es)) :
    (insert x (names ++ [name]) t).locate names [name] = .ok (names ++ [name]) := by
  obtain ⟨es', hfolder', -⟩ := exists_folder_insert (x := x) hpath hfolder
  have hnew : under? (names ++ [name]) (insert x (names ++ [name]) t) = some x := under?_insert hfolder
  rw [under?_concat, hfolder'] at hnew
  have hfind : find? name es' = some x := (under?_singleton name es').symm.trans hnew
  have hhas : has name es' = true :=
    (Entries.has_iff_mem_keys name es').2 (Entries.mem_keys_of_find? hfind)
  obtain ⟨htrivial, hup⟩ : Files.trivialPart name = false ∧ name ≠ ".." := by
    simpa [Disk.pointsAround] using hname
  simp [locate, hfolder', htrivial, hup, hhas]

end Insert

end Tree

/-! ## Reading after writing -/

namespace Disk

theorem split_go_ne_nil (seen cs : List Char) : Files.split.go seen cs ≠ [] := by
  induction cs generalizing seen with
  | nil => simp [Files.split.go]
  | cons c cs ih =>
    unfold Files.split.go
    split
    · simp
    · exact ih _

theorem split_eq (path : String) : Files.split path =
    (Files.split path).dropLast ++ [(Files.split path).getLast?.getD ""] := by
  have hne : Files.split path ≠ [] := split_go_ne_nil [] path.toList
  rw [List.getLast?_eq_some_getLast hne, Option.getD_some, List.dropLast_append_getLast]

/-- **Where a file is put**: in a folder that the parts lead to, under a name that nothing stands in the
way of. -/
theorem place_eq_ok {x : Tree} {blocks : Tree → Option FileFault} {start folder : List String}
    {name : String} {d d' : Disk} (h : place x blocks start folder name d = .ok d') :
    ∃ names es, d.root.locate start folder = .ok names ∧ d.root.under? names = some (.folder es) ∧
      (find? name es).bind blocks = none ∧
      d' = ⟨Tree.insert x (names ++ [name]) d.root, d.here⟩ := by
  obtain ⟨names, hloc, h⟩ := Outcome.bind_eq_ok.1 h
  cases hfolder : d.root.under? names with
  | none => simp [hfolder] at h
  | some y =>
    cases y with
    | file bytes => simp [hfolder] at h
    | folder es =>
      simp only [hfolder] at h
      cases hfree : (find? name es).bind blocks with
      | some why => simp [hfree] at h
      | none =>
        simp only [hfree, Except.ok.injEq] at h
        exact ⟨names, es, hloc, hfolder, hfree, h.symm⟩

/-- The parts of a path lead to what was put there, unless it took the place of a folder. -/
theorem locate_of_place {x : Tree} {blocks : Tree → Option FileFault} {start folder : List String}
    {name : String} {d d' : Disk} (hname : pointsAround name = false)
    (hblocks : ∀ es, blocks (.folder es) ≠ none)
    (h : place x blocks start folder name d = .ok d') :
    ∃ names, d'.root.locate start (folder ++ [name]) = .ok names ∧
      d'.root.under? names = some x ∧ d'.here = d.here := by
  obtain ⟨names, es, hloc, hfolder, hfree, rfl⟩ := place_eq_ok h
  have hpath : ∀ es', d.root.under? (names ++ [name]) ≠ some (.folder es') := by
    intro es' hes'
    rw [Tree.under?_concat, hfolder] at hes'
    have hfind : find? name es = some (.folder es') := (Tree.under?_singleton name es).symm.trans hes'
    rw [hfind] at hfree
    exact hblocks es' hfree
  refine ⟨names ++ [name], ?_, Tree.under?_insert hfolder, rfl⟩
  show (Tree.insert x (names ++ [name]) d.root).locate start (folder ++ [name]) = _
  rw [Tree.locate_append, Tree.locate_insert hpath hloc]
  exact Tree.locate_name hname hfolder hpath

/-- **What is read after writing** is what was written, whatever the path is. -/
theorem read_of_write {d d' : Disk} {path : String} {bytes : Read.Bytes}
    (h : d.write path bytes = .ok d') : d'.read path = .ok bytes := by
  unfold write at h
  split at h
  · cases h
  · rename_i hempty
    dsimp only at h
    split at h
    · simp [Outcome.bind_eq_ok] at h
    · rename_i hname
      obtain ⟨names, hloc, hfile, hhere⟩ :=
        locate_of_place (by simpa using hname) (by simp [blocksFile]) h
      rw [← split_eq path] at hloc
      have hstart : d'.start path = d.start path := by
        unfold start
        rw [hhere]
      have hat : d'.at? path = .ok (.file bytes) := by
        unfold at?
        rw [if_neg hempty, hstart, hloc]
        simp only [bind, Except.bind, hfile]
      rw [read, hat]
      rfl

end Disk

end Conform
