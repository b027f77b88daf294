import Conform.Proofs.Command.Loading
import Conform.Proofs.Files.Written
import Conform.Proofs.Json.OneLine

/-!
# The output of a check

A check that has its documents writes the canonical forms of the valid ones, in order, and reports the
others, each once and in order. With one document a line the output is read back line by line, since
no text of a document holds the end of a line. What is written to a file is read back there if the file
stores its bytes; files in memory do, at any path.

* `lines_texts`: texts without controls, one a line, are read back line by line;
* `canonical`, `rejected`: the canonical forms of the valid documents, and the failures of the others;
* `Stores`: a file that gives back what is written to it; `stores_disk`: those in memory do;
* `Ended`: how a check ends that has its documents and writes without a fault;
* `output_exact`: the main statement.
-/

namespace Conform.Command

/-! ## Texts one a line -/

section Lines

variable {l : List Char}

theorem linesGo_append (h : '\n' ∉ l) (seen rest : List Char) :
    lines.go seen (l ++ rest) = lines.go (l.reverse ++ seen) rest := by
  induction l generalizing seen with
  | nil => rfl
  | cons c l ih =>
    obtain ⟨hc, hl⟩ : ¬ '\n' = c ∧ '\n' ∉ l := by simpa using h
    have hstep : lines.go seen (c :: (l ++ rest)) = lines.go (c :: seen) (l ++ rest) := by
      conv_lhs => unfold lines.go
      exact if_neg fun e => hc e.symm
    rw [List.cons_append, hstep, ih hl]
    simp

/-- A line that ends with a line feed, without a carriage return in front of it. -/
theorem linesGo_line (h : '\n' ∉ l) (hreturn : '\r' ∉ l) (rest : List Char) :
    lines.go [] (l ++ '\n' :: rest) = String.ofList l :: lines.go [] rest := by
  rw [linesGo_append h, List.append_nil]
  conv_lhs => unfold lines.go
  rw [if_pos rfl]
  dsimp only
  split
  · rename_i q hq
    exact absurd (List.mem_reverse.1 (hq ▸ List.mem_cons_self)) hreturn
  · rw [List.reverse_reverse]

/-- The last line, without an end of line behind it. -/
theorem linesGo_last (h : '\n' ∉ l) (hne : l ≠ []) : lines.go [] l = [String.ofList l] := by
  have hgo := linesGo_append h [] []
  rw [List.append_nil] at hgo
  rw [hgo, lines.go]
  simp [hne]

end Lines

/-- A text without controls holds no end of line. -/
theorem notMem_of_noControls {s : String} (h : NoControls s) : '\n' ∉ s.toList ∧ '\r' ∉ s.toList := by
  constructor
  · intro hmem
    exact absurd (h _ hmem) (by decide)
  · intro hmem
    exact absurd (h _ hmem) (by decide)

/-- **Texts one a line are read back**, with an end of line behind the last one or without. -/
theorem lines_texts {ts : List String} (hts : ∀ t ∈ ts, t ≠ "" ∧ NoControls t) (hne : ts ≠ []) :
    lines ("\n".intercalate ts) = ts ∧ lines ("\n".intercalate ts ++ "\n") = ts := by
  have hend : ("\n" : String).toList = ['\n'] := rfl
  induction ts with
  | nil => exact absurd rfl hne
  | cons t ts ih =>
    obtain ⟨⟨htext, hplain⟩, hrest⟩ := List.forall_mem_cons.1 hts
    obtain ⟨hfeed, hreturn⟩ := notMem_of_noControls hplain
    have hchars : t.toList ≠ [] := fun e => htext (String.toList_eq_nil_iff.1 e)
    unfold lines at ih ⊢
    cases ts with
    | nil =>
      rw [String.intercalate_singleton, String.toList_append, hend]
      rw [linesGo_last hfeed hchars, linesGo_line hfeed hreturn [], String.ofList_toList]
      exact ⟨rfl, rfl⟩
    | cons u us =>
      obtain ⟨hplainEnd, hfeedEnd⟩ := ih hrest (List.cons_ne_nil u us)
      rw [String.intercalate_cons_cons]
      simp only [String.toList_append, hend, List.append_assoc, List.cons_append,
        List.nil_append] at hfeedEnd ⊢
      rw [linesGo_line hfeed hreturn, linesGo_line hfeed hreturn, String.ofList_toList, hplainEnd,
        hfeedEnd]
      exact ⟨rfl, rfl⟩

/-! ## Valid and rejected documents -/

/-- The canonical forms of the valid documents, in order. -/
def canonical (v : Validator) (docs : List Document) : List Json :=
  docs.filterMap fun d => (v.validateJson d.value).toOption

/-- The labels of the documents that are not valid, each with its failure, in order. -/
def rejected (v : Validator) (docs : List Document) : List (String × Failure) :=
  docs.filterMap fun d => (Outcome.error? (v.validateJson d.value)).map (d.label, ·)

/-- The lines that report a failure under a label. -/
def reportText (label : String) (f : Failure) : String :=
  "✗ " ++ label ++ " " ++ f.text ++ "\n" ++
    String.join (f.causes.map fun f => "    caused by: " ++ f.text ++ "\n")

section Results

variable (v : Validator) (docs : List Document)

theorem canonical_cons (d : Document) :
    canonical v (d :: docs) = (v.validateJson d.value).toOption.toList ++ canonical v docs := by
  unfold canonical
  rw [List.filterMap_cons]
  cases (v.validateJson d.value).toOption <;> rfl

theorem rejected_cons (d : Document) : rejected v (d :: docs) =
    ((Outcome.error? (v.validateJson d.value)).map (d.label, ·)).toList ++ rejected v docs := by
  unfold rejected
  rw [List.filterMap_cons]
  cases (Outcome.error? (v.validateJson d.value)).map (d.label, ·) <;> rfl

theorem filterMap_valid? : (checkAll v docs).filterMap Checked.valid? = canonical v docs := by
  unfold checkAll canonical
  rw [List.filterMap_map]
  refine List.filterMap_congr fun d _ => ?_
  show Checked.valid? ⟨d.label, v.validateJson d.value⟩ = _
  unfold Checked.valid?
  cases v.validateJson d.value <;> rfl

/-- The reports are those of the rejected documents. -/
theorem reports_checkAll : reports (checkAll v docs) =
    String.join ((rejected v docs).map fun e => reportText e.1 e.2) := by
  induction docs with
  | nil => rfl
  | cons d docs ih =>
    have hcons : reports (checkAll v (d :: docs)) =
        Checked.report ⟨d.label, v.validateJson d.value⟩ ++ reports (checkAll v docs) :=
      String.join_cons
    rw [hcons, ih, rejected_cons]
    unfold Checked.report
    cases v.validateJson d.value with
    | ok j => simp [Outcome.error?]
    | error f => simp [Outcome.error?, reportText]

/-- Every document is valid or rejected. -/
theorem length_canonical_add : (canonical v docs).length + (rejected v docs).length = docs.length := by
  induction docs with
  | nil => rfl
  | cons d docs ih =>
    rw [canonical_cons, rejected_cons, List.length_append, List.length_append, List.length_cons]
    cases v.validateJson d.value with
    | ok j =>
      simp only [Except.toOption, Outcome.error?, Option.map_none, Option.toList, List.length_cons,
        List.length_nil]
      omega
    | error f =>
      simp only [Except.toOption, Outcome.error?, Option.map_some, Option.toList, List.length_cons,
        List.length_nil]
      omega

/-- No document is rejected when all are valid, and not otherwise. -/
theorem length_canonical_eq_iff : (canonical v docs).length = docs.length ↔
    ∀ d ∈ docs, ∃ j, v.validateJson d.value = .ok j := by
  have hsum := length_canonical_add v docs
  have hnone : rejected v docs = [] ↔ ∀ d ∈ docs, ∃ j, v.validateJson d.value = .ok j := by
    simp [rejected, Outcome.error?_eq_none]
  rw [← hnone, ← List.length_eq_zero_iff]
  omega

end Results

/-! ## How a check ends -/

/-- The canonical forms of the valid documents as they are written, without an end of line behind the
last one. -/
def outputText (c : Check) (v : Validator) (docs : List Document) : String :=
  "\n".intercalate ((canonical v docs).map (render c.sources.lines))

section Output

variable {c : Check} {v : Validator} {docs : List Document}

theorem output_checkAll : output c.sources.lines (checkAll v docs) = outputText c v docs := by
  rw [output, filterMap_valid?, outputText]

theorem render_ne_empty (oneLine : Bool) (j : Json) : render oneLine j ≠ "" := by
  cases oneLine with
  | true => exact j.compact_ne_empty
  | false => exact j.pretty_ne_empty

/-- The output is empty when no document is valid, and not otherwise. -/
theorem outputText_eq_empty_iff : outputText c v docs = "" ↔ canonical v docs = [] := by
  unfold outputText
  cases canonical v docs with
  | nil => simp
  | cons j js =>
    cases js with
    | nil => simp [render_ne_empty]
    | cons k js => simp [String.intercalate_cons_cons]

/-- **One document a line** is read back line by line, with an end of line behind the last one or
without. -/
theorem lines_outputText (hlines : c.sources.lines = true) (hne : canonical v docs ≠ []) :
    lines (outputText c v docs) = (canonical v docs).map Json.compact ∧
      lines (outputText c v docs ++ "\n") = (canonical v docs).map Json.compact := by
  unfold outputText
  rw [hlines, show render true = Json.compact from rfl]
  refine lines_texts (fun t ht => ?_) (by simpa using hne)
  obtain ⟨j, -, rfl⟩ := List.mem_map.1 ht
  exact ⟨j.compact_ne_empty, j.noControls_compact⟩

end Output

section Ended

variable {σ : Type} [FileAccess (StateM σ)]

/-- The files after the folder of `file` was made. -/
def withFolder (file : String) (s : σ) : σ :=
  match Files.parent? file with
  | none => s
  | some folder => left (FileAccess.makeFolder folder) s

/-- What is written to the file is read back there, as it is from any file that stores its bytes. -/
def Stores (σ : Type) [FileAccess (StateM σ)] (file : String) : Prop :=
  ∀ (bytes : Read.Bytes) (s : σ), found (FileAccess.write file bytes) s = .ok () →
    found (FileAccess.read file) (left (FileAccess.write file bytes) s) = .ok bytes

/-- **How a check ends** that has its documents `docs` and writes without a fault, with the files `s`
before it and the files `s'` after it. -/
structure Ended (c : Check) (v : Validator) (docs : List Document) (s s' : σ) (o : Outcome) : Prop where
  /-- Without a file for it the output is printed, with one end of line, and no file is changed. -/
  printed : c.out = none →
    o.out = (if canonical v docs = [] then "" else outputText c v docs ++ "\n") ∧ s' = s
  /-- With a file for it nothing is printed, and the output is all that is written, after the folder
  of the file was made. -/
  written : ∀ file, c.out = some file → o.out = "" ∧
    found (FileAccess.write file (Read.bytesOf (outputText c v docs))) (withFolder file s) = .ok () ∧
    s' = left (FileAccess.write file (Read.bytesOf (outputText c v docs))) (withFolder file s)
  /-- The file holds the output, if it is one that stores what is written to it. -/
  stored : ∀ file, c.out = some file → Stores σ file →
    found (FileAccess.read file) s' = .ok (Read.bytesOf (outputText c v docs))
  /-- Every rejected document is reported under its label, and the last line counts the others. -/
  reported : o.err = String.join ((rejected v docs).map fun e => reportText e.1 e.2) ++
    (if rejected v docs = [] then "✓ " else "✗ ") ++ toString (canonical v docs).length ++ " of " ++
      toString docs.length ++ " documents valid\n"
  counted : (canonical v docs).length + (rejected v docs).length = docs.length
  /-- The status says whether all documents are valid. -/
  status : o.status = 0 ∧ (∀ d ∈ docs, ∃ j, v.validateJson d.value = .ok j) ∨
    o.status = 1 ∧ ∃ d ∈ docs, ∃ f, v.validateJson d.value = .error f
  /-- One document a line is read back line by line, from the file and from what is printed. -/
  framed : c.sources.lines = true →
    lines (outputText c v docs) = (canonical v docs).map Json.compact ∧
      (c.out = none → lines o.out = (canonical v docs).map Json.compact)
  /-- No such line holds a control character, so there is no other end of a line in it either. -/
  plain : ∀ j ∈ canonical v docs, NoControls j.compact

end Ended

section Finish

variable {σ : Type} [FileAccess (StateM σ)] {c : Check} {v : Validator} {docs : List Document} {s : σ}

/-- What a check says at its end, with the output `out`. -/
def ending (v : Validator) (docs : List Document) (out : String) : Outcome :=
  ⟨if (canonical v docs).length = docs.length then 0 else 1, out,
    String.join ((rejected v docs).map fun e => reportText e.1 e.2) ++
      ((if (canonical v docs).length = docs.length then "✓ " else "✗ ") ++
        toString (canonical v docs).length ++ " of " ++ toString docs.length ++ " documents valid\n")⟩

theorem validCount_checkAll : validCount (checkAll v docs) = (canonical v docs).length := by
  rw [validCount, filterMap_valid?]

theorem length_checkAll : (checkAll v docs).length = docs.length := List.length_map _

theorem summary_checkAll : summary (checkAll v docs) =
    (if (canonical v docs).length = docs.length then "✓ " else "✗ ") ++
      toString (canonical v docs).length ++ " of " ++ toString docs.length ++ " documents valid\n" := by
  rw [summary, validCount_checkAll, length_checkAll]

/-- A check without a file for its output prints it. -/
theorem finish_printed (hout : c.out = none) :
    found (c.finish (checkAll v docs)) s =
        ending v docs (if canonical v docs = [] then "" else outputText c v docs ++ "\n") ∧
      left (c.finish (checkAll v docs)) s = s := by
  have htext : (if (outputText c v docs).isEmpty = true then "" else outputText c v docs ++ "\n") =
      if canonical v docs = [] then "" else outputText c v docs ++ "\n" := by
    simp only [String.isEmpty_iff, outputText_eq_empty_iff]
  unfold Check.finish ending
  rw [hout, output_checkAll, reports_checkAll, summary_checkAll, validCount_checkAll, length_checkAll,
    ← htext]
  exact ⟨rfl, rfl⟩

/-- A check with a file for its output writes it there and prints nothing. -/
theorem finish_written {file : String} (hout : c.out = some file)
    (hwrite : found (writeFile file (outputText c v docs)) s = .ok ()) :
    found (c.finish (checkAll v docs)) s = ending v docs "" ∧
      left (c.finish (checkAll v docs)) s = left (writeFile file (outputText c v docs)) s := by
  unfold Check.finish ending
  rw [hout, output_checkAll, reports_checkAll, summary_checkAll, validCount_checkAll, length_checkAll]
  dsimp only
  rw [(bind_apply _ _ s).1, (bind_apply _ _ s).2, hwrite]
  exact ⟨rfl, rfl⟩

/-- Writing a file ends with the bytes of its text, after the folder was made. -/
theorem writeFile_ok {file text : String} (h : found (writeFile file text) s = .ok ()) :
    found (FileAccess.write file (Read.bytesOf text)) (withFolder file s) = .ok () ∧
      left (writeFile file text) s =
        left (FileAccess.write file (Read.bytesOf text)) (withFolder file s) := by
  unfold writeFile withFolder at *
  cases hparent : Files.parent? file with
  | none =>
    simp only [hparent] at h ⊢
    obtain ⟨⟨⟩, hwritten, -, hleft⟩ := ok_of_bind h fun why s => ⟨_, rfl⟩
    exact ⟨hwritten, hleft⟩
  | some folder =>
    simp only [hparent] at h ⊢
    obtain ⟨⟨⟩, -, hnext, hmade⟩ := ok_of_bind h fun why s => ⟨_, rfl⟩
    obtain ⟨⟨⟩, hwritten, -, hleft⟩ := ok_of_bind hnext fun why s => ⟨_, rfl⟩
    exact ⟨hwritten, hmade.trans hleft⟩

/-- **How a check ends**, from what it says at its end. -/
theorem ended_of_ending {s' : σ} {out : String}
    (hprinted : c.out = none →
      out = (if canonical v docs = [] then "" else outputText c v docs ++ "\n") ∧ s' = s)
    (hwritten : ∀ file, c.out = some file → out = "" ∧
      found (FileAccess.write file (Read.bytesOf (outputText c v docs))) (withFolder file s) = .ok () ∧
      s' = left (FileAccess.write file (Read.bytesOf (outputText c v docs))) (withFolder file s)) :
    Ended c v docs s s' (ending v docs out) := by
  have hsum := length_canonical_add v docs
  have hall : (canonical v docs).length = docs.length ↔ rejected v docs = [] := by
    rw [← List.length_eq_zero_iff]
    omega
  refine ⟨hprinted, hwritten, fun file hfile hstores => ?_, ?_, hsum, ?_, fun hlines => ?_,
    fun j _ => j.noControls_compact⟩
  · obtain ⟨-, hok, rfl⟩ := hwritten file hfile
    exact hstores _ _ hok
  · simp only [ending, hall, String.append_assoc]
  · have hvalid := length_canonical_eq_iff v docs
    by_cases heq : (canonical v docs).length = docs.length
    · exact Or.inl ⟨if_pos heq, hvalid.1 heq⟩
    · refine Or.inr ⟨if_neg heq, ?_⟩
      obtain ⟨d, hd, hnot⟩ : ∃ d ∈ docs, ¬ ∃ j, v.validateJson d.value = .ok j := by
        simpa using mt hvalid.2 heq
      exact ⟨d, hd, Classical.not_not.1 (mt Outcome.not_fails_iff.1 hnot)⟩
  · by_cases hnone : canonical v docs = []
    · have hempty : outputText c v docs = "" := outputText_eq_empty_iff.2 hnone
      refine ⟨by rw [hempty, hnone]; rfl, fun hout => ?_⟩
      obtain ⟨hprint, -⟩ := hprinted hout
      show lines out = _
      rw [hprint, if_pos hnone, hnone]
      rfl
    · obtain ⟨hplain, hended⟩ := lines_outputText hlines hnone
      refine ⟨hplain, fun hout => ?_⟩
      obtain ⟨hprint, -⟩ := hprinted hout
      show lines out = _
      rw [hprint, if_neg hnone, hended]

end Finish

/-- **A check writes exactly the valid documents.** A command line for a check that has its documents
and can write its output, if there is a file for it, ends as `Ended` says: the output holds the
canonical forms of the valid documents, in order; the others are reported, each once and in order; and
the status is 0 when all are valid, and 1 otherwise. -/
theorem output_exact [PatternEngine] [FilterEngine] {σ : Type} [FileAccess (StateM σ)] [Still σ]
    {args : List String} {c : Check} (hline : Line.parse? args = some (.check c)) {s : σ}
    {v : Validator} {docs : List Document} (hload : found c.prepare s = .ok (v, docs))
    (hwrite : ∀ file, c.out = some file → found (writeFile file (outputText c v docs)) s = .ok ()) :
    ∃ o, found (program args) s = some o ∧ Ended c v docs s (left (program args) s) o := by
  rw [found_program hline, left_program hline]
  obtain ⟨hfound, hleft⟩ := run_of_prepared hload
  refine ⟨found c.run s, rfl, ?_⟩
  show Ended c v docs s (left c.run s) (found c.run s)
  rw [hfound, hleft]
  cases hout : c.out with
  | none =>
    obtain ⟨hend, hsame⟩ := finish_printed hout (s := s)
    rw [hend, hsame]
    exact ended_of_ending (fun _ => ⟨rfl, rfl⟩) fun file h => by simp [hout] at h
  | some file =>
    obtain ⟨hend, hsame⟩ := finish_written hout (hwrite file hout)
    obtain ⟨hok, hlast⟩ := writeFile_ok (hwrite file hout)
    rw [hend, hsame]
    refine ended_of_ending (fun h => by simp [hout] at h) fun file' h => ?_
    obtain rfl : file = file' := Option.some.inj (hout.symm.trans h)
    exact ⟨rfl, hok, hlast⟩

/-! ## Files in memory -/

/-- A change of files in memory that succeeds leaves the changed disk. -/
theorem left_change {f : Disk → Except FileFault Disk} {d : Disk}
    (h : found (InMemory.change f) d = .ok ()) : f d = .ok (left (InMemory.change f) d) := by
  unfold found left InMemory.change at *
  cases hf : f d with
  | error why => simp [hf] at h
  | ok d' => rfl

/-- A change of files in memory succeeds with the changed disk. -/
theorem change_of_ok {f : Disk → Except FileFault Disk} {d d' : Disk} (h : f d = .ok d') :
    found (InMemory.change f) d = .ok () ∧ left (InMemory.change f) d = d' := by
  unfold found left InMemory.change
  rw [h]
  exact ⟨rfl, rfl⟩

/-- Writing a file succeeds when its folder can be made and the file can be written then. -/
theorem writeFile_of_ok {file folder text : String} {d d₁ d₂ : Disk}
    (hparent : Files.parent? file = some folder) (hmake : d.makeFolder folder = .ok d₁)
    (hwrite : d₁.write file (Read.bytesOf text) = .ok d₂) : found (writeFile file text) d = .ok () := by
  obtain ⟨hmade, hnext⟩ := change_of_ok (f := (·.makeFolder folder)) hmake
  obtain ⟨hwritten, -⟩ := change_of_ok (f := (·.write file (Read.bytesOf text))) hwrite
  unfold writeFile
  rw [hparent]
  dsimp only [FileAccess.makeFolder, FileAccess.write]
  rw [(bind_apply _ _ d).1, hmade, hnext]
  dsimp only
  rw [(bind_apply _ _ d₁).1, hwritten]
  rfl

/-- **Files in memory store what is written to them**, at any path. -/
theorem stores_disk (file : String) : Stores Disk file := by
  intro bytes d h
  exact Disk.read_of_write (left_change h)

/-! ## An example: ends of lines inside of texts -/

/-- Definitions of words in a folder beside the working folder, and in the working folder a file with
four lines: two words with ends of lines in them, and between them a blank line and a list. -/
def taleFiles : List (String × Tree) := [
  ("shared", .folder [("defs.json", .file (Read.bytesOf (Json.obj [("types", .arr [.obj
    [("name", "Word"), ("type", .obj [("kind", "type_ref"), ("name", "String")])]])]).compact))]),
  ("work", .folder [("in.ndjson", .file (Read.bytesOf "\"a\\nb\"\n\n[]\n\"\\r\"\n"))])]

/-- The disk with these files. -/
def tale : Disk := ⟨.folder taleFiles, ["work"]⟩

/-- Checks the words and prints them, or writes them to a file. -/
def wording (out : Option String) : Check :=
  ⟨"../shared/defs.json", "Word", ⟨["in.ndjson"], true, none, none⟩, out⟩

/-- The command line for `wording`, with the given end. -/
def wordingLine (rest : List String) : List String :=
  ["check", "--defs", "../shared/defs.json", "--type", "Word", "--ndjson", "-i", "in.ndjson"] ++ rest

theorem prepare_wording (out : Option String) :
    ∃ v docs, found (wording out).prepare tale = .ok (v, docs) := by
  have hprepared : (found (wording none).prepare tale).toOption.isSome := by decide +kernel
  obtain ⟨⟨v, docs⟩, hok⟩ := Option.isSome_iff_exists.1 hprepared
  exact ⟨v, docs, Outcome.toOption_eq_some.1 hok⟩

theorem writeFile_tale (text : String) : found (writeFile "/out/words" text) tale = .ok () := by
  have hparent : Files.parent? "/out/words" = some "/out" := by decide +kernel
  have hfolder : Files.split "/out" = ["", "out"] := by decide +kernel
  have hfile : Files.split "/out/words" = ["", "out", "words"] := by decide +kernel
  have hstart : ∀ d : Disk, d.start "/out" = [] ∧ d.start "/out/words" = [] := fun d =>
    ⟨if_pos (by decide +kernel), if_pos (by decide +kernel)⟩
  have hmake : tale.makeFolder "/out" =
      .ok ⟨.folder (taleFiles ++ [("out", .folder [])]), ["work"]⟩ := by
    unfold Disk.makeFolder
    rw [hfolder, (hstart tale).1]
    rfl
  have hwrite : Disk.write "/out/words" (Read.bytesOf text)
      ⟨.folder (taleFiles ++ [("out", .folder [])]), ["work"]⟩ =
        .ok ⟨.folder (taleFiles ++ [("out", .folder [("words", .file (Read.bytesOf text))])]),
          ["work"]⟩ := by
    unfold Disk.write
    rw [if_neg (by decide +kernel), hfile, (hstart _).2]
    rfl
  exact writeFile_of_ok hparent hmake hwrite

/-- Printed or written to a file in a new folder, there is a line for each of the two words, whose ends
of lines are escaped; the list is reported, and the status is 1. -/
theorem output_exact_tale :
    (∃ v docs o, found (program (wordingLine [])) tale = some o ∧
      Ended (wording none) v docs tale (left (program (wordingLine [])) tale) o ∧
      o.status = 1 ∧ o.out = "\"a\\nb\"\n\"\\r\"\n") ∧
    ∃ v docs o, found (program (wordingLine ["-o", "/out/words"])) tale = some o ∧
      Ended (wording (some "/out/words")) v docs tale
        (left (program (wordingLine ["-o", "/out/words"])) tale) o ∧
      (left (program (wordingLine ["-o", "/out/words"])) tale).read "/out/words" =
        .ok (Read.bytesOf "\"a\\nb\"\n\"\\r\"") := by
  constructor
  · have hline : Line.parse? (wordingLine []) = some (.check (wording none)) := rfl
    have hends : (found (program (wordingLine [])) tale).map (fun o => (o.status, o.out)) =
        some (1, "\"a\\nb\"\n\"\\r\"\n") := by decide +kernel
    obtain ⟨v, docs, hload⟩ := prepare_wording none
    obtain ⟨o, hrun, hended⟩ := output_exact hline hload fun file h => by simp [wording] at h
    rw [hrun] at hends
    obtain ⟨hstatus, hout⟩ := Prod.mk.inj (Option.some.inj hends)
    exact ⟨v, docs, o, hrun, hended, hstatus, hout⟩
  · have hline : Line.parse? (wordingLine ["-o", "/out/words"]) =
        some (.check (wording (some "/out/words"))) := rfl
    have hread : ((left (program (wordingLine ["-o", "/out/words"])) tale).read "/out/words").toOption =
        some (Read.bytesOf "\"a\\nb\"\n\"\\r\"") := by decide +kernel
    obtain ⟨v, docs, hload⟩ := prepare_wording (some "/out/words")
    obtain ⟨o, hrun, hended⟩ := output_exact hline hload fun file h => by
      obtain rfl : "/out/words" = file := Option.some.inj h
      exact writeFile_tale _
    exact ⟨v, docs, o, hrun, hended, Outcome.toOption_eq_some.1 hread⟩

end Conform.Command
