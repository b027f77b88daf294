import Conform.Command.Line
import Conform.Filter.Run
import Conform.Pattern.Parser
import Conform.Proofs.Files.Looks
import Conform.Proofs.Outcome

/-!
# What keeps a check from running

A check looks at files until it has a validator and all documents, and writes only after that. So
when anything on the way there fails, nothing was written and no document was validated. This holds of
any files, whatever the engines for patterns and filters do.

* `Sources.Names`, `Sources.parts`, `Sources.pointed`: the files of the inputs, the texts in a file
  that have to be documents, and the part of a document that is selected;
* `Hindered c s`: what keeps the check `c` from running on the files `s`;
* `fails_prepare_iff`: the preparation of a check fails when it is hindered, and not otherwise;
* `all_or_nothing`: the main statement.
-/

namespace Conform.Command

open Conform.Outcome (Fails fails_bind fails_map fails_mapM)

namespace Sources

/-! ## Documents in a text -/

/-- The texts in a file that have to be documents, with their labels: the lines that are not blank, or
the whole text. -/
def parts (src : Sources) (file text : String) : List (String × String) :=
  if src.lines then (numbered text).map fun line => (file ++ ":" ++ toString line.1, line.2)
  else [(file, text)]

/-- The part of a document that the pointer selects, if there is a pointer. -/
def pointed (src : Sources) (j : Json) : Option Json :=
  match src.pointer with
  | none => some j
  | some p => j.pointer? p

section Text

variable [FilterEngine]

/-- The documents that the filter makes of what was selected, if there is a filter. -/
def filtered (src : Sources) (label : String) (j : Json) : Except Trouble (List Document) :=
  match src.filter with
  | none => .ok [⟨label, j⟩]
  | some f =>
    match Filter.apply f j with
    | .error why => .error (.filter label why)
    | .ok [j] => .ok [⟨label, j⟩]
    | .ok js => .ok (js.zipIdx.map fun (j, i) => ⟨label ++ "#" ++ toString i, j⟩)

variable {src : Sources}

theorem select_of_pointed {d : Document} {j : Json} (h : src.pointed d.value = some j) :
    src.select d = src.filtered d.label j := by
  unfold pointed at h
  unfold select
  cases hp : src.pointer with
  | none =>
    obtain rfl : d.value = j := by simpa [hp] using h
    rfl
  | some p =>
    have hj : d.value.pointer? p = some j := by simpa [hp] using h
    simp only [hj]
    rfl

theorem select_of_not_pointed {d : Document} (h : src.pointed d.value = none) :
    Fails (src.select d) := by
  unfold pointed at h
  unfold select
  cases hp : src.pointer with
  | none => simp [hp] at h
  | some p =>
    have hj : d.value.pointer? p = none := by simpa [hp] using h
    simp only [hj]
    exact ⟨_, rfl⟩

theorem fails_filtered {label : String} {j : Json} :
    Fails (src.filtered label j) ↔ ∃ f, src.filter = some f ∧ Fails (Filter.apply f j) := by
  unfold filtered
  cases src.filter with
  | none => simp
  | some f =>
    simp only [Option.some.injEq, exists_eq_left']
    split <;> simp_all

/-- **Selecting fails** when the pointer selects nothing, or the filter fails on what it selects. -/
theorem fails_select {d : Document} : Fails (src.select d) ↔ src.pointed d.value = none ∨
    ∃ j f, src.pointed d.value = some j ∧ src.filter = some f ∧ Fails (Filter.apply f j) := by
  cases hj : src.pointed d.value with
  | none => simp [select_of_not_pointed hj]
  | some j => simp [select_of_pointed hj, fails_filtered]

/-- What is wrong with a text that has to be a document, as a proposition: it is none, or the selection
in it fails. -/
def Bad (src : Sources) (text : String) : Prop :=
  Fails (Json.parse text) ∨ ∃ j, Json.parse text = .ok j ∧
    (src.pointed j = none ∨
      ∃ j' f, src.pointed j = some j' ∧ src.filter = some f ∧ Fails (Filter.apply f j'))

/-- **The documents in a text** cannot be had when one of its parts is bad. -/
theorem fails_ofText {file text : String} :
    Fails (src.ofText file text) ↔ ∃ part ∈ src.parts file text, src.Bad part.2 := by
  have hline : ∀ line, Fails (do src.select (← ofLine file line)) ↔ src.Bad line.2 := by
    intro line
    unfold ofLine Bad
    rw [fails_bind]
    cases Json.parse line.2 with
    | error why => simp
    | ok j => simp [fails_select]
  have hfile : Fails (do src.select (← ofFile file text)) ↔ src.Bad text := by
    unfold ofFile Bad
    rw [fails_bind]
    cases Json.parse text with
    | error why => simp
    | ok j => simp [fails_select]
  unfold ofText parts
  split
  · rw [show ∀ x : Except Trouble (List (List Document)), List.flatten <$> x = x.map List.flatten
      from fun _ => rfl, fails_map, fails_mapM]
    simp only [hline, List.mem_map]
    constructor
    · rintro ⟨line, hmem, hbad⟩
      exact ⟨_, ⟨line, hmem, rfl⟩, hbad⟩
    · rintro ⟨_, ⟨line, hmem, rfl⟩, hbad⟩
      exact ⟨line, hmem, hbad⟩
  · simp [hfile]

end Text

/-! ## Documents in files -/

section Files

variable {σ : Type} [FileAccess (StateM σ)] [Still σ] {src : Sources}

theorem looks_files (input : String) :
    Looks (files input : StateM σ (Except Trouble (List String))) := by
  unfold files
  refine Looks.ite ((Glob.looks_expand input).bind fun fs => ?_) (looks_pure _)
  split
  · exact looks_pure _
  · exact looks_pure _
  · exact looks_pure _

/-- The file is one of those that the inputs name. -/
def Names (src : Sources) (s : σ) (file : String) : Prop :=
  ∃ input ∈ src.inputs, ∃ fs, found (files input) s = .ok fs ∧ file ∈ fs

theorem fails_files {input : String} {s : σ} : Fails (found (files input) s) ↔
    Glob.isPattern input ∧
      (Fails (found (Glob.expand input) s) ∨ found (Glob.expand input) s = .ok []) := by
  unfold files
  by_cases hp : Glob.isPattern input
  · rw [if_pos hp, found_bind (Glob.looks_expand input)]
    split <;> simp_all
  · simp [hp]

variable [FilterEngine]

theorem looks_load (src : Sources) (file : String) :
    Looks (src.load file : StateM σ (Except Trouble (List Document))) := by
  refine (looks_readText file).bind fun text => ?_
  cases text with
  | error why => exact looks_pure _
  | ok text => exact looks_pure _

theorem looks_documents (src : Sources) :
    Looks (src.documents : StateM σ (Except Trouble (List Document))) := by
  refine (looks_gather fun input _ => looks_files input).bind fun fs => ?_
  cases fs with
  | error t => exact looks_pure _
  | ok fs => exact looks_gather fun file _ => looks_load src file

theorem fails_load {file : String} {s : σ} : Fails (found (src.load file) s) ↔
    Fails (found (FileAccess.readText file) s) ∨ ∃ text, found (FileAccess.readText file) s = .ok text ∧
      ∃ part ∈ src.parts file text, src.Bad part.2 := by
  unfold load
  rw [found_bind (looks_readText file)]
  cases found (FileAccess.readText file) s with
  | error why => simp
  | ok text => simp [fails_ofText]

/-- **The documents of the inputs** cannot be had when the files of one input cannot be found, or the
documents in one of the files cannot be had. -/
theorem fails_documents {s : σ} : Fails (found src.documents s) ↔
    (∃ input ∈ src.inputs, Fails (found (files input) s)) ∨
      ∃ file, src.Names s file ∧ Fails (found (src.load file) s) := by
  have hfound : found src.documents s = ((src.inputs.mapM fun i => found (files i) s).map
      List.flatten >>= fun fs => (fs.mapM fun f => found (src.load f) s).map List.flatten) := by
    unfold documents
    rw [found_bind (looks_gather fun input _ => looks_files input), found_gather looks_files]
    cases (src.inputs.mapM fun i => found (files i) s) with
    | error t => rfl
    | ok fss => exact found_gather (looks_load src) fss.flatten s
  rw [hfound, fails_bind, fails_map, fails_mapM]
  refine or_congr_right' fun hinputs => ?_
  -- When all files are found, those to be read are those that the inputs name.
  obtain ⟨fss, hfss⟩ := Outcome.not_fails_iff.1 (mt fails_mapM.1 hinputs)
  have hnames : ∀ file, file ∈ fss.flatten ↔ src.Names s file := by
    intro file
    simp only [List.mem_flatten, Outcome.mem_of_mapM_eq_ok hfss, Names]
    constructor
    · rintro ⟨fs, ⟨input, hinput, hfs⟩, hfile⟩
      exact ⟨input, hinput, fs, hfs, hfile⟩
    · rintro ⟨input, hinput, fs, hfs, hfile⟩
      exact ⟨fs, ⟨input, hinput, hfs⟩, hfile⟩
  rw [hfss]
  have hall : (Except.ok fss : Except Trouble _).map List.flatten = .ok fss.flatten := rfl
  simp only [hall, Except.ok.injEq, exists_eq_left', fails_map, fails_mapM, hnames]

end Files

end Sources

/-! ## Definitions in files -/

section Definitions

variable [PatternEngine] {σ : Type} [FileAccess (StateM σ)] [Still σ]

theorem looks_loadDefinitions (file : String) :
    Looks (loadDefinitions file : StateM σ (Except Trouble Scope)) := by
  refine (looks_readText file).bind fun text => ?_
  cases text with
  | error why => exact looks_pure _
  | ok text =>
    dsimp only
    split
    · exact looks_pure _
    · exact looks_pure _

theorem fails_loadDefinitions {file : String} {s : σ} : Fails (found (loadDefinitions file) s) ↔
    Fails (found (FileAccess.readText file) s) ∨ ∃ text, found (FileAccess.readText file) s = .ok text ∧
      Fails ((Registry.empty none).loadSource (((Files.name? file).map Files.stem).getD "defs")
        (Read.bytesOf text)).1 := by
  unfold loadDefinitions
  rw [found_bind (looks_readText file)]
  cases found (FileAccess.readText file) s with
  | error why => simp
  | ok text =>
    dsimp only
    split <;> simp_all

end Definitions

/-! ## Checks that cannot run -/

section Check

variable [PatternEngine] [FilterEngine] {σ : Type} [FileAccess (StateM σ)]

/-- What the program does with a command line that is understood. -/
def program (args : List String) : StateM σ (Option Outcome) := (Line.parse? args).mapM Line.run

theorem found_program {args : List String} {line : Line} (h : Line.parse? args = some line) (s : σ) :
    found (program args) s = some (found line.run s) := by
  rw [program, h]
  rfl

theorem left_program {args : List String} {line : Line} (h : Line.parse? args = some line) (s : σ) :
    left (program args) s = left line.run s := by
  rw [program, h]
  rfl

/-- A text that has to be a document stands in one of the inputs. -/
def Sources.Holds (src : Sources) (s : σ) (label text : String) : Prop :=
  ∃ file whole, src.Names s file ∧ found (FileAccess.readText file) s = .ok whole ∧
    (label, text) ∈ src.parts file whole

/-- **What keeps a check from running**: its definitions cannot be read or are invalid, its type is
unknown, an input is no pattern or one that matches nothing, a folder cannot be listed on the way to the
matches, a file cannot be read, or one of the texts that have to be documents is none, has nothing at
the pointer or is one on which the filter fails. -/
inductive Hindered (c : Check) (s : σ) : Prop
  | definitionsUnread {why} (h : found (FileAccess.readText c.definitions) s = .error why)
  | definitionsInvalid {text why} (hread : found (FileAccess.readText c.definitions) s = .ok text)
      (h : ((Registry.empty none).loadSource
        (((Files.name? c.definitions).map Files.stem).getD "defs") (Read.bytesOf text)).1 = .error why)
  | typeUnknown {scope} (hscope : found (loadDefinitions c.definitions) s = .ok scope)
      (h : scope.lookup c.typeName = none)
  | patternInvalid {input why} (hinput : input ∈ c.sources.inputs) (hpattern : Glob.isPattern input)
      (h : found (Glob.expand input) s = .error (.invalid why))
  | folderUnread {input folder why} (hinput : input ∈ c.sources.inputs)
      (hpattern : Glob.isPattern input) (h : found (Glob.expand input) s = .error (.unread folder why))
  | noMatch {input} (hinput : input ∈ c.sources.inputs) (hpattern : Glob.isPattern input)
      (h : found (Glob.expand input) s = .ok [])
  | sourceUnread {file why} (hfile : c.sources.Names s file)
      (h : found (FileAccess.readText file) s = .error why)
  | noDocument {label text why} (htext : c.sources.Holds s label text)
      (h : Json.parse text = .error why)
  | nothingSelected {label text j} (htext : c.sources.Holds s label text) (hj : Json.parse text = .ok j)
      (h : c.sources.pointed j = none)
  | filterFails {label text j part f why} (htext : c.sources.Holds s label text)
      (hj : Json.parse text = .ok j) (hpart : c.sources.pointed j = some part)
      (hfilter : c.sources.filter = some f) (h : Filter.apply f part = .error why)

/-- A bad text in the inputs hinders the check. -/
theorem Hindered.of_bad {c : Check} {s : σ} {label text : String} (htext : c.sources.Holds s label text)
    (hbad : c.sources.Bad text) : Hindered c s := by
  rcases hbad with ⟨why, h⟩ | ⟨j, hj, h | ⟨part, f, hpart, hfilter, why, h⟩⟩
  · exact .noDocument htext h
  · exact .nothingSelected htext hj h
  · exact .filterFails htext hj hpart hfilter h

variable [Still σ]

theorem looks_prepare (c : Check) :
    Looks (c.prepare : StateM σ (Except Trouble (Validator × List Document))) := by
  refine (looks_loadDefinitions c.definitions).bind fun scope => ?_
  cases scope with
  | error t => exact looks_pure _
  | ok scope =>
    dsimp only
    cases scope.compile c.typeName with
    | error why => exact looks_pure _
    | ok v =>
      refine (Sources.looks_documents c.sources).bind fun docs => ?_
      cases docs with
      | error t => exact looks_pure _
      | ok docs => exact looks_pure _

/-- The preparation fails when the definitions cannot be had, or they lack the type, or the documents
cannot be had. -/
theorem fails_prepare {c : Check} {s : σ} : Fails (found c.prepare s) ↔
    Fails (found (loadDefinitions c.definitions) s) ∨
    (∃ scope, found (loadDefinitions c.definitions) s = .ok scope ∧ scope.lookup c.typeName = none) ∨
    Fails (found c.sources.documents s) := by
  unfold Check.prepare
  rw [found_bind (looks_loadDefinitions c.definitions)]
  cases found (loadDefinitions c.definitions) s with
  | error t => simp
  | ok scope =>
    dsimp only
    cases hlookup : scope.lookup c.typeName with
    | none => simp [Scope.compile, hlookup]
    | some t =>
      simp only [Scope.compile, hlookup]
      rw [found_bind (Sources.looks_documents c.sources)]
      cases found c.sources.documents s with
      | error t => simp
      | ok docs => simp [hlookup]

/-- A file with a bad text cannot be loaded, so the preparation fails. -/
theorem fails_prepare_of_bad {c : Check} {s : σ} {label text : String}
    (htext : c.sources.Holds s label text) (hbad : c.sources.Bad text) : Fails (found c.prepare s) := by
  obtain ⟨file, whole, hfile, hread, hpart⟩ := htext
  have hload : Fails (found (c.sources.load file) s) :=
    Sources.fails_load.2 (Or.inr ⟨whole, hread, _, hpart, hbad⟩)
  exact fails_prepare.2 (Or.inr (Or.inr (Sources.fails_documents.2 (Or.inr ⟨file, hfile, hload⟩))))

/-- **The preparation of a check fails when it is hindered, and not otherwise.** -/
theorem fails_prepare_iff {c : Check} {s : σ} : Fails (found c.prepare s) ↔ Hindered c s := by
  have hinputs : ∀ {input}, input ∈ c.sources.inputs → Fails (found (Sources.files input) s) →
      Fails (found c.prepare s) := fun hinput h =>
    fails_prepare.2 (Or.inr (Or.inr (Sources.fails_documents.2 (Or.inl ⟨_, hinput, h⟩))))
  constructor
  · intro h
    rcases fails_prepare.1 h with h | ⟨scope, hscope, h⟩ | h
    · rcases fails_loadDefinitions.1 h with ⟨why, h⟩ | ⟨text, hread, why, h⟩
      · exact .definitionsUnread h
      · exact .definitionsInvalid hread h
    · exact .typeUnknown hscope h
    · rcases Sources.fails_documents.1 h with ⟨input, hinput, h⟩ | ⟨file, hfile, h⟩
      · obtain ⟨hpattern, ⟨why, h⟩ | h⟩ := Sources.fails_files.1 h
        · cases why with
          | invalid why => exact .patternInvalid hinput hpattern h
          | unread folder why => exact .folderUnread hinput hpattern h
        · exact .noMatch hinput hpattern h
      · rcases Sources.fails_load.1 h with ⟨why, h⟩ | ⟨whole, hread, part, hpart, hbad⟩
        · exact .sourceUnread hfile h
        · exact .of_bad ⟨file, whole, hfile, hread, hpart⟩ hbad
  · intro h
    cases h with
    | definitionsUnread h => exact fails_prepare.2 (Or.inl (fails_loadDefinitions.2 (Or.inl ⟨_, h⟩)))
    | definitionsInvalid hread h =>
      exact fails_prepare.2 (Or.inl (fails_loadDefinitions.2 (Or.inr ⟨_, hread, _, h⟩)))
    | typeUnknown hscope h => exact fails_prepare.2 (Or.inr (Or.inl ⟨_, hscope, h⟩))
    | patternInvalid hinput hpattern h =>
      exact hinputs hinput (Sources.fails_files.2 ⟨hpattern, Or.inl ⟨_, h⟩⟩)
    | folderUnread hinput hpattern h =>
      exact hinputs hinput (Sources.fails_files.2 ⟨hpattern, Or.inl ⟨_, h⟩⟩)
    | noMatch hinput hpattern h => exact hinputs hinput (Sources.fails_files.2 ⟨hpattern, Or.inr h⟩)
    | @sourceUnread file why hfile h =>
      have hload : Fails (found (c.sources.load file) s) := Sources.fails_load.2 (Or.inl ⟨why, h⟩)
      exact fails_prepare.2 (Or.inr (Or.inr (Sources.fails_documents.2 (Or.inr ⟨file, hfile, hload⟩))))
    | noDocument htext h => exact fails_prepare_of_bad htext (Or.inl ⟨_, h⟩)
    | nothingSelected htext hj h => exact fails_prepare_of_bad htext (Or.inr ⟨_, hj, Or.inl h⟩)
    | filterFails htext hj hpart hfilter h =>
      exact fails_prepare_of_bad htext (Or.inr ⟨_, hj, Or.inr ⟨_, _, hpart, hfilter, _, h⟩⟩)

/-- A check that is hindered stops with a trouble, and leaves all files as they are. -/
theorem run_of_hindered {c : Check} {s : σ} (h : Hindered c s) :
    (∃ why : Trouble, found c.run s = .stopped "" why.message) ∧ left c.run s = s := by
  obtain ⟨why, hwhy⟩ := fails_prepare_iff.2 h
  unfold Check.run
  rw [found_bind (looks_prepare c), left_bind (looks_prepare c), hwhy]
  exact ⟨⟨why, rfl⟩, rfl⟩

/-- A check that has its validator and all documents goes on with them. -/
theorem run_of_prepared {c : Check} {s : σ} {v : Validator} {docs : List Document}
    (h : found c.prepare s = .ok (v, docs)) :
    found c.run s = found (c.finish (checkAll v docs)) s ∧
      left c.run s = left (c.finish (checkAll v docs)) s := by
  unfold Check.run
  rw [found_bind (looks_prepare c), left_bind (looks_prepare c), h]
  exact ⟨rfl, rfl⟩

/-- **A check runs on all documents or does nothing.** A command line for a check that is hindered,
whatever it is that hinders it, ends with the status 2; it writes one line that says why, nothing to
the standard output, and leaves all files as they are. A check that is not hindered has its validator
and all documents before anything is written. -/
theorem all_or_nothing {args : List String} {c : Check} (hline : Line.parse? args = some (.check c))
    (s : σ) :
    (Hindered c s →
      (∃ why : Trouble, found (program args) s = some ⟨2, "", "error: " ++ why.message ++ "\n"⟩) ∧
      left (program args) s = s) ∧
    (¬ Hindered c s → ∃ v docs, found c.prepare s = .ok (v, docs) ∧ left c.prepare s = s ∧
      found (program args) s = some (found (c.finish (checkAll v docs)) s) ∧
      left (program args) s = left (c.finish (checkAll v docs)) s) := by
  rw [found_program hline, left_program hline]
  constructor
  · intro h
    obtain ⟨⟨why, hwhy⟩, hleft⟩ := run_of_hindered h
    refine ⟨⟨why, ?_⟩, hleft⟩
    show some (found c.run s) = _
    rw [hwhy]
    simp [Outcome.stopped]
  · intro h
    obtain ⟨⟨v, docs⟩, hok⟩ := Outcome.not_fails_iff.1 (mt fails_prepare_iff.1 h)
    obtain ⟨hfound, hleft⟩ := run_of_prepared hok
    exact ⟨v, docs, hok, looks_prepare c s, congrArg some hfound, hleft⟩

end Check

/-! ## An example: a line that is no document -/

/-- Definitions of counts beside the working folder, and in it a file with the count 1 on its first
line. -/
def shelf (last : String) : Disk where
  root := .folder [
    ("defs.json", .file (Read.bytesOf (Json.obj [("types", .arr [.obj [("name", "Count"),
      ("type", .obj [("kind", "type_ref"), ("name", "Int")])]])]).compact)),
    ("work", .folder [("in.ndjson", .file (Read.bytesOf ("1\n" ++ last ++ "\n")))])]
  here := ["work"]

/-- Checks the counts, each of them twice, and writes them to a file in a new folder. -/
def counting : Check :=
  ⟨"../defs.json", "Count", ⟨["in.ndjson"], true, none, some ".,."⟩, some "/out/valid.ndjson"⟩

/-- The command line for `counting`. -/
def countingLine : List String :=
  ["check", "--defs", "../defs.json", "--type", "Count", "--ndjson", "-i", "in.ndjson", "--jq-expr", ".,.",
    "-o", "/out/valid.ndjson"]

theorem parse?_countingLine : Line.parse? countingLine = some (.check counting) := by rfl

theorem hindered_shelf : Hindered counting (shelf "]") := by
  have hread : (found (FileAccess.readText "in.ndjson") (shelf "]")).toOption = some "1\n]\n" := by
    decide +kernel
  have hparse : Outcome.error? (Json.parse "]") = some "expected value at line 1 column 1" := by
    decide +kernel
  have hparts : ("in.ndjson:2", "]") ∈ counting.sources.parts "in.ndjson" "1\n]\n" := by
    decide +kernel
  have htext : counting.sources.Holds (shelf "]") "in.ndjson:2" "]" :=
    ⟨"in.ndjson", _, ⟨"in.ndjson", by simp [counting], _, rfl, List.mem_singleton_self _⟩,
      Outcome.toOption_eq_some.1 hread, hparts⟩
  exact .noDocument htext (Outcome.error?_eq_some.1 hparse)

theorem not_hindered_shelf : ¬ Hindered counting (shelf "2") := by
  have hprepared : (found counting.prepare (shelf "2")).toOption.isSome := by decide +kernel
  obtain ⟨p, hp⟩ := Option.isSome_iff_exists.1 hprepared
  exact mt fails_prepare_iff.2 (Outcome.not_fails_iff.2 ⟨p, Outcome.toOption_eq_some.1 hp⟩)

/-- With a bracket on the second line nothing is written, not even for the first line; with the count 2
there the check has its documents. -/
theorem all_or_nothing_shelf :
    ((∃ why : Trouble, found (program countingLine) (shelf "]") =
        some ⟨2, "", "error: " ++ why.message ++ "\n"⟩) ∧
      left (program countingLine) (shelf "]") = shelf "]") ∧
    ∃ v docs, found counting.prepare (shelf "2") = .ok (v, docs) ∧
      found (program countingLine) (shelf "2") =
        some (found (counting.finish (checkAll v docs)) (shelf "2")) := by
  refine ⟨(all_or_nothing parse?_countingLine (shelf "]")).1 hindered_shelf, ?_⟩
  obtain ⟨v, docs, hprepared, -, hend, -⟩ :=
    (all_or_nothing parse?_countingLine (shelf "2")).2 not_hindered_shelf
  exact ⟨v, docs, hprepared, hend⟩

end Conform.Command
