import Mathlib.Data.List.ReduceOption
import NewsScoring.CommandLine
import NewsScoring.Proofs.Engine.Later
import NewsScoring.Proofs.Report.Line

/-!
# What a call prints

A call with a configuration and documents has a line for each document that can be read and scored,
and counts the others: nothing that is wrong with one document keeps the next from its line
(`run_accounts_for_documents`).  The engine is one for all documents, so that a document is scored
by what the documents before it made of the engine (`engineAfter`).  If the documents are told
apart, this is as the engine scores them that was just built (`fst_classify_engineAfter`).  A
configuration with a memo that cannot be made ends the call with a code of its own
(`not_accountsForAll`).
-/

namespace NewsScoring.CommandLine

variable {disk : Disk} {engine : Engine} {paths : List String}

/-! ### Documents in files -/

/-- Whether a file has a document: its text is the document in JSON, and the path of the file is the
identifier of a document without one. -/
def IsReadAs (disk : Disk) (path : String) (document : Document) : Prop :=
  ∃ text written, disk.text? path = some text ∧ Document.ofJson? text = some written ∧
    document = { written with id := if written.id = "" then path else written.id }

theorem readDocument_eq_some_iff {path : String} {document : Document} :
    readDocument disk path = some document ↔ IsReadAs disk path document := by
  have hid (written : Document) : (if written.id.isEmpty then { written with id := path }
      else written) = { written with id := if written.id = "" then path else written.id } := by
    by_cases hempty : written.id = "" <;> simp [hempty]
  simp only [readDocument, Option.bind_eq_bind, Option.bind_eq_some_iff, Option.pure_def,
    Option.some.injEq, hid, IsReadAs]
  constructor
  · rintro ⟨text, htext, written, hwritten, rfl⟩
    exact ⟨text, written, htext, hwritten, rfl⟩
  · rintro ⟨text, written, htext, hwritten, rfl⟩
    exact ⟨text, htext, written, hwritten, rfl⟩

/-- The documents in files that have one. -/
def documentsIn (disk : Disk) (paths : List String) : Set Document :=
  {document | ∃ path ∈ paths, IsReadAs disk path document}

/-! ### Reports and failures -/

/-- Whether a report is about the document in the `i`-th file: it has the identifier of the document
and the classification by an engine. -/
def IsReportOn (disk : Disk) (engine : Engine) (paths : List String) (i : ℕ) (report : Report) :
    Prop :=
  ∃ path document, paths[i]? = some path ∧ IsReadAs disk path document ∧
    report.id = document.id ∧ (engine.classify disk document).1 = .ok report.scores

/-- Whether the `i`-th file has no document, or one that an engine cannot score. -/
def HasFailed (disk : Disk) (engine : Engine) (paths : List String) (i : ℕ) : Prop :=
  ∃ path, paths[i]? = some path ∧ ∀ document, IsReadAs disk path document →
    ∃ cause, (engine.classify disk document).1 = .error cause

theorem fst_report_eq_some_iff {path : String} {found : Report} :
    (report disk engine path).1 = some found ↔ ∃ document, IsReadAs disk path document ∧
      found.id = document.id ∧ (engine.classify disk document).1 = .ok found.scores := by
  simp only [← readDocument_eq_some_iff]
  unfold report
  cases readDocument disk path with
  | none => simp
  | some document =>
    rcases hclassify : engine.classify disk document with ⟨_ | scores, later⟩
    · simp [hclassify]
    · rcases found with ⟨id, scores'⟩
      simp [hclassify, eq_comm]

theorem fst_report_eq_none_iff {path : String} :
    (report disk engine path).1 = none ↔ ∀ document, IsReadAs disk path document →
      ∃ cause, (engine.classify disk document).1 = .error cause := by
  simp only [← readDocument_eq_some_iff]
  unfold report
  cases readDocument disk path with
  | none => simp
  | some document =>
    rcases hclassify : engine.classify disk document with ⟨_ | scores, later⟩ <;> simp [hclassify]

/-! ### Runs over several files -/

/-- An engine after it was given the documents in files that have one. -/
def engineAfter (disk : Disk) (engine : Engine) (paths : List String) : Engine :=
  (paths.filterMap (readDocument disk)).foldl (fun engine document =>
    (engine.classify disk document).2) engine

/-- The engine that a report leaves behind is that after the one document. -/
theorem engineAfter_cons (path : String) :
    engineAfter disk engine (path :: paths) =
      engineAfter disk (report disk engine path).2 paths := by
  unfold engineAfter report
  cases hread : readDocument disk path with
  | none => simp [hread]
  | some document =>
    rcases hclassify : engine.classify disk document with ⟨_ | scores, later⟩ <;>
      simp [hread, hclassify]

theorem length_reports (disk : Disk) (engine : Engine) (paths : List String) :
    (reports disk engine paths).length = paths.length := by
  induction paths generalizing engine with
  | nil => rfl
  | cons path rest ih => simp [reports, ih]

/-- What is found in a file is found with the engine after the files before it, by induction on the
files. -/
theorem getElem?_reports (disk : Disk) (engine : Engine) (paths : List String) (i : ℕ) :
    (reports disk engine paths)[i]? =
      paths[i]?.map fun path => (report disk (engineAfter disk engine (paths.take i)) path).1 := by
  induction paths generalizing engine i with
  | nil => rfl
  | cons path rest ih =>
    cases i with
    | zero => rfl
    | succ i => simp [reports, ih, engineAfter_cons]

theorem getElem?_reports_eq_some_some_iff {i : ℕ} {found : Report} :
    (reports disk engine paths)[i]? = some (some found) ↔
      IsReportOn disk (engineAfter disk engine (paths.take i)) paths i found := by
  rw [getElem?_reports, Option.map_eq_some_iff]
  simp only [fst_report_eq_some_iff, IsReportOn]
  constructor
  · rintro ⟨path, hpath, document, hdocument⟩
    exact ⟨path, document, hpath, hdocument⟩
  · rintro ⟨path, document, hpath, hdocument⟩
    exact ⟨path, hpath, document, hdocument⟩

theorem getElem?_reports_eq_some_none_iff {i : ℕ} :
    (reports disk engine paths)[i]? = some none ↔
      HasFailed disk (engineAfter disk engine (paths.take i)) paths i := by
  rw [getElem?_reports, Option.map_eq_some_iff]
  simp only [fst_report_eq_none_iff, HasFailed]

/-! ### Documents that are told apart -/

/-- An engine that was given documents of a set remembers no others, by induction on them. -/
theorem isLaterThan_foldl {built later : Engine} {parts : EngineParts} {files : Disk}
    {documents : Set Document} (hbuild : parts.build files = .ok built)
    (hapart : built.TellsApart disk documents) (h : built.IsLaterThan disk documents later)
    {given : List Document} (hgiven : ∀ document ∈ given, document ∈ documents) :
    built.IsLaterThan disk documents
      (given.foldl (fun engine document => (engine.classify disk document).2) later) := by
  induction given generalizing later with
  | nil => exact h
  | cons document rest ih =>
    rw [List.forall_mem_cons] at hgiven
    exact ih (h.classify hbuild hapart hgiven.1).2 hgiven.2

/-- If the documents are told apart, each is classified as by the engine that was just built,
whatever documents were given before it. -/
theorem fst_classify_engineAfter {parts : EngineParts} {files : Disk}
    (hbuild : parts.build files = .ok engine)
    (hapart : engine.TellsApart disk (documentsIn disk paths)) (i : ℕ) {document : Document}
    (hmem : document ∈ documentsIn disk paths) :
    ((engineAfter disk engine (paths.take i)).classify disk document).1 =
      (engine.classify disk document).1 := by
  have hgiven : ∀ document ∈ (paths.take i).filterMap (readDocument disk),
      document ∈ documentsIn disk paths := by
    intro document hdocument
    obtain ⟨path, hpath, hread⟩ := List.mem_filterMap.1 hdocument
    exact ⟨path, List.mem_of_mem_take hpath, readDocument_eq_some_iff.1 hread⟩
  have hlater := isLaterThan_foldl hbuild hapart
    (Engine.isLaterThan_of_build hbuild disk (documentsIn disk paths)) hgiven
  exact (hlater.classify hbuild hapart hmem).1

/-! ### Outcomes -/

/-- Whether an outcome accounts for the documents in files by verdicts, one for each file: a verdict
is a report, which is printed on a line of its own, or that the document has failed.  The engine may
be another one for each file. -/
structure Accounts (disk : Disk) (engineFor : ℕ → Engine) (paths : List String)
    (verdicts : List (Option Report)) (outcome : Outcome) : Prop where
  length_eq : verdicts.length = paths.length
  some_iff : ∀ i report,
    verdicts[i]? = some (some report) ↔ IsReportOn disk (engineFor i) paths i report
  none_iff : ∀ i, verdicts[i]? = some none ↔ HasFailed disk (engineFor i) paths i
  /-- The reports are printed in the order of the files, and nothing else is. -/
  isLine : List.Forall₂ Report.IsLine verdicts.reduceOption outcome.lines
  length_add_countP : outcome.lines.length + verdicts.countP Option.isNone = paths.length
  code_eq_zero_iff : outcome.code = 0 ↔ ∀ i, ¬HasFailed disk (engineFor i) paths i
  code_eq_one_iff : outcome.code = 1 ↔ ∃ i, HasFailed disk (engineFor i) paths i
  complaint_eq : outcome.complaint = none

theorem code_outcomeOf_eq_zero_iff {verdicts : List (Option Report)} :
    (outcomeOf verdicts).code = 0 ↔ none ∉ verdicts := by
  simp [outcomeOf, Option.isSome_iff_ne_none, List.forall_mem_ne']

theorem code_outcomeOf_eq_one_iff {verdicts : List (Option Report)} :
    (outcomeOf verdicts).code = 1 ↔ none ∈ verdicts := by
  rw [← Classical.not_not (a := none ∈ verdicts), ← code_outcomeOf_eq_zero_iff, outcomeOf]
  split <;> simp

theorem accounts_outcomeOf (disk : Disk) (engine : Engine) (paths : List String) :
    Accounts disk (fun i => engineAfter disk engine (paths.take i)) paths
      (reports disk engine paths) (outcomeOf (reports disk engine paths)) := by
  have hfailed : none ∈ reports disk engine paths ↔
      ∃ i, HasFailed disk (engineAfter disk engine (paths.take i)) paths i := by
    simp only [List.mem_iff_getElem?, getElem?_reports_eq_some_none_iff]
  have hlines : List.Forall₂ Report.IsLine (reports disk engine paths).reduceOption
      (outcomeOf (reports disk engine paths)).lines := by
    show List.Forall₂ _ _ ((reports disk engine paths).reduceOption.map Report.render)
    rw [List.forall₂_map_right_iff, List.forall₂_same]
    exact fun report _ => report.isLine_render
  refine ⟨length_reports disk engine paths, fun i report => getElem?_reports_eq_some_some_iff,
    fun i => getElem?_reports_eq_some_none_iff, hlines, ?_, ?_, ?_, rfl⟩
  · rw [outcomeOf, List.length_map, List.countP_eq_length_filter,
      ← length_reports disk engine paths]
    exact List.length_eq_reduceOption_length_add_filter_none.symm
  · rw [code_outcomeOf_eq_zero_iff, hfailed, not_exists]
  · rw [code_outcomeOf_eq_one_iff, hfailed]

/-- Engines that classify the documents alike have the same reports on them, and the same
failures. -/
theorem isReportOn_congr {engine' : Engine} {i : ℕ} {report : Report}
    (h : ∀ document ∈ documentsIn disk paths,
      (engine.classify disk document).1 = (engine'.classify disk document).1) :
    IsReportOn disk engine paths i report ↔ IsReportOn disk engine' paths i report := by
  refine exists_congr fun path => exists_congr fun document => and_congr_right fun hpath =>
    and_congr_right fun hread => ?_
  rw [h document ⟨path, List.mem_of_getElem? hpath, hread⟩]

theorem hasFailed_congr {engine' : Engine} {i : ℕ}
    (h : ∀ document ∈ documentsIn disk paths,
      (engine.classify disk document).1 = (engine'.classify disk document).1) :
    HasFailed disk engine paths i ↔ HasFailed disk engine' paths i := by
  refine exists_congr fun path => and_congr_right fun hpath => forall_congr' fun document =>
    forall_congr' fun hread => ?_
  rw [h document ⟨path, List.mem_of_getElem? hpath, hread⟩]

/-- An outcome accounts for documents as well by other engines that classify them alike. -/
theorem Accounts.congr {engineFor engineFor' : ℕ → Engine} {verdicts : List (Option Report)}
    {outcome : Outcome} (h : Accounts disk engineFor paths verdicts outcome)
    (hsame : ∀ i, ∀ document ∈ documentsIn disk paths,
      ((engineFor i).classify disk document).1 = ((engineFor' i).classify disk document).1) :
    Accounts disk engineFor' paths verdicts outcome := by
  have hfailed (i : ℕ) := hasFailed_congr (i := i) (hsame i)
  exact ⟨h.length_eq, fun i report => (h.some_iff i report).trans (isReportOn_congr (hsame i)),
    fun i => (h.none_iff i).trans (hfailed i), h.isLine, h.length_add_countP,
    by simp only [h.code_eq_zero_iff, hfailed], by simp only [h.code_eq_one_iff, hfailed],
    h.complaint_eq⟩

/-! ### Calls -/

theorem loadEngine_eq_ok_iff {path : String} : loadEngine disk path = .ok engine ↔
    ∃ settings, Config.load disk path = .ok settings ∧
      Engine.ofConfig settings disk = .ok engine := by
  unfold loadEngine
  cases Config.load disk path <;> simp

theorem loadEngine_eq_error_iff {path : String} {failure : BuildFailure} :
    loadEngine disk path = .error failure ↔
      (∃ cause, Config.load disk path = .error cause ∧ .refused cause = failure) ∨
      ∃ settings, Config.load disk path = .ok settings ∧
        Engine.ofConfig settings disk = .error failure := by
  unfold loadEngine
  cases Config.load disk path <;> simp

theorem run_eq_score {config : String} {documents : List String} (hdocuments : documents ≠ [])
    (hhelp : ∀ argument ∈ config :: documents, argument ≠ "-h" ∧ argument ≠ "--help") :
    run disk (config :: documents) = score disk config documents := by
  obtain ⟨document, rest, rfl⟩ := List.exists_cons_of_ne_nil hdocuments
  have hany : (config :: document :: rest).any isHelp = false := by
    simpa only [List.any_eq_false, isHelp, Bool.or_eq_true, beq_iff_eq, not_or] using hhelp
  rw [run, hany]
  rfl

theorem score_eq_of_error {config : String} {documents : List String} {failure : BuildFailure}
    (h : loadEngine disk config = .error failure) :
    score disk config documents = { lines := [], code := failureCode failure } := by
  rw [score, h]

/-- A memo is overlong if it is to keep anything for more than a thousand years. -/
theorem isOverlong_eq_true_iff {settings : MemoSettings} : settings.isOverlong = true ↔
    settings.capacity ≠ 0 ∧ 31536000000 < settings.ttlSeconds := by
  rw [MemoSettings.isOverlong, Bool.and_eq_true, bne_iff_ne, decide_eq_true_eq]
  rfl

/-- A build is aborted if nothing is refused and the memo is overlong. -/
theorem ofConfig_eq_aborted_iff {settings : Config Float} :
    Engine.ofConfig settings disk = .error .aborted ↔
      (∀ cause, Engine.ofConfig settings disk ≠ .error (.refused cause)) ∧
        settings.memo.capacity ≠ 0 ∧ 31536000000 < settings.memo.ttlSeconds := by
  unfold Engine.ofConfig
  simp only [EngineParts.build_eq_aborted_iff, ne_eq, EngineParts.build_eq_refused_iff,
    isOverlong_eq_true_iff]
  refine and_congr_left fun _ => ?_
  cases EngineParts.load { config := settings } disk <;> simp

/-- A call with a configuration and documents, none of whose arguments asks for the usage, accounts
for all documents if the configuration can be loaded and an engine built from it; if the engine
tells the documents apart, then by the classification that it has for each of them from the start.
If the configuration or the engine is refused, the call prints nothing and ends with code one.  If
nothing is refused, but the memo is to keep vectors for more than a thousand years, it is aborted
with code 101. -/
theorem run_accounts_for_documents (disk : Disk) (config : String) (documents : List String)
    (hdocuments : documents ≠ [])
    (hhelp : ∀ argument ∈ config :: documents, argument ≠ "-h" ∧ argument ≠ "--help") :
    (∀ settings engine, Config.load disk config = .ok settings →
      Engine.ofConfig settings disk = .ok engine →
      ∃ verdicts, Accounts disk (fun i => engineAfter disk engine (documents.take i)) documents
          verdicts (run disk (config :: documents)) ∧
        (engine.TellsApart disk (documentsIn disk documents) →
          Accounts disk (fun _ => engine) documents verdicts (run disk (config :: documents)))) ∧
    (∀ cause, (Config.load disk config = .error cause ∨
      ∃ settings, Config.load disk config = .ok settings ∧
        Engine.ofConfig settings disk = .error (.refused cause)) →
      run disk (config :: documents) = { lines := [], code := 1 }) ∧
    ∀ settings, Config.load disk config = .ok settings →
      (Engine.ofConfig settings disk = .error .aborted ↔
        (∀ cause, Engine.ofConfig settings disk ≠ .error (.refused cause)) ∧
          settings.memo.capacity ≠ 0 ∧ 31536000000 < settings.memo.ttlSeconds) ∧
      (Engine.ofConfig settings disk = .error .aborted →
        run disk (config :: documents) = { lines := [], code := 101 }) := by
  rw [run_eq_score hdocuments hhelp]
  refine ⟨fun settings engine hsettings hengine => ?_, fun cause hfails => ?_,
    fun settings hsettings => ⟨ofConfig_eq_aborted_iff, fun haborted => ?_⟩⟩
  · rw [score, loadEngine_eq_ok_iff.2 ⟨settings, hsettings, hengine⟩]
    have haccounts := accounts_outcomeOf disk engine documents
    exact ⟨_, haccounts, fun hapart => haccounts.congr fun i _ hdocument =>
      fst_classify_engineAfter hengine hapart i hdocument⟩
  · have hload : loadEngine disk config = .error (.refused cause) :=
      loadEngine_eq_error_iff.2 (hfails.imp_left fun hconfig => ⟨cause, hconfig, rfl⟩)
    exact score_eq_of_error hload
  · exact score_eq_of_error (loadEngine_eq_error_iff.2 (.inr ⟨settings, hsettings, haborted⟩))

/-- A configuration with one feature, one that has the same feature and a memo that is to keep
vectors for more than twelve hundred years, and two articles.  There is no third one. -/
def wheatDisk : Disk
  | "config.toml" => .ok (.plain (.ofText "catalogue_path = \"catalogue.toml\"\n"))
  | "overlong.toml" => .ok (.plain (.ofText ("catalogue_path = \"catalogue.toml\"\n" ++
      "[document_cache]\nttl_secs = 40000000000\n")))
  | "catalogue.toml" => .ok (.plain (.ofText ("feature = [\x7bid = 1, title = \"Wheat\", " ++
      "category = \"manual_heuristic\", rules = \x7btitle = [\x7bpattern = \"wheat\", " ++
      "score = 0.5\x7d]\x7d\x7d]")))
  | "a.json" => .ok (.plain (.ofText "\x7b\"title\": \"Wheat prices\"\x7d"))
  | "c.json" => .ok (.plain (.ofText "\x7b\"id\": \"c\"\x7d"))
  | _ => .error .missing

theorem loadEngine_overlong : loadEngine wheatDisk "overlong.toml" = .error .aborted := by
  have hcode : (score wheatDisk "overlong.toml" []).code = 101 := by decide +kernel
  rw [score] at hcode
  rcases hload : loadEngine wheatDisk "overlong.toml" with (cause | _) | engine
  · rw [hload] at hcode
    cases hcode
  · rfl
  · rw [hload] at hcode
    cases hcode

/-- The articles are free of separators. -/
theorem isSeparated_of_mem_wheat {document : Document}
    (h : document ∈ documentsIn wheatDisk ["a.json", "b.json", "c.json"]) :
    document.IsSeparated := by
  have hfirst : readDocument wheatDisk "a.json" =
      some { id := "a.json", title := "Wheat prices" } := by decide +kernel
  have hlast : readDocument wheatDisk "c.json" = some { id := "c" } := by decide +kernel
  obtain ⟨path, hpath, hread⟩ := h
  rw [← readDocument_eq_some_iff] at hread
  simp only [List.mem_cons, List.not_mem_nil, or_false] at hpath
  rcases hpath with rfl | rfl | rfl
  · obtain rfl := Option.some.inj (hfirst.symm.trans hread)
    exact ⟨by decide +kernel, by decide +kernel, by decide +kernel, by decide +kernel⟩
  · cases hread
  · obtain rfl := Option.some.inj (hlast.symm.trans hread)
    exact ⟨by decide +kernel, by decide +kernel, by decide +kernel, by decide +kernel⟩

/-- The article that is missing between two others makes the call fail, and the others have a line.
Without a configuration, and with a memo that cannot be made, there are no lines. -/
theorem run_accounts_for_documents_wheat :
    (∃ settings engine verdicts, Config.load wheatDisk "config.toml" = .ok settings ∧
      Engine.ofConfig settings wheatDisk = .ok engine ∧
      Accounts wheatDisk (fun _ => engine) ["a.json", "b.json", "c.json"] verdicts
        (run wheatDisk ["config.toml", "a.json", "b.json", "c.json"])) ∧
    run wheatDisk ["config.toml", "a.json", "b.json", "c.json"] =
      { lines := ["\x7b\"id\":\"a.json\",\"scores\":[\x7b\"id\":1,\"category\":" ++
          "\"manual_heuristic\",\"score\":0.5\x7d]\x7d",
          "\x7b\"id\":\"c\",\"scores\":[\x7b\"id\":1,\"category\":\"manual_heuristic\"," ++
          "\"score\":0.0\x7d]\x7d"], code := 1 } ∧
    run wheatDisk ["b.toml", "a.json"] = { lines := [], code := 1 } ∧
    run wheatDisk ["overlong.toml", "a.json"] = { lines := [], code := 101 } := by
  refine ⟨?_, by decide +kernel, ?_, ?_⟩
  · have hisOk : (loadEngine wheatDisk "config.toml").isOk = true := by decide +kernel
    obtain ⟨engine, hload⟩ := isOk_eq_true_iff.1 hisOk
    obtain ⟨settings, hsettings, hengine⟩ := loadEngine_eq_ok_iff.1 hload
    obtain ⟨verdicts, -, haccounts⟩ := (run_accounts_for_documents wheatDisk "config.toml"
      ["a.json", "b.json", "c.json"] (by decide) (by decide)).1 settings engine hsettings hengine
    exact ⟨settings, engine, verdicts, hsettings, hengine, haccounts
      (Engine.tellsApart_of_isSeparated hengine fun _ => isSeparated_of_mem_wheat)⟩
  · have hload : ∃ cause, Config.load wheatDisk "b.toml" = .error cause := ⟨_, rfl⟩
    obtain ⟨cause, hload⟩ := hload
    exact (run_accounts_for_documents wheatDisk "b.toml" ["a.json"] (by decide) (by decide)).2.1
      cause (.inl hload)
  · rcases loadEngine_eq_error_iff.1 loadEngine_overlong with
      ⟨cause, -, hcause⟩ | ⟨settings, hsettings, haborted⟩
    · cases hcause
    · exact ((run_accounts_for_documents wheatDisk "overlong.toml" ["a.json"] (by decide)
        (by decide)).2.2 settings hsettings).2 haborted

/-! ### A memo that cannot be made -/

/-- Whether each call with a configuration and documents, none of whose arguments asks for the
usage, accounts for all documents if there is an engine, and prints nothing and ends with code one
if not. -/
def AccountsForAll : Prop :=
  ∀ (disk : Disk) (config : String) (documents : List String), documents ≠ [] →
    (∀ argument ∈ config :: documents, argument ≠ "-h" ∧ argument ≠ "--help") →
    (∀ settings engine, Config.load disk config = .ok settings →
      Engine.ofConfig settings disk = .ok engine →
      ∃ verdicts, Accounts disk (fun i => engineAfter disk engine (documents.take i)) documents
        verdicts (run disk (config :: documents))) ∧
    ((∀ settings engine, Config.load disk config = .ok settings →
      Engine.ofConfig settings disk ≠ .ok engine) →
      run disk (config :: documents) = { lines := [], code := 1 })

/-- The configuration is not refused, but the call does not end with code one. -/
theorem not_accountsForAll : ¬AccountsForAll := by
  intro haccounts
  have hfails : ∀ settings engine, Config.load wheatDisk "overlong.toml" = .ok settings →
      Engine.ofConfig settings wheatDisk ≠ .ok engine := by
    intro settings engine hsettings hengine
    have hload := loadEngine_eq_ok_iff.2 ⟨settings, hsettings, hengine⟩
    rw [loadEngine_overlong] at hload
    cases hload
  have hrun := (haccounts wheatDisk "overlong.toml" ["a.json"] (by decide) (by decide)).2 hfails
  rw [run_eq_score (by decide) (by decide), score_eq_of_error loadEngine_overlong] at hrun
  cases hrun

end NewsScoring.CommandLine
