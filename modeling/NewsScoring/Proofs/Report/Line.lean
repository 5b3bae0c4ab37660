import NewsScoring.Proofs.Decimal.Notation
import NewsScoring.Proofs.Json.Reading
import NewsScoring.Proofs.Report.Quoted

/-!
# Reports on one line

The text of a report has no line break, so that a report takes one line of output
(`Report.newline_notMem_render`).  A reader of JSON gets the whole report back from the line: the
identifier of the document and, in their order, the best scores, each with its feature and its
category (`Report.isLine_render`).
-/

namespace NewsScoring

namespace Report

open Json

/-! ### One line -/

theorem newline_notMem_intercalate {texts : List String}
    (h : ∀ text ∈ texts, '\n' ∉ text.toList) : '\n' ∉ (String.intercalate "," texts).toList := by
  induction texts with
  | nil => simp
  | cons text rest ih =>
    rw [List.forall_mem_cons] at h
    have hrest := ih h.2
    cases rest with
    | nil => simpa using h.1
    | cons next others =>
      rw [String.intercalate_cons_cons]
      simp only [String.toList_append, List.mem_append, not_or]
      exact ⟨⟨h.1, by decide⟩, hrest⟩

theorem newline_notMem_renderNumber (x : Float) : '\n' ∉ (renderNumber x).toList := by
  unfold renderNumber
  split
  · next hfinite =>
    obtain ⟨r, hnumber, -⟩ := Decimal.exists_isNumber_render hfinite
    exact hnumber.newline_notMem
  · decide

theorem newline_notMem_renderScore (score : FeatureScore Float) :
    '\n' ∉ (renderScore score).toList := by
  have hid := (isNumber_repr score.id).newline_notMem
  have hcategory := newline_notMem_quote score.category.name
  have hscore := newline_notMem_renderNumber score.score
  simp only [renderScore, String.toList_append, List.mem_append, not_or]
  exact ⟨⟨⟨⟨⟨⟨by decide, hid⟩, by decide⟩, hcategory⟩, by decide⟩, hscore⟩, by decide⟩

/-- A report takes one line. -/
theorem newline_notMem_render (report : Report) : '\n' ∉ report.render.toList := by
  have hid := newline_notMem_quote report.id
  have hscores : '\n' ∉ (String.intercalate "," (report.scores.map renderScore)).toList := by
    apply newline_notMem_intercalate
    intro text htext
    obtain ⟨score, -, rfl⟩ := List.mem_map.1 htext
    exact newline_notMem_renderScore score
  simp only [render, String.toList_append, List.mem_append, not_or]
  exact ⟨⟨⟨⟨by decide, hid⟩, by decide⟩, hscores⟩, by decide⟩

/-! ### Reading a report back -/

/-- The parts of a key, none of which is escaped. -/
def key (name : String) : List StringPart :=
  name.toList.map .character

/-- The names of the categories in reports. -/
def categoryNames : List (Category × String) :=
  [(.industry, "industry"), (.intent, "intent"), (.manualHeuristic, "manual_heuristic")]

/-- Whether a JSON value tells a floating-point number: it is a number that rounds to it, or `null`
if it is not finite. -/
inductive TellsNumber : Value → Float → Prop
  | finite {x : Float} {text : List Char} {r : ℚ} (hnumber : IsNumber text r)
    (hrounds : Decimal.RoundsTo r x.toModel.unpack) : TellsNumber (.number text) x
  | notFinite {x : Float} (h : x.isFinite = false) : TellsNumber .null x

/-- Whether a JSON value tells a score, with the number and the category of the feature. -/
def TellsScore (value : Value) (score : FeatureScore Float) : Prop :=
  ∃ id category number, value = .object [(key "id", .number id), (key "category", category),
      (key "score", number)] ∧
    IsNumber id score.id ∧
    (∃ name, category.text? = some name ∧ (score.category, name) ∈ categoryNames) ∧
    TellsNumber number score.score

/-- Whether a JSON value tells a report: the identifier of the document, and the scores in their
order. -/
def Tells (value : Value) (report : Report) : Prop :=
  ∃ id scores, value = .object [(key "id", id), (key "scores", .array scores)] ∧
    id.text? = some report.id ∧ List.Forall₂ TellsScore scores report.scores

/-- A quoted text is cut to one string, which has the text. -/
theorem exists_isCut_quote (text : String) :
    ∃ parts, IsCut (quote text).toList [.string parts] ∧
      (Value.string parts).text? = some text := by
  obtain ⟨parts, htoken, hcharacters⟩ := exists_token?_quote text
  refine ⟨parts, isCut_of_token? (by simp [quote]) htoken, ?_⟩
  rw [Value.text?, Value.characters?, hcharacters, Option.map_some, String.ofList_toList]

theorem exists_tellsNumber (x : Float) :
    ∃ value, IsWritten (renderNumber x).toList value ∧ TellsNumber value x := by
  unfold renderNumber
  split
  · next hfinite =>
    obtain ⟨r, hnumber, hrounds⟩ := Decimal.exists_isNumber_render hfinite
    exact ⟨_, isWritten_number hnumber, .finite hnumber hrounds⟩
  · next hfinite => exact ⟨.null, isWritten_null, .notFinite (Bool.eq_false_iff.2 hfinite)⟩

theorem mem_categoryNames (category : Category) : (category, category.name) ∈ categoryNames := by
  cases category <;> decide

theorem exists_tellsScore (score : FeatureScore Float) :
    ∃ value, IsWritten (renderScore score).toList value ∧ TellsScore value score := by
  obtain ⟨category, hcategory, hname⟩ := exists_isCut_quote score.category.name
  obtain ⟨number, hnumber, htells⟩ := exists_tellsNumber score.score
  have hid : IsNumber score.id.repr.toList score.id := isNumber_repr score.id
  refine ⟨_, ?_, _, _, number, rfl, hid, ⟨_, hname, mem_categoryNames _⟩, htells⟩
  have hmembers : List.Forall₂ IsWrittenMember
      ["\"id\"".toList ++ ':' :: score.id.repr.toList,
        "\"category\"".toList ++ ':' :: (quote score.category.name).toList,
        "\"score\"".toList ++ ':' :: (renderNumber score.score).toList]
      [(key "id", .number score.id.repr.toList), (key "category", .string category),
        (key "score", number)] :=
    .cons ⟨_, _, rfl, isCut_of_token? (by simp) fun _ => rfl, isWritten_number hid⟩
      (.cons ⟨_, _, rfl, isCut_of_token? (by simp) fun _ => rfl, isWritten_string hcategory⟩
        (.cons ⟨_, _, rfl, isCut_of_token? (by simp) fun _ => rfl, hnumber⟩ .nil))
  have hobject := isWritten_object hmembers (List.cons_ne_nil _ _)
  simpa [renderScore, List.intercalate] using hobject

/-- A reader of JSON gets a report back from its line. -/
theorem exists_ofText?_render (report : Report) :
    ∃ value, Value.ofText? report.render.toList = some value ∧ Tells value report := by
  obtain ⟨id, hid, hname⟩ := exists_isCut_quote report.id
  obtain ⟨scores, hscores, htells⟩ : ∃ scores, List.Forall₂ IsWritten
      (report.scores.map fun score => (renderScore score).toList) scores ∧
        List.Forall₂ TellsScore scores report.scores := by
    induction report.scores with
    | nil => exact ⟨[], .nil, .nil⟩
    | cons score rest ih =>
      obtain ⟨value, hwritten, htells⟩ := exists_tellsScore score
      obtain ⟨values, hwrittens, htellss⟩ := ih
      exact ⟨value :: values, .cons hwritten hwrittens, .cons htells htellss⟩
  refine ⟨_, ?_, _, scores, rfl, hname, htells⟩
  have hmembers : List.Forall₂ IsWrittenMember
      ["\"id\"".toList ++ ':' :: (quote report.id).toList,
        "\"scores\"".toList ++ ':' :: ('[' ::
          [','].intercalate (report.scores.map fun score => (renderScore score).toList) ++ [']'])]
      [(key "id", .string id), (key "scores", .array scores)] :=
    .cons ⟨_, _, rfl, isCut_of_token? (by simp) fun _ => rfl, isWritten_string hid⟩
      (.cons ⟨_, _, rfl, isCut_of_token? (by simp) fun _ => rfl, isWritten_array hscores⟩ .nil)
  have hobject := isWritten_object hmembers (List.cons_ne_nil _ _)
  rw [← hobject.ofText?_eq]
  simp [render, List.intercalate_cons_cons, String.toList_intercalate, Function.comp_def]

/-- Whether a text is one line, from which a reader of JSON gets a report. -/
def IsLine (report : Report) (text : String) : Prop :=
  '\n' ∉ text.toList ∧ ∃ value, Value.ofText? text.toList = some value ∧ Tells value report

/-- What is printed for a report is a line of it. -/
theorem isLine_render (report : Report) : report.IsLine report.render :=
  ⟨report.newline_notMem_render, report.exists_ofText?_render⟩

end Report

end NewsScoring
