import HistoryQuiz.Client.GrpcError
import HistoryQuiz.Client.Question

/-!
# Field violations on their way to the form

* `fieldErrors_shown`: a list of violations in the metadata of an error is read in full, and each
  field of the form shows one message, that of the last violation under its name. So all of them
  are shown exactly when those of one field say the same (`prompt_error_lost`).
-/

namespace HistoryQuiz

namespace Client

open Js

/-! ## The two maps -/

/-- The violations that can have an entry. -/
def entered (violations : List FieldViolation) : List FieldViolation :=
  violations.filter (·.field ≠ "__proto__")

/-- The first map assigns the descriptions to the names. -/
theorem toFieldErrors_eq_run (violations : List FieldViolation) :
    toFieldErrors violations =
      Series.run "" FieldViolation.field (fun _ v => v.description) (entered violations) := by
  unfold toFieldErrors Series.run entered
  congr 1
  funext mapped violation
  unfold Series.record Series.upsert
  by_cases hmem : violation.field ∈ mapped.map Prod.fst
  · have hany : mapped.any (·.1 == violation.field) = true := by
      obtain ⟨entry, hentry, hkey⟩ := List.mem_map.mp hmem
      exact List.any_eq_true.mpr ⟨entry, hentry, beq_iff_eq.mpr hkey⟩
    rw [if_pos hany, if_pos hmem]
    refine List.map_congr_left ?_
    intro entry _
    split_ifs with hkey
    · rw [hkey]
    · rfl
  · have hany : ¬ mapped.any (·.1 == violation.field) = true := by
      intro hany
      obtain ⟨entry, hentry, hkey⟩ := List.any_eq_true.mp hany
      exact hmem (List.mem_map.mpr ⟨entry, hentry, beq_iff_eq.mp hkey⟩)
    rw [if_neg hany, if_neg hmem]

/-- The errors under the names of the form. -/
def formErrors (fieldErrors : List (String × String)) : List (String × String) :=
  fieldErrors.filterMap fun error =>
    (mapQuestionGrpcFieldToConformField error.1).map fun mappedField => (mappedField, error.2)

/-- The second map assigns the messages to the fields of the form. -/
theorem toQuestionConformFieldErrors_eq_run (fieldErrors : List (String × String)) :
    toQuestionConformFieldErrors fieldErrors =
      Series.run [] Prod.fst (fun _ error => [error.2]) (formErrors fieldErrors) := by
  unfold toQuestionConformFieldErrors Series.run formErrors
  rw [List.foldl_filterMap]
  congr 1
  funext converted error
  cases mapQuestionGrpcFieldToConformField error.1 with
  | none => rfl
  | some mappedField => rfl

/-- The messages of a field of the form. -/
def messagesOf (fieldErrors : List (String × List String)) (f : String) : List String :=
  (fieldErrors.lookup f).getD []

theorem mem_entered {violations : List FieldViolation} {v : FieldViolation} (hv : v ∈ violations)
    {f : String} (hf : mapQuestionGrpcFieldToConformField v.field = some f) :
    v ∈ entered violations := by
  refine List.mem_filter.mpr ⟨hv, decide_eq_true ?_⟩
  intro hproto
  rw [hproto, show mapQuestionGrpcFieldToConformField "__proto__" = none by decide] at hf
  cases hf

/-- The last one of a name among those that can have an entry is the last one of all. -/
theorem exists_last_of_entered {violations before after : List FieldViolation} {w : FieldViolation}
    (h : entered violations = before ++ w :: after) (hlast : ∀ x ∈ after, x.field ≠ w.field) :
    ∃ before' after', violations = before' ++ w :: after' ∧
      ∀ x ∈ after', x.field ≠ w.field := by
  obtain ⟨first, rest, rfl, -, hrest⟩ := List.filter_eq_append_iff.mp h
  obtain ⟨skipped, after', rfl, -, hw, rfl⟩ := List.filter_eq_cons_iff.mp hrest
  refine ⟨first ++ skipped, after', by simp, ?_⟩
  intro x hx hxw
  exact hlast x (List.mem_filter.mpr ⟨hx, by rw [hxw]; exact hw⟩) hxw

/-- Each field of the form that is named has one message, that of the last violation under its
name. -/
theorem messagesOf_toFieldErrors {violations : List FieldViolation} {v : FieldViolation}
    (hv : v ∈ violations) {f : String}
    (hf : mapQuestionGrpcFieldToConformField v.field = some f) :
    ∃ before w after, violations = before ++ w :: after ∧
      mapQuestionGrpcFieldToConformField w.field = some f ∧
      (∀ x ∈ after, x.field ≠ w.field) ∧
      messagesOf (toQuestionConformFieldErrors (toFieldErrors violations)) f =
        [w.description] := by
  have hexact : Series.Exact "" FieldViolation.field (fun _ v => v.description)
      (entered violations) (toFieldErrors violations) := by
    rw [toFieldErrors_eq_run]
    exact Series.exact_run _
  -- the name has an entry in the first map, so the field has one in the second
  have hnamed : f ∈ (formErrors (toFieldErrors violations)).map Prod.fst := by
    obtain ⟨entry, hentry, hkey⟩ := List.mem_map.mp
      ((hexact.mem_keys v.field).mpr (List.mem_map_of_mem (mem_entered hv hf)))
    refine List.mem_map.mpr ⟨(f, entry.2), List.mem_filterMap.mpr ⟨entry, hentry, ?_⟩, rfl⟩
    rw [hkey, hf]
    rfl
  obtain ⟨before, error, after, hsplit, rfl, hafter⟩ := Series.exists_last hnamed
  have hshown : messagesOf (toQuestionConformFieldErrors (toFieldErrors violations)) error.1 =
      [error.2] := by
    unfold messagesOf
    rw [toQuestionConformFieldErrors_eq_run, hsplit, Series.lookup_run_assign hafter]
    rfl
  -- the entry that stays has the last description of its name
  have herror : error ∈ formErrors (toFieldErrors violations) := by simp [hsplit]
  obtain ⟨entry, hentry, hmapped⟩ := List.mem_filterMap.mp herror
  obtain ⟨f, hname, rfl⟩ := Option.map_eq_some_iff.mp hmapped
  obtain ⟨before', w, after', hentered, hkey, hafter'⟩ := Series.exists_last
    ((hexact.mem_keys entry.1).mp (List.mem_map_of_mem hentry))
  have hlookup := (Series.lookup_eq_some hexact.nodup).mpr hentry
  rw [toFieldErrors_eq_run, hentered, ← hkey, Series.lookup_run_assign (hkey ▸ hafter')] at hlookup
  obtain ⟨before, after, hviolations, hlast⟩ := exists_last_of_entered hentered (by
    intro x hx hxw
    exact hafter' (List.mem_map.mpr ⟨x, hx, hxw.trans hkey⟩))
  refine ⟨before, w, after, hviolations, hkey ▸ hname, hlast, ?_⟩
  rw [Option.some.inj hlookup]
  exact hshown

/-! ## The list in the metadata -/

/-- A violation as an object of JSON, which may have other properties. -/
def FieldViolation.WrittenAs (v : FieldViolation) (item : Json) : Prop :=
  ∃ fields, item = .obj fields ∧ fields.lookup "field" = some (.str v.field) ∧
    fields.lookup "description" = some (.str v.description)

/-- What is read of it. -/
def FieldViolation.trimmed (v : FieldViolation) : FieldViolation :=
  ⟨trim v.description, trim v.field⟩

/-- The field of the form that it is about. -/
def FieldViolation.formField (v : FieldViolation) : Option String :=
  mapQuestionGrpcFieldToConformField (trim v.field)

/-- A list as an array, or as a property of an object. -/
inductive ListedIn (items : List Json) : Json → Prop where
  | array : ListedIn items (.arr items)
  | fieldViolations {fields : List (String × Json)}
      (h : fields.lookup "fieldViolations" = some (.arr items)) : ListedIn items (.obj fields)
  | field_violations {fields : List (String × Json)}
      (hnone : fields.lookup "fieldViolations" = none ∨
        fields.lookup "fieldViolations" = some .null)
      (h : fields.lookup "field_violations" = some (.arr items)) : ListedIn items (.obj fields)

/-- An error with a list of violations under one of the keys of its metadata, while no key that is
tried before has any violation. -/
inductive Reports (readers : Readers) : Unknown → List FieldViolation → Prop where
  | intro {error : Unknown} {violations : List FieldViolation} (serviceError : ErrorObject)
      (metadata : String → List MetadataValue) (before after : List String) (key text : String)
      (json : Json) (items : List Json)
      (hservice : (extractServiceError error).1 = some serviceError)
      (hmetadata : serviceError.metadata = some metadata)
      (hkeys : FIELD_VIOLATIONS_METADATA_KEYS = before ++ key :: after)
      (hbefore : ∀ k ∈ before, ∀ text, getMetadataString readers metadata k = some text →
        parseFieldViolationsFromJson readers text = [])
      (htext : getMetadataString readers metadata key = some text)
      (hjson : readers.parseJson text = some json) (hitems : ListedIn items json)
      (hwritten : List.Forall₂ FieldViolation.WrittenAs violations items) :
      Reports readers error violations

/-- `JSON.parse` throws for a blank text. -/
def RefusesBlank (readers : Readers) : Prop :=
  ∀ text, trim text = "" → readers.parseJson text = none

theorem toFieldViolation_writtenAs {v : FieldViolation} {item : Json} (h : v.WrittenAs item)
    (hfield : trim v.field ≠ "") (hdescription : trim v.description ≠ "") :
    toFieldViolation item = some v.trimmed := by
  obtain ⟨fields, rfl, hf, hd⟩ := h
  unfold toFieldViolation stringProp propOr
  dsimp only
  rw [hf, hd]
  exact if_neg (not_or.mpr ⟨hfield, hdescription⟩)

theorem filterMap_toFieldViolation {violations : List FieldViolation} {items : List Json}
    (h : List.Forall₂ FieldViolation.WrittenAs violations items)
    (hnonblank : ∀ v ∈ violations, trim v.field ≠ "" ∧ trim v.description ≠ "") :
    items.filterMap toFieldViolation = violations.map FieldViolation.trimmed := by
  induction h with
  | nil => rfl
  | @cons v item violations items hv _ ih =>
      obtain ⟨hfield, hdescription⟩ := hnonblank v List.mem_cons_self
      rw [List.filterMap_cons_some (toFieldViolation_writtenAs hv hfield hdescription),
        ih fun w hw => hnonblank w (List.mem_cons_of_mem _ hw), List.map_cons]

theorem coerceFieldViolations_listedIn {items : List Json} {json : Json}
    (h : ListedIn items json) : coerceFieldViolations json = items.filterMap toFieldViolation := by
  cases h with
  | array => rfl
  | fieldViolations h =>
      unfold coerceFieldViolations propOr
      dsimp only
      rw [h]
  | field_violations hnone h =>
      unfold coerceFieldViolations propOr
      dsimp only
      rcases hnone with hnone | hnone <;> rw [hnone, h]

/-- The list of a key is read when no key before it has one. -/
theorem parseFieldViolations_of_first {readers : Readers} (hblank : RefusesBlank readers)
    {metadata : String → List MetadataValue} {before after : List String} {key text : String}
    (hkeys : FIELD_VIOLATIONS_METADATA_KEYS = before ++ key :: after)
    (hbefore : ∀ k ∈ before, ∀ text, getMetadataString readers metadata k = some text →
      parseFieldViolationsFromJson readers text = [])
    (htext : getMetadataString readers metadata key = some text)
    (hne : parseFieldViolationsFromJson readers text ≠ []) :
    parseFieldViolations readers (some metadata) = parseFieldViolationsFromJson readers text := by
  have hhasText : (hasText (some text)).isSome = true := by
    have hnonblank : trim text ≠ "" := by
      intro hempty
      apply hne
      unfold parseFieldViolationsFromJson
      rw [hblank text hempty]
    unfold hasText
    simp [hnonblank]
  unfold parseFieldViolations
  dsimp only
  rw [hkeys, List.map_append, List.map_cons, List.find?_append, htext]
  dsimp only
  rw [if_pos hhasText, List.find?_cons_of_pos]
  · rw [List.find?_eq_none.mpr]
    · rfl
    · -- the keys before have no violations
      intro parsed hparsed
      obtain ⟨k, hk, rfl⟩ := List.mem_map.mp hparsed
      cases htext' : getMetadataString readers metadata k with
      | none => simp
      | some text' => simp [hbefore k hk text' htext']
  · exact decide_eq_true (List.length_pos_iff.mpr hne)

/-- The list is read in full. -/
theorem Reports.normalized {readers : Readers} (hblank : RefusesBlank readers) {error : Unknown}
    {violations : List FieldViolation} (h : Reports readers error violations)
    (hne : violations ≠ [])
    (hnonblank : ∀ v ∈ violations, trim v.field ≠ "" ∧ trim v.description ≠ "")
    (fallbackMessage requestId : Option String) :
    (normalizeGrpcHttpError readers error fallbackMessage
        requestId).fieldErrors = toFieldErrors (violations.map FieldViolation.trimmed) ∧
      (normalizeGrpcHttpError readers error fallbackMessage
        requestId).payload.fieldViolations = violations.map FieldViolation.trimmed := by
  obtain ⟨serviceError, metadata, before, after, key, text, json, items, hservice, hmetadata,
    hkeys, hbefore, htext, hjson, hitems, hwritten⟩ := h
  have hread : parseFieldViolationsFromJson readers text =
      violations.map FieldViolation.trimmed := by
    unfold parseFieldViolationsFromJson
    rw [hjson]
    dsimp only
    rw [coerceFieldViolations_listedIn hitems, filterMap_toFieldViolation hwritten hnonblank]
  have hparsed := parseFieldViolations_of_first hblank hkeys hbefore htext
    (hread ▸ fun hnil => hne (List.map_eq_nil_iff.mp hnil))
  rw [hread] at hparsed
  rcases hextract : extractServiceError error with ⟨service, wrappedRequestId⟩
  rw [hextract] at hservice
  cases hservice
  unfold normalizeGrpcHttpError
  rw [hextract]
  dsimp only
  rw [Option.bind_some, hmetadata, hparsed]
  exact ⟨rfl, rfl⟩

/-- For every list of violations that are not blank, under any key and in any of its shapes, and
for every error that carries it. It is kept in full, and each field of the form that it names
shows one message: the last description under a name of the field. All descriptions are shown
exactly when those of one field agree. -/
theorem fieldErrors_shown {readers : Readers} (hblank : RefusesBlank readers) {error : Unknown}
    {violations : List FieldViolation} (h : Reports readers error violations)
    (hnonblank : ∀ v ∈ violations, trim v.field ≠ "" ∧ trim v.description ≠ "")
    (fallbackMessage requestId : Option String) :
    let normalized :=
      normalizeGrpcHttpError readers error fallbackMessage requestId
    let shown := messagesOf (toQuestionConformFieldErrors normalized.fieldErrors)
    (violations ≠ [] →
      normalized.payload.fieldViolations = violations.map FieldViolation.trimmed) ∧
    (∀ v ∈ violations, ∀ f, v.formField = some f → ∃ before w after,
      violations = before ++ w :: after ∧ w.formField = some f ∧
      (∀ x ∈ after, trim x.field ≠ trim w.field) ∧ shown f = [trim w.description]) ∧
    ((∀ v ∈ violations, ∀ f, v.formField = some f → trim v.description ∈ shown f) ↔
      ∀ v ∈ violations, ∀ w ∈ violations, ∀ f, v.formField = some f → w.formField = some f →
        trim v.description = trim w.description) := by
  intro normalized shown
  have hone : ∀ v ∈ violations, ∀ f, v.formField = some f → ∃ before w after,
      violations = before ++ w :: after ∧ w.formField = some f ∧
      (∀ x ∈ after, trim x.field ≠ trim w.field) ∧ shown f = [trim w.description] := by
    intro v hv f hf
    obtain ⟨hfieldErrors, -⟩ := h.normalized hblank (List.ne_nil_of_mem hv) hnonblank
      fallbackMessage requestId
    obtain ⟨_, _, _, hsplit, hmapped, hlast, hshown⟩ :=
      messagesOf_toFieldErrors (List.mem_map_of_mem (f := FieldViolation.trimmed) hv) hf
    obtain ⟨before, rest, rfl, rfl, hrest⟩ := List.map_eq_append_iff.mp hsplit
    obtain ⟨w, after, rfl, rfl, rfl⟩ := List.map_eq_cons_iff.mp hrest
    refine ⟨before, w, after, rfl, hmapped, ?_, ?_⟩
    · intro x hx
      exact hlast _ (List.mem_map_of_mem hx)
    · rw [← hfieldErrors] at hshown
      exact hshown
  refine ⟨?_, hone, ?_⟩
  · intro hne
    exact (h.normalized hblank hne hnonblank fallbackMessage requestId).2
  constructor
  · -- a field shows one message, so two that it shows are the same
    intro hall v hv w hw f hvf hwf
    obtain ⟨_, x, _, -, -, -, hshown⟩ := hone v hv f hvf
    have hvx := hall v hv f hvf
    have hwx := hall w hw f hwf
    rw [hshown, List.mem_singleton] at hvx hwx
    rw [hvx, hwx]
  · intro hagree v hv f hvf
    obtain ⟨before, x, after, rfl, hxf, -, hshown⟩ := hone v hv f hvf
    rw [hshown, List.mem_singleton]
    exact hagree v hv x (by simp) f hvf hxf

/-! ### Two violations of the prompt -/

/-- Two violations of one field of the form, under different names. -/
def promptViolations : List FieldViolation := [⟨"必須です", "draft.prompt"⟩, ⟨"長すぎます", "prompt"⟩]

def promptText : String :=
  "[\x7b\"field\":\"draft.prompt\",\"description\":\"必須です\"\x7d," ++
    "\x7b\"field\":\"prompt\",\"description\":\"長すぎます\"\x7d]"

def promptItems : List Json :=
  promptViolations.map fun v => .obj [("field", .str v.field), ("description", .str v.description)]

/-- What is read of the text. -/
def promptReaders : Readers where
  parseJson text := if text = promptText then some (.arr promptItems) else none
  atob _ := none
  decodeUtf8 _ := ""
  numberText _ := ""
  toUpperCase := id

/-- The error of a call, with the text in its metadata. -/
def promptError : Unknown :=
  .grpcCallError (.object ⟨.number (some 3), some "入力が不正です",
    some fun key => if key = "x-field-violations" then [.text promptText] else []⟩) "call"

theorem parseJson_promptText : promptReaders.parseJson promptText = some (.arr promptItems) := by
  simp [promptReaders]

theorem reports_promptError : Reports promptReaders promptError promptViolations := by
  refine .intro _ _ [] _ "x-field-violations" promptText (.arr promptItems) promptItems rfl rfl rfl
    (fun k hk => absurd hk List.not_mem_nil) rfl parseJson_promptText .array ?_
  exact .cons ⟨_, rfl, rfl, rfl⟩ (.cons ⟨_, rfl, rfl, rfl⟩ .nil)

/-- The texts are not blank, and the form shows the second description only. -/
theorem promptViolations_shown :
    trim promptText ≠ "" ∧
    (∀ v ∈ promptViolations, trim v.field ≠ "" ∧ trim v.description ≠ "") ∧
    trim "必須です" ∉ messagesOf (toQuestionConformFieldErrors
      (toFieldErrors (promptViolations.map FieldViolation.trimmed))) "prompt" := by decide +kernel

theorem refusesBlank_promptReaders : RefusesBlank promptReaders := by
  intro text htext
  refine if_neg ?_
  rintro rfl
  exact promptViolations_shown.1 htext

/-- The first description is lost. -/
theorem prompt_error_lost :
    RefusesBlank promptReaders ∧ Reports promptReaders promptError promptViolations ∧
    (∀ v ∈ promptViolations, trim v.field ≠ "" ∧ trim v.description ≠ "") ∧
    ∃ v ∈ promptViolations, mapQuestionGrpcFieldToConformField v.field = some "prompt" ∧
      trim v.description ∉ messagesOf (toQuestionConformFieldErrors
        (normalizeGrpcHttpError promptReaders promptError none none).fieldErrors)
          "prompt" := by
  obtain ⟨-, hnonblank, hlost⟩ := promptViolations_shown
  refine ⟨refusesBlank_promptReaders, reports_promptError, hnonblank,
    ⟨"必須です", "draft.prompt"⟩, List.mem_cons_self, by decide, ?_⟩
  rw [(reports_promptError.normalized refusesBlank_promptReaders (List.cons_ne_nil _ _) hnonblank
    none none).1]
  exact hlost

/-- Both of them are kept in the payload. -/
theorem fieldErrors_shown_prompt :
    (normalizeGrpcHttpError promptReaders promptError none
        none).payload.fieldViolations = promptViolations.map FieldViolation.trimmed :=
  (fieldErrors_shown refusesBlank_promptReaders reports_promptError promptViolations_shown.2.1 none
    none).1 (List.cons_ne_nil _ _)

end Client

end HistoryQuiz
