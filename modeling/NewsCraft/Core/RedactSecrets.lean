import NewsCraft.Core.RedactText

/-!
# Secrets in documents

`redact_secrets` goes through a document once. A secret name hides its value, a long
name hides its value too, texts and names are redacted as texts, and what is too
deep or too long is cut off.

Two documents that differ only in values a secret name hides are redacted to the same
document. How texts are redacted does not matter for it.
-/

namespace NewsCraft

namespace Redact

def redactedValue : Json := .str "[REDACTED]"
def tooDeep : Json := .str "[MAX_DEPTH]"

/-- `result[name] = value`. -/
def putField : List (String × Json) → String → Json → List (String × Json)
  | [], name, value => [(name, value)]
  | (key, old) :: fields, name, value =>
    if key = name then (key, value) :: fields else (key, old) :: putField fields name value

variable (P : PythonText) (onText : String → String)

/-- Whether an item of a mapping is hidden, by its name or because it has none. -/
def hides (key : String) (value : Json) : Bool :=
  !(safeMappingKey key).2 || redactKeyValue P (safeMappingKey key).1.toList value

mutual

/-- `redact_secrets`, of a JSON value at a depth; `onText` is `redact_string`. -/
def redactSecrets : Nat → Json → Json
  | depth, value =>
    if maxDepth < depth then
      tooDeep
    else
      match value with
      | .null => .null
      | .bool b => .bool b
      | .int n => .int n
      | .float text => .float text
      | .str s => .str (onText s)
      | .arr items => .arr (redactItems depth maxSequenceItems items)
      | .obj fields => .obj (redactFields depth maxMappingItems fields [])

/-- `_redact_iterable`, of so many items. -/
def redactItems (depth : Nat) : Nat → List Json → List Json
  | 0, _ => []
  | _, [] => []
  | count + 1, item :: items =>
    redactSecrets (depth + 1) item :: redactItems depth count items

/-- `_redact_mapping`, of so many items, onto what has been redacted. -/
def redactFields (depth : Nat) :
    Nat → List (String × Json) → List (String × Json) → List (String × Json)
  | 0, _, result => result
  | _, [], result => result
  | count + 1, (key, value) :: fields, result =>
    redactFields depth count fields (putField result (onText (safeMappingKey key).1)
        (if hides P key value then redactedValue else redactSecrets (depth + 1) value))

end

/-! ## Documents that differ in secrets only -/

mutual

/-- The documents differ only in values that their names hide. -/
inductive AlikeBesidesSecrets (P : PythonText) : Json → Json → Prop
  | same (value : Json) : AlikeBesidesSecrets P value value
  | arr {items items' : List Json} :
      AlikeItems P items items' → AlikeBesidesSecrets P (.arr items) (.arr items')
  | obj {fields fields' : List (String × Json)} :
      AlikeFields P fields fields' → AlikeBesidesSecrets P (.obj fields) (.obj fields')

inductive AlikeItems (P : PythonText) : List Json → List Json → Prop
  | nil : AlikeItems P [] []
  | cons {item item' : Json} {items items' : List Json} :
      AlikeBesidesSecrets P item item' → AlikeItems P items items' →
        AlikeItems P (item :: items) (item' :: items')

inductive AlikeFields (P : PythonText) : List (String × Json) → List (String × Json) → Prop
  | nil : AlikeFields P [] []
  | shown {key : String} {value value' : Json} {fields fields' : List (String × Json)} :
      AlikeBesidesSecrets P value value' → AlikeFields P fields fields' →
        AlikeFields P ((key, value) :: fields) ((key, value') :: fields')
  | secret {key : String} {value value' : Json} {fields fields' : List (String × Json)} :
      redactKeyValue P key.toList value = true → redactKeyValue P key.toList value' = true →
        AlikeFields P fields fields' →
          AlikeFields P ((key, value) :: fields) ((key, value') :: fields')

end

variable {P} {onText : String → String}

variable {value value' : Json}

theorem safeNumericValue_alike (h : AlikeBesidesSecrets P value value') :
    safeNumericValue value = safeNumericValue value' := by
  cases h with
  | same | arr _ | obj _ => rfl

theorem safeNumericItem_of_redacted {key : String} (h : redactKeyValue P key.toList value = true) :
    safeNumericItem P (key, value) = false := by
  rw [redactKeyValue, Bool.and_eq_true, Bool.not_eq_true'] at h
  obtain ⟨hsecret, hplain⟩ := h
  rw [safeNumericItem]
  by_cases hlong : key.toList.length > maxMappingKeyChars
  · simp [safeMappingKey, hlong]
  simp only [safeMappingKey, hlong, if_false, hsecret, Bool.not_true, Bool.false_or, Bool.true_and]
  by_cases hname : safeNumericKeys.contains (normalizedKey P key.toList) = true
  · rw [safeSecretValue] at hplain
    simp only [hname, if_true] at hplain
    rw [hplain, Bool.false_and]
  · rw [Bool.not_eq_true] at hname
    rw [hname, Bool.and_false]

theorem safeNumericItems_alike {fields fields' : List (String × Json)}
    (h : AlikeFields P fields fields') : fields.isEmpty = fields'.isEmpty
      ∧ fields.all (safeNumericItem P) = fields'.all (safeNumericItem P) := by
  match h with
  | .nil => exact ⟨rfl, rfl⟩
  | .shown hvalue hfields =>
    obtain ⟨-, hall⟩ := safeNumericItems_alike hfields
    refine ⟨rfl, ?_⟩
    simp only [List.all_cons, hall, safeNumericItem, safeNumericValue_alike hvalue]
  | .secret hvalue hvalue' hfields =>
    refine ⟨rfl, ?_⟩
    rw [List.all_cons, List.all_cons, safeNumericItem_of_redacted hvalue,
      safeNumericItem_of_redacted hvalue', Bool.false_and, Bool.false_and]

theorem safeNumericMapping_alike (h : AlikeBesidesSecrets P value value') :
    safeNumericMapping P value = safeNumericMapping P value' := by
  cases h with
  | same | arr _ => rfl
  | obj hfields =>
    obtain ⟨hempty, hall⟩ := safeNumericItems_alike hfields
    rw [safeNumericMapping, safeNumericMapping, hempty, hall]

theorem hides_alike (key : String) (h : AlikeBesidesSecrets P value value') :
    hides P key value = hides P key value' := by
  rw [hides, hides, redactKeyValue, redactKeyValue, safeSecretValue, safeSecretValue,
    safeNumericValue_alike h, safeNumericMapping_alike h]

theorem hides_of_redacted {key : String} (h : redactKeyValue P key.toList value = true) :
    hides P key value = true := by
  rw [hides, safeMappingKey]
  split_ifs
  · rfl
  · rw [h, Bool.or_true]

mutual

/-- Documents that differ in secrets only are redacted to the same document, whatever
texts are redacted to. -/
theorem redactSecrets_alike {value value' : Json} (h : AlikeBesidesSecrets P value value')
    (depth : Nat) : redactSecrets P onText depth value = redactSecrets P onText depth value' := by
  match h with
  | .same _ => rfl
  | .arr hitems =>
    rw [redactSecrets, redactSecrets, redactItems_alike hitems]
  | .obj hfields =>
    rw [redactSecrets, redactSecrets, redactFields_alike hfields]

theorem redactItems_alike {items items' : List Json} (h : AlikeItems P items items')
    (depth count : Nat) : redactItems P onText depth count items
      = redactItems P onText depth count items' := by
  match h with
  | .nil => rfl
  | .cons hitem hitems =>
    cases count with
    | zero => rw [redactItems, redactItems]
    | succ count =>
      rw [redactItems, redactItems, redactSecrets_alike hitem, redactItems_alike hitems]

theorem redactFields_alike {fields fields' : List (String × Json)} (h : AlikeFields P fields fields')
    (depth count : Nat) (result : List (String × Json)) :
    redactFields P onText depth count fields result
      = redactFields P onText depth count fields' result := by
  match h with
  | .nil => rfl
  | .shown hvalue hfields =>
    cases count with
    | zero => rw [redactFields, redactFields]
    | succ count =>
      rw [redactFields, redactFields, hides_alike _ hvalue, redactSecrets_alike hvalue,
        redactFields_alike hfields]
  | .secret hvalue hvalue' hfields =>
    cases count with
    | zero => rw [redactFields, redactFields]
    | succ count =>
      rw [redactFields, redactFields, hides_of_redacted hvalue, hides_of_redacted hvalue',
        if_pos rfl, if_pos rfl, redactFields_alike hfields]

end

/--
**Redaction tells nothing about secrets.** Two documents that differ only in values that a
secret name hides, at any depth, are redacted to the same document.
-/
theorem redact_secrets_noninterference (P : PythonText) (U : PythonUrl) (secrets : List Text)
    {value value' : Json} (h : AlikeBesidesSecrets P value value') :
    redactSecrets P (redactString P U secrets) 0 value
      = redactSecrets P (redactString P U secrets) 0 value' :=
  redactSecrets_alike h 0

/-- A password inside a list, beside a count of tokens that both documents show. -/
def withPassword (password : String) : Json :=
  .obj [("name", .str "a"),
    ("logins", .arr [.obj [("port", .int 1), ("max_tokens", .int 5), ("password", .str password)]])]

theorem redact_secrets_noninterference_password :
    redactSecrets .ascii (redactString .ascii .plain []) 0 (withPassword "first")
      = redactSecrets .ascii (redactString .ascii .plain []) 0 (withPassword "second") := by
  refine redact_secrets_noninterference _ _ _ (.obj (.shown (.same _) (.shown (.arr (.cons (.obj
    (.shown (.same _) (.shown (.same _) (.secret ?_ ?_ .nil)))) .nil)) .nil)))
  · decide +kernel
  · decide +kernel

end Redact

end NewsCraft
