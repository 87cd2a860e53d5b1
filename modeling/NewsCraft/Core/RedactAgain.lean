import NewsCraft.Core.RedactSecrets
import NewsCraft.Lib.Dict

/-!
# Redacting a redacted document

Whoever checks a document for secrets redacts it and compares. Whether redacting it again
changes nothing depends on the texts, the names, which can turn into secret ones, and the
places where the first pass had to cut off.

`Settled` says of the document before the first pass what the second does. An item of a
mapping counts unless a later item of the same redacted name has replaced it.
-/

namespace NewsCraft

namespace Redact

open Lib List

variable (P : PythonText) (onText : String → String)

/-- The name an item of a mapping is redacted to. -/
def redactedName (key : String) : String := onText (safeMappingKey key).1

/-- What `_redact_mapping` makes of an item. -/
def redactItem (depth : Nat) (item : String × Json) : String × Json :=
  (redactedName onText item.1,
    if hides P item.1 item.2 then redactedValue else redactSecrets P onText (depth + 1) item.2)

/-! ## What settles a document -/

/-- The name is short enough to be inspected and redaction leaves it alone. -/
def SettledName (name : String) : Prop :=
  name.toList.length ≤ maxMappingKeyChars ∧ onText name = name

/-- A mapping at the depth is redacted to numbers under names that keep them. -/
def KeepsNumbers (depth : Nat) : Json → Prop
  | .obj fields =>
    depth < maxDepth ∧ fields ≠ []
      ∧ Dict.Lasting (fun item => redactedName onText item.1) (fun item =>
          hides P item.1 item.2 = false ∧ safeNumericValue item.2 = true
            ∧ (redactedName onText item.1).toList.length ≤ maxMappingKeyChars
            ∧ (secretKey P (redactedName onText item.1).toList = true →
                normalizedKey P (redactedName onText item.1).toList ∈ safeNumericKeys))
        (fields.take maxMappingItems)
  | .null | .bool _ | .int _ | .float _ | .str _ | .arr _ => False

/-- An item of a mapping at the depth still has a value that its redacted name keeps. -/
def StaysSafe (depth : Nat) (name : String) (value : Json) : Prop :=
  (normalizedKey P name.toList ∈ safeNumericKeys ∧ depth < maxDepth ∧ safeNumericValue value = true)
    ∨ (normalizedKey P name.toList ∉ safeNumericKeys
      ∧ normalizedKey P name.toList ∈ safeNumericContainerKeys
      ∧ KeepsNumbers P onText (depth + 1) value)

/-- Why an item of a mapping at the depth is redacted to the same value again; `again` says
it of the value. -/
inductive SettledValue (depth : Nat) (item : String × Json) (again : Prop) : Prop
  /-- It is hidden, and the mark stays: it is not too deep, or the name is secret as well. -/
  | hidden (hides : hides P item.1 item.2 = true)
      (stays : depth < maxDepth ∨ secretKey P (redactedName onText item.1).toList = true)
  /-- It is shown, and shown again. -/
  | shown (shows : hides P item.1 item.2 = false)
      (name : secretKey P (redactedName onText item.1).toList = true →
        StaysSafe P onText depth (redactedName onText item.1) item.2)
      (settled : again)
  /-- The name has turned into a secret one, and the value is a text that was all secret. -/
  | marked (shows : hides P item.1 item.2 = false)
      (name : secretKey P (redactedName onText item.1).toList = true)
      (deep : depth < maxDepth) {text : String} (value : item.2 = .str text)
      (mark : onText text = "[REDACTED]")

mutual

/-- Redacting the document at the depth a second time changes nothing. -/
def Settled : Nat → Json → Prop
  | depth, value =>
    maxDepth < depth ∨ match value with
      | .null => True
      | .bool _ => True
      | .int _ => True
      | .float _ => True
      | .str s => onText (onText s) = onText s
      | .arr items => SettledItems depth maxSequenceItems items
      | .obj fields => SettledFields depth maxMappingItems fields

def SettledItems (depth : Nat) : Nat → List Json → Prop
  | 0, _ => True
  | _, [] => True
  | count + 1, item :: items => Settled (depth + 1) item ∧ SettledItems depth count items

def SettledFields (depth : Nat) : Nat → List (String × Json) → Prop
  | 0, _ => True
  | _, [] => True
  | count + 1, (key, value) :: fields =>
    (redactedName onText key ∈ (fields.take count).map (fun item => redactedName onText item.1)
        ∨ SettledName onText (redactedName onText key)
          ∧ SettledValue P onText depth (key, value) (Settled (depth + 1) value))
      ∧ SettledFields depth count fields

end

variable {P} {onText}

/-! ## Items and mappings, all at once -/

theorem putField_eq_put (fields : List (String × Json)) (name : String) (value : Json) :
    putField fields name value = Dict.put fields name value := by
  induction fields with
  | nil => rfl
  | cons field fields ih =>
    rw [putField, Dict.put, ih]
    by_cases hname : field.1 = name
    · rw [if_pos hname, if_pos hname, hname]
    · rw [if_neg hname, if_neg hname]

theorem redactItems_eq_map (depth count : Nat) (items : List Json) :
    redactItems P onText depth count items
      = (items.take count).map (redactSecrets P onText (depth + 1)) := by
  induction items generalizing count with
  | nil =>
    cases count with
    | zero => rw [redactItems]; rfl
    | succ count => simp [redactItems]
  | cons item items ih =>
    cases count with
    | zero => rw [redactItems]; rfl
    | succ count => rw [redactItems, ih, take_succ_cons, map_cons]

theorem redactFields_eq_build (depth count : Nat) (fields result : List (String × Json)) :
    redactFields P onText depth count fields result
      = Dict.build result ((fields.take count).map (redactItem P onText depth)) := by
  induction fields generalizing count result with
  | nil =>
    cases count with
    | zero => rw [redactFields]; rfl
    | succ count => simp [redactFields]
  | cons field fields ih =>
    obtain ⟨key, value⟩ := field
    cases count with
    | zero => rw [redactFields]; rfl
    | succ count =>
      rw [redactFields, ih, putField_eq_put, take_succ_cons, map_cons, Dict.build_cons]
      rfl

/-- The items that are left of a mapping, at most as many as are looked at. -/
def redactMapping (P : PythonText) (onText : String → String) (depth : Nat)
    (fields : List (String × Json)) : List (String × Json) :=
  Dict.build [] ((fields.take maxMappingItems).map (redactItem P onText depth))

theorem redactMapping_distinct (depth : Nat) (fields : List (String × Json)) :
    Dict.Distinct (redactMapping P onText depth fields) := Dict.distinct_nil.build _

theorem redactMapping_length_le (depth : Nat) (fields : List (String × Json)) :
    (redactMapping P onText depth fields).length ≤ maxMappingItems := by
  have hbuild := Dict.length_build_le []
    ((fields.take maxMappingItems).map (redactItem P onText depth))
  rw [length_nil, Nat.zero_add, length_map] at hbuild
  exact hbuild.trans (length_take_le _ _)

variable {depth : Nat}

theorem redactSecrets_obj (hdepth : depth ≤ maxDepth) (fields : List (String × Json)) :
    redactSecrets P onText depth (.obj fields) = .obj (redactMapping P onText depth fields) := by
  rw [redactSecrets, if_neg (by omega), redactFields_eq_build]
  rfl

theorem redactSecrets_arr (hdepth : depth ≤ maxDepth) (items : List Json) :
    redactSecrets P onText depth (.arr items)
      = .arr ((items.take maxSequenceItems).map (redactSecrets P onText (depth + 1))) := by
  rw [redactSecrets, if_neg (by omega), redactItems_eq_map]

theorem redactSecrets_str (hdepth : depth ≤ maxDepth) (s : String) :
    redactSecrets P onText depth (.str s) = .str (onText s) := by
  rw [redactSecrets, if_neg (by omega)]

theorem redactSecrets_deep (hdepth : maxDepth < depth) (value : Json) :
    redactSecrets P onText depth value = tooDeep := by
  unfold redactSecrets
  exact if_pos hdepth

/-! ## Numbers -/

variable {value : Json}

theorem safeNumericValue_redacted : safeNumericValue (redactSecrets P onText depth value) = true
      ↔ depth ≤ maxDepth ∧ safeNumericValue value = true := by
  by_cases hdepth : maxDepth < depth
  · rw [redactSecrets_deep hdepth]
    constructor
    · intro h
      exact absurd h Bool.false_ne_true
    · rintro ⟨hle, -⟩
      omega
  · have hle : depth ≤ maxDepth := by omega
    cases value with
    | int _ | float _ => simp [redactSecrets, hdepth, hle, safeNumericValue]
    | _ => simp [redactSecrets, hdepth, safeNumericValue]

theorem safeNumericItem_redacted {item : String × Json} :
    safeNumericItem P (redactItem P onText depth item) = true
      ↔ depth < maxDepth ∧ hides P item.1 item.2 = false ∧ safeNumericValue item.2 = true
        ∧ (redactedName onText item.1).toList.length ≤ maxMappingKeyChars
        ∧ (secretKey P (redactedName onText item.1).toList = true →
            normalizedKey P (redactedName onText item.1).toList ∈ safeNumericKeys) := by
  have hvalue : safeNumericValue (redactItem P onText depth item).2 = true
      ↔ hides P item.1 item.2 = false ∧ depth < maxDepth ∧ safeNumericValue item.2 = true := by
    rw [redactItem]
    cases hhides : hides P item.1 item.2 with
    | true => simp [redactedValue, safeNumericValue]
    | false => simp [safeNumericValue_redacted, Nat.succ_le_iff]
  have hname : (redactItem P onText depth item).1 = redactedName onText item.1 := rfl
  rw [safeNumericItem, safeMappingKey, hname]
  by_cases hlong : (redactedName onText item.1).toList.length > maxMappingKeyChars
  · rw [if_pos hlong]
    simp only [Bool.false_and, Bool.false_eq_true, false_iff]
    rintro ⟨-, -, -, hshort, -⟩
    omega
  · have hshort : (redactedName onText item.1).toList.length ≤ maxMappingKeyChars := by omega
    rw [if_neg hlong]
    simp only [Bool.true_and, Bool.and_eq_true, Bool.or_eq_true, Bool.not_eq_true', hvalue, hshort,
      contains_iff_mem, true_and]
    constructor
    · rintro ⟨⟨hshown, hdepth, hnumber⟩, hsafe⟩
      refine ⟨hdepth, hshown, hnumber, fun hsecret => hsafe.resolve_left ?_⟩
      rw [hsecret]
      exact Bool.noConfusion
    · rintro ⟨hdepth, hshown, hnumber, hsafe⟩
      refine ⟨⟨hshown, hdepth, hnumber⟩, ?_⟩
      cases hsecret : secretKey P (redactedName onText item.1).toList with
      | false => exact .inl rfl
      | true => exact .inr (hsafe hsecret)

theorem redactMapping_eq_nil {fields : List (String × Json)} :
    redactMapping P onText depth fields = [] ↔ fields = [] := by
  constructor
  · intro h
    cases fields with
    | nil => rfl
    | cons field fields =>
      have hmem : (redactItem P onText depth field).1
          ∈ (redactMapping P onText depth (field :: fields)).map Prod.fst := by
        refine Dict.mem_keys_build.mpr (.inr ?_)
        exact mem_map_of_mem (mem_map_of_mem mem_cons_self)
      rw [h] at hmem
      cases hmem
  · rintro rfl
    rfl

theorem forall_mem_redactMapping {fields : List (String × Json)} {p : String × Json → Prop} :
    (∀ entry ∈ redactMapping P onText depth fields, p entry)
      ↔ Dict.Lasting (fun item => redactedName onText item.1)
          (fun item => p (redactItem P onText depth item)) (fields.take maxMappingItems) := by
  rw [redactMapping, Dict.forall_mem_build, Dict.lasting_map]
  rfl

theorem safeNumericMapping_redacted :
    safeNumericMapping P (redactSecrets P onText depth value) = true
      ↔ KeepsNumbers P onText depth value := by
  by_cases hdepth : maxDepth < depth
  · rw [redactSecrets_deep hdepth]
    cases value with
    | obj fields =>
      constructor
      · intro h
        exact absurd h Bool.false_ne_true
      · rintro ⟨hlt, -⟩
        omega
    | _ => simp [tooDeep, safeNumericMapping, KeepsNumbers]
  · have hle : depth ≤ maxDepth := by omega
    cases value with
    | obj fields =>
      rw [redactSecrets_obj hle, safeNumericMapping, Bool.and_eq_true, Bool.not_eq_true',
        isEmpty_eq_false_iff, ne_eq, redactMapping_eq_nil, all_eq_true,
        forall_mem_redactMapping, Dict.lasting_iff fun item _ => safeNumericItem_redacted,
        KeepsNumbers]
      constructor
      · rintro ⟨hne, hlasting⟩
        have htake : fields.take maxMappingItems ≠ [] := by
          intro h
          rcases take_eq_nil_iff.mp h with h | h
          · exact absurd h (by decide)
          · exact hne h
        obtain ⟨item, -, hlt, -⟩ := Dict.exists_of_lasting htake hlasting
        exact ⟨hlt, hne, (Dict.lasting_iff fun item _ => by simp only [hlt, true_and]).mp hlasting⟩
      · rintro ⟨hlt, hne, hlasting⟩
        exact ⟨hne, (Dict.lasting_iff fun item _ => by simp only [hlt, true_and]).mpr hlasting⟩
    | _ => simp [redactSecrets, hdepth, safeNumericMapping, KeepsNumbers]

variable {name : String}

theorem safeSecretValue_redacted :
    safeSecretValue P name.toList (redactSecrets P onText (depth + 1) value) = true
      ↔ StaysSafe P onText depth name value := by
  rw [safeSecretValue, StaysSafe]
  by_cases hnumeric : normalizedKey P name.toList ∈ safeNumericKeys
  · simp [hnumeric, safeNumericValue_redacted, Nat.succ_le_iff]
  · simp [hnumeric, safeNumericMapping_redacted]

/-! ## The second pass -/

theorem redactedName_eq_iff (hstr : onText "[str]" = "[str]") :
    redactedName onText name = name ↔ SettledName onText name := by
  rw [redactedName, safeMappingKey, SettledName]
  by_cases hlong : name.toList.length > maxMappingKeyChars
  · rw [if_pos hlong, hstr]
    constructor
    · intro h
      rw [← h] at hlong
      exact absurd hlong (by decide +kernel)
    · rintro ⟨hshort, -⟩
      omega
  · have hshort : name.toList.length ≤ maxMappingKeyChars := by omega
    rw [if_neg hlong]
    simp only [hshort, true_and]

theorem hides_of_short (h : name.toList.length ≤ maxMappingKeyChars) (value : Json) :
    hides P name value = redactKeyValue P name.toList value := by
  have hshort : ¬name.toList.length > maxMappingKeyChars := by omega
  rw [hides, safeMappingKey, if_neg hshort]
  rfl

theorem safeSecretValue_mark (name : Text) : safeSecretValue P name redactedValue = false := by
  rw [safeSecretValue, redactedValue]
  simp [safeNumericValue, safeNumericMapping]

theorem redactSecrets_eq_mark : redactSecrets P onText depth value = redactedValue
      ↔ depth ≤ maxDepth ∧ ∃ text, value = .str text ∧ onText text = "[REDACTED]" := by
  by_cases hdepth : maxDepth < depth
  · rw [redactSecrets_deep hdepth]
    constructor
    · intro h
      exact absurd h (by decide)
    · rintro ⟨hle, -⟩
      omega
  · have hle : depth ≤ maxDepth := by omega
    cases value with
    | str s => simp [redactSecrets, hdepth, hle, redactedValue]
    | _ => simp [redactSecrets, hdepth, redactedValue]

/-- **What the second pass does to an item.** -/
theorem redactItem_again_iff (hstr : onText "[str]" = "[str]")
    (hmark : onText "[REDACTED]" = "[REDACTED]") {item : String × Json} {again : Prop}
    (h : redactSecrets P onText (depth + 1) (redactSecrets P onText (depth + 1) item.2) =
      redactSecrets P onText (depth + 1) item.2 ↔ again) :
    redactItem P onText depth (redactItem P onText depth item) = redactItem P onText depth item
      ↔ SettledName onText (redactedName onText item.1)
        ∧ SettledValue P onText depth item again := by
  have hpair : redactItem P onText depth (redactItem P onText depth item)
        = redactItem P onText depth item
      ↔ SettledName onText (redactedName onText item.1)
        ∧ (redactItem P onText depth (redactItem P onText depth item)).2
          = (redactItem P onText depth item).2 := by
    rw [Prod.ext_iff, ← redactedName_eq_iff hstr]
    rfl
  rw [hpair]
  refine and_congr_right fun hname => ?_
  have hshort : hides P (redactItem P onText depth item).1 (redactItem P onText depth item).2
      = redactKeyValue P (redactedName onText item.1).toList (redactItem P onText depth item).2 :=
    hides_of_short hname.1 _
  rw [redactItem, hshort, redactItem, redactKeyValue]
  cases hhides : hides P item.1 item.2 with
  | true =>
    have hagain : redactSecrets P onText (depth + 1) redactedValue = redactedValue
        ↔ depth < maxDepth := by
      rw [redactSecrets_eq_mark]
      constructor
      · rintro ⟨hle, -⟩
        omega
      · intro hlt
        exact ⟨by omega, "[REDACTED]", rfl, hmark⟩
    simp only [if_true, safeSecretValue_mark, Bool.not_false, Bool.and_true]
    cases hsecret : secretKey P (redactedName onText item.1).toList with
    | true =>
      simp only [if_true, true_iff]
      exact .hidden hhides (.inr hsecret)
    | false =>
      simp only [Bool.false_eq_true, if_false, hagain]
      constructor
      · intro hlt
        exact .hidden hhides (.inl hlt)
      · intro hsettled
        cases hsettled with
        | hidden _ hstays =>
          refine hstays.resolve_right ?_
          rw [hsecret]
          exact Bool.false_ne_true
        | shown hshows | marked hshows => exact absurd (hhides.symm.trans hshows) Bool.noConfusion
  | false =>
    simp only [Bool.false_eq_true, if_false]
    by_cases hcut : secretKey P (redactedName onText item.1).toList = true
        ∧ ¬StaysSafe P onText depth (redactedName onText item.1) item.2
    · -- the name has turned into a secret one: the mark must have been there already
      have hplain : safeSecretValue P (redactedName onText item.1).toList
          (redactSecrets P onText (depth + 1) item.2) = false := by
        rw [← Bool.not_eq_true, safeSecretValue_redacted]
        exact hcut.2
      simp only [hcut.1, hplain, Bool.not_false, Bool.and_true, if_true]
      rw [eq_comm, redactSecrets_eq_mark]
      constructor
      · rintro ⟨hle, text, hvalue, htext⟩
        exact .marked hhides hcut.1 (by omega) hvalue htext
      · intro hsettled
        cases hsettled with
        | hidden hhidden => exact absurd (hhides.symm.trans hhidden) Bool.noConfusion
        | shown _ hsafe => exact absurd (hsafe hcut.1) hcut.2
        | marked _ _ hdeep hvalue htext => exact ⟨by omega, _, hvalue, htext⟩
    · have hshown : (secretKey P (redactedName onText item.1).toList
          && !safeSecretValue P (redactedName onText item.1).toList
            (redactSecrets P onText (depth + 1) item.2)) = false := by
        rw [Bool.and_eq_false_iff, Bool.not_eq_false', safeSecretValue_redacted]
        cases hsecret : secretKey P (redactedName onText item.1).toList with
        | false => exact .inl rfl
        | true => exact .inr (not_not.mp fun hplain => hcut ⟨hsecret, hplain⟩)
      rw [hshown, if_neg Bool.false_ne_true, h]
      constructor
      · intro hagain
        exact .shown hhides (fun hsecret => not_not.mp fun hplain => hcut ⟨hsecret, hplain⟩) hagain
      · intro hsettled
        cases hsettled with
        | hidden hhidden => exact absurd (hhides.symm.trans hhidden) Bool.noConfusion
        | shown _ _ hagain => exact hagain
        | marked _ hsecret hdeep hvalue htext =>
          -- the text is the mark, which is redacted to itself
          refine absurd ⟨hsecret, ?_⟩ hcut
          rw [← safeSecretValue_redacted, redactSecrets_eq_mark.mpr ⟨by omega, _, hvalue, htext⟩,
            safeSecretValue_mark]
          exact Bool.false_ne_true

mutual

/-- **Redacting a redacted document again changes nothing exactly when it is settled.** -/
theorem redactSecrets_again_iff (hstr : onText "[str]" = "[str]")
    (hmark : onText "[REDACTED]" = "[REDACTED]") (depth : Nat) (value : Json) :
    redactSecrets P onText depth (redactSecrets P onText depth value)
        = redactSecrets P onText depth value ↔ Settled P onText depth value := by
  by_cases hdepth : maxDepth < depth
  · rw [redactSecrets_deep hdepth, redactSecrets_deep hdepth]
    unfold Settled
    exact ⟨fun _ => .inl hdepth, fun _ => rfl⟩
  · have hle : depth ≤ maxDepth := by omega
    cases value with
    | arr items =>
      rw [redactSecrets_arr hle, redactSecrets_arr hle, Json.arr.injEq, take_of_length_le
        (by rw [length_map]; exact length_take_le _ _), Dict.map_eq_self_iff]
      rw [forall_mem_map, settledItems_iff hstr hmark depth maxSequenceItems items]
      simp only [Settled, hdepth, false_or]
    | obj fields =>
      rw [redactSecrets_obj hle, redactSecrets_obj hle, Json.obj.injEq]
      rw [redactMapping, take_of_length_le (redactMapping_length_le depth fields),
        Dict.build_map_eq_self_iff (redactMapping_distinct depth fields),
        forall_mem_redactMapping, settledFields_iff hstr hmark depth maxMappingItems fields]
      simp only [Settled, hdepth, false_or]
    | _ => simp [redactSecrets, hdepth, Settled]

theorem settledItems_iff (hstr : onText "[str]" = "[str]")
    (hmark : onText "[REDACTED]" = "[REDACTED]") (depth count : Nat) (items : List Json) :
    (∀ item ∈ items.take count, redactSecrets P onText (depth + 1)
          (redactSecrets P onText (depth + 1) item) = redactSecrets P onText (depth + 1) item)
      ↔ SettledItems P onText depth count items := by
  cases count with
  | zero => simp [SettledItems]
  | succ count =>
    cases items with
    | nil => simp [SettledItems]
    | cons item items =>
      rw [take_succ_cons, forall_mem_cons, SettledItems,
        redactSecrets_again_iff hstr hmark (depth + 1) item,
        settledItems_iff hstr hmark depth count items]

theorem settledFields_iff (hstr : onText "[str]" = "[str]")
    (hmark : onText "[REDACTED]" = "[REDACTED]") (depth count : Nat)
    (fields : List (String × Json)) :
    Dict.Lasting (fun item => redactedName onText item.1) (fun item =>
        redactItem P onText depth (redactItem P onText depth item) = redactItem P onText depth item)
        (fields.take count)
      ↔ SettledFields P onText depth count fields := by
  cases count with
  | zero => simp [SettledFields, Dict.Lasting]
  | succ count =>
    cases fields with
    | nil => simp [SettledFields, Dict.Lasting]
    | cons field fields =>
      obtain ⟨key, value⟩ := field
      rw [take_succ_cons, Dict.Lasting, SettledFields,
        settledFields_iff hstr hmark depth count fields,
        redactItem_again_iff hstr hmark (redactSecrets_again_iff hstr hmark (depth + 1) value)]

end

end Redact

end NewsCraft
