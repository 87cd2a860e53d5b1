import NewsCraft.Core.RedactAgain
import NewsCraft.Jobs.Repository

/-!
# The payload a job is stored with, checked when the job is claimed

An enqueue stores the redacted payload; a claim redacts what is stored and refuses the job
when that changes anything. The two agree on the payloads that are settled: a text can be
redacted to one that is redacted further, and a name can turn into a secret one. The preview
token of a retention job is put back after both passes, so its item is excused.
-/

namespace NewsCraft.Jobs

open Lib Redact List Option

def retentionJobType : String := "execute_retention"

/-- `_RETENTION_PREVIEW_TOKEN_PATTERN.fullmatch`. -/
def isPreviewToken (token : String) : Bool :=
  token.toList.length = 64 && token.toList.all fun c => ('0' ≤ c && c ≤ '9') || ('a' ≤ c && c ≤ 'f')

/-- The token `payload.get("preview_token")` gives when it looks like one. -/
def previewToken (payload : Json) : Option String :=
  match payload.get? "preview_token" with
  | some (.str token) => if isPreviewToken token then some token else none
  | _ => none

/-- `restore_exempt_secrets`. -/
def restoreExemptSecrets (jobType : String) (payload sanitized : Json) : Json :=
  if jobType ≠ retentionJobType then
    sanitized
  else
    match previewToken payload, sanitized with
    | some token, .obj fields => .obj (putField fields "preview_token" (.str token))
    | _, sanitized => sanitized

def payloadRedaction (P : PythonText) (U : PythonUrl) : Redaction where
  redactSecrets := redactSecrets P (redactString P U []) 0
  redactText := redactString P U []
  restoreExemptSecrets := restoreExemptSecrets

/-! ## What settles a payload -/

section Condition

variable (P : PythonText) (onText : String → String)

/-- The item ends up as the preview token of a retention job. -/
def BecomesToken (jobType : String) (payload : Json) (item : String × Json) : Prop :=
  jobType = retentionJobType ∧ redactedName onText item.1 = "preview_token"
    ∧ ((previewToken payload).isSome = true
      ∨ hides P item.1 item.2 = false ∧ ∃ text, item.2 = .str text ∧ isPreviewToken (onText text))

/-- The payload of a job is stored as a document that redaction leaves alone. -/
def SettledPayload (jobType : String) (payload : Json) : Prop :=
  match payload with
  | .obj fields =>
    Dict.Lasting (fun item => redactedName onText item.1) (fun item =>
        BecomesToken P onText jobType payload item ∨ SettledName onText (redactedName onText item.1)
            ∧ SettledValue P onText 0 item (Settled P onText 1 item.2))
      (fields.take maxMappingItems)
  | _ => True

end Condition

/-! ## The token -/

variable {fields : List (String × Json)}

theorem mem_of_get? {name : String} {value : Json} (h : (Json.obj fields).get? name = some value) :
    (name, value) ∈ fields := by
  rw [Json.get?, map_eq_some_iff] at h
  obtain ⟨⟨key, value'⟩, hfind, rfl⟩ := h
  have hkey := find?_some hfind
  rw [beq_iff_eq] at hkey
  exact hkey ▸ mem_of_find?_eq_some hfind

theorem get?_of_mem (h : Dict.Distinct fields) {name : String} {value : Json}
    (hmem : (name, value) ∈ fields) : (Json.obj fields).get? name = some value := by
  induction fields with
  | nil => cases hmem
  | cons field fields ih =>
    rw [Dict.Distinct, map_cons, nodup_cons] at h
    rw [Json.get?, find?_cons]
    rcases mem_cons.mp hmem with rfl | hmem
    · rw [beq_self_eq_true]
      rfl
    · have hne : (field.1 == name) = false := by
        rw [beq_eq_false_iff_ne]
        exact fun heq => h.1 (heq ▸ mem_map_of_mem hmem)
      rw [hne]
      exact ih h.2 hmem

variable {token : String}

theorem previewToken_eq_some (h : Dict.Distinct fields) : previewToken (.obj fields) = some token
      ↔ ("preview_token", Json.str token) ∈ fields ∧ isPreviewToken token = true := by
  rw [previewToken]
  constructor
  · intro htoken
    cases hget : (Json.obj fields).get? "preview_token" with
    | none =>
      rw [hget] at htoken
      cases htoken
    | some value =>
      rw [hget] at htoken
      cases value with
      | str text =>
        simp only [ite_none_right_eq_some, Option.some.injEq] at htoken
        obtain ⟨hlooks, rfl⟩ := htoken
        exact ⟨mem_of_get? hget, hlooks⟩
      | _ => cases htoken
  · rintro ⟨hmem, hlooks⟩
    rw [get?_of_mem h hmem]
    simp only [hlooks, if_true]

/-- The entry of a stored payload that is put back after a redaction. -/
def TokenEntry (entry : String × Json) : Prop :=
  entry.1 = "preview_token" ∧ ∃ token, entry.2 = .str token ∧ isPreviewToken token = true

variable {P : PythonText} {onText : String → String}

theorem isPreviewToken_mark : isPreviewToken "[REDACTED]" = false := by decide +kernel

theorem tokenEntry_redacted {item : String × Json} : TokenEntry (redactItem P onText 0 item)
      ↔ redactedName onText item.1 = "preview_token" ∧ hides P item.1 item.2 = false
        ∧ ∃ text, item.2 = .str text ∧ isPreviewToken (onText text) = true := by
  have hdepth : ¬maxDepth < 0 + 1 := by decide
  rw [TokenEntry, redactItem]
  refine and_congr_right fun _ => ?_
  cases hhides : hides P item.1 item.2 with
  | true =>
    simp only [if_true, Bool.true_eq_false, false_and, iff_false]
    rintro ⟨token, heq, htoken⟩
    cases heq
    exact absurd htoken (by rw [isPreviewToken_mark]; exact Bool.false_ne_true)
  | false =>
    cases hvalue : item.2 with
    | _ => simp [redactSecrets, hdepth]

/-! ## The check -/

section Check

variable (hstr : onText "[str]" = "[str]") (hmark : onText "[REDACTED]" = "[REDACTED]")
  (htoken : onText "preview_token" = "preview_token")

include hstr hmark in
theorem settledItem_iff (item : String × Json) :
    redactItem P onText 0 (redactItem P onText 0 item) = redactItem P onText 0 item
      ↔ SettledName onText (redactedName onText item.1)
        ∧ SettledValue P onText 0 item (Settled P onText 1 item.2) :=
  redactItem_again_iff hstr hmark (redactSecrets_again_iff hstr hmark 1 item.2)

include htoken in
theorem redactItem_token (depth : Nat) (entry : String × Json) (h : entry.1 = "preview_token") :
    (redactItem P onText depth entry).1 = "preview_token" := by
  have hshort : ¬"preview_token".toList.length > maxMappingKeyChars := by decide +kernel
  rw [redactItem, redactedName, h, safeMappingKey, if_neg hshort, htoken]

include htoken in
theorem restored_iff {fields : List (String × Json)} (h : Dict.Distinct fields)
    (hlength : fields.length ≤ maxMappingItems) (token : String) :
    Dict.put (redactMapping P onText 0 (Dict.put fields "preview_token" (.str token)))
        "preview_token" (.str token) = Dict.put fields "preview_token" (.str token)
      ↔ ∀ entry ∈ fields, entry.1 ≠ "preview_token" → redactItem P onText 0 entry = entry :=
  Dict.put_build_take_iff h hlength fun entry hentry => redactItem_token htoken 0 entry hentry

end Check

variable {U : PythonUrl}

variable {jobType : String}

theorem rejectSecretPayload_ok_iff :
    JobExecution.rejectSecretPayload (payloadRedaction P U) jobType (.obj fields) = .ok ()
      ↔ restoreExemptSecrets jobType (.obj fields)
          (.obj (redactMapping P (redactString P U []) 0 fields)) = .obj fields := by
  rw [JobExecution.rejectSecretPayload]
  have hpass : (payloadRedaction P U).redactSecrets (.obj fields)
      = .obj (redactMapping P (redactString P U []) 0 fields) :=
    redactSecrets_obj (Nat.zero_le _) fields
  simp only [hpass, Json.isObj, if_true]
  by_cases hsame : restoreExemptSecrets jobType (.obj fields)
      (.obj (redactMapping P (redactString P U []) 0 fields)) = .obj fields
  · simp [payloadRedaction, hsame]
  · simp [payloadRedaction, hsame]

theorem redactJobPayload_obj : (payloadRedaction P U).redactJobPayload jobType (.obj fields)
      = restoreExemptSecrets jobType (.obj fields)
          (.obj (redactMapping P (redactString P U []) 0 fields)) := by
  have hpass : (payloadRedaction P U).redactSecrets (.obj fields)
      = .obj (redactMapping P (redactString P U []) 0 fields) :=
    redactSecrets_obj (Nat.zero_le _) fields
  rw [Redaction.redactJobPayload, hpass]
  rfl

theorem restoreExemptSecrets_of_ne (h : jobType ≠ retentionJobType) (payload sanitized : Json) :
    restoreExemptSecrets jobType payload sanitized = sanitized := by
  exact if_pos h

variable {payload : Json}

theorem restoreExemptSecrets_of_none (h : previewToken payload = none) (sanitized : Json) :
    restoreExemptSecrets retentionJobType payload sanitized = sanitized := by
  unfold restoreExemptSecrets
  rw [if_neg (not_not.mpr rfl), h]

theorem restoreExemptSecrets_of_some (h : previewToken payload = some token)
    (fields : List (String × Json)) :
    restoreExemptSecrets retentionJobType payload (.obj fields)
      = .obj (Dict.put fields "preview_token" (.str token)) := by
  unfold restoreExemptSecrets
  rw [if_neg (not_not.mpr rfl), h, ← putField_eq_put]

theorem isPreviewToken_of_some (h : previewToken payload = some token) :
    isPreviewToken token = true := by
  rw [previewToken] at h
  cases hget : payload.get? "preview_token" with
  | none => simp [hget] at h
  | some value =>
    cases value with
    | str text =>
      simp only [hget, ite_none_right_eq_some, Option.some.injEq] at h
      exact h.2 ▸ h.1
    | _ => simp [hget] at h

theorem checked_unexempt (h : Dict.Distinct fields) (hlength : fields.length ≤ maxMappingItems) :
    restoreExemptSecrets retentionJobType (.obj fields)
        (.obj (redactMapping P (redactString P U []) 0 fields)) = .obj fields
      ↔ ∀ entry ∈ fields, TokenEntry entry
          ∨ redactItem P (redactString P U []) 0 entry = entry := by
  cases htoken : previewToken (.obj fields) with
  | none =>
    have hnot : ∀ entry ∈ fields, ¬TokenEntry entry := by
      rintro ⟨name, value⟩ hmem ⟨rfl, token, rfl, hlooks⟩
      have hsome := (previewToken_eq_some h).mpr ⟨hmem, hlooks⟩
      rw [htoken] at hsome
      cases hsome
    rw [restoreExemptSecrets_of_none htoken, Json.obj.injEq, redactMapping,
      take_of_length_le hlength, Dict.build_map_eq_self_iff h]
    exact forall₂_congr fun entry hmem => by simp [hnot entry hmem]
  | some token =>
    obtain ⟨hmem, hlooks⟩ := (previewToken_eq_some h).mp htoken
    have hput : Dict.put fields "preview_token" (Json.str token) = fields :=
      Dict.put_of_mem h hmem
    have hplain : redactString P U [] "preview_token" = "preview_token" :=
      redactString_of_plain (by decide +kernel)
    have hrestored := restored_iff (P := P) hplain h hlength token
    rw [restoreExemptSecrets_of_some htoken, Json.obj.injEq]
    rw [hput] at hrestored
    rw [hrestored]
    constructor
    · intro hkept entry hentry
      by_cases hname : entry.1 = "preview_token"
      · obtain ⟨name, value⟩ := entry
        cases hname
        have hvalue := get?_of_mem h hentry
        rw [get?_of_mem h hmem] at hvalue
        exact .inl ⟨rfl, token, (Option.some.inj hvalue).symm, hlooks⟩
      · exact .inr (hkept entry hentry hname)
    · intro hkept entry hentry hname
      exact (hkept entry hentry).resolve_left fun htoken => hname htoken.1

theorem accepted_of_not_obj (h : payload.isObj = false) :
    JobExecution.rejectSecretPayload (payloadRedaction P U) jobType
      ((payloadRedaction P U).redactJobPayload jobType payload) = .ok () := by
  have hpass : ((payloadRedaction P U).redactSecrets payload).isObj = false := by
    change (redactSecrets P (redactString P U []) 0 payload).isObj = false
    have hdepth : ¬maxDepth < 0 := by decide
    cases payload with
    | obj fields => cases h
    | _ => simp [redactSecrets, hdepth, Json.isObj]
  have hempty : (payloadRedaction P U).redactJobPayload jobType payload = .obj [] := by
    rw [Redaction.redactJobPayload]
    simp only [hpass, Bool.false_eq_true, if_false]
    rfl
  have hnone : previewToken (.obj []) = none := rfl
  rw [hempty, rejectSecretPayload_ok_iff]
  by_cases htype : jobType = retentionJobType
  · rw [htype, restoreExemptSecrets_of_none hnone]
    rfl
  · rw [restoreExemptSecrets_of_ne htype]
    rfl

theorem accepted_obj_iff : JobExecution.rejectSecretPayload (payloadRedaction P U) jobType
        ((payloadRedaction P U).redactJobPayload jobType (.obj fields)) = .ok ()
      ↔ SettledPayload P (redactString P U []) jobType (.obj fields) := by
  have hstr : redactString P U [] "[str]" = "[str]" := redactString_of_plain (by decide +kernel)
  have hmark : redactString P U [] "[REDACTED]" = "[REDACTED]" :=
    redactString_of_plain (by decide +kernel)
  have htoken : redactString P U [] "preview_token" = "preview_token" :=
    redactString_of_plain (by decide +kernel)
  have hdistinct : Dict.Distinct (redactMapping P (redactString P U []) 0 fields) :=
    redactMapping_distinct 0 fields
  have hlength : (redactMapping P (redactString P U []) 0 fields).length ≤ maxMappingItems :=
    redactMapping_length_le 0 fields
  rw [redactJobPayload_obj, SettledPayload]
  by_cases htype : jobType = retentionJobType
  · cases hexempt : previewToken (.obj fields) with
    | some token =>
      have hlooks := isPreviewToken_of_some hexempt
      have hstored : previewToken (.obj (Dict.put (redactMapping P (redactString P U []) 0
          fields) "preview_token" (.str token))) = some token :=
        (previewToken_eq_some (hdistinct.put _ _)).mpr
          ⟨(Dict.mem_put hdistinct).mpr (.inl rfl), hlooks⟩
      rw [htype, restoreExemptSecrets_of_some hexempt, rejectSecretPayload_ok_iff,
        restoreExemptSecrets_of_some hstored, Json.obj.injEq,
        restored_iff htoken hdistinct hlength, forall_mem_redactMapping]
      refine Dict.lasting_iff fun item _ => ?_
      have hbecomes : BecomesToken P (redactString P U []) retentionJobType (.obj fields) item
          ↔ (redactItem P (redactString P U []) 0 item).1 = "preview_token" := by
        simp [BecomesToken, hexempt, redactItem]
      rw [hbecomes, ← settledItem_iff hstr hmark item, or_iff_not_imp_left]
    | none =>
      rw [htype, restoreExemptSecrets_of_none hexempt, rejectSecretPayload_ok_iff,
        checked_unexempt hdistinct hlength, forall_mem_redactMapping]
      refine Dict.lasting_iff fun item _ => ?_
      rw [tokenEntry_redacted, settledItem_iff hstr hmark item, BecomesToken, hexempt]
      simp
  · rw [restoreExemptSecrets_of_ne htype, rejectSecretPayload_ok_iff,
      restoreExemptSecrets_of_ne htype, Json.obj.injEq, redactMapping,
      take_of_length_le hlength, Dict.build_map_eq_self_iff hdistinct,
      forall_mem_redactMapping]
    refine Dict.lasting_iff fun item _ => ?_
    rw [settledItem_iff hstr hmark item, BecomesToken]
    simp [htype]

/-- A payload of names and numbers that hold no secrets passes. -/
example : JobExecution.rejectSecretPayload (payloadRedaction .ascii .plain) "ingest.collect"
    ((payloadRedaction .ascii .plain).redactJobPayload "ingest.collect"
      (.obj [("cycle", .int 3), ("max_tokens", .int 5), ("name", .str "morning news")])) = .ok () := by
  decide +kernel

/-- A job with a note that quotes a name with a quotation mark in it. -/
def quotedNote : JobsDb.EnqueueJob where
  jobType := "ingest.collect"
  payload := .obj [("note", .str "\"token: \"b\" c\": v")]
  idempotencyKey := "note"
  origin := .manual

end NewsCraft.Jobs
