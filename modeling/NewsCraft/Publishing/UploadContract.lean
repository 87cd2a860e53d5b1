import NewsCraft.Publishing.PlanConserves

/-!
# What the client asks of an upload

Before it sends an operation the client checks its uploads once more: that they are attached
and named by their places, hashed, and of the type that belongs to the suffix and to the
method. The renderer's table and the client's say the same, so no plan fails there.
-/

namespace NewsCraft.Publishing.Renderer

open Lib NewsCraft.Telegram List

/-- `_UPLOAD_MIME_BY_EXTENSION`. -/
def uploadMimeByExtension : List (String × String) :=
  [(".jpg", "image/jpeg"), (".png", "image/png"), (".gif", "image/gif"), (".webp", "image/webp"),
    (".mp4", "video/mp4"), (".mov", "video/quicktime"), (".pdf", "application/pdf"),
    (".doc", "application/msword"),
    (".docx", "application/vnd.openxmlformats-officedocument.wordprocessingml.document"),
    (".zip", "application/zip"), (".bin", "application/octet-stream")]

/-- `expected_media_type`. -/
def expectedMediaType (op : TelegramPublishOperation) (index : Nat) : Option Json :=
  match op.method with
  | .sendMediaGroup => (groupItems op.fields)[index]?.bind fun item => item.get? "type"
  | .sendPhoto => some (.str "photo")
  | .sendVideo => some (.str "video")
  | .sendDocument => some (.str "document")
  | .sendMessage => none

def UploadAccepted (E : RenderEnv) (op : TelegramPublishOperation) (index : Nat)
    (upload : TelegramUploadMetadata) : Prop :=
  let suffix := E.casefold (pathSuffix upload.filename)
  upload.attachName = "file" ++ indexText index ∧ upload.filename = uploadName index suffix
    ∧ HexDigest upload.checksumSha256
    ∧ uploadMimeByExtension.lookup suffix = some upload.mimeType
    ∧ expectedMediaType op index = some (.str upload.mediaType.text)

instance (E : RenderEnv) (op : TelegramPublishOperation) (index : Nat)
    (upload : TelegramUploadMetadata) : Decidable (UploadAccepted E op index upload) :=
  inferInstanceAs (Decidable (_ ∧ _ ∧ _ ∧ _ ∧ _))

/-- `TelegramPermanentError`. -/
structure TelegramPermanentError where
  message : String

/-- The checks of the uploads from `index` on. -/
def uploadsAccepted (E : RenderEnv) (op : TelegramPublishOperation) (index : Nat) :
    List TelegramUploadMetadata → Bool
  | [] => true
  | upload :: rest => UploadAccepted E op index upload && uploadsAccepted E op (index + 1) rest

/-- `_validate_upload_contract`. -/
def validateUploadContract (E : RenderEnv) (op : TelegramPublishOperation) :
    Except TelegramPermanentError Unit :=
  if op.filePaths = [] ∧ op.uploads = [] then
    .ok ()
  else if op.filePaths = [] ∨ op.uploads.length ≠ op.filePaths.length then
    .error ⟨"Telegram upload plan is invalid"⟩
  else if uploadsAccepted E op 0 op.uploads then
    .ok ()
  else
    .error ⟨"Telegram upload plan is invalid"⟩

/-! ## Names -/

theorem not_mem_indexText {c : Char} (hc : c.isDigit = false) (index : Nat) :
    c ∉ (indexText index).toList := by
  rw [indexText, String.toList_ofList]
  intro hmem
  have hdigit := Nat.isDigit_of_mem_toDigits (by decide) (by decide) hmem
  rw [hc] at hdigit
  cases hdigit

theorem pathSuffix_append {start rest : List Char} (hslash : '/' ∉ start ++ '.' :: rest)
    (hdot : '.' ∉ rest) (hstart : ∃ c ∈ start, c ≠ '.') :
    pathSuffix (String.ofList (start ++ '.' :: rest)) = String.ofList ('.' :: rest) := by
  have hone : (start ++ '.' :: rest).splitOn '/' = [start ++ '.' :: rest] :=
    splitOn_eq_singleton hslash
  have hne : start ++ '.' :: rest ≠ ['.'] := by
    obtain ⟨c, hc, -⟩ := hstart
    cases start with
    | nil => exact absurd hc not_mem_nil
    | cons x start => simp
  have htake : ((start ++ '.' :: rest).reverse.takeWhile (· ≠ '.')).reverse = rest := by
    rw [reverse_append, reverse_cons, append_assoc, takeWhile_append_of_pos]
    · simp
    · intro c hc
      have hne : c ≠ '.' := fun heq => hdot (heq ▸ mem_reverse.mp hc)
      simpa using hne
  have hlength : (start ++ '.' :: rest).length - ('.' :: rest).length = start.length := by
    simp
  have hany : start.any (· ≠ '.') = true := by simpa using hstart
  have hkeep : ([start ++ '.' :: rest].filter fun part => part ≠ [] ∧ part ≠ ['.'])
      = [start ++ '.' :: rest] := by
    simp [hne]
  simp only [pathSuffix, String.toList_ofList, hone, hkeep, getLastD_cons, getLastD_nil,
    htake, hlength, take_left']
  rw [if_pos ⟨by simp, hany⟩]

theorem extension_of_format {format : UploadFormat} (h : format ∈ uploadFormats) :
    (∃ rest, format.extension.toList = '.' :: rest ∧ '.' ∉ rest ∧ '/' ∉ rest)
      ∧ (∀ c ∈ format.extension.toList, c.toNat < 128 ∧ c.toLower = c)
      ∧ uploadMimeByExtension.lookup format.extension = some format.mimeType := by
  simp only [uploadFormats, mem_cons, not_mem_nil, or_false] at h
  rcases h with rfl | rfl | rfl | rfl | rfl | rfl | rfl | rfl | rfl | rfl | rfl <;>
    exact ⟨⟨_, rfl, by decide, by decide⟩, by simp, by decide⟩

theorem pathSuffix_uploadName {format : UploadFormat} (h : format ∈ uploadFormats) (index : Nat) :
    pathSuffix (uploadName index format.extension) = format.extension := by
  obtain ⟨⟨rest, hrest, hdot, hslash⟩, -, -⟩ := extension_of_format h
  have hname : uploadName index format.extension
      = String.ofList (("upload-".toList ++ (indexText index).toList) ++ '.' :: rest) := by
    rw [uploadName, ← hrest, String.ofList_append, String.ofList_append, String.ofList_toList,
      String.ofList_toList, String.ofList_toList]
  rw [hname, pathSuffix_append ?_ hdot ⟨'u', by simp, by decide⟩, ← hrest, String.ofList_toList]
  simp only [mem_append, mem_cons, not_or]
  exact ⟨⟨by decide, not_mem_indexText (by decide) index⟩, by decide, hslash⟩

theorem casefold_lower (E : RenderEnv) {text : String}
    (h : ∀ c ∈ text.toList, c.toNat < 128 ∧ c.toLower = c) : E.casefold text = text := by
  have hfold : ∀ chars : List Char, (∀ c ∈ chars, c.toNat < 128 ∧ c.toLower = c) →
      chars.flatMap E.text.casefold = chars := by
    intro chars hchars
    induction chars with
    | nil => rfl
    | cons c chars ih =>
      obtain ⟨hascii, hlower⟩ := hchars c mem_cons_self
      rw [flatMap_cons, E.text.casefold_ascii c hascii, hlower,
        ih fun other hother => hchars other (mem_cons_of_mem c hother)]
      rfl
  rw [RenderEnv.casefold, hfold _ h, String.ofList_toList]

theorem removePrefix_attachRef (index : Nat) :
    removePrefix "attach://" (attachRef index) = "file" ++ indexText index := by
  have hchars : (attachRef index).toList
      = "attach://".toList ++ ("file" ++ indexText index).toList := by
    rw [attachRef, String.toList_append, String.toList_append, ← append_assoc]
    rfl
  have hstart : "attach://".toList.isPrefixOf (attachRef index).toList = true := by
    rw [List.isPrefixOf_iff_prefix, hchars]
    exact prefix_append _ _
  have hlength : "attach://".length = "attach://".toList.length := rfl
  rw [removePrefix, if_pos hstart, hlength, hchars, drop_left', String.ofList_toList]
  rfl

/-! ## Attached files -/

/-- A file that is attached under its place, in a format of the table. -/
structure Attached (index : Nat) (file : MediaFile) : Prop where
  media : file.1.media = attachRef index
  format : ∃ format ∈ uploadFormats, format.kind = file.1.kind
    ∧ format.mimeType = file.1.mimeType ∧ file.1.filename = uploadName index format.extension
  digest : HexDigest file.1.checksumSha256

/-- Every file of the list is attached under its place, counted from `index`. -/
def AttachedFrom (index : Nat) : List MediaFile → Prop
  | [] => True
  | file :: rest => Attached index file ∧ AttachedFrom (index + 1) rest

theorem attached_of_described {E : RenderEnv} {item : MediaAsset} {index : Nat} {file : MediaFile}
    (h : Described E item index file) : Attached index file where
  media := h.attached
  format := h.format
  digest := by
    obtain ⟨content, hcontent⟩ := h.digest
    rw [hcontent]
    exact E.sha256_hex content

variable {files : List MediaFile}

theorem attachedFrom_attachFrom (offset : Nat) (h : ∀ file ∈ files, ∃ place, Attached place file) :
    AttachedFrom offset (attachFrom offset files) := by
  induction files generalizing offset with
  | nil => trivial
  | cons file files ih =>
    obtain ⟨place, hfile⟩ := h file mem_cons_self
    obtain ⟨format, hformat, hkind, hmime, hname⟩ := hfile.format
    refine ⟨⟨rfl, ⟨format, hformat, hkind, hmime, ?_⟩, hfile.digest⟩, ?_⟩
    · show uploadName offset (pathSuffix file.1.filename) = _
      rw [hname, pathSuffix_uploadName hformat]
    · exact ih (offset + 1) fun other hother => h other (mem_cons_of_mem file hother)

/-- The call is for these files: the type the client expects of each is its own. -/
structure CallSound (E : RenderEnv) (call : Rendered) : Prop where
  attached : AttachedFrom 0 call.files
  expected : ∀ index file, call.files[index]? = some file →
    expectedMediaType (operation E 0 call) index = some (.str file.1.kind.text)

section calls

variable {E : RenderEnv} {content : TelegramVariantContent} {targetRef : String}

theorem callSound_messageCall : CallSound E (messageCall content targetRef) where
  attached := trivial
  expected := by
    intro index file hfile
    simp [messageCall] at hfile

theorem expected_singleMethod (kind : TelegramMediaKind) (op : TelegramPublishOperation)
    (hmethod : op.method = singleMethod kind) (index : Nat) :
    expectedMediaType op index = some (.str kind.text) := by
  rw [expectedMediaType, hmethod]
  cases kind <;> rfl

theorem callSound_singleCall (caption : Bool) {file : MediaFile} (h : Attached 0 file) :
    CallSound E (singleCall content targetRef caption file) where
  attached := ⟨h, trivial⟩
  expected := by
    intro index other hother
    have hsame : other = file := by
      cases index with
      | zero => simpa [singleCall] using hother.symm
      | succ index => simp [singleCall] at hother
    rw [hsame]
    exact expected_singleMethod file.1.kind _ rfl index

theorem type_groupItem (content : TelegramVariantContent) (caption : Bool) (offset : Nat)
    (file : MediaFile) :
    (groupItem content caption offset file).get? "type" = some (.str file.1.kind.text) := by
  simp [groupItem, get?_cons]

theorem callSound_group (caption : Bool) {group : List MediaFile} (h : AttachedFrom 0 group) :
    CallSound E ⟨.sendMediaGroup, groupCallFields content targetRef caption group, group⟩ where
  attached := h
  expected := by
    intro index file hfile
    have hitem : (groupItems (groupCallFields content targetRef caption group))[index]?
        = some (groupItem content caption index file) := by
      rw [groupItems_groupCallFields, getElem?_map, getElem?_zipIdx, hfile]
      simp
    have htype : expectedMediaType (operation E 0
        ⟨.sendMediaGroup, groupCallFields content targetRef caption group, group⟩) index
        = (groupItems (groupCallFields content targetRef caption group))[index]?.bind
            fun item => item.get? "type" := rfl
    rw [htype, hitem]
    exact type_groupItem content caption index file

theorem callSound_sliceCall (caption : Bool) {slice : Nat × List MediaFile} (hne : slice.2 ≠ [])
    (h : ∀ file ∈ slice.2, ∃ place, Attached place file) :
    CallSound E (sliceCall content targetRef caption slice) := by
  have hattached := attachedFrom_attachFrom 0 h
  rcases sliceCall_cases content targetRef caption hne with ⟨file, hfiles, hcall⟩ | ⟨-, hcall⟩
  · rw [hcall]
    rw [hfiles] at hattached
    exact callSound_singleCall _ hattached.1
  · rw [hcall]
    exact callSound_group _ hattached

end calls

/-! ## The client agrees -/

theorem uploadAccepted {E : RenderEnv} {op : TelegramPublishOperation} {index : Nat}
    {file : MediaFile} (h : Attached index file)
    (hexpected : expectedMediaType op index = some (.str file.1.kind.text)) :
    UploadAccepted E op index (upload file) := by
  obtain ⟨format, hformat, -, hmime, hname⟩ := h.format
  obtain ⟨-, hlower, htable⟩ := extension_of_format hformat
  have hsuffix : E.casefold (pathSuffix file.1.filename) = format.extension := by
    rw [hname, pathSuffix_uploadName hformat, casefold_lower E hlower]
  refine ⟨?_, ?_, h.digest, ?_, hexpected⟩
  · show removePrefix "attach://" file.1.media = _
    rw [h.media, removePrefix_attachRef]
  · show file.1.filename = uploadName index (E.casefold (pathSuffix file.1.filename))
    rw [hsuffix, hname]
  · show uploadMimeByExtension.lookup (E.casefold (pathSuffix file.1.filename)) = _
    rw [hsuffix, htable, hmime]
    rfl

theorem uploadsAccepted_of_attachedFrom {E : RenderEnv} {op : TelegramPublishOperation}
    (index : Nat) (h : AttachedFrom index files)
    (hexpected : ∀ place file, files[place]? = some file → expectedMediaType op (index + place) =
      some (.str file.1.kind.text)) : uploadsAccepted E op index (files.map upload) = true := by
  induction files generalizing index with
  | nil => rfl
  | cons file files ih =>
    rw [map_cons, uploadsAccepted, Bool.and_eq_true, decide_eq_true_eq]
    refine ⟨uploadAccepted h.1 (hexpected 0 file rfl), ih (index + 1) h.2 ?_⟩
    intro place other hother
    have hnext := hexpected (place + 1) other (by simpa using hother)
    rwa [show index + 1 + place = index + (place + 1) by omega]

theorem expectedMediaType_operation (E : RenderEnv) (number index : Nat) (call : Rendered) :
    expectedMediaType (operation E number call) index
      = expectedMediaType (operation E 0 call) index := rfl

theorem validateUploadContract_of_callSound {E : RenderEnv} {call : Rendered}
    (h : CallSound E call) (number : Nat) :
    validateUploadContract E (operation E number call) = .ok () := by
  have hpaths : (operation E number call).filePaths = call.files.map Prod.snd := rfl
  have huploads : (operation E number call).uploads = call.files.map upload := rfl
  rw [validateUploadContract, hpaths, huploads]
  by_cases hnone : call.files = []
  · rw [if_pos (by simp [hnone])]
  · rw [if_neg (by simp [hnone]), if_neg (by simp [hnone]), if_pos]
    refine uploadsAccepted_of_attachedFrom 0 h.attached ?_
    intro place file hfile
    rw [Nat.zero_add, expectedMediaType_operation]
    exact h.expected place file hfile

theorem exists_place {E : RenderEnv} {items : List MediaAsset} {below : Nat}
    (h : List.Forall₂ (fun item file => ∃ place, 0 ≤ place ∧ place < below ∧ Described E item place
      file) items files) : ∀ file ∈ files, ∃ place, place < below ∧ Attached place file := by
  induction h with
  | nil =>
    intro file hfile
    exact absurd hfile not_mem_nil
  | cons hfirst hrest ih =>
    intro file hfile
    rcases mem_cons.mp hfile with rfl | hfile
    · obtain ⟨place, -, hbelow, hplace⟩ := hfirst
      exact ⟨place, hbelow, attached_of_described hplace⟩
    · exact ih file hfile

theorem callSound_mediaCalls {E : RenderEnv} {content : TelegramVariantContent} {targetRef : String}
    {items : List MediaAsset} (h : mediaDescriptors E 0 items = .ok files) :
    ∀ call ∈ mediaCalls content targetRef files, CallSound E call := by
  have hdescribed := mediaDescriptors_ok h
  have hlength := hdescribed.length_eq
  have hattached := exists_place hdescribed
  intro call hcall
  unfold mediaCalls at hcall
  split at hcall
  · -- a file on its own keeps its first place
    rename_i file
    obtain ⟨place, hbelow, hplace⟩ := hattached file mem_cons_self
    have hzero : place = 0 := by
      simp only [hlength, length_singleton] at hbelow
      omega
    rw [mem_singleton.mp hcall]
    exact callSound_singleCall _ (hzero ▸ hplace)
  · obtain ⟨slice, hslice, rfl⟩ := mem_map.mp hcall
    refine callSound_sliceCall _ (slice_of_mem_slicesFrom (by decide) hslice).2.1 ?_
    intro file hfile
    have hall := flatMap_slices (show 0 < groupLimit by decide) files
    have hmem : file ∈ files := by
      rw [← hall]
      exact mem_flatMap.mpr ⟨slice, hslice, hfile⟩
    obtain ⟨place, -, hplace⟩ := hattached file hmem
    exact ⟨place, hplace⟩

theorem callSound_renderContent {E : RenderEnv} {content : TelegramVariantContent}
    {media : List MediaAsset} {targetRef : String} {calls : List Rendered}
    (h : renderContent E content media targetRef = .ok calls) :
    ∀ call ∈ calls, CallSound E call := by
  rw [renderContent] at h
  obtain ⟨_, -, h⟩ := Checked.bind_ok_iff.mp h
  split at h
  · cases h
    intro call hcall
    rw [mem_singleton.mp hcall]
    exact callSound_messageCall
  · obtain ⟨ordered, -, h⟩ := Checked.bind_ok_iff.mp h
    rw [renderMedia] at h
    obtain ⟨files, hfiles, h⟩ := Checked.bind_ok_iff.mp h
    obtain ⟨_, -, h⟩ := Checked.bind_ok_iff.mp h
    cases h
    intro call hcall
    rcases mem_append.mp hcall with hcall | hcall
    · exact callSound_mediaCalls hfiles call hcall
    · split at hcall
      · rw [mem_singleton.mp hcall]
        exact callSound_messageCall
      · exact absurd hcall not_mem_nil

/-- **The client accepts what the renderer plans**: no operation of a plan fails the
client's check of its uploads. -/
theorem validateUploadContract_buildPublishPlan {E : RenderEnv} {revision : PlatformRevision}
    {media : List MediaAsset} {destination : PublishDestination} {plan : TelegramPublishPlan}
    (h : buildPublishPlan E revision media destination = .ok plan) :
    ∀ op ∈ plan.operations, validateUploadContract E op = .ok () := by
  rw [buildPublishPlan] at h
  obtain ⟨calls, hcalls, h⟩ := Checked.bind_ok_iff.mp h
  cases h
  intro op hop
  obtain ⟨place, call, hcall, rfl⟩ := mem_operationsFrom hop
  exact validateUploadContract_of_callSound (callSound_renderContent hcalls call hcall) place

theorem photos_accepted : ∃ plan, buildPublishPlan plainRender ⟨1, photoContent .preserve⟩
        [storedPhoto 8, storedPhoto 7] ⟨2, "@news"⟩ = .ok plan
      ∧ plan.operations.length = 1
      ∧ ∀ op ∈ plan.operations, validateUploadContract plainRender op = .ok () := by
  have hlength : (buildPublishPlan plainRender ⟨1, photoContent .preserve⟩
      [storedPhoto 8, storedPhoto 7] ⟨2, "@news"⟩).toOption.map
        (fun plan => plan.operations.length) = some 1 := by decide +kernel
  cases hplan : buildPublishPlan plainRender ⟨1, photoContent .preserve⟩
      [storedPhoto 8, storedPhoto 7] ⟨2, "@news"⟩ with
  | error stop =>
    rw [hplan] at hlength
    cases hlength
  | ok plan =>
    rw [hplan] at hlength
    exact ⟨plan, rfl, Option.some.inj hlength, validateUploadContract_buildPublishPlan hplan⟩

end NewsCraft.Publishing.Renderer
